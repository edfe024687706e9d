import DatasetProvisioner.Cluster.Store
import DatasetProvisioner.Reconciler.Call
import DatasetProvisioner.Simulation.Journal
import DatasetProvisioner.Simulation.Script

/-!
# Scripted peers

Peers that answer by a script and keep a journal of the calls they got: storage hosts, management
interfaces, a cluster with its stored objects, a clock that stands still and a source of
identifiers.
-/
namespace DatasetProvisioner.Simulation

structure Peers where
  script : Script := {}
  store : Cluster.Store := {}
  now : Timestamp
  /-- The identifiers to hand out. -/
  uuids : List Uuid := []
  /-- How many identifiers were handed out. -/
  issued : Nat := 0
  tally : Tally := {}
  /-- The calls, the latest first. -/
  journal : List Entry := []

namespace Peers

def record (peers : Peers) (entry : Entry) : Peers :=
  { peers with journal := entry :: peers.journal }

/-- The calls since the journal was cleared, and the peers with an empty journal. -/
def takeJournal (peers : Peers) : List Entry × Peers :=
  (peers.journal.reverse, { peers with journal := [] })

/-- The identifier that is handed out in place `n` where none is given: its first and its last
group hold the place, and it is marked as a random one. -/
def numberedUuid (n : Nat) : Uuid :=
  .ofPlaces fun i => Uuid.lastDigit <|
    if i < 8 then n / Nat.pow 16 (7 - i)
    else if i = 12 then 4
    else if i = 16 then 8
    else if i < 20 then 0
    else n / Nat.pow 16 (31 - i)

/-- Hand out an identifier. -/
def newUuid (peers : Peers) : Uuid × Peers :=
  let issued := peers.issued + 1
  match peers.uuids with
  | uuid :: uuids => (uuid, { peers with uuids, issued })
  | [] => (numberedUuid issued, { peers with issued })

def onExec (peers : Peers) (host : String) (command : Shell.Command) :
    Option (Except Failure Storage.CommandOutput) × Peers :=
  let (reply, script) := peers.script.nextExec
  let peers := { peers with script }.record (.exec host command.text)
  match reply with
  | .output output => (some (.ok output), peers)
  | .unreachable reason => (some (.error (.remoteTransport host reason)), peers)
  | .silence => (none, peers)

/-- What a management interface answers that has nothing to complain of: a new dataset is mounted
below a fixed place, and one share exports any path. -/
def standardAnswer : (c : Management.Call) → c.Answer
  | .createDataset request => .ok ⟨request.name, some ("/mnt/" ++ request.name), false⟩
  | .getDataset id => .ok (some ⟨id, some ("/mnt/" ++ id), false⟩)
  | .updateQuota _ _ => .ok ()
  | .deleteDataset _ => .ok ()
  | .createSnapshot dataset snapshot _ => .ok (dataset ++ "@" ++ snapshot)
  | .cloneSnapshot _ _ => .ok ()
  | .deleteSnapshot _ => .ok ()
  | .createShare _ _ _ => .ok ()
  | .findShares _ => .ok [7]
  | .deleteShare _ => .ok ()
  | .setMode _ _ => .ok ()

/-- What a management interface answers that gives a value. -/
def valueAnswer (value : Json) : (c : Management.Call) → c.Answer
  | .createDataset _ => .ok (Dataset.Info.ofJson value)
  | .getDataset _ =>
    .ok (match value with
      | .null => none
      | value => some (Dataset.Info.ofJson value))
  | .createSnapshot dataset snapshot _ => .ok (value.string?.getD (dataset ++ "@" ++ snapshot))
  | .findShares path =>
    match value.array? with
    | some items => .ok (items.filterMap Json.int64?)
    | none => standardAnswer (.findShares path)
  | .updateQuota _ _ => .ok ()
  | .deleteDataset _ => .ok ()
  | .cloneSnapshot _ _ => .ok ()
  | .deleteSnapshot _ => .ok ()
  | .createShare _ _ _ => .ok ()
  | .deleteShare _ => .ok ()
  | .setMode _ _ => .ok ()

/-- A failed answer. -/
def failedAnswer (failure : Failure) : (c : Management.Call) → c.Answer
  | .createDataset _ => .error failure
  | .getDataset _ => .error failure
  | .updateQuota _ _ => .error failure
  | .deleteDataset _ => .error failure
  | .createSnapshot _ _ _ => .error failure
  | .cloneSnapshot _ _ => .error failure
  | .deleteSnapshot _ => .error failure
  | .createShare _ _ _ => .error failure
  | .findShares _ => .error failure
  | .deleteShare _ => .error failure
  | .setMode _ _ => .error failure

/-- The body of a failed answer. -/
def failureBody : String := "boom"

def onManagement (peers : Peers) (c : Management.Call) : c.Answer × Peers :=
  let method := managementMethod c
  let (reply, script) := peers.script.nextManagement method
  let peers := { peers with script }.record (.management c)
  match reply with
  | .standard => (standardAnswer c, peers)
  | .status status => (failedAnswer (.managementStatus method status failureBody) c, peers)
  | .value value => (valueAnswer value c, peers)

/-- A failed answer of the cluster. -/
def refusal (failure : Failure) : (c : Cluster.Call) → c.Answer
  | .readClaim _ _ => .error failure
  | .readVolume _ => .error failure
  | .createVolume _ => .error failure
  | .deleteVolume _ => .error failure
  | .annotateVolume _ _ _ => .error failure
  | .resetSession => .error failure

/-- A call that fails changes nothing in the cluster. -/
def onCluster (peers : Peers) (c : Cluster.Call) : c.Answer × Peers :=
  let (reply, script) := peers.script.nextCluster (clusterMethod c)
  let peers := { peers with script }.record (.cluster c)
  match reply with
  | .failure failure => (refusal failure c, peers)
  | .standard =>
    let (answer, store) := peers.store.perform c
    (answer, { peers with store })

def onStorage (peers : Peers) : (c : Storage.Call) → Option c.Answer × Peers
  | .exec host command => peers.onExec host command
  | .management c =>
    let (answer, peers) := peers.onManagement c
    (some answer, peers)
  | .clock => (some peers.now, peers)

def onPeerCall (peers : Peers) : (c : Reconciler.PeerCall) → Option c.Answer × Peers
  | .cluster c =>
    let (answer, peers) := peers.onCluster c
    (some answer, peers)
  | .storage c => peers.onStorage c
  | .newUuid =>
    let (uuid, peers) := peers.newUuid
    (some uuid, peers)
  | .count counter => (some (), { peers with tally := peers.tally.add counter 1 })

/-- Run a program of a backend. -/
def runStorage {α : Type} (peers : Peers) (program : Program Storage.interface α) :
    Option α × Peers :=
  program.runWith (fun c peers => peers.onStorage c) peers

/-- Run a program of the reconciler. -/
def runReconciler {α : Type} (peers : Peers) (program : Program Reconciler.interface α) :
    Option α × Peers :=
  (Reconciler.onPeers program).runWith (fun c peers => peers.onPeerCall c) peers

end Peers

end DatasetProvisioner.Simulation
