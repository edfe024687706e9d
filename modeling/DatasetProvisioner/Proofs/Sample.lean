import DatasetProvisioner.Proofs.Runs
import DatasetProvisioner.Reconciler.Volumes
import DatasetProvisioner.Simulation.Peers

/-!
# A small deployment

Two classes on one appliance, one served by commands and one through its management interface; a
claim for each of them, and a claim that names a volume which was made for a claim of another
namespace. That the theorems about all settings, events and peers speak of something is shown by
what happens here.
-/
namespace DatasetProvisioner.Reconciler.Sample

open Manifest Storage

def layout : Dataset.Layout := ⟨"nas01", "/mnt/tank/pv", "tank/pv"⟩

def shellProvider : Provider where
  storageClass := "zfs-basic"
  backend := .shell { name := "shell", layout, host := "nas01" }
  reclaimPolicy := .delete
  nameFormat := "pv-\x7b" ++ Key.volumeTag ++ "\x7d"
  blocked := ∅

def restProvider : Provider where
  storageClass := "zfs-rest"
  backend := .rest { name := "rest", layout }
  reclaimPolicy := .delete
  nameFormat := "pv-\x7b" ++ Key.volumeTag ++ "\x7d"
  blocked := ∅

def settings : Settings where
  identity := Key.defaultIdentity
  registry := ⟨some "zfs-basic",
    ((∅ : Std.ExtTreeMap String Provider compare).insert "zfs-basic" shellProvider).insert
      "zfs-rest" restProvider⟩

theorem registry_built :
    Registry.ofProviders (some "zfs-basic") [shellProvider, restProvider] =
      .ok settings.registry := by
  rfl

def claim : ClaimEvent where
  claimNamespace := "demo"
  claimName := "data"
  uid := "c0ffee"
  requestedStorage := "1Gi"
  requestedBytes := 1073741824
  accessModes := ["ReadWriteMany"]
  phase := .pending
  change := .added
  annotations := ∅
  labels := ∅
  storageClassName := some "zfs-basic"
  volumeMode := none

def cloneClaim (storageClass : String) : ClaimEvent :=
  { claim with
    claimName := "copy"
    annotations := (∅ : Annotations).insert Key.cloneFrom "golden"
    storageClassName := some storageClass }

def volume (phase : VolumePhase) (change : Change) : VolumeEvent where
  volumeName := "pv-00000001"
  change
  phase
  phaseMessage := none
  phaseReason := none
  accessModes := ["ReadWriteMany"]
  annotations := (∅ : Annotations).insert Key.managedBy Key.defaultIdentity
    |>.insert Key.storageClass "zfs-basic"
    |>.insert Key.volumeUuid "00000001-0000-4000-8000-000000000001"
  labels := ∅
  spec := none
  reclaimPolicy := some "Retain"

/-- A claim that is not bound and names a volume. -/
def golden : Claim where
  metadata := { name := some "golden", objectNamespace := some "demo" }
  spec := some { volumeName := some "pv-db" }
  phase := some "Pending"

/-- A volume that belongs to a claim of another namespace. -/
def foreignVolume : Volume where
  metadata := {
    name := some "pv-db"
    annotations := some ((∅ : Annotations).insert Key.managedBy Key.defaultIdentity
      |>.insert Key.exportHost "nas01"
      |>.insert Key.datasetPath "tank/pv/0000000a-0000-4000-8000-00000000000a") }
  spec := some { claimRef := some { objectNamespace := some "prod", name := some "db" } }

def store : Cluster.Store where
  claims := [golden]
  volumes := (∅ : Std.ExtTreeMap String Volume compare).insert "pv-db" foreignVolume

def now : Timestamp := ⟨1700000000123⟩

/-- A storage host on which every command succeeds, and a management interface that has nothing to
complain of. -/
def storageAnswer : (c : Storage.Call) → c.Answer
  | .exec _ _ => .ok ⟨0, ""⟩
  | .management c => Simulation.Peers.standardAnswer c
  | .clock => now

/-- The answers of these peers and of a cluster, with one identifier for every volume. -/
def peerAnswer (store : Cluster.Store) (uuid : Uuid) : (c : PeerCall) → c.Answer
  | .cluster c => (store.perform c).1
  | .storage c => storageAnswer c
  | .newUuid => uuid
  | .count _ => ()

/-- The calls with which a claim is served by these peers, with the `n`-th identifier. -/
def servedBy (settings : Settings) (n : Nat) (event : ClaimEvent) : List (Exchange peers) :=
  (onPeers (handleClaim settings event)).exchangesFrom
    (peerAnswer store (Simulation.Peers.numberedUuid n))

theorem runs_servedBy (settings : Settings) (n : Nat) (event : ClaimEvent) : ∃ outcome,
    Program.Runs (onPeers (handleClaim settings event)) (servedBy settings n event) outcome :=
  ⟨_, Program.runs_from _ _⟩

/-- The answers that the reconciler gets from them. -/
def answer (store : Cluster.Store) (uuid : Uuid) : (c : Call) → c.Answer
  | .cluster c => (store.perform c).1
  | .create backend annotations size => (backend.create annotations size).resultFrom storageAnswer
  | .remove backend annotations => (backend.remove annotations).resultFrom storageAnswer
  | .newUuid => uuid
  | .clock => now
  | .count _ => ()

end DatasetProvisioner.Reconciler.Sample
