import DatasetProvisioner.Proofs.ClaimRuns
import DatasetProvisioner.Proofs.Effects

/-!
# Calls that leave the controller

How the calls of the reconciler are carried out: those to the cluster and those for identifiers and
the time one for one, those to a backend by the calls that the backend makes.
-/
namespace DatasetProvisioner.Reconciler

open Manifest Storage

/-- A call of a backend as one that leaves the controller. -/
def peerOf (x : Exchange Storage.interface) : Exchange peers :=
  ⟨.storage x.call, x.answer⟩

def storagePart (trace : PeerTrace) : StorageTrace :=
  trace.filterMap fun
    | ⟨.storage c, answer⟩ => some ⟨c, answer⟩
    | _ => none

def clusterPart (trace : PeerTrace) : List (Exchange Cluster.interface) :=
  trace.filterMap fun
    | ⟨.cluster c, answer⟩ => some ⟨c, answer⟩
    | _ => none

/-- The cluster calls that the reconciler makes. -/
def clusterCalls (trace : Trace) : List (Exchange Cluster.interface) :=
  trace.filterMap fun
    | ⟨.cluster c, answer⟩ => some ⟨c, answer⟩
    | _ => none

theorem storagePart_append (first rest : PeerTrace) :
    storagePart (first ++ rest) = storagePart first ++ storagePart rest :=
  List.filterMap_append

theorem clusterPart_append (first rest : PeerTrace) :
    clusterPart (first ++ rest) = clusterPart first ++ clusterPart rest :=
  List.filterMap_append

theorem clusterCalls_append (first rest : Trace) :
    clusterCalls (first ++ rest) = clusterCalls first ++ clusterCalls rest :=
  List.filterMap_append

theorem storagePart_map (trace : StorageTrace) : storagePart (trace.map peerOf) = trace := by
  induction trace with
  | nil => rfl
  | cons x trace ih => exact congrArg (x :: ·) ih

theorem clusterPart_map (trace : StorageTrace) : clusterPart (trace.map peerOf) = [] := by
  induction trace with
  | nil => rfl
  | cons x trace ih => exact ih

theorem runs_ofStorage {α : Type} {p : Program Storage.interface α} {whole : PeerTrace} {a : α} :
    Program.Runs (ofStorage p) whole a ↔
      ∃ trace, Program.Runs p trace a ∧ whole = trace.map peerOf := by
  unfold ofStorage
  rw [Program.runs_translate]
  refine exists_congr fun trace => and_congr_right fun _ => ?_
  exact Program.carried_single fun c part answer => Program.runs_call (I := peers) (c := .storage c)

/-- The calls with which one call of the reconciler is carried out. -/
inductive CarryRun : (c : Call) → PeerTrace → c.Answer → Prop where
  | cluster (c : Cluster.Call) (answer : c.Answer) :
    CarryRun (.cluster c) [⟨.cluster c, answer⟩] answer
  | create (backend : Backend) (annotations : Annotations) (size : Nat) {trace : StorageTrace}
      {answer : Annotations × Option Descriptor}
      (run : Program.Runs (backend.create annotations size) trace answer) :
    CarryRun (.create backend annotations size) (trace.map peerOf) answer
  | remove (backend : Backend) (annotations : Annotations) {trace : StorageTrace}
      {answer : Except Failure Unit}
      (run : Program.Runs (backend.remove annotations) trace answer) :
    CarryRun (.remove backend annotations) (trace.map peerOf) answer
  | newUuid (uuid : Uuid) : CarryRun .newUuid [⟨.newUuid, uuid⟩] uuid
  | clock (now : Timestamp) : CarryRun .clock [⟨.storage .clock, now⟩] now
  | count (counter : Counter) : CarryRun (.count counter) [⟨.count counter, ()⟩] ()

theorem runs_carry {c : Call} {part : PeerTrace} {answer : c.Answer} :
    Program.Runs (carry c) part answer ↔ CarryRun c part answer := by
  constructor
  · intro run
    cases c with
    | cluster c =>
      rw [(Program.runs_call (I := peers) (c := .cluster c)).mp run]
      exact .cluster c answer
    | create backend annotations size =>
      obtain ⟨trace, hrun, rfl⟩ := runs_ofStorage.mp run
      exact .create backend annotations size hrun
    | remove backend annotations =>
      obtain ⟨trace, hrun, rfl⟩ := runs_ofStorage.mp run
      exact .remove backend annotations hrun
    | newUuid =>
      rw [(Program.runs_call (I := peers) (c := .newUuid)).mp run]
      exact .newUuid answer
    | clock =>
      rw [(Program.runs_call (I := peers) (c := .storage .clock)).mp run]
      exact .clock answer
    | count counter =>
      rw [(Program.runs_call (I := peers) (c := .count counter)).mp run]
      exact .count counter
  · intro run
    cases run with
    | cluster c => exact (Program.runs_call (I := peers) (c := .cluster c)).mpr rfl
    | create backend annotations size hrun => exact runs_ofStorage.mpr ⟨_, hrun, rfl⟩
    | remove backend annotations hrun => exact runs_ofStorage.mpr ⟨_, hrun, rfl⟩
    | newUuid => exact (Program.runs_call (I := peers) (c := .newUuid)).mpr rfl
    | clock => exact (Program.runs_call (I := peers) (c := .storage .clock)).mpr rfl
    | count => exact (Program.runs_call (I := peers) (c := .count _)).mpr rfl

theorem runs_onPeers {α : Type} {p : Program interface α} {whole : PeerTrace} {a : α} :
    Program.Runs (onPeers p) whole a ↔
      ∃ trace, Program.Runs p trace a ∧ Program.Carried carry trace whole :=
  Program.runs_translate

/-- Carrying out the calls of a trace makes the same calls to the cluster. -/
theorem clusterPart_of_carried {trace : Trace} {whole : PeerTrace}
    (carried : Program.Carried carry trace whole) : clusterPart whole = clusterCalls trace := by
  induction carried with
  | nil => rfl
  | @cons c answer part trace whole head tail ih =>
    rw [clusterPart_append, ih]
    cases runs_carry.mp head with
    | cluster => rfl
    | create => rw [clusterPart_map]; rfl
    | remove => rw [clusterPart_map]; rfl
    | newUuid => rfl
    | clock => rfl
    | count => rfl

def Call.onBackend : Call → Bool
  | .create _ _ _ => true
  | .remove _ _ => true
  | _ => false

/-- Whatever is not a backend's to carry out leaves storage as it is. -/
theorem idle_of_carried {trace : Trace} {whole : PeerTrace}
    (carried : Program.Carried carry trace whole)
    (aside : ∀ x ∈ trace, x.call.onBackend = false) : Idle (storagePart whole) := by
  induction carried with
  | nil => exact .nil
  | @cons c answer part trace whole head tail ih =>
    have hrest := ih fun x hx => aside x (List.mem_cons_of_mem _ hx)
    have haside : c.onBackend = false := aside _ List.mem_cons_self
    rw [storagePart_append]
    cases runs_carry.mp head with
    | cluster => exact hrest
    | create => cases haside
    | remove => cases haside
    | newUuid => exact hrest
    | clock now => exact .cons now hrest
    | count => exact hrest

theorem onBackend_of_isRead {c : Call} (h : c.isRead = true) : c.onBackend = false := by
  unfold Call.isRead at h
  split at h
  · rfl
  · rfl
  · cases h

end DatasetProvisioner.Reconciler
