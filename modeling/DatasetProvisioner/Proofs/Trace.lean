import DatasetProvisioner.Proofs.Runs
import DatasetProvisioner.Reconciler.Volumes

/-!
# Traces of the reconciler

Names for the calls of a run with their answers, and the parts of a trace that the theorems speak
of. A trace says what was called and what was answered, never why.
-/
namespace DatasetProvisioner.Reconciler

open Manifest Storage

abbrev Trace := List (Exchange interface)

/-- A trace of the calls that leave the controller. -/
abbrev PeerTrace := List (Exchange peers)

abbrev onCluster (c : Cluster.Call) (answer : c.Answer) : Exchange interface :=
  ⟨.cluster c, answer⟩

abbrev onCreate (backend : Backend) (annotations : Annotations) (size : Nat)
    (answer : Annotations × Option Descriptor) : Exchange interface :=
  ⟨.create backend annotations size, answer⟩

abbrev onRemove (backend : Backend) (annotations : Annotations) (answer : Except Failure Unit) :
    Exchange interface :=
  ⟨.remove backend annotations, answer⟩

abbrev onUuid (uuid : Uuid) : Exchange interface :=
  ⟨.newUuid, uuid⟩

abbrev onClock (now : Timestamp) : Exchange interface :=
  ⟨.clock, now⟩

abbrev onCount (counter : Counter) : Exchange interface :=
  ⟨.count counter, ()⟩

theorem runs_askCluster {α : Type} {c : Cluster.Call} {next : c.Answer → Program interface α}
    {trace : Trace} {a : α} :
    Program.Runs (ask c >>= next) trace a ↔
      ∃ answer rest, trace = onCluster c answer :: rest ∧ Program.Runs (next answer) rest a :=
  Program.runs_ask (I := interface) (c := .cluster c)

theorem runs_count {α : Type} {counter : Counter} {next : Unit → Program interface α}
    {trace : Trace} {a : α} :
    Program.Runs (count counter >>= next) trace a ↔
      ∃ rest, trace = onCount counter :: rest ∧ Program.Runs (next ()) rest a := by
  constructor
  · intro run
    obtain ⟨_, rest, htrace, hrest⟩ :=
      (Program.runs_ask (I := interface) (c := .count counter)).mp run
    exact ⟨rest, htrace, hrest⟩
  · rintro ⟨rest, rfl, run⟩
    exact (Program.runs_ask (I := interface)).mpr ⟨(), rest, rfl, run⟩

theorem runs_callThen {α : Type} {c : Call} {next : c.Answer → Program interface α}
    {trace : Trace} {a : α} :
    Program.Runs (Program.call (I := interface) c >>= next) trace a ↔
      ∃ answer rest, trace = ⟨c, answer⟩ :: rest ∧ Program.Runs (next answer) rest a :=
  Program.runs_ask (I := interface) (c := c)

end DatasetProvisioner.Reconciler
