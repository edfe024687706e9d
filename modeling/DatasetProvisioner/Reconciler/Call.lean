import DatasetProvisioner.Cluster.Store
import DatasetProvisioner.Metrics
import DatasetProvisioner.Registry

/-!
# Calls of the reconciler

The reconciler talks to the cluster, to the backend of a provider, to a clock and to a source of
identifiers, and it counts what it does. `carry` carries out the calls to a backend by the calls
that the backend itself makes.
-/
namespace DatasetProvisioner.Reconciler

inductive Call where
  | cluster (call : Cluster.Call)
  /-- Have a backend make a volume for a set of annotations and a size. -/
  | create (backend : Storage.Backend) (annotations : Annotations) (size : Nat)
  /-- Have a backend remove what it made. -/
  | remove (backend : Storage.Backend) (annotations : Annotations)
  | newUuid
  | clock
  | count (counter : Counter)

/-- A backend answers a creation with the annotations as it left them, and with a descriptor
unless it declined. -/
abbrev Call.Answer : Call → Type
  | .cluster call => call.Answer
  | .create _ _ _ => Annotations × Option Storage.Descriptor
  | .remove _ _ => Except Failure Unit
  | .newUuid => Uuid
  | .clock => Timestamp
  | .count _ => Unit

abbrev interface : Interface := ⟨Call, Call.Answer⟩

/-- The calls that leave the controller. -/
inductive PeerCall where
  | cluster (call : Cluster.Call)
  | storage (call : Storage.Call)
  | newUuid
  | count (counter : Counter)

abbrev PeerCall.Answer : PeerCall → Type
  | .cluster call => call.Answer
  | .storage call => call.Answer
  | .newUuid => Uuid
  | .count _ => Unit

abbrev peers : Interface := ⟨PeerCall, PeerCall.Answer⟩

/-- The calls of a backend as calls that leave the controller. -/
def ofStorage {α : Type} : Program Storage.interface α → Program peers α :=
  Program.translate (J := peers) fun c => .ask (I := peers) (.storage c) .done

/-- Carry out a call of the reconciler by calls that leave the controller. -/
def carry : (c : Call) → Program peers c.Answer
  | .cluster c => .ask (I := peers) (.cluster c) .done
  | .create backend annotations size => ofStorage (backend.create annotations size)
  | .remove backend annotations => ofStorage (backend.remove annotations)
  | .newUuid => .ask (I := peers) .newUuid .done
  | .clock => .ask (I := peers) (.storage .clock) .done
  | .count c => .ask (I := peers) (.count c) .done

/-- A program of the reconciler as one of calls that leave the controller. -/
def onPeers {α : Type} (program : Program interface α) : Program peers α :=
  program.translate (J := peers) carry

/-- Make one call to the cluster. -/
def ask (c : Cluster.Call) : Program interface c.Answer :=
  .ask (I := interface) (.cluster c) .done

/-- Count one. -/
def count (counter : Counter) : Program interface Unit :=
  .ask (I := interface) (.count counter) .done

end DatasetProvisioner.Reconciler
