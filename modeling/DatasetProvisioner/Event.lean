import DatasetProvisioner.Failure
import DatasetProvisioner.Manifest.Claim
import DatasetProvisioner.Manifest.Volume
import DatasetProvisioner.Quantity

/-!
# Change events

What the reconciler is told about a change to a claim or a volume: the object as it was then,
reduced to the facts that decide.
-/
namespace DatasetProvisioner

open Manifest

inductive Change where
  | added
  | modified
  | deleted
  deriving Repr, DecidableEq

inductive ClaimPhase where
  | pending
  | bound
  | lost
  | unknown (text : String)
  deriving Repr, DecidableEq

def ClaimPhase.ofString : String → ClaimPhase
  | "Pending" => .pending
  | "Bound" => .bound
  | "Lost" => .lost
  | other => .unknown other

inductive VolumePhase where
  | pending
  | available
  | bound
  | released
  | failed
  | unknown (text : String)
  deriving Repr, DecidableEq

namespace VolumePhase

def ofString : String → VolumePhase
  | "Pending" => .pending
  | "Available" => .available
  | "Bound" => .bound
  | "Released" => .released
  | "Failed" => .failed
  | other => .unknown other

def name : VolumePhase → String
  | .pending => "Pending"
  | .available => "Available"
  | .bound => "Bound"
  | .released => "Released"
  | .failed => "Failed"
  | .unknown text => text

end VolumePhase

structure ClaimEvent where
  claimNamespace : String
  claimName : String
  uid : String
  /-- The requested size as written. -/
  requestedStorage : String
  requestedBytes : Nat
  accessModes : List String
  phase : ClaimPhase
  change : Change
  annotations : Annotations
  labels : Annotations
  storageClassName : Option String
  volumeMode : Option String

/-- The event of a changed claim. It must have a name, and its size, zero where it asks for none,
must be a byte count. -/
def ClaimEvent.ofClaim (change : Change) (claim : Claim) : Except Failure ClaimEvent :=
  match claim.metadata.name with
  | none => .error (.internal "claim without a name")
  | some name =>
    let storage := ((claim.spec.bind (·.requests)).bind (·["storage"]?)).getD "0"
    match Quantity.bytes storage with
    | .error fault => .error (.capacity fault.message)
    | .ok bytes => .ok {
        claimNamespace := claim.metadata.objectNamespace.getD ""
        claimName := name
        uid := claim.metadata.uid.getD ""
        requestedStorage := storage
        requestedBytes := bytes
        accessModes := (claim.spec.bind (·.accessModes)).getD []
        phase := (claim.phase.map ClaimPhase.ofString).getD .pending
        change
        annotations := claim.metadata.annotations.getD ∅
        labels := claim.metadata.labels.getD ∅
        storageClassName := claim.spec.bind (·.storageClassName)
        volumeMode := claim.spec.bind (·.volumeMode) }

structure VolumeEvent where
  volumeName : String
  change : Change
  phase : VolumePhase
  phaseMessage : Option String
  phaseReason : Option String
  accessModes : List String
  annotations : Annotations
  labels : Annotations
  spec : Option VolumeSpec
  reclaimPolicy : Option String

namespace VolumeEvent

/-- The event of a changed volume, which must have a name. -/
def ofVolume (change : Change) (volume : Volume) : Except Failure VolumeEvent :=
  match volume.metadata.name with
  | none => .error (.internal "volume without a name")
  | some name => .ok {
      volumeName := name
      change
      phase := ((volume.status.bind (·.phase)).map VolumePhase.ofString).getD .pending
      phaseMessage := volume.status.bind (·.message)
      phaseReason := volume.status.bind (·.reason)
      accessModes := (volume.spec.bind (·.accessModes)).getD []
      annotations := volume.annotations
      labels := volume.metadata.labels.getD ∅
      spec := volume.spec
      reclaimPolicy := volume.spec.bind (·.clusterReclaimPolicy) }

/-- The class that the volume's own object names. -/
def specClass (event : VolumeEvent) : Option String :=
  event.spec.bind (·.storageClassName)

/-- Whether the volume carries an identity as its owner's. -/
def isManagedBy (event : VolumeEvent) (identity : String) : Bool :=
  event.annotations[Key.managedBy]? == some identity

end VolumeEvent

end DatasetProvisioner
