import DatasetProvisioner.Reconciler.Claims

/-!
# Reclaim

Only volumes that carry this controller's identity are touched. A deleted volume takes its dataset
with it; a released or failed one is deleted or marked, as its policy says.
-/
namespace DatasetProvisioner.Reconciler

open Manifest Storage

inductive VolumeOutcome where
  | notManaged
  /-- The object was deleted by someone; its dataset was removed. -/
  | removed
  /-- The object was deleted here and its dataset removed. -/
  | deleted
  /-- The object was marked as released. -/
  | retained
  /-- The object is gone or carries the mark. -/
  | alreadyRetained
  /-- Nothing to do in this phase. -/
  | observed
  deriving Repr, DecidableEq

def VolumeOutcome.name : VolumeOutcome → String
  | .notManaged => "NotManaged"
  | .removed => "Removed"
  | .deleted => "Deleted"
  | .retained => "Retained"
  | .alreadyRetained => "AlreadyRetained"
  | .observed => "Observed"

/-- The provider of a volume's class. -/
def providerFor (settings : Settings) (event : VolumeEvent) : Except Failure Provider :=
  let storageClass := requestedClass event.annotations event.specClass
  match settings.registry.resolve storageClass with
  | some provider => .ok provider
  | none => .error (.noStorageClass (storageClass.getD ""))

/-- Remove what was made for a volume. -/
def removeDataset (provider : Provider) (event : VolumeEvent) :
    Program interface (Except Failure Unit) := do
  count .backendRemovals
  Program.call (I := interface) (.remove provider.backend event.annotations)

/-- Mark a volume as released, unless its stored object is gone or marked. The event may be stale,
so the stored object decides. -/
def markReleased (event : VolumeEvent) : Program interface (Except Failure VolumeOutcome) := do
  match ← ask (.readVolume event.volumeName) with
  | .error failure => return .error failure
  | .ok none => return .ok .alreadyRetained
  | .ok (some stored) =>
    if Key.releasedAt ∈ stored.annotations then return .ok .alreadyRetained
    else
      let now ← Program.call (I := interface) .clock
      match ← ask (.annotateVolume event.volumeName Key.releasedAt
          (toString now.seconds)) with
      | .error failure => return .error failure
      | .ok () =>
        count .volumesRetained
        return .ok .retained

/-- Delete a volume's object, then what was made for it. -/
def destroy (provider : Provider) (event : VolumeEvent) :
    Program interface (Except Failure VolumeOutcome) := do
  match ← ask (.deleteVolume event.volumeName) with
  | .error failure => return .error failure
  | .ok () =>
    count .volumesDeleted
    match ← removeDataset provider event with
    | .error failure => return .error failure
    | .ok () => return .ok .deleted

/-- Apply its reclaim policy to a released volume. -/
def reclaim (settings : Settings) (event : VolumeEvent) :
    Program interface (Except Failure VolumeOutcome) :=
  match providerFor settings event with
  | .error failure => .done (.error failure)
  | .ok provider =>
    let policy := effectivePolicy event.annotations provider.reclaimPolicy
    if policy.destroysVolume then destroy provider event
    else if Key.releasedAt ∈ event.annotations then .done (.ok .alreadyRetained)
    else markReleased event

/-- Handle a change to a volume. -/
def handleVolume (settings : Settings) (event : VolumeEvent) :
    Program interface (Except Failure VolumeOutcome) :=
  if !event.isManagedBy settings.identity then .done (.ok .notManaged)
  else if event.change = .deleted then
    match providerFor settings event with
    | .error failure => .done (.error failure)
    | .ok provider => do
      match ← removeDataset provider event with
      | .error failure => return .error failure
      | .ok () => return .ok .removed
  else if event.phase = .released ∨ event.phase = .failed then reclaim settings event
  else .done (.ok .observed)

end DatasetProvisioner.Reconciler
