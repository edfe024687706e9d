import DatasetProvisioner.Dataset.Layout
import DatasetProvisioner.Storage.Call
import DatasetProvisioner.Storage.Placement

/-!
# The management backend

Volumes are made and removed through the management interface of a storage appliance. The checks
and the stages are those of the shell backend; in addition every volume gets a share of its own.
-/
namespace DatasetProvisioner.Storage

open Dataset

structure RestBackend where
  name : String
  layout : Layout
  quotaMode : QuotaMode := .standard
  /-- The permissions given to a new export. -/
  unixMode : Option Nat := none
  deriving Repr, DecidableEq

namespace RestBackend

/-- Make one call to the management interface. -/
def call (c : Management.Call) : Program interface c.Answer :=
  .ask (I := interface) (.management c) .done

/-- The size that is imposed: a whole number of records where a record size is set. -/
def imposedSize (options : Options) (size : Nat) : Nat :=
  match options.recordSize with
  | some record => roundUpToRecord size record
  | none => size

def quotaFor (backend : RestBackend) (options : Options) (size : Nat) : Quota :=
  Quota.ofSize backend.quotaMode (imposedSize options size)

/-- Make a fresh dataset. The answer need not tell its mount point; then it is looked up. -/
def makeFresh (backend : RestBackend) (placement : Placement) (size : Nat) (options : Options) :
    Program interface (Except Failure (Option Info)) := do
  let dataset := backend.layout.datasetPath placement.uuid
  let request : Request :=
    { name := dataset, volumeRef := placement.volumeRef, quota := backend.quotaFor options size,
      options }
  match ← call (.createDataset request) with
  | .error failure => return .error failure
  | .ok info =>
    if info.mountPoint.isSome then return .ok (some info) else call (.getDataset dataset)

/-- Impose a quota on a clone, unless there is none. -/
def imposeQuota (dataset : String) (quota : Quota) : Program interface (Except Failure Unit) :=
  if quota.isEmpty then .done (.ok ()) else call (.updateQuota dataset quota)

/-- Make a dataset as a clone. A snapshot that was taken is recorded even where the clone fails. -/
def makeClone (backend : RestBackend) (placement : Placement) (source : String) (size : Nat)
    (options : Options) (annotations : Annotations) :
    Program interface (Annotations × Except Failure (Option Info)) := do
  let dataset := backend.layout.datasetPath placement.uuid
  let now ← Program.call (I := interface) .clock
  match ← call (.createSnapshot source (Snapshot.name placement.volumeRef now)
      placement.volumeRef) with
  | .error failure => return (annotations, .error failure)
  | .ok snapshot =>
    let annotations := annotations.insert Key.cloneSnapshot snapshot
    match ← call (.cloneSnapshot snapshot dataset) with
    | .error failure => return (annotations, .error failure)
    | .ok () =>
      match ← imposeQuota dataset (backend.quotaFor options size) with
      | .error failure => return (annotations, .error failure)
      | .ok () =>
        let found ← call (.getDataset dataset)
        return (annotations, found)

/-- Make the dataset, fresh or as a clone, and tell what the interface says of it. -/
def makeDataset (backend : RestBackend) (placement : Placement) (size : Nat)
    (annotations : Annotations) :
    Program interface (Annotations × Except Failure (Option Info)) :=
  let options := Options.ofAnnotations annotations
  match placement.source with
  | none => do
    let found ← backend.makeFresh placement size options
    return (annotations, found)
  | some source => backend.makeClone placement source size options annotations

/-- The comment on everything made for a volume. -/
def comment (volumeRef : String) : String :=
  "volume " ++ volumeRef

/-- Share a dataset, and set its permissions where a mode is configured. -/
def share (backend : RestBackend) (placement : Placement) (path : String) (readOnly : Bool) :
    Program interface (Except Failure Unit) := do
  match ← call (.createShare path readOnly (comment placement.volumeRef)) with
  | .error failure => return .error failure
  | .ok () =>
    match backend.unixMode with
    | none => return .ok ()
    | some mode => call (.setMode path mode)

/-- A dataset that was made but is not there. -/
def notFound (backend : RestBackend) (uuid : Uuid) : Failure :=
  .backendOperation backend.name "create"
    s!"dataset {backend.layout.datasetPath uuid} not found after creation"

/-- Make a volume for the request in the annotations, and give the annotations after it. -/
def create (backend : RestBackend) (annotations : Annotations) (size : Nat) :
    Program interface (Annotations × Except Failure Descriptor) :=
  match prepare backend.layout annotations with
  | (annotations, .error failure) => .done (annotations, .error failure)
  | (annotations, .ok placement) => do
    let (annotations, made) ← backend.makeDataset placement size annotations
    match made with
    | .error failure => return (annotations, .error failure)
    | .ok none => return (annotations, .error (backend.notFound placement.uuid))
    | .ok (some info) =>
      let exportPath := info.mountPoint.getD (backend.layout.exportPath placement.uuid)
      let annotations := annotations.insert Key.exportPath exportPath
      match ← backend.share placement exportPath info.readOnly with
      | .error failure => return (annotations, .error failure)
      | .ok () =>
        return (annotations, .ok {
          exportHost := backend.layout.host
          exportPath
          readOnly := info.readOnly
          assignedName := placement.volumeRef
          reclaimPolicy := none })

/-- Delete shares one after the other, whatever becomes of each. -/
def deleteShares : List Int → Program interface Unit
  | [] => .done ()
  | id :: ids => do
    let _ ← call (.deleteShare id)
    deleteShares ids

/-- Delete the shares of a volume's export, its dataset, then the snapshot it was cloned from. Only
a missing or malformed identifier is a failure. -/
def remove (backend : RestBackend) (annotations : Annotations) :
    Program interface (Except Failure Unit) :=
  match volumeUuid annotations with
  | .error failure => .done (.error failure)
  | .ok uuid => do
    let exportPath := annotations[Key.exportPath]?.getD (backend.layout.exportPath uuid)
    match ← call (.findShares exportPath) with
    | .error _ => pure ()
    | .ok ids => deleteShares ids
    let _ ← call (.deleteDataset (backend.layout.datasetPath uuid))
    match removableSnapshot backend.layout annotations with
    | none => return .ok ()
    | some snapshot =>
      let _ ← call (.deleteSnapshot snapshot)
      return .ok ()

end RestBackend

end DatasetProvisioner.Storage
