import DatasetProvisioner.Dataset.Layout
import DatasetProvisioner.ReclaimPolicy

/-!
# Requests for a volume

What both backends check before they call anything: the volume is a mounted file system, its
identifier and name are there, and a clone source, where one is given, is a dataset of their own.
-/
namespace DatasetProvisioner.Storage

/-- What a backend says of a volume it made. -/
structure Descriptor where
  exportHost : String
  exportPath : String
  readOnly : Bool
  assignedName : String
  reclaimPolicy : Option ReclaimPolicy
  deriving Repr, DecidableEq

/-- The identifier in a volume's annotations. -/
def volumeUuid (annotations : Annotations) : Except Failure Uuid :=
  match annotations[Key.volumeUuid]? with
  | none => .error (.missingKey Key.volumeUuid)
  | some raw =>
    match Uuid.ofString? raw with
    | some uuid => .ok uuid
    | none => .error (.invalidValue Key.volumeUuid raw)

/-- Whether the annotations ask for a block device. -/
def asksForBlock (annotations : Annotations) : Option String :=
  annotations[Key.volumeMode]?.filter (Text.sameIgnoringCase · "block")

/-- Refuse block devices and mounts of another kind. A volume that names no kind of mount gets the
one there is. -/
def checkVolumeRequest (annotations : Annotations) : Annotations × Except Failure Unit :=
  match asksForBlock annotations with
  | some mode => (annotations, .error (.invalidValue Key.volumeMode mode))
  | none =>
    match annotations[Key.mountProtocol]? with
    | some protocol =>
      if Text.sameIgnoringCase protocol Dataset.Layout.mountProtocol then (annotations, .ok ())
      else (annotations, .error (.invalidValue Key.mountProtocol protocol))
    | none =>
      (annotations.insert Key.mountProtocol Dataset.Layout.mountProtocol, .ok ())

/-- A request that passed all checks. -/
structure Placement where
  uuid : Uuid
  /-- The name of the volume object to be. -/
  volumeRef : String
  /-- The dataset to clone. -/
  source : Option String
  deriving DecidableEq

/-- The checked request in a set of annotations. -/
def placementOf (layout : Dataset.Layout) (annotations : Annotations) :
    Except Failure Placement := do
  let uuid ← volumeUuid annotations
  let some volumeRef := annotations[Key.volumeRef]?
    | throw (.missingKey Key.volumeRef)
  match annotations[Key.cloneRef]? with
  | none => return ⟨uuid, volumeRef, none⟩
  | some ref =>
    match layout.cloneSource ref with
    | .ok dataset => return ⟨uuid, volumeRef, some dataset⟩
    | .error fault => throw fault.failure

/-- All checks, and the annotations after them: with the place of the volume where they passed. -/
def prepare (layout : Dataset.Layout) (annotations : Annotations) :
    Annotations × Except Failure Placement :=
  match checkVolumeRequest annotations with
  | (annotations, .error failure) => (annotations, .error failure)
  | (annotations, .ok ()) =>
    match placementOf layout annotations with
    | .error failure => (annotations, .error failure)
    | .ok placement => (layout.record placement.uuid annotations, .ok placement)

/-- The clone snapshot recorded for a volume, if it lies under the root of the layout. -/
def removableSnapshot (layout : Dataset.Layout) (annotations : Annotations) : Option String :=
  annotations[Key.cloneSnapshot]?.filter layout.ownsSnapshot

end DatasetProvisioner.Storage
