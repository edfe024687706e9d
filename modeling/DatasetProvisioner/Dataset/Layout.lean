import DatasetProvisioner.Annotations
import DatasetProvisioner.Failure
import DatasetProvisioner.Text.Basic
import DatasetProvisioner.Timestamp
import DatasetProvisioner.Uuid

/-!
# Export layout

A backend keeps the volume with identifier `u` in the dataset `root/u` and exports it at
`exportRoot/u`. The layout names these places, recognises what lies under its root, and writes
the place of a volume into its annotations.

A clone is made from a snapshot that is taken for it. Its name holds the name of the new volume and
the time, in characters that a snapshot name may have.
-/
namespace DatasetProvisioner.Dataset

/-- Where a backend keeps its datasets and exports. -/
structure Layout where
  host : String
  exportRoot : String
  datasetRoot : String
  deriving Repr, DecidableEq

/-- A path without blanks around it and slashes at its end. Slashes alone are the root directory. -/
def trimPath (path : String) : String :=
  let trimmed := Text.dropEndWhile (· == '/') (Text.trimChars path.toList)
  if trimmed.isEmpty && path.toList.head? == some '/' then "/" else String.ofList trimmed

namespace Layout

/-- The layout of given settings, blanks and final slashes removed. -/
def ofSettings (host exportRoot datasetRoot : String) : Layout where
  host := Text.trim host
  exportRoot := trimPath exportRoot
  datasetRoot := trimPath datasetRoot

/-- The dataset of a volume. -/
def datasetPath (layout : Layout) (uuid : Uuid) : String :=
  layout.datasetRoot ++ "/" ++ uuid.toString

/-- The export of a volume, unless its mount point says otherwise. -/
def exportPath (layout : Layout) (uuid : Uuid) : String :=
  layout.exportRoot ++ "/" ++ uuid.toString

/-- What follows the dataset root and a slash. -/
def underRoot? (layout : Layout) (path : List Char) : Option (List Char) :=
  Text.after? (layout.datasetRoot.toList ++ ['/']) path

/-- Whether a path on a host is the dataset of a volume, in any spelling of its identifier. -/
def owns (layout : Layout) (host path : String) : Bool :=
  host == layout.host &&
    ((layout.underRoot? path.toList).bind Uuid.ofChars?).isSome

/-- What is wrong with a clone reference. -/
inductive CloneRefFault where
  | parts (count : Nat) (ref : String)
  | host (given expected : String)
  | dataset (given root : String)
  deriving Repr, DecidableEq

def CloneRefFault.message : CloneRefFault → String
  | .parts count ref => s!"expected 2 parts, got {Text.decimal count}: {ref}"
  | .host given expected => s!"host {given} is not {expected}"
  | .dataset given root => s!"{given} is not under {root}"

/-- The dataset that a reference of the form `host:dataset` names, if this layout owns it. -/
def cloneSource (layout : Layout) (ref : String) : Except CloneRefFault String :=
  match Text.splitAt ':' ref.toList with
  | [host, dataset] =>
    let (host, dataset) := (String.ofList host, String.ofList dataset)
    if host ≠ layout.host then .error (.host host layout.host)
    else if layout.owns host dataset then .ok dataset
    else .error (.dataset dataset layout.datasetRoot)
  | parts => .error (.parts parts.length ref)

/-- A clone reference that cannot be used, as a failure of the annotation that holds it. -/
def CloneRefFault.failure (fault : CloneRefFault) : Failure :=
  .invalidValue "clone-ref" fault.message

/-- Whether a snapshot is one of a dataset strictly under the root. -/
def ownsSnapshot (layout : Layout) (snapshot : String) : Bool :=
  let cs := snapshot.toList
  let dataset := cs.takeWhile (· != '@')
  match cs.dropWhile (· != '@') with
  | [] | [_] => false
  | _ => (layout.underRoot? dataset).any fun leaf => !leaf.isEmpty

/-- The kind of mount that every volume has. -/
def mountProtocol : String := "nfs"

/-- Record the place of a volume. -/
def record (layout : Layout) (uuid : Uuid) (annotations : Annotations) : Annotations :=
  annotations.insert Key.exportHost layout.host
    |>.insert Key.datasetPath (layout.datasetPath uuid)
    |>.insert Key.exportPath (layout.exportPath uuid)
    |>.insert Key.managedProvider mountProtocol

end Layout

namespace Snapshot

/-- The characters that are kept. -/
def isNameChar (c : Char) : Bool :=
  Text.isAsciiAlphanumeric c || c == '_' || c == '.' || c == ':' || c == '-'

/-- A name with a hyphen for every character that is not kept. -/
def sanitised (name : String) : String :=
  String.ofList (name.toList.map fun c => if isNameChar c then c else '-')

/-- The name of the snapshot taken for a volume at a time. -/
def name (volumeName : String) (time : Timestamp) : String :=
  "zfspv-" ++ sanitised volumeName ++ "-" ++ time.compact

end Snapshot

end DatasetProvisioner.Dataset
