import DatasetProvisioner.Annotations
import DatasetProvisioner.Manifest.Shape

/-!
# Metadata of cluster objects

The part that all cluster objects share. The fields this controller works with are typed; the
others are kept in canonical form so that an object is written again as it was read.
-/
namespace DatasetProvisioner.Manifest

open Shape in
/-- The shape of an object's metadata. -/
def metadataShape : Shape :=
  .record
    [optional "annotations" (.dictionary .text), optional "creationTimestamp" .time,
      optional "deletionGracePeriodSeconds" int64, optional "deletionTimestamp" .time,
      optional "finalizers" texts, optional "generateName" .text, optional "generation" int64,
      optional "labels" (.dictionary .text),
      optional "managedFields" (.list (.record
        [optional "apiVersion" .text, optional "fieldsType" .text, optional "fieldsV1" .anything,
          optional "manager" .text, optional "operation" .text, optional "subresource" .text,
          optional "time" .time])),
      optional "name" .text, optional "namespace" .text,
      optional "ownerReferences" (.list (.record
        [required "apiVersion" .text, optional "blockOwnerDeletion" .flag,
          optional "controller" .flag, required "kind" .text, required "name" .text,
          required "uid" .text])),
      optional "resourceVersion" .text, optional "selfLink" .text, optional "uid" .text]

/-- The members of an object whose names are not listed. -/
def further (names : List String) : Json → List (String × Json)
  | .object members => members.filter fun m => m.1 ∉ names
  | _ => []

/-- A text member. -/
def textOf (name : String) (value : Json) : Option String :=
  (value.field? name).bind Json.string?

/-- A member that lists texts. -/
def textsOf (name : String) (value : Json) : Option (List String) :=
  ((value.field? name).bind Json.array?).map fun items => items.filterMap Json.string?

/-- A member that maps texts to texts. -/
def dictionaryOf (name : String) (value : Json) : Option Annotations :=
  match value.field? name with
  | some (.object members) =>
    some (members.foldl (fun set m => set.insert m.1 (m.2.string?.getD "")) ∅)
  | _ => none

/-- A map of texts as an object. -/
def ofDictionary (set : Annotations) : Json :=
  .object (set.toList.map fun p => (p.1, .string p.2))

/-- A member that is written only where there is a value. -/
def member (name : String) : Option Json → List (String × Json)
  | some value => [(name, value)]
  | none => []

structure Metadata where
  name : Option String := none
  objectNamespace : Option String := none
  uid : Option String := none
  annotations : Option Annotations := none
  labels : Option Annotations := none
  others : List (String × Json) := []

namespace Metadata

/-- Read metadata in canonical form. -/
def ofCanonical (value : Json) : Metadata where
  name := textOf "name" value
  objectNamespace := textOf "namespace" value
  uid := textOf "uid" value
  annotations := dictionaryOf "annotations" value
  labels := dictionaryOf "labels" value
  others := further ["name", "namespace", "uid", "annotations", "labels"] value

def toJson (m : Metadata) : Json :=
  .object <|
    member "name" (m.name.map .string) ++ member "namespace" (m.objectNamespace.map .string) ++
    member "uid" (m.uid.map .string) ++ member "annotations" (m.annotations.map ofDictionary) ++
    member "labels" (m.labels.map ofDictionary) ++ m.others

end Metadata

open Shape in
/-- The members that say what an object is, and its metadata. -/
def kindFields (kind : String) : List (String × Presence × Shape) :=
  [omissible "apiVersion" (.exactly "v1"), omissible "kind" (.exactly kind),
    required "metadata" metadataShape]

end DatasetProvisioner.Manifest
