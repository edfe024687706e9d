import DatasetProvisioner.Dataset.Options
import DatasetProvisioner.Dataset.Quota
import DatasetProvisioner.Json.Value

/-!
# Datasets as the management interface sees them

The body of a request for a new dataset, the body that changes a quota, and the fields that are
read back from a dataset.
-/
namespace DatasetProvisioner.Dataset

/-- The dataset property that holds the name of the volume. -/
def trackingProperty : String := "zfspv:pvref"

/-- The body that imposes a quota. -/
def Quota.members (quota : Quota) : List (String × Json) :=
  quota.properties.map fun p => (p.1, .ofNat p.2)

def Quota.body (quota : Quota) : Json :=
  .object quota.members

/-- A record size as the interface writes it: in KiB where it is a whole number of them. -/
def recordSizeLabel (size : Nat) : String :=
  if 1024 ≤ size ∧ size % 1024 = 0 then Text.decimal (size / 1024) ++ "K" else Text.decimal size

/-- A request for a new dataset. -/
structure Request where
  name : String
  volumeRef : String
  quota : Quota
  options : Options

namespace Request

/-- The tuned properties that the interface knows. -/
def supported : List Tunable :=
  Tunable.all.filter (· ≠ .logBias)

def tunedMembers (request : Request) : List (String × Json) :=
  (request.options.recordSize.toList.map fun n => ("recordsize", .string (recordSizeLabel n))) ++
    supported.filterMap fun t =>
      (request.options.tuned t).map fun value => (t.name, .string (Text.asciiUpper value))

def body (request : Request) : Json :=
  .object <|
    [("name", .string request.name), ("type", .string "FILESYSTEM")] ++ request.quota.members ++
    request.tunedMembers ++
    [("user_properties",
        .array [.object [("key", .string trackingProperty), ("value", .string request.volumeRef)]]),
      ("comments", .string ("volume " ++ request.volumeRef))]

end Request

/-- What is read back of a dataset. -/
structure Info where
  id : String
  mountPoint : Option String
  readOnly : Bool
  deriving Repr, DecidableEq

namespace Info

/-- A flag given as a truth value, or as an object with a parsed truth value or, failing that, the
value `on`. -/
def readOnlyFlag (property : Json) : Bool :=
  match property with
  | .bool b => b
  | .object _ =>
    match property.field? "parsed" with
    | some (.bool b) => b
    | _ => ((property.field? "value").bind Json.string?).any (Text.sameIgnoringCase · "on")
  | _ => false

/-- Read a dataset object; whatever is missing or of another kind counts as not given. -/
def ofJson (value : Json) : Info where
  id := ((value.field? "id" <|> value.field? "name").bind Json.string?).getD ""
  mountPoint := (value.field? "mountpoint").bind Json.string?
  readOnly := (value.field? "readonly").any readOnlyFlag

end Info

end DatasetProvisioner.Dataset
