import DatasetProvisioner.Json.Reader
import DatasetProvisioner.Json.Value
import DatasetProvisioner.Text.Numeral
import DatasetProvisioner.Timestamp.Interchange

/-!
# Shapes of cluster objects

What a field of a cluster object may hold. `read` takes a draft to a value of a shape, in the form
in which it is written again: known fields only, an absent or null field left out or given the
default of its shape. Every occurrence of a known field must have its shape, also where a later
one takes its place; an unknown field is passed over.
-/
namespace DatasetProvisioner.Manifest

/-- Whether a field must be given. -/
inductive Presence where
  /-- It may be absent or null, and is then left out. -/
  | optional
  /-- It may be absent or null, and has then the default of its shape. -/
  | required
  /-- It may be absent but not null. -/
  | omissible
  /-- It must be there. -/
  | expected
  deriving Repr, DecidableEq

/-- Whether null stands for a field that is not given. -/
def Presence.admitsNull : Presence → Bool
  | .optional | .required => true
  | .omissible | .expected => false

inductive Shape where
  | text
  /-- A certain text. -/
  | exactly (expected : String)
  /-- One of several words. -/
  | choice (names : List String)
  | flag
  | integer (least greatest : Int)
  /-- A point in time with its offset from UTC, written again in UTC and to the second. -/
  | time
  | anything
  | list (item : Shape)
  | dictionary (value : Shape)
  /-- Fields by name. Of two with one name the later counts. -/
  | record (fields : List (String × Presence × Shape))
  /-- Fields by name, each once, or in a list by place. -/
  | form (fields : List (String × Presence × Shape))

namespace Shape

open Json (Draft DraftText Ending Outcome ReadFault)

def int32 : Shape := .integer (Width.least 32) (Width.greatest 32)

def int64 : Shape := .integer (Width.least 64) (Width.greatest 64)

/-- A count of so many bits. -/
def count (bits : Nat) : Shape := .integer 0 (Width.values bits - 1)

def texts : Shape := .list .text

mutual

/-- The value of a required field that is not given. -/
def default : Shape → Json
  | .text | .time | .exactly _ | .choice _ => .string ""
  | .flag => .bool false
  | .integer _ _ => .integer 0
  | .anything => .null
  | .list _ => .array []
  | .dictionary _ => .object []
  | .record fields | .form fields => .object (defaults fields)

def defaults : List (String × Presence × Shape) → List (String × Json)
  | [] => []
  | (name, presence, shape) :: fields =>
    if presence = .required then (name, shape.default) :: defaults fields else defaults fields

end

/-- The fields that were read, by name, the latest first. One that was given as null has no
value. -/
abbrev Found := List (String × Option Json)

/-- A field that is not given: its value, none where it is left out. -/
def absent (presence : Presence) (shape : Shape) : Outcome (Option Json) :=
  match presence with
  | .optional | .omissible => .ok none
  | .required => .ok (some shape.default)
  | .expected => .error .malformed

/-- The fields of a record in their order, from those that were read. -/
def arranged (found : Found) :
    List (String × Presence × Shape) → Outcome (List (String × Json))
  | [] => .ok []
  | (name, presence, shape) :: fields => do
    let value ← match (found.lookup name).join with
      | some value => pure (some value)
      | none => absent presence shape
    let rest ← arranged found fields
    return match value with
      | some value => (name, value) :: rest
      | none => rest

mutual

/-- Read a value of a shape inside at most `depth` more levels. -/
def read (shape : Shape) (depth : Nat) (draft : Draft) : Outcome Json :=
  match shape with
  | .text => draft.string.map .string
  | .exactly expected => do
    let text ← draft.string
    if text = expected then return .string text else throw .malformed
  | .choice names => (draft.choice names depth).map .string
  | .flag => draft.bool.map .bool
  | .integer least greatest => (draft.integer least greatest).map .integer
  | .time => do
    match UtcSecond.ofText? (← draft.string) with
    | some t => return .string t.text
    | none => throw .malformed
  | .anything => draft.value depth
  | .list item =>
    match draft with
    | .array items ending =>
      Draft.enter depth fun depth => do
        let values ← items.mapM fun d => item.read depth d
        ending.check
        return .array values
    | _ => throw draft.mismatch
  | .dictionary item =>
    match draft with
    | .object members ending =>
      Draft.enter depth fun depth => do
        let values ← members.mapM fun m => do
          let key ← m.1.value
          return (key, ← item.read depth m.2)
        ending.check
        return .object (Json.lastMembers values)
    | _ => throw draft.mismatch
  | .record fields =>
    match draft with
    | .object members ending =>
      Draft.enter depth fun depth => do
        let found ← members.foldlM (fun found m => do
          let name ← m.1.value
          return (← readField fields depth name m.2).toList ++ found) []
        ending.check
        return .object (← arranged found fields)
    | _ => throw draft.mismatch
  | .form fields =>
    match draft with
    | .object members ending =>
      Draft.enter depth fun depth => do
        let found ← members.foldlM (fun found m => do
          let name ← m.1.value
          if (found.lookup name).isSome then throw .malformed
          return (← readField fields depth name m.2).toList ++ found) []
        ending.check
        return .object (← arranged found fields)
    | .array items ending =>
      Draft.enter depth fun depth => do
        let found ← readPlaces fields depth items ending
        return .object (← arranged found fields)
    | _ => throw draft.mismatch

/-- Read a field of a given name. One that is not known is passed over. -/
def readField (fields : List (String × Presence × Shape)) (depth : Nat) (name : String)
    (draft : Draft) : Outcome (Option (String × Option Json)) :=
  match fields with
  | [] => draft.pass.map fun _ => none
  | (known, presence, shape) :: fields =>
    if name = known then
      if presence.admitsNull && draft.isNull then .ok (some (name, none))
      else (shape.read depth draft).map fun value => some (name, some value)
    else readField fields depth name draft

/-- Read fields by their places. Those after the last item are not given. -/
def readPlaces (fields : List (String × Presence × Shape)) (depth : Nat) (items : List Draft)
    (ending : Ending) : Outcome Found :=
  match fields with
  | [] => if items.isEmpty then ending.checkFull.map fun _ => [] else .error .malformed
  | (name, presence, shape) :: fields =>
    match items with
    | [] => ending.check.map fun _ => []
    | item :: items => do
      let value ← if presence.admitsNull && item.isNull then pure none
        else (shape.read depth item).map some
      return (name, value) :: (← readPlaces fields depth items ending)

end

/-- A field that may be absent. -/
def optional (name : String) (shape : Shape) : String × Presence × Shape :=
  (name, .optional, shape)

/-- A field that is always written. -/
def required (name : String) (shape : Shape) : String × Presence × Shape :=
  (name, .required, shape)

/-- A field that may be absent but not null. -/
def omissible (name : String) (shape : Shape) : String × Presence × Shape :=
  (name, .omissible, shape)

/-- A field that must be there. -/
def expected (name : String) (shape : Shape) : String × Presence × Shape :=
  (name, .expected, shape)

end Shape

/-- Read a plain value, in which a later member takes the place of an earlier one of its name. -/
def ofPlain? {α : Type} (read : Nat → Json.Draft → Json.Outcome α) (value : Json) : Option α :=
  (read Json.depthLimit (.ofValue value.ordered)).toOption

end DatasetProvisioner.Manifest
