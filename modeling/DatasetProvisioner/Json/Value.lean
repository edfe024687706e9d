import DatasetProvisioner.Text.Numeral

/-!
# Structured values

The values that the cluster and the management interface exchange. Whole numbers are exact; a
number with a fraction or an exponent, or one beyond 64 bits, is held as text, since nothing here
computes with it.

Two texts of one value may differ in the order of an object's members. `ordered` puts the members in
the order of their names, and of two with one name the later stays.
-/
namespace DatasetProvisioner

inductive Json where
  | null
  | bool (b : Bool)
  | integer (n : Int)
  | decimal (text : String)
  | string (s : String)
  | array (items : List Json)
  | object (members : List (String × Json))
  deriving Repr, BEq, Inhabited

namespace Json

/-- The value of a member; of two with one name, the later. -/
def field? (key : String) : Json → Option Json
  | .object members => (members.reverse.find? fun m => m.1 == key).map (·.2)
  | _ => none

/-- The last member of each name, in the order of the names' last places. -/
def lastMembers : List (String × Json) → List (String × Json)
  | [] => []
  | m :: members =>
    if members.any (·.1 == m.1) then lastMembers members else m :: lastMembers members

/-- The value of a member that is there and not null. -/
def present? (key : String) (value : Json) : Option Json :=
  match value.field? key with
  | some .null | none => none
  | some v => some v

def string? : Json → Option String
  | .string s => some s
  | _ => none

def bool? : Json → Option Bool
  | .bool b => some b
  | _ => none

def array? : Json → Option (List Json)
  | .array items => some items
  | _ => none

/-- A whole number of at least `least` and at most `greatest`. -/
def integerIn? (least greatest : Int) : Json → Option Int
  | .integer n => if least ≤ n ∧ n ≤ greatest then some n else none
  | _ => none

/-- A signed 64-bit number. -/
def int64? : Json → Option Int :=
  integerIn? (Width.least 64) (Width.greatest 64)

def ofNat (n : Nat) : Json := .integer n

/-- An optional text, null where there is none. -/
def ofOption : Option String → Json
  | some s => .string s
  | none => .null

def ofStrings (items : List String) : Json :=
  .array (items.map .string)

/-! ## Ordered members -/

mutual

/-- The same value with the members of every object in the order of their names. -/
def ordered : Json → Json
  | .array items => .array (orderedAll items)
  | .object members =>
    .object ((lastMembers (orderedMembers members)).mergeSort fun a b => compare a.1 b.1 |>.isLE)
  | value => value

def orderedAll : List Json → List Json
  | [] => []
  | item :: items => ordered item :: orderedAll items

def orderedMembers : List (String × Json) → List (String × Json)
  | [] => []
  | (key, item) :: members => (key, ordered item) :: orderedMembers members

end

end Json

end DatasetProvisioner
