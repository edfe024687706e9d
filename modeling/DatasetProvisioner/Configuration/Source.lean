import DatasetProvisioner.Json.Value
import DatasetProvisioner.Text.Numeral
import DatasetProvisioner.Yaml.Node

/-!
# Sources of settings

Settings are records of texts, flags, counts, lists and further records. A source says how each of
these is read from a value of some form, YAML nodes or structured values here. The rules for what
may be left out are the same for every source.
-/
namespace DatasetProvisioner.Configuration

/-- A field of a record. -/
structure Field where
  name : String
  /-- Another name for it. -/
  otherName : Option String := none
  /-- Whether a list that gives the fields by place may end before it. -/
  mayEnd : Bool := true

def Field.isNamed (field : Field) (name : String) : Bool :=
  field.name == name || field.otherName == some name

/-- A step of reading settings, which fails on a value of the wrong kind. The state is how many
more aliases may be followed. -/
abbrev Decoding := StateT Nat Option

/-- How settings are read from values of a type. All but `follow` are asked for values that are no
aliases; nothing is their answer to a value of the wrong kind. -/
structure Source (ν : Type) where
  /-- The value that an alias stands for, and any other value itself. -/
  follow : ν → Decoding ν
  /-- Whether a value stands for an optional setting that is not given. -/
  isAbsent : ν → Option Bool
  text : ν → Option String
  flag : ν → Option Bool
  /-- A count of at most 64 bits. -/
  count : ν → Option Nat
  list : ν → Option (List ν)
  /-- The members of a record by name. -/
  members : List Field → ν → Decoding (List (String × ν))

namespace Source

variable {ν α : Type} (source : Source ν)

/-- Read a value, or what it stands for. -/
def readAs (read : ν → Option α) (value : ν) : Decoding α := do
  read (← source.follow value)

/-- The values of a record by the names of its fields. A field may be given once; a member that is
no field is passed over. -/
def record (fields : List Field) (value : ν) : Decoding (String → Option ν) := do
  let members ← source.members fields (← source.follow value)
  let given (field : Field) := members.filter fun m => field.isNamed m.1
  if !fields.all fun field => (given field).length ≤ 1 then failure
  return fun name =>
    ((fields.find? (·.name == name)).bind fun field => (given field).head?).map (·.2)

/-- Read a setting that may be left out. -/
def optional (read : ν → Decoding α) : Option ν → Decoding (Option α)
  | none => return none
  | some value => do
    let value ← source.follow value
    if ← source.isAbsent value then return none
    return some (← read value)

/-- Read a setting that has a default. -/
def withDefault (default : α) (read : ν → Decoding α) : Option ν → Decoding α
  | none => return default
  | some value => read value

/-- Read a list of settings. -/
def listOf (read : ν → Decoding α) (value : ν) : Decoding (List α) := do
  (← source.readAs source.list value).mapM read

end Source

/-! ## Structured values -/

/-- The fields that a list gives by their places. -/
def membersByPlace {ν : Type} : List Field → List ν → Option (List (String × ν))
  | fields, [] => if fields.all (·.mayEnd) then some [] else none
  | [], _ :: _ => none
  | field :: fields, value :: values =>
    (membersByPlace fields values).map ((field.name, value) :: ·)

/-- Structured values as settings: every kind of setting is the kind of value of that name. -/
def jsonSource : Source Json where
  follow := pure
  isAbsent value := some (value == .null)
  text := Json.string?
  flag := Json.bool?
  count value := (value.integerIn? 0 Text.greatest64).map Int.toNat
  list := Json.array?
  members fields
    | .object members => return Json.lastMembers members
    | .array values => membersByPlace fields values
    | _ => failure

/-! ## YAML -/

open Yaml

/-- The plain words for nothing. -/
def isNullWord (word : String) : Bool :=
  word == "null" || word == "Null" || word == "NULL" || word == "~"

def flagWord? : String → Option Bool
  | "true" | "True" | "TRUE" => some true
  | "false" | "False" | "FALSE" => some false
  | _ => none

/-- Read a count in a base. -/
def countIn? (base : Nat) (cs : List Char) : Option Nat := do
  guard (!cs.isEmpty)
  let digits ← cs.mapM hexDigit?
  guard (digits.all (· < base))
  let n := Text.ofDigits base digits
  if n ≤ Text.greatest64 then some n else none

/-- Read a count with an optional plus sign: in base 16, 8 or 2 after `0x`, `0o` or `0b`, else in
decimal without leading zeros. -/
def countWord? (word : String) : Option Nat :=
  let cs := match word.toList with
    | '+' :: rest => rest
    | cs => cs
  match cs with
  | '0' :: 'x' :: digits => countIn? 16 digits
  | '0' :: 'o' :: digits => countIn? 8 digits
  | '0' :: 'b' :: digits => countIn? 2 digits
  | '0' :: _ :: _ => none
  | _ => countIn? 10 cs

/-- What the tags of the standard types start with. -/
def standardTag (name : String) : String :=
  "tag:yaml.org,2002:" ++ name

/-- The text of a scalar that may stand for something else: a plain one, or a literal block with
the tag of what it stands for. -/
def wordOf? (tagName : String) : Node → Option String
  | .scalar tag style text =>
    match style with
    | .plain => some text
    | .literal => if tag = some (standardTag tagName) then some text else none
    | .quoted | .folded => none
  | _ => none

/-- Whether a node is missing. -/
def isMissing : Node → Bool
  | .scalar _ .plain "" => true
  | _ => false

/-- How many aliases are followed in a document, for each of its events. -/
def aliasesPerEvent : Nat := 100

/-- How many aliases are followed in a document. -/
def aliasLimit (document : Document) : Nat :=
  aliasesPerEvent * document.root.events

/-- Follow an alias, if one more may be followed. -/
def followIn (document : Document) (node : Node) : Decoding Node := do
  if let .alias _ := node then
    match ← get with
    | 0 => failure
    | left + 1 => set left
  return document.resolved node

/-- A YAML document as settings. Any scalar is a text; a plain word for nothing counts as absent
where a setting may be; a missing node is an empty list and an empty record. -/
def yamlSource (document : Document) : Source Node where
  follow := followIn document
  isAbsent
    | .scalar none .plain text => some (text == "" || isNullWord text)
    | .scalar (some tag) .plain text =>
      if tag = standardTag "null" then if isNullWord text then some true else none
      else some false
    | _ => some false
  text
    | .scalar _ _ text => some text
    | _ => none
  flag node := (wordOf? "bool" node).bind flagWord?
  count node := (wordOf? "int" node).bind countWord?
  list
    | .sequence items => some items
    | node => if isMissing node then some [] else none
  members _
    | .mapping entries =>
      entries.mapM fun entry => do
        match ← followIn document entry.1 with
        | .scalar _ _ name => return (name, entry.2)
        | _ => failure
    | node => if isMissing node then return [] else failure

end DatasetProvisioner.Configuration
