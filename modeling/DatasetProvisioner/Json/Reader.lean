import DatasetProvisioner.Json.Draft

/-!
# Reading structured values

What is read from drafts: whole values, single words, or nothing at all. Reading is strict: no
comments, no trailing commas, no unpaired surrogates, and less than 128 levels of nesting. A part
that is passed over may hold surrogates without a partner, numbers of any size and any number of
levels.
-/
namespace DatasetProvisioner.Json

/-- One more than the deepest nesting that is read. -/
def depthLimit : Nat := 128

/-- What comes of reading. -/
abbrev Outcome (α : Type) := Except ReadFault α

/-- Go on unless there is a fault. -/
def checkFault : Option ReadFault → Outcome Unit
  | none => .ok ()
  | some fault => .error fault

namespace Ending

/-- The end of a list whose parts were all read. -/
def check : Ending → Outcome Unit
  | .closed => .ok ()
  | .broken _ fault => .error fault
  | .nameless _ _ => .error .malformed

/-- The end of a list that has all the parts it may have, so that no comma may follow. -/
def checkFull : Ending → Outcome Unit
  | .broken true _ => .error .malformed
  | ending => ending.check

end Ending

namespace Draft

/-- Go into a value that has parts, of which only so many levels may be left. -/
def enter {α : Type} (depth : Nat) (inside : Nat → Outcome α) : Outcome α :=
  if depth ≤ 1 then .error .malformed else inside (depth - 1)

def string : Draft → Outcome String
  | .text quoted => quoted.value
  | draft => .error draft.mismatch

def bool : Draft → Outcome Bool
  | .plain (.ok (.bool b)) _ => .ok b
  | draft => .error draft.mismatch

/-- A whole number of at least `least` and at most `greatest`. -/
def integer (least greatest : Int) : Draft → Outcome Int
  | .plain (.ok (.integer n)) _ =>
    if least ≤ n ∧ n ≤ greatest then .ok n else .error .malformed
  | draft => .error draft.mismatch

def isNull : Draft → Bool
  | .plain (.ok .null) _ => true
  | _ => false

/-- A text that must be one of several words. -/
def known (names : List String) (name : String) : Outcome String :=
  if name ∈ names then .ok name else .error .malformed

/-- One of several words, as a text. -/
def oneOf (names : List String) (draft : Draft) : Outcome String := do
  known names (← draft.string)

/-- One of several words: a text, or an object with the word for its only member and null for its
value. -/
def choice (names : List String) (depth : Nat) (draft : Draft) : Outcome String := do
  match draft with
  | .text quoted => known names (← quoted.value)
  | .object members ending =>
    enter depth fun _ => do
      match members with
      | [] =>
        if let .nameless _ fault := ending then throw fault
        ending.check
        throw .malformed
      | (key, item) :: members =>
        let name ← known names (← key.value)
        if !item.isNull then throw item.mismatch
        if !members.isEmpty then throw .malformed
        ending.checkFull
        return name
  | .missing fault => throw fault
  | .plain _ _ | .array _ _ => throw .malformed

mutual

/-- Pass over a value. -/
def pass : Draft → Outcome Unit
  | .missing fault => .error fault
  | .text quoted => checkFault quoted.fault
  | .plain _ fault => checkFault fault
  | .array items ending => do
    passAll items
    ending.check
  | .object members ending => do
    passMembers members
    ending.check

def passAll : List Draft → Outcome Unit
  | [] => .ok ()
  | item :: items => do
    item.pass
    passAll items

def passMembers : List (DraftText × Draft) → Outcome Unit
  | [] => .ok ()
  | (key, item) :: members => do
    checkFault key.fault
    item.pass
    passMembers members

end

mutual

/-- Read a whole value inside at most `depth` more levels. -/
def value (depth : Nat) : Draft → Outcome Json
  | .missing fault => .error fault
  | .text quoted => quoted.value.map .string
  | .plain value _ => value
  | .array items ending =>
    enter depth fun depth => do
      let items ← values depth items
      ending.check
      return .array items
  | .object members ending =>
    enter depth fun depth => do
      let members ← memberValues depth members
      ending.check
      return .object members

def values (depth : Nat) : List Draft → Outcome (List Json)
  | [] => .ok []
  | item :: items => do
    let item ← item.value depth
    return item :: (← values depth items)

def memberValues (depth : Nat) : List (DraftText × Draft) → Outcome (List (String × Json))
  | [] => .ok []
  | (key, item) :: members => do
    let key ← key.value
    let item ← item.value depth
    return (key, item) :: (← memberValues depth members)

end

end Draft

/-- Read a text that holds one value and nothing else. -/
def decodeChars {α : Type} (read : Draft → Outcome α) (cs : List Char) : Outcome α := do
  let (draft, rest) := Draft.ofText cs
  let result ← read draft
  if (Draft.skipSpace (← rest)).isEmpty then return result else throw .malformed

/-- Read a text that holds one value and nothing else. -/
def decode {α : Type} (read : Draft → Outcome α) (s : String) : Outcome α :=
  decodeChars read s.toList

/-- Read a text that holds one whole value and nothing else. -/
def read (s : String) : Outcome Json :=
  decode (·.value depthLimit) s

end DatasetProvisioner.Json
