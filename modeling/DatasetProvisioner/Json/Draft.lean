import DatasetProvisioner.Json.Scalar

/-!
# Drafts of structured values

A draft is a value as far as a text spells it. Every text has one: where the text breaks off or
goes wrong the draft says so and ends. What is read from a draft decides how much of it must be in
order, so that a part which nobody asks for needs no more than its brackets and quotes, and of two
faults the one that comes first in the text is met first.
-/
namespace DatasetProvisioner.Json

/-- A quoted text of a draft. -/
structure DraftText where
  /-- What it stands for. -/
  value : Except ReadFault String
  /-- What is wrong with it where it is just passed over. -/
  fault : Option ReadFault := none

/-- What follows the parts of an array or an object. -/
inductive Ending where
  | closed
  /-- Neither a closing bracket nor a further part, after a comma or without one. -/
  | broken (afterComma : Bool) (fault : ReadFault)
  /-- Something else where a name is expected, and what is wrong with it where it is read for the
  name. -/
  | nameless (afterComma : Bool) (fault : ReadFault)

inductive Draft where
  /-- Nothing that a value could begin with. -/
  | missing (fault : ReadFault)
  | text (text : DraftText)
  /-- A number, a flag or null, or what begins like one. -/
  | plain (value : Except ReadFault Json) (fault : Option ReadFault)
  | array (items : List Draft) (ending : Ending)
  | object (members : List (DraftText × Draft)) (ending : Ending)

namespace Draft

def isSpace (c : Char) : Bool :=
  c == ' ' || c == '\n' || c == '\t' || c == '\r'

def skipSpace (cs : List Char) : List Char :=
  cs.dropWhile isSpace

/-- Where a text goes on after a part of it, or why it does not. -/
abbrev Rest := Except ReadFault (List Char)

def faultOf : Rest → Option ReadFault
  | .ok _ => none
  | .error fault => some fault

/-- What is wrong with a value that is not of the kind asked for. A text or a number is read before
that shows. -/
def mismatch : Draft → ReadFault
  | .missing fault => fault
  | .text ⟨.error fault, _⟩ | .plain (.error fault) _ => fault
  | _ => .malformed

/-! ## Drafts of texts -/

/-- Read a given word. -/
def word (value : Json) : List Char → List Char → Except ReadFault (Json × List Char)
  | [], cs => .ok (value, cs)
  | _ :: _, [] => .error .unexpectedEnd
  | w :: ws, c :: cs => if w = c then word value ws cs else .error .malformed

/-- A word from its second letter on. -/
def ofWord (value : Json) (letters : String) (cs : List Char) : Draft × Rest :=
  let start := word value letters.toList cs
  let rest := start.map (·.2)
  (.plain (start.map (·.1)) (faultOf rest), rest)

def ofNumber (cs : List Char) : Draft × Rest :=
  let rest := passNumber cs
  (.plain ((number cs).map (·.1)) (faultOf rest), rest)

/-- A quoted text, after its opening quote. -/
def quotedText (cs : List Char) : DraftText × Rest :=
  let rest := passText cs
  (⟨(textRest [] cs).map (·.1), faultOf rest⟩, rest)

/-- No further parts, and the text does not go on. -/
def stop {α : Type} (afterComma : Bool) (fault : ReadFault) : List α × Ending × Rest :=
  ([], .broken afterComma fault, .error fault)

mutual

/-- The draft at the start of a text. Every call takes one unit of `fuel`. -/
def ofChars (fuel : Nat) (cs : List Char) : Draft × Rest :=
  match fuel with
  | 0 => (.missing .malformed, .error .malformed)
  | fuel + 1 =>
    match skipSpace cs with
    | [] => (.missing .unexpectedEnd, .error .unexpectedEnd)
    | '"' :: cs =>
      let (quoted, rest) := quotedText cs
      (.text quoted, rest)
    | 't' :: cs => ofWord (.bool true) "rue" cs
    | 'f' :: cs => ofWord (.bool false) "alse" cs
    | 'n' :: cs => ofWord .null "ull" cs
    | '[' :: cs =>
      let (items, ending, rest) := itemsFrom fuel true cs
      (.array items ending, rest)
    | '{' :: cs =>
      let (members, ending, rest) := membersFrom fuel true cs
      (.object members ending, rest)
    | c :: cs =>
      if c = '-' ∨ c.isDigit then ofNumber (c :: cs)
      else (.missing .malformed, .error .malformed)

/-- The items of an array up to its closing bracket. -/
def itemsFrom (fuel : Nat) (isFirst : Bool) (cs : List Char) : List Draft × Ending × Rest :=
  match fuel with
  | 0 => stop false .malformed
  | fuel + 1 =>
    match skipSpace cs with
    | [] => stop false .unexpectedEnd
    | ']' :: cs => ([], .closed, .ok cs)
    | c :: cs =>
      if isFirst then itemThen fuel (c :: cs)
      else if c = ',' then
        match skipSpace cs with
        | [] => stop true .unexpectedEnd
        | ']' :: _ => stop true .malformed
        | cs => itemThen fuel cs
      else stop false .malformed

/-- An item of an array, and those after it. -/
def itemThen (fuel : Nat) (cs : List Char) : List Draft × Ending × Rest :=
  match fuel with
  | 0 => stop false .malformed
  | fuel + 1 =>
    let (item, rest) := ofChars fuel cs
    match rest with
    | .error fault => ([item], .broken false fault, .error fault)
    | .ok cs =>
      let (items, ending, rest) := itemsFrom fuel false cs
      (item :: items, ending, rest)

/-- The members of an object up to its closing brace. -/
def membersFrom (fuel : Nat) (isFirst : Bool) (cs : List Char) :
    List (DraftText × Draft) × Ending × Rest :=
  match fuel with
  | 0 => stop false .malformed
  | fuel + 1 =>
    match skipSpace cs with
    | [] => stop false .unexpectedEnd
    | '}' :: cs => ([], .closed, .ok cs)
    | c :: cs =>
      if isFirst then memberThen fuel false (c :: cs)
      else if c = ',' then memberThen fuel true (skipSpace cs)
      else stop false .malformed

/-- A member of an object, and those after it. -/
def memberThen (fuel : Nat) (afterComma : Bool) (cs : List Char) :
    List (DraftText × Draft) × Ending × Rest :=
  match fuel with
  | 0 => stop afterComma .malformed
  | fuel + 1 =>
    match cs with
    | [] => stop afterComma .unexpectedEnd
    | '"' :: cs =>
      let (key, rest) := quotedText cs
      let (item, rest) : Draft × Rest :=
        match rest.map skipSpace with
        | .error fault => (.missing fault, .error fault)
        | .ok [] => (.missing .unexpectedEnd, .error .unexpectedEnd)
        | .ok (':' :: cs) => ofChars fuel cs
        | .ok (_ :: _) => (.missing .malformed, .error .malformed)
      match rest with
      | .error fault => ([(key, item)], .broken false fault, .error fault)
      | .ok cs =>
        let (members, ending, rest) := membersFrom fuel false cs
        ((key, item) :: members, ending, rest)
    | cs => ([], .nameless afterComma (ofChars fuel cs).1.mismatch, .error .malformed)

end

/-- The draft of a text, and what comes after it. Each character accounts for at most three calls,
which bounds the fuel. -/
def ofText (cs : List Char) : Draft × Rest :=
  ofChars (3 * cs.length + 3) cs

/-! ## Drafts of values -/

mutual

/-- The draft of a value, in which nothing is wrong. -/
def ofValue : Json → Draft
  | .string s => .text ⟨.ok s, none⟩
  | .array items => .array (ofValues items) .closed
  | .object members => .object (ofMembers members) .closed
  | value => .plain (.ok value) none

def ofValues : List Json → List Draft
  | [] => []
  | item :: items => ofValue item :: ofValues items

def ofMembers : List (String × Json) → List (DraftText × Draft)
  | [] => []
  | (key, item) :: members => (⟨.ok key, none⟩, ofValue item) :: ofMembers members

end

end Draft

end DatasetProvisioner.Json
