import DatasetProvisioner.Json.Value
import DatasetProvisioner.Text.Numeral

/-!
# Texts and numbers within structured values

A text or a number can be read for what it stands for, or just be passed over. To pass over it asks
for less: surrogates need no partner then, and a number may be of any size. A text that breaks off
is told apart from one that is wrong, because a stream that was cut leaves a last line of the
first kind.
-/
namespace DatasetProvisioner.Json

/-- Why a text is not a value. -/
inductive ReadFault where
  /-- The text ends inside a value. -/
  | unexpectedEnd
  | malformed
  deriving Repr, DecidableEq

/-! A step of reading gives what it read, and the rest of the text. -/

/-! ## Texts -/

def hexValue? (c : Char) : Option Nat :=
  if '0' ≤ c ∧ c ≤ '9' then some (c.toNat - '0'.toNat)
  else if 'a' ≤ c ∧ c ≤ 'f' then some (c.toNat - 'a'.toNat + 10)
  else if 'A' ≤ c ∧ c ≤ 'F' then some (c.toNat - 'A'.toNat + 10)
  else none

/-- The value of four hexadecimal digits. -/
def hex4? (a b c d : Char) : Option Nat := do
  let a ← hexValue? a
  let b ← hexValue? b
  let c ← hexValue? c
  let d ← hexValue? d
  return ((a * 16 + b) * 16 + c) * 16 + d

/-- What is wrong with an escape by number that less than four characters are left for. Four bytes
are looked at, of which one character may have several. -/
def shortEscapeFault (cs : List Char) : ReadFault :=
  if 4 ≤ cs.foldl (fun n c => n + c.utf8Size) 0 then .malformed else .unexpectedEnd

def isHighSurrogate (n : Nat) : Bool := 0xD800 ≤ n && n ≤ 0xDBFF

def isLowSurrogate (n : Nat) : Bool := 0xDC00 ≤ n && n ≤ 0xDFFF

/-- The character that a pair of surrogates stands for. -/
def ofSurrogates (high low : Nat) : Char :=
  Char.ofNat (0x10000 + (high - 0xD800) * 0x400 + (low - 0xDC00))

/-- The character of an escape of one letter. -/
def simpleEscape? : Char → Option Char
  | '"' => some '"'
  | '\\' => some '\\'
  | '/' => some '/'
  | 'b' => some '\x08'
  | 'f' => some '\x0c'
  | 'n' => some '\n'
  | 'r' => some '\r'
  | 't' => some '\t'
  | _ => none

/-- Read the rest of a text, after its opening quote; `acc` holds what was read, reversed. -/
def textRest (acc : List Char) : List Char → Except ReadFault (String × List Char)
  | [] => .error .unexpectedEnd
  | '"' :: cs => .ok (String.ofList acc.reverse, cs)
  | '\\' :: 'u' :: a :: b :: c :: d :: cs =>
    match hex4? a b c d with
    | none => .error .malformed
    | some n =>
      if isHighSurrogate n then
        match cs with
        | '\\' :: 'u' :: e :: f :: g :: h :: cs =>
          match hex4? e f g h with
          | some low =>
            if isLowSurrogate low then textRest (ofSurrogates n low :: acc) cs
            else .error .malformed
          | none => .error .malformed
        | [] | ['\\'] => .error .unexpectedEnd
        | '\\' :: 'u' :: cs => .error (shortEscapeFault cs)
        | _ => .error .malformed
      else if isLowSurrogate n then .error .malformed
      else textRest (Char.ofNat n :: acc) cs
  | '\\' :: 'u' :: cs => .error (shortEscapeFault cs)
  | ['\\'] => .error .unexpectedEnd
  | '\\' :: c :: cs =>
    match simpleEscape? c with
    | some e => textRest (e :: acc) cs
    | none => .error .malformed
  | c :: cs => if c.toNat < 0x20 then .error .malformed else textRest (c :: acc) cs

/-- Pass over the rest of a text, after its opening quote. -/
def passText : List Char → Except ReadFault (List Char)
  | [] => .error .unexpectedEnd
  | '"' :: cs => .ok cs
  | '\\' :: 'u' :: a :: b :: c :: d :: cs =>
    if (hex4? a b c d).isSome then passText cs else .error .malformed
  | '\\' :: 'u' :: cs => .error (shortEscapeFault cs)
  | ['\\'] => .error .unexpectedEnd
  | '\\' :: c :: cs => if (simpleEscape? c).isSome then passText cs else .error .malformed
  | c :: cs => if c.toNat < 0x20 then .error .malformed else passText cs

/-! ## Numbers -/

/-- The parts of a number. -/
structure Numeral where
  isNegative : Bool
  whole : List Char
  fraction : List Char := []
  exponent : Option Int := none

/-- A run of at least one digit. -/
def digits1 (cs : List Char) : Except ReadFault (List Char × List Char) :=
  match cs with
  | [] => .error .unexpectedEnd
  | _ =>
    match cs.takeWhile Char.isDigit with
    | [] => .error .malformed
    | ds => .ok (ds, cs.dropWhile Char.isDigit)

/-- The whole part of a number: digits without a leading zero, or zero. -/
def wholePart (cs : List Char) : Except ReadFault (List Char × List Char) := do
  let (ds, rest) ← digits1 cs
  match ds with
  | '0' :: _ :: _ => throw .malformed
  | _ => return (ds, rest)

/-- The fraction of a number, if a point begins one. -/
def fractionPart : List Char → Except ReadFault (List Char × List Char)
  | '.' :: cs => digits1 cs
  | cs => .ok ([], cs)

/-- The exponent of a number, if there is one. -/
def exponentPart : List Char → Except ReadFault (Option Int × List Char)
  | c :: cs =>
    if c = 'e' ∨ c = 'E' then do
      let (isNegative, cs) := match cs with
        | '-' :: cs => (true, cs)
        | '+' :: cs => (false, cs)
        | _ => (false, cs)
      let (ds, rest) ← digits1 cs
      let n := (Text.natural? 10 ds).getD 0
      return (some (if isNegative then -(n : Int) else n), rest)
    else .ok (none, c :: cs)
  | [] => .ok (none, [])

/-- Read the parts of a number. -/
def numeral (cs : List Char) : Except ReadFault (Numeral × List Char) := do
  let (isNegative, unsigned) := match cs with
    | '-' :: rest => (true, rest)
    | _ => (false, cs)
  let (whole, rest) ← wholePart unsigned
  let (fraction, rest) ← fractionPart rest
  let (exponent, rest) ← exponentPart rest
  return ({ isNegative, whole, fraction, exponent }, rest)

/-- Pass over a number. One that breaks off is wrong. -/
def passNumber (cs : List Char) : Except ReadFault (List Char) :=
  match numeral cs with
  | .ok (_, rest) => .ok rest
  | .error _ => .error .malformed

/-- A number as digits and a power of ten. The digits are those that fit into 64 bits; all further
ones of the whole part only count, and those of the fraction do not count. -/
structure Scaled where
  digits : Nat := 0
  exponent : Int := 0
  isFull : Bool := false

namespace Scaled

/-- Append a digit, which moves the power of ten by `shift` if it fits and by `overflow` if not. -/
def push (shift overflow : Int) (s : Scaled) (digit : Char) : Scaled :=
  let digits := s.digits * 10 + (digit.toNat - '0'.toNat)
  if !s.isFull && digits ≤ Text.greatest64 then
    { s with digits, exponent := s.exponent + shift }
  else { s with exponent := s.exponent + overflow, isFull := true }

/-- A number from its parts. The fraction may go on where the whole part had to stop. -/
def ofNumeral (n : Numeral) : Scaled :=
  let whole := n.whole.foldl (push 0 1) {}
  let s := n.fraction.foldl (push (-1) 0) { whole with isFull := false }
  { s with exponent := s.exponent + n.exponent.getD 0 }

/-- The least number that is nearer to no finite double. -/
def beyondDoubles : Nat := Width.values 1024 - Width.values 970

/-- The greatest power of ten that is a double. -/
def greatestExponent : Int := 308

/-- Whether the number is held by a double, as the product of the doubles nearest to its digits and
to its power of ten. -/
def isDouble (s : Scaled) : Bool :=
  s.digits == 0 || s.exponent < 0 ||
    (s.exponent ≤ greatestExponent &&
      Text.nearestReading s.digits * Text.nearestReading (Nat.pow 10 s.exponent.toNat) <
        beyondDoubles)

end Scaled

/-- The value of a number, given its text; nothing where no double holds it. Whole numbers of 64
bits are exact, save a zero with a sign; any other is written with a fraction. -/
def Numeral.value? (n : Numeral) (text : String) : Option Json :=
  let magnitude := (Text.natural? 10 n.whole).getD 0
  let whole : Int := if n.isNegative then -(magnitude : Int) else magnitude
  let isWhole := n.fraction.isEmpty && n.exponent.isNone
  if isWhole && !(n.isNegative && magnitude == 0) &&
      Width.least 64 ≤ whole && whole < Width.values 64 then some (.integer whole)
  else if (Scaled.ofNumeral n).isDouble then
    some (.decimal (if isWhole then text ++ ".0" else text))
  else none

/-- Read a number. -/
def number (cs : List Char) : Except ReadFault (Json × List Char) := do
  let (parts, rest) ← numeral cs
  match parts.value? (String.ofList (cs.take (cs.length - rest.length))) with
  | some value => return (value, rest)
  | none => throw .malformed

end DatasetProvisioner.Json
