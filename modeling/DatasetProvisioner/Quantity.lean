import DatasetProvisioner.Text.Basic
import DatasetProvisioner.Text.Numeral

/-!
# Resource quantities

A quantity is an optional sign, a decimal number and a unit: a binary or decimal suffix or a
decimal exponent. `bytes` gives the least whole number that is not below it. Intermediate values
are held to 128 bits and the exponent to 32, so a text may be refused although its value would
fit; the errors say which bound was met.
-/
namespace DatasetProvisioner.Quantity

/-- Why a text is not a byte count. Each case but the first carries the trimmed text, an unknown
suffix the suffix alone. -/
inductive Fault where
  | empty
  | invalidNumber (text : String)
  | numberOutOfRange (text : String)
  | invalidExponent (text : String)
  | unknownSuffix (suffix : String)
  | negative (text : String)
  | tooLarge (text : String)
  | exponentOutOfRange (text : String)
  deriving Repr, DecidableEq

def Fault.message : Fault → String
  | .empty => "empty quantity string"
  | .invalidNumber s => "invalid number: " ++ s
  | .numberOutOfRange s => "number out of range: " ++ s
  | .invalidExponent s => "invalid exponent: " ++ s
  | .unknownSuffix s => "unknown suffix: " ++ s
  | .negative s => "negative quantity: " ++ s
  | .tooLarge s => "quantity too large: " ++ s
  | .exponentOutOfRange s => "exponent out of range: " ++ s

/-- What a suffix stands for: `multiplier * 10 ^ exponent`. -/
structure Scale where
  multiplier : Nat
  exponent : Int
  deriving Repr, DecidableEq

/-- The named suffixes. A capital E alone is a suffix; with anything after it but `i`, it starts
an exponent. -/
def named? : List Char → Option Scale
  | [] => some ⟨1, 0⟩
  | ['K', 'i'] => some ⟨Nat.pow 1024 1, 0⟩
  | ['M', 'i'] => some ⟨Nat.pow 1024 2, 0⟩
  | ['G', 'i'] => some ⟨Nat.pow 1024 3, 0⟩
  | ['T', 'i'] => some ⟨Nat.pow 1024 4, 0⟩
  | ['P', 'i'] => some ⟨Nat.pow 1024 5, 0⟩
  | ['E', 'i'] => some ⟨Nat.pow 1024 6, 0⟩
  | ['m'] => some ⟨1, -3⟩
  | ['k'] => some ⟨1, 3⟩
  | ['M'] => some ⟨1, 6⟩
  | ['G'] => some ⟨1, 9⟩
  | ['T'] => some ⟨1, 12⟩
  | ['P'] => some ⟨1, 15⟩
  | ['E'] => some ⟨1, 18⟩
  | _ => none

/-- The exponent of a decimal scale: a 32-bit number with an optional sign. -/
def exponent? (cs : List Char) : Option Int :=
  Text.signed? (Width.least 32) (Width.greatest 32) cs

/-- Read the suffix of the quantity `text`. -/
def scaleOf (text : String) (suffix : List Char) : Except Fault Scale :=
  match named? suffix with
  | some scale => .ok scale
  | none =>
    match suffix with
    | 'e' :: rest | 'E' :: rest =>
      match exponent? rest with
      | some e => .ok ⟨1, e⟩
      | none => .error (.invalidExponent text)
    | _ => .error (.unknownSuffix (String.ofList suffix))

/-- Digits and points, of which the number part is made. -/
def isNumberChar (c : Char) : Bool :=
  c.isDigit || c == '.'

/-- A number `digits / 10 ^ places`. -/
structure Mantissa where
  digits : Nat
  places : Int
  deriving Repr, DecidableEq

/-- Read a number with at most one point and at least one digit, below `2 ^ 128` without its
point. Its places are held to 32 bits. -/
def mantissaOf (text : String) (number : List Char) : Except Fault Mantissa :=
  if number.isEmpty || number == ['.'] || 1 < number.count '.' then
    .error (.invalidNumber text)
  else
    let whole := number.takeWhile (· != '.')
    let fraction := (number.dropWhile (· != '.')).drop 1
    match Text.unsigned? 10 (Width.values 128 - 1) (whole ++ fraction) with
    | some digits => .ok ⟨digits, Width.narrowed 32 fraction.length⟩
    | none => .error (.numberOutOfRange text)

/-- The greatest power of ten below `2 ^ 128` is `10 ^ 38`. -/
def greatestPower : Nat := 38

/-- `amount * 10 ^ (-places)`, rounded up, or nothing where it leaves 128 bits. -/
def shift? (amount : Nat) (places : Int) : Option Nat :=
  if places ≤ 0 then
    if places.natAbs ≤ greatestPower then
      some (amount * Nat.pow 10 places.natAbs) |>.filter (· < Width.values 128)
    else none
  else if places.natAbs ≤ greatestPower then
    some ((amount + Nat.pow 10 places.natAbs - 1) / Nat.pow 10 places.natAbs)
  else
    some (if amount = 0 then 0 else 1)

/-- A quantity taken apart. -/
structure Reading where
  isNegative : Bool
  mantissa : Mantissa
  scale : Scale
  deriving Repr, DecidableEq

/-- Whether a number has a minus in front, and what follows its sign. -/
def signed : List Char → Bool × List Char
  | '-' :: rest => (true, rest)
  | '+' :: rest => (false, rest)
  | cs => (false, cs)

/-- Take the quantity `text` apart. -/
def read (text : String) : Except Fault Reading := do
  if text = "" then throw .empty
  let (isNegative, unsigned) := signed text.toList
  let mantissa ← mantissaOf text (unsigned.takeWhile isNumberChar)
  let scale ← scaleOf text (unsigned.dropWhile isNumberChar)
  return ⟨isNegative, mantissa, scale⟩

namespace Reading

/-- The digits times the factor of the unit. -/
def amount (r : Reading) : Nat :=
  r.mantissa.digits * r.scale.multiplier

/-- The places by which the amount has to be shifted. -/
def places (r : Reading) : Int :=
  r.mantissa.places - r.scale.exponent

/-- The least whole number not below what was read of the quantity `text`. -/
def bytes (text : String) (r : Reading) : Except Fault Nat :=
  if r.isNegative && r.mantissa.digits != 0 then .error (.negative text)
  else if Width.values 128 ≤ r.amount then .error (.tooLarge text)
  else if r.places < Width.least 32 || Width.greatest 32 < r.places then
    .error (.exponentOutOfRange text)
  else
    match shift? r.amount r.places with
    | some n => if n ≤ Text.greatest64 then .ok n else .error (.tooLarge text)
    | none => .error (.tooLarge text)

end Reading

/-- The least whole number not below the quantity `s`, at most `2 ^ 64 - 1`. -/
def bytes (s : String) : Except Fault Nat := do
  let text := Text.trim s
  let reading ← read text
  reading.bytes text

end DatasetProvisioner.Quantity
