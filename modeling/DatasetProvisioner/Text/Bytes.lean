import DatasetProvisioner.Text.Basic

/-!
# Texts and bytes

A text as the bytes of its UTF-8 encoding, and the way back, which never fails: what is not UTF-8
becomes the replacement character, once for every longest start of an encoding that breaks off.

Two ways to write bytes as text go with it. As one segment of a path, letters, digits and four marks
stand for themselves, and every other byte is a percent sign and two hexadecimal digits. In base 64
every three bytes become four digits, and equals signs fill up the last four.
-/
namespace DatasetProvisioner.Text

/-- The bytes of a text. -/
def bytes (s : String) : List Nat :=
  s.toUTF8.data.toList.map (·.toNat)

/-- A character of which some bytes have been read: the bits so far, and the ranges in which the
next bytes must lie. -/
structure OpenChar where
  bits : Nat
  ranges : List (Nat × Nat)

/-- The range of a byte that continues a character. -/
def continuation : Nat × Nat := (0x80, 0xBF)

/-- What a first byte begins. -/
def opened? (b : Nat) : Option OpenChar :=
  if b < 0x80 then some ⟨b, []⟩
  else if 0xC2 ≤ b ∧ b ≤ 0xDF then some ⟨b - 0xC0, [continuation]⟩
  else if b = 0xE0 then some ⟨0, [(0xA0, 0xBF), continuation]⟩
  else if b = 0xED then some ⟨0xD, [(0x80, 0x9F), continuation]⟩
  else if 0xE1 ≤ b ∧ b ≤ 0xEF then some ⟨b - 0xE0, [continuation, continuation]⟩
  else if b = 0xF0 then some ⟨0, [(0x90, 0xBF), continuation, continuation]⟩
  else if 0xF1 ≤ b ∧ b ≤ 0xF3 then
    some ⟨b - 0xF0, [continuation, continuation, continuation]⟩
  else if b = 0xF4 then some ⟨4, [(0x80, 0x8F), continuation, continuation]⟩
  else none

/-- What stands for bytes that are no encoding. -/
def replacement : Char := '\ufffd'

/-- A character once all its bytes were read. -/
def OpenChar.finished (p : OpenChar) : List Char × Option OpenChar :=
  if p.ranges.isEmpty then ([Char.ofNat p.bits], none) else ([], some p)

/-- Begin a character. -/
def begin (b : Nat) : List Char × Option OpenChar :=
  match opened? b with
  | some p => p.finished
  | none => ([replacement], none)

/-- Read one byte: the characters that it settles, and what is left open. -/
def nextByte : Option OpenChar → Nat → List Char × Option OpenChar
  | none, b => begin b
  | some ⟨_, []⟩, b => begin b
  | some ⟨bits, (least, greatest) :: ranges⟩, b =>
    if least ≤ b ∧ b ≤ greatest then
      OpenChar.finished ⟨bits * 64 + (b - 0x80), ranges⟩
    else
      let (chars, p) := begin b
      (replacement :: chars, p)

/-- Read bytes after what was left open. -/
def charsAfter : Option OpenChar → List Nat → List Char
  | none, [] => []
  | some _, [] => [replacement]
  | p, b :: bs =>
    let (chars, p) := nextByte p b
    chars ++ charsAfter p bs

/-- The text that bytes encode. -/
def ofBytes (bytes : List Nat) : String :=
  String.ofList (charsAfter none bytes)

/-! ## Percent encoding -/

/-- The bytes that stand for themselves. -/
def isUnreserved (b : Nat) : Bool :=
  b < 0x80 &&
    (isAsciiAlphanumeric (Char.ofNat b) || "-_.~".toList.contains (Char.ofNat b))

/-- A hexadecimal digit, in upper case. -/
def upperHexDigit (n : Nat) : Char :=
  (Nat.digitChar n).toUpper

def percentByte (b : Nat) : List Char :=
  if isUnreserved b then [Char.ofNat b] else ['%', upperHexDigit (b / 16), upperHexDigit (b % 16)]

def percentEncoded (s : String) : String :=
  String.ofList ((bytes s).flatMap percentByte)

/-! ## Base 64 -/

def base64Digits : List Char :=
  "ABCDEFGHIJKLMNOPQRSTUVWXYZabcdefghijklmnopqrstuvwxyz0123456789+/".toList

def base64Digit (n : Nat) : Char :=
  base64Digits.getD n '='

def base64Chars : List Nat → List Char
  | [] => []
  | [a] => [base64Digit (a / 4), base64Digit (a % 4 * 16), '=', '=']
  | [a, b] =>
    [base64Digit (a / 4), base64Digit (a % 4 * 16 + b / 16), base64Digit (b % 16 * 4), '=']
  | a :: b :: c :: rest =>
    base64Digit (a / 4) :: base64Digit (a % 4 * 16 + b / 16) ::
      base64Digit (b % 16 * 4 + c / 64) :: base64Digit (c % 64) :: base64Chars rest

def base64 (s : String) : String :=
  String.ofList (base64Chars (bytes s))

end DatasetProvisioner.Text
