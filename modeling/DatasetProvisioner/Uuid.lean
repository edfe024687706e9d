/-!
# Volume identifiers

A volume is identified by a 128-bit number, written as 32 lower-case hexadecimal digits in groups
of 8, 4, 4, 4 and 12. Reading also accepts upper-case digits, the digits without hyphens, and the
hyphenated form in braces or after `urn:uuid:`.
-/
namespace DatasetProvisioner

/-- A 128-bit identifier by its hexadecimal digits, the most significant first. -/
structure Uuid where
  digits : List (Fin 16)
  length_digits : digits.length = 32
  deriving DecidableEq

namespace Uuid

/-- The identifier with a given digit in each place. -/
def ofPlaces (digit : Nat → Fin 16) : Uuid :=
  ⟨(List.range 32).map digit, by simp⟩

/-- The last hexadecimal digit of a number. -/
def lastDigit (n : Nat) : Fin 16 :=
  Fin.ofNat 16 n

/-- The hexadecimal digit of a value. -/
def digitChar (d : Fin 16) : Char :=
  Nat.digitChar d.val

/-- The value of a hexadecimal digit of either case. -/
def digit? (c : Char) : Option (Fin 16) :=
  if '0' ≤ c ∧ c ≤ '9' then some (lastDigit (c.toNat - '0'.toNat))
  else if 'a' ≤ c ∧ c ≤ 'f' then some (lastDigit (c.toNat - 'a'.toNat + 10))
  else if 'A' ≤ c ∧ c ≤ 'F' then some (lastDigit (c.toNat - 'A'.toNat + 10))
  else none

/-- The canonical form, as characters. -/
def toChars (u : Uuid) : List Char :=
  let cs := u.digits.map digitChar
  cs.take 8 ++ '-' :: (cs.drop 8).take 4 ++ '-' :: (cs.drop 12).take 4 ++
    '-' :: (cs.drop 16).take 4 ++ '-' :: cs.drop 20

/-- The canonical form. -/
protected def toString (u : Uuid) : String :=
  String.ofList u.toChars

instance : ToString Uuid := ⟨Uuid.toString⟩

/-- Read 32 hexadecimal digits. -/
def ofDigits? (cs : List Char) : Option Uuid :=
  match cs.mapM digit? with
  | some ds => if h : ds.length = 32 then some ⟨ds, h⟩ else none
  | none => none

/-- Read digits in groups of 8, 4, 4, 4 and 12 with a hyphen between two groups. -/
def ofHyphenated? (cs : List Char) : Option Uuid :=
  if cs.length = 36 ∧ cs[8]? = some '-' ∧ cs[13]? = some '-' ∧ cs[18]? = some '-' ∧
      cs[23]? = some '-' then
    ofDigits? (cs.take 8 ++ (cs.drop 9).take 4 ++ (cs.drop 14).take 4 ++ (cs.drop 19).take 4 ++
      cs.drop 24)
  else none

/-- What stands before a hyphenated identifier in its URN form. -/
def urnStart : List Char := "urn:uuid:".toList

/-- Read an identifier in any accepted form. -/
def ofChars? (cs : List Char) : Option Uuid :=
  if cs.length = 32 then ofDigits? cs
  else if cs.length = 36 then ofHyphenated? cs
  else if cs.length = 38 ∧ cs.head? = some '{' ∧ cs.getLast? = some '}' then
    ofHyphenated? (cs.drop 1).dropLast
  else if cs.length = 45 ∧ (cs.take 9).map Char.toLower = urnStart then
    ofHyphenated? (cs.drop 9)
  else none

/-- Read an identifier in any accepted form. -/
def ofString? (s : String) : Option Uuid :=
  ofChars? s.toList

end Uuid

end DatasetProvisioner
