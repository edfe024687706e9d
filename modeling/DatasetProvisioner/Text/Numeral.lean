/-!
# Whole numbers

The bounds of whole numbers that are held in a given number of bits, with a sign or without, and
whole numbers in text. Reading accepts an optional sign and at least one digit and nothing else, and
refuses a number outside the given bounds. Writing pads on the left.

A monitoring system holds a reading as a binary number of 53 places, so from two to the power of 53
on not every whole number is a reading. A count is exposed as the reading nearest to it. That is
written with the fewest leading digits that still denote it, and zeros for the rest.
-/
namespace DatasetProvisioner.Width

/-- How many numbers there are in so many bits; without a sign, the first that does not fit. -/
def values (bits : Nat) : Nat :=
  Nat.pow 2 bits

/-- The least number with a sign. -/
def least (bits : Nat) : Int :=
  -(values (bits - 1) : Int)

/-- The greatest number with a sign. -/
def greatest (bits : Nat) : Int :=
  (values (bits - 1) : Int) - 1

/-- A count narrowed to so many bits with a sign: counted on from the least number where it runs
over the greatest. -/
def narrowed (bits n : Nat) : Int :=
  Int.bmod n (values bits)

end DatasetProvisioner.Width

namespace DatasetProvisioner.Text

/-- The value of a digit `0` to `9` below `base`. -/
def digit? (base : Nat) (c : Char) : Option Nat :=
  if c.isDigit && c.toNat - '0'.toNat < base then some (c.toNat - '0'.toNat) else none

/-- The number that a list of digits denotes, most significant first. -/
def ofDigits (base : Nat) (digits : List Nat) : Nat :=
  digits.foldl (fun n d => n * base + d) 0

/-- Read a non-empty run of digits. -/
def natural? (base : Nat) (cs : List Char) : Option Nat :=
  if cs.isEmpty then none else (cs.mapM (digit? base)).map (ofDigits base)

/-- Read a number with an optional plus sign, at most `limit`. -/
def unsigned? (base limit : Nat) (cs : List Char) : Option Nat :=
  let digits := match cs with
    | '+' :: rest => rest
    | _ => cs
  (natural? base digits).filter (· ≤ limit)

/-- Read a number with an optional sign, between `least` and `greatest`. -/
def signed? (least greatest : Int) (cs : List Char) : Option Int :=
  let value : Option Int := match cs with
    | '-' :: rest => (natural? 10 rest).map fun n => -(n : Int)
    | '+' :: rest => (natural? 10 rest).map Int.ofNat
    | _ => (natural? 10 cs).map Int.ofNat
  value.filter fun n => least ≤ n && n ≤ greatest

/-- The greatest 64-bit count. -/
def greatest64 : Nat := Width.values 64 - 1

/-- Read a 64-bit count in decimal. -/
def count64? (s : String) : Option Nat :=
  unsigned? 10 greatest64 s.toList

/-- Write `n` in `base`, at least `width` digits. -/
def padded (base width n : Nat) : String :=
  let digits := Nat.toDigits base n
  String.ofList (List.replicate (width - digits.length) '0' ++ digits)

/-- Write `n` in decimal. -/
def decimal (n : Nat) : String :=
  padded 10 1 n

/-! ## Readings -/

/-- The binary places of a reading. -/
def readingPlaces : Nat := 53

/-- The distance from one reading to the next around a number. -/
def readingStep (n : Nat) : Nat :=
  Width.values (n.log2 + 1 - readingPlaces)

/-- The reading nearest to a number. From the middle between two it is the one whose last place is
even. -/
def nearestReading (n : Nat) : Nat :=
  let step := readingStep n
  let steps := n / step
  let rest := n % step
  if step < 2 * rest || (2 * rest == step && steps % 2 == 1) then (steps + 1) * step
  else steps * step

/-- The multiple of `unit` nearest to a number, the greater from the middle between two. -/
def roundedTo (unit n : Nat) : Nat :=
  (n + unit / 2) / unit * unit

/-- The coarsest rounding of a reading that denotes it, where at most so many of its last digits
become zeros. -/
def shortestReading (reading : Nat) : Nat → Nat
  | 0 => reading
  | zeros + 1 =>
    let candidate := roundedTo (Nat.pow 10 (zeros + 1)) reading
    if nearestReading candidate = reading then candidate else shortestReading reading zeros

/-- Write the reading nearest to a count. -/
def readingText (n : Nat) : String :=
  let reading := nearestReading n
  decimal (shortestReading reading (decimal reading).length)

end DatasetProvisioner.Text
