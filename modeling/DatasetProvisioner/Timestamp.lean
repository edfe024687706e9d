import DatasetProvisioner.Text.Numeral

/-!
# Points in time

A point in time is a number of milliseconds since the beginning of 1970 in UTC, negative before
it. Dates are those of the Gregorian calendar, extended to all years.
-/
namespace DatasetProvisioner

/-- Milliseconds since 1970-01-01 UTC. -/
structure Timestamp where
  milliseconds : Int
  deriving Repr, DecidableEq

namespace Timestamp

/-- Whole seconds since 1970-01-01 UTC, rounded down. -/
def seconds (t : Timestamp) : Int :=
  t.milliseconds.fdiv 1000

/-- A day of the calendar. -/
structure Date where
  year : Int
  month : Nat
  day : Nat
  deriving Repr, DecidableEq

/-- The date of the day that lies `days` after 1970-01-01. Years are counted from March, so that a
leap day ends its year, and in eras of 400 years. -/
def dateOfDays (days : Int) : Date :=
  let z := days + 719468
  let era := z.fdiv 146097
  let dayOfEra := (z - era * 146097).toNat
  let yearOfEra := (dayOfEra - dayOfEra / 1460 + dayOfEra / 36524 - dayOfEra / 146096) / 365
  let dayOfYear := dayOfEra - (365 * yearOfEra + yearOfEra / 4 - yearOfEra / 100)
  let shifted := (5 * dayOfYear + 2) / 153
  let day := dayOfYear - (153 * shifted + 2) / 5 + 1
  let month := if shifted < 10 then shifted + 3 else shifted - 9
  { year := era * 400 + yearOfEra + (if month ≤ 2 then 1 else 0), month, day }

/-- The number of days from 1970-01-01 to a date. -/
def Date.toDays (date : Date) : Int :=
  let year := if date.month ≤ 2 then date.year - 1 else date.year
  let era := year.fdiv 400
  let yearOfEra := (year - era * 400).toNat
  let shifted := if date.month > 2 then date.month - 3 else date.month + 9
  let dayOfYear := (153 * shifted + 2) / 5 + date.day - 1
  let dayOfEra := yearOfEra * 365 + yearOfEra / 4 - yearOfEra / 100 + dayOfYear
  era * 146097 + dayOfEra - 719468

/-- A year in four digits; beyond them with its sign. -/
def yearText (year : Int) : String :=
  if year < 0 then "-" ++ Text.padded 10 4 year.natAbs
  else if 9999 < year then "+" ++ Text.padded 10 4 year.natAbs
  else Text.padded 10 4 year.natAbs

/-- Year, month, day, hour, minute, second and millisecond without separators. -/
def compact (t : Timestamp) : String :=
  let days := t.milliseconds.fdiv 86400000
  let ofDay := (t.milliseconds - days * 86400000).toNat
  let date := dateOfDays days
  yearText date.year ++ Text.padded 10 2 date.month ++ Text.padded 10 2 date.day ++
    Text.padded 10 2 (ofDay / 3600000) ++ Text.padded 10 2 (ofDay / 60000 % 60) ++
    Text.padded 10 2 (ofDay / 1000 % 60) ++ Text.padded 10 3 (ofDay % 1000)

def isLeapYear (year : Int) : Bool :=
  year.emod 4 == 0 && (year.emod 100 != 0 || year.emod 400 == 0)

def daysOfMonth (year : Int) (month : Nat) : Nat :=
  match month with
  | 2 => if isLeapYear year then 29 else 28
  | 4 | 6 | 9 | 11 => 30
  | _ => 31

end Timestamp

end DatasetProvisioner
