import DatasetProvisioner.Text.Basic
import DatasetProvisioner.Timestamp

/-!
# Points in time as the cluster writes them

A date and a time of day with an offset from UTC. Reading is generous: numbers may lack their
leading zeros, blanks may stand in front of numbers and marks, and a year with a sign may have any
number of digits. Writing is strict, in UTC and to the second, and keeps a leap second.
-/
namespace DatasetProvisioner

open Timestamp (Date)

/-- A second of UTC. -/
structure UtcSecond where
  /-- The seconds since the beginning of 1970. -/
  seconds : Int
  /-- Whether the leap second is meant that follows this one. -/
  isLeap : Bool := false
  deriving Repr, DecidableEq

namespace UtcSecond

/-- The years that a point in time may lie in. -/
def isYear (year : Int) : Bool :=
  -262143 ≤ year && year ≤ 262142

def secondsOfDay : Nat := 86400

/-- The day of a second, and how many seconds of it have passed. -/
def split (t : UtcSecond) : Date × Nat :=
  let days := t.seconds.fdiv secondsOfDay
  (Timestamp.dateOfDays days, (t.seconds - days * secondsOfDay).toNat)

/-! ## Reading -/

/-- A step of reading, which takes characters from the front. -/
abbrev Step := StateT (List Char) Option

def skipBlanks : Step Unit :=
  modify fun cs => cs.dropWhile Text.isBlank

/-- Take a given character, blanks in front of it apart. -/
def mark (c : Char) : Step Unit := do
  skipBlanks
  match ← get with
  | x :: cs => if x = c then set cs else failure
  | [] => failure

/-- Take a run of digits, at least one and at most `limit`. -/
def digits (limit : Nat) : Step Nat := do
  let cs ← get
  let run := (cs.take limit).takeWhile Char.isDigit
  set (cs.drop run.length)
  Text.natural? 10 run

/-- Take a number of one or two digits, blanks in front of it apart. -/
def shortNumber : Step Nat := do
  skipBlanks
  digits 2

/-- Take a year: with a sign any number of digits, else at most four. -/
def year : Step Int := do
  skipBlanks
  match ← get with
  | '-' :: cs =>
    set cs
    return -(← digits cs.length : Int)
  | '+' :: cs =>
    set cs
    return (← digits cs.length : Int)
  | _ => return (← digits 4 : Int)

/-- Take the one character between the date and the time of day. -/
def separator : Step Unit := do
  match ← get with
  | x :: cs => if x = 'T' ∨ x = 't' ∨ x = ' ' then set cs else failure
  | [] => failure

/-- Take a fraction of a second, if there is one. It does not count. -/
def fraction : Step Unit := do
  if let '.' :: cs ← get then
    set cs
    let _ ← digits cs.length

/-- Take a number of exactly two digits. -/
def twoDigits : Step Nat := do
  let cs ← get
  set (cs.drop 2)
  if 2 ≤ cs.length then Text.natural? 10 (cs.take 2) else failure

/-- Take hours and minutes, with colons and blanks or nothing between them. -/
def hoursAndMinutes : Step Int := do
  let hours ← twoDigits
  modify fun cs => cs.dropWhile fun x => x == ':' || Text.isBlank x
  let minutes ← twoDigits
  if 23 < hours ∨ 59 < minutes then failure
  return (hours * 60 + minutes : Nat)

/-- Take an offset from UTC in minutes. -/
def offset : Step Int := do
  skipBlanks
  let cs ← get
  if (cs.take 3).map Char.toLower = "utc".toList then
    set (cs.drop 3)
    return 0
  match cs with
  | 'Z' :: cs | 'z' :: cs =>
    set cs
    return 0
  | '+' :: cs =>
    set cs
    hoursAndMinutes
  | '-' :: cs | '\u2212' :: cs =>
    set cs
    return -(← hoursAndMinutes)
  | _ => failure

/-- Take a date. -/
def date : Step Date := do
  let year ← year
  mark '-'
  let month ← shortNumber
  mark '-'
  let day ← shortNumber
  if isYear year ∧ 1 ≤ month ∧ month ≤ 12 ∧ 1 ≤ day ∧
      day ≤ Timestamp.daysOfMonth year month then
    return { year, month, day }
  else failure

/-- Take a time of day, as seconds and whether it is a leap second. -/
def timeOfDay : Step (Nat × Bool) := do
  let hour ← shortNumber
  mark ':'
  let minute ← shortNumber
  mark ':'
  let second ← shortNumber
  fraction
  if hour ≤ 23 ∧ minute ≤ 59 ∧ second ≤ 60 then
    return (hour * 3600 + minute * 60 + min second 59, second == 60)
  else failure

/-- Take a point in time, which must lie in one of the years also in UTC. -/
def taken : Step UtcSecond := do
  let date ← date
  separator
  let (time, isLeap) ← timeOfDay
  let offset ← offset
  let t : UtcSecond :=
    { seconds := date.toDays * secondsOfDay + time - offset * 60, isLeap }
  if isYear t.split.1.year then return t else failure

/-- Read a point in time. -/
def ofText? (s : String) : Option UtcSecond := do
  let (t, rest) ← taken.run s.toList
  if rest.all Text.isBlank then return t else none

/-! ## Writing -/

/-- The point in time as it is written. -/
def text (t : UtcSecond) : String :=
  let (date, time) := t.split
  Timestamp.yearText date.year ++ "-" ++ Text.padded 10 2 date.month ++ "-" ++
    Text.padded 10 2 date.day ++ "T" ++ Text.padded 10 2 (time / 3600) ++ ":" ++
    Text.padded 10 2 (time / 60 % 60) ++ ":" ++
    Text.padded 10 2 (time % 60 + if t.isLeap then 1 else 0) ++ "Z"

end UtcSecond

end DatasetProvisioner
