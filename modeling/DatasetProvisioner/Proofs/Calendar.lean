import DatasetProvisioner.Timestamp

/-!
# Days and dates

The date of a day is read off the day's place in an era of 400 years: the century, the leap cycle
and the year in it, each of which ends with the leap day that makes it one day longer, if it has
one. From the date the day is found again, so that no two days have the same date.
-/
namespace DatasetProvisioner.Timestamp

/-! ## Eras -/

/-- The year of its era in which a day lies, counted from March. -/
def yearOfEra (day : Nat) : Nat :=
  (day - day / 1460 + day / 36524 - day / 146096) / 365

/-- The day of that year. -/
def dayOfYear (day : Nat) : Nat :=
  day - (365 * yearOfEra day + yearOfEra day / 4 - yearOfEra day / 100)

/-- A day of an era by its century, the leap cycle of the century, the year of the cycle and the day
of the year. -/
structure Cut (day century cycle year rest : Nat) : Prop where
  sum : day = 36524 * century + 1461 * cycle + 365 * year + rest
  century_le : century ≤ 3
  cycle_le : cycle ≤ 24
  year_le : year ≤ 3
  rest_le : rest ≤ 365
  /-- A leap day ends the last year of its cycle, and of a century only the last of an era. -/
  leapDay : rest = 365 → year = 3 ∧ (cycle = 24 → century = 3)

theorem exists_cut {day : Nat} (h : day < 146097) :
    ∃ century cycle year rest, Cut day century cycle year rest := by
  obtain ⟨century, hcentury⟩ : ∃ c, c = min (day / 36524) 3 := ⟨_, rfl⟩
  obtain ⟨inCentury, hinCentury⟩ : ∃ r, r = day - 36524 * century := ⟨_, rfl⟩
  obtain ⟨cycle, hcycle⟩ : ∃ q, q = inCentury / 1461 := ⟨_, rfl⟩
  obtain ⟨inCycle, hinCycle⟩ : ∃ r, r = inCentury - 1461 * cycle := ⟨_, rfl⟩
  obtain ⟨year, hyear⟩ : ∃ y, y = min (inCycle / 365) 3 := ⟨_, rfl⟩
  have hin : inCentury ≤ 36524 ∧ (inCentury = 36524 → century = 3) := by omega
  have hcycles : cycle ≤ 24 ∧ inCycle ≤ 1460 := by omega
  have hlast : cycle = 24 → inCycle = 1460 → century = 3 := by omega
  refine ⟨century, cycle, year, inCycle - 365 * year, ?_, ?_, hcycles.1, ?_, ?_, ?_⟩
  · omega
  · omega
  · omega
  · omega
  · intro hrest
    have hend : year = 3 ∧ inCycle = 1460 := by omega
    exact ⟨hend.1, fun h24 => hlast h24 hend.2⟩

namespace Cut

variable {day century cycle year rest : Nat}

theorem yearOfEra (cut : Cut day century cycle year rest) :
    yearOfEra day = 100 * century + 4 * cycle + year := by
  obtain ⟨hsum, hcentury, hcycle, hyear, hrest, hleap⟩ := cut
  -- The day that is one too many for the average cycle is the leap day or comes shortly before it.
  obtain ⟨extra, hextra⟩ : ∃ e, e = (24 * century + cycle + 365 * year + rest) / 1460 := ⟨_, rfl⟩
  have hextras : extra ≤ 1 := by omega
  have hcycles : day / 1460 = 25 * century + cycle + extra := by omega
  have hday : extra ≤ rest ∧ rest - extra ≤ 364 := by omega
  rw [Timestamp.yearOfEra]
  rcases Nat.lt_or_ge day 146096 with hlt | hge
  · have hcenturies : day / 36524 = century := by omega
    have hera : day / 146096 = 0 := Nat.div_eq_of_lt hlt
    rw [hcycles, hcenturies, hera]
    omega
  · -- The last day of an era is one that its fourth century has more than the others.
    have hlast : century = 3 ∧ cycle = 24 ∧ year = 3 ∧ rest = 365 := by omega
    obtain ⟨rfl, rfl, rfl, rfl⟩ := hlast
    subst hsum
    decide

theorem dayOfYear (cut : Cut day century cycle year rest) : dayOfYear day = rest := by
  have hyear := cut.yearOfEra
  obtain ⟨hsum, hcentury, hcycle, hyears, hrest, hleap⟩ := cut
  have hcycles : Timestamp.yearOfEra day / 4 = 25 * century + cycle := by omega
  have hcenturies : Timestamp.yearOfEra day / 100 = century := by omega
  rw [Timestamp.dayOfYear, hcycles, hcenturies, hyear]
  omega

end Cut

/-- A day of an era is found again from its year and its day of that year. -/
theorem day_of_year {day : Nat} (h : day < 146097) :
    yearOfEra day * 365 + yearOfEra day / 4 - yearOfEra day / 100 + dayOfYear day = day ∧
      yearOfEra day < 400 ∧ dayOfYear day ≤ 365 := by
  obtain ⟨century, cycle, year, rest, cut⟩ := exists_cut h
  have hyear := cut.yearOfEra
  have hday := cut.dayOfYear
  obtain ⟨hsum, hcentury, hcycle, hyears, hrest, -⟩ := cut
  have hcycles : yearOfEra day / 4 = 25 * century + cycle := by omega
  have hcenturies : yearOfEra day / 100 = century := by omega
  rw [hcycles, hcenturies, hyear, hday]
  omega

/-! ## Dates -/

/-- The era of a day. -/
def eraOf (days : Int) : Int :=
  (days + 719468).fdiv 146097

/-- The day of that era. -/
def dayOfEra (days : Int) : Nat :=
  (days + 719468 - eraOf days * 146097).toNat

theorem dayOfEra_eq (days : Int) :
    days + 719468 = eraOf days * 146097 + dayOfEra days ∧ dayOfEra days < 146097 := by
  have hdiv := Int.mul_fdiv_add_fmod (days + 719468) 146097
  have hnonneg := Int.fmod_nonneg_of_pos (days + 719468) (show (0 : Int) < 146097 by decide)
  have hlt := Int.fmod_lt_of_pos (days + 719468) (show (0 : Int) < 146097 by decide)
  rw [dayOfEra, eraOf]
  omega

/-- The month of a year that is counted from March. -/
def shiftedMonth (day : Nat) : Nat :=
  (5 * day + 2) / 153

theorem dateOfDays_eq (days : Int) :
    dateOfDays days =
      let shifted := shiftedMonth (dayOfYear (dayOfEra days))
      let month := if shifted < 10 then shifted + 3 else shifted - 9
      { year := eraOf days * 400 + yearOfEra (dayOfEra days) + (if month ≤ 2 then 1 else 0)
        month
        day := dayOfYear (dayOfEra days) - (153 * shifted + 2) / 5 + 1 } :=
  rfl

theorem month_bounds {day : Nat} (h : day ≤ 365) :
    shiftedMonth day ≤ 11 ∧ (153 * shiftedMonth day + 2) / 5 ≤ day ∧
      day - (153 * shiftedMonth day + 2) / 5 ≤ 30 := by
  rw [shiftedMonth]
  omega

/-- The month and the day of a date have at most two digits. -/
theorem month_and_day_lt (days : Int) :
    (dateOfDays days).month < 100 ∧ (dateOfDays days).day < 100 := by
  obtain ⟨-, hlt⟩ := dayOfEra_eq days
  obtain ⟨-, -, hday⟩ := day_of_year hlt
  obtain ⟨hmonth, -, hrest⟩ := month_bounds hday
  rw [dateOfDays_eq]
  constructor
  · show (if shiftedMonth (dayOfYear (dayOfEra days)) < 10 then _ else _) < 100
    split <;> omega
  · show dayOfYear (dayOfEra days) - _ + 1 < 100
    omega

/-- A day is the day of its date. -/
theorem toDays_dateOfDays (days : Int) : (dateOfDays days).toDays = days := by
  obtain ⟨hdays, hlt⟩ := dayOfEra_eq days
  obtain ⟨hyear, hyears, hday⟩ := day_of_year hlt
  obtain ⟨hmonth, hstart, -⟩ := month_bounds hday
  rw [dateOfDays_eq, Date.toDays]
  generalize dayOfEra days = day at *
  generalize yearOfEra day = year, dayOfYear day = rest at *
  generalize shiftedMonth rest = shifted at *
  have hera : (eraOf days * 400 + (year : Int)).fdiv 400 = eraOf days := by
    rw [Int.fdiv_eq_ediv_of_nonneg _ (by decide)]
    omega
  have hrest : (153 * shifted + 2) / 5 + (rest - (153 * shifted + 2) / 5 + 1) - 1 = rest := by omega
  have hyearOf : (eraOf days * 400 + (year : Int) - eraOf days * 400).toNat = year := by omega
  by_cases hwinter : shifted < 10
  · have hmonths : ¬ shifted + 3 ≤ 2 ∧ shifted + 3 > 2 := by omega
    simp only [hwinter, hmonths, if_true, if_false, Int.add_zero,
      Nat.add_sub_cancel, hera, hyearOf, hrest]
    omega
  · have hmonths : shifted - 9 ≤ 2 ∧ ¬ shifted - 9 > 2 ∧ shifted - 9 + 9 = shifted := by omega
    simp only [hwinter, hmonths, if_true, if_false, Int.add_sub_cancel, hera,
      hyearOf, hrest]
    omega

end DatasetProvisioner.Timestamp
