import Mathlib.Data.Nat.Init
import Mathlib.Data.List.Basic

/-!
# The Gregorian calendar

Days are numbered from the first of January 1970.
-/

namespace Calendar

def isLeap (year : Int) : Bool :=
  year % 4 = 0 && (year % 100 ≠ 0 || year % 400 = 0)

def daysInYear (year : Int) : Int :=
  if isLeap year then 366 else 365

/-- The number of the first day of a year. -/
def dayFromYear (year : Int) : Int :=
  365 * (year - 1970) + (year - 1969) / 4 - (year - 1901) / 100 + (year - 1601) / 400

/-- The year of a day.  The mean length of a year is at most one year off. -/
def yearFromDay (day : Int) : Int :=
  let year := day * 400 / 146097 + 1970
  if day < dayFromYear year then year - 1
  else if dayFromYear (year + 1) ≤ day then year + 1
  else year

/-- The number of days of a year before a month.  Months are numbered from 0. -/
def daysBeforeMonth (leap : Bool) : ℕ → ℕ
  | 0 => 0
  | 1 => 31
  | 2 => 59 + leap.toNat
  | 3 => 90 + leap.toNat
  | 4 => 120 + leap.toNat
  | 5 => 151 + leap.toNat
  | 6 => 181 + leap.toNat
  | 7 => 212 + leap.toNat
  | 8 => 243 + leap.toNat
  | 9 => 273 + leap.toNat
  | 10 => 304 + leap.toNat
  | 11 => 334 + leap.toNat
  | _ => 365 + leap.toNat

/-- The month of a day of a year. -/
def monthFromDay (leap : Bool) (dayOfYear : ℕ) : ℕ :=
  ((List.range 12).find? fun month => dayOfYear < daysBeforeMonth leap (month + 1)).getD 11

section Years

theorem dayFromYear_succ (year : Int) :
    dayFromYear (year + 1) = dayFromYear year + daysInYear year := by
  simp only [dayFromYear, daysInYear, isLeap, Bool.and_eq_true, Bool.or_eq_true,
    decide_eq_true_eq]
  split <;> omega

theorem dayFromYear_mono {year other : Int} (le : year ≤ other) :
    dayFromYear year ≤ dayFromYear other := by
  simp only [dayFromYear]
  omega

/-- A day lies in its year. -/
theorem yearFromDay_spec (day : Int) :
    dayFromYear (yearFromDay day) ≤ day ∧ day < dayFromYear (yearFromDay day + 1) := by
  obtain ⟨years, estimate⟩ : ∃ years, years = day * 400 / 146097 := ⟨_, rfl⟩
  have bounds : 146097 * years ≤ day * 400 ∧ day * 400 < 146097 * (years + 1) := by omega
  have early : dayFromYear (years + 1970 - 1) ≤ day := by
    simp only [dayFromYear]
    omega
  have late : day < dayFromYear (years + 1970 + 1 + 1) := by
    simp only [dayFromYear]
    omega
  simp only [yearFromDay, ← estimate]
  split
  · next before =>
      refine ⟨early, ?_⟩
      rwa [Int.sub_add_cancel]
  · split
    · next after => exact ⟨after, late⟩
    · next before after => exact ⟨by omega, by omega⟩

/-- No day behind the first one lies before its year. -/
theorem le_yearFromDay {day : Int} (le : 0 ≤ day) : 1970 ≤ yearFromDay day := by
  by_contra early
  have spec := (yearFromDay_spec day).2
  have ordered := dayFromYear_mono (show yearFromDay day + 1 ≤ 1970 by omega)
  have epoch : dayFromYear 1970 = 0 := by decide
  omega

end Years

section Months

variable {leap : Bool} {dayOfYear : ℕ}

/-- A day lies in its month. -/
theorem monthFromDay_spec (inYear : dayOfYear < daysBeforeMonth leap 12) :
    monthFromDay leap dayOfYear < 12 ∧
      daysBeforeMonth leap (monthFromDay leap dayOfYear) ≤ dayOfYear ∧
      dayOfYear < daysBeforeMonth leap (monthFromDay leap dayOfYear + 1) := by
  have some : ((List.range 12).find? fun month =>
      dayOfYear < daysBeforeMonth leap (month + 1)).isSome := by
    rw [List.find?_isSome]
    exact ⟨11, by decide, decide_eq_true inYear⟩
  rcases Option.isSome_iff_exists.mp some with ⟨month, found⟩
  rw [monthFromDay, found, Option.getD_some]
  rcases List.find?_range_eq_some.mp found with ⟨running, inside, earlier⟩
  refine ⟨List.mem_range.mp inside, ?_, of_decide_eq_true running⟩
  cases month with
  | zero => exact Nat.zero_le _
  | succ month =>
      have ended := earlier month (Nat.lt_succ_self month)
      simpa using ended

end Months

section Dates

def daysInMonth (year : Int) (month : ℕ) : ℕ :=
  daysBeforeMonth (isLeap year) (month + 1) - daysBeforeMonth (isLeap year) month

theorem daysInMonth_le {year : Int} {month : ℕ} (inside : month < 12) :
    daysInMonth year month ≤ 31 := by
  rw [daysInMonth]
  generalize isLeap year = leap
  decide +revert

/-- A date of the calendar. -/
structure Date where
  year : Int
  month : ℕ
  day : ℕ
  month_lt : month < 12
  day_pos : 1 ≤ day
  day_le : day ≤ daysInMonth year month

theorem daysInYear_eq (year : Int) :
    daysInYear year = (daysBeforeMonth (isLeap year) 12 : ℕ) := by
  rw [daysInYear]
  cases isLeap year <;> rfl

/-- The number of the day of a date. -/
def Date.toDay (date : Date) : Int :=
  dayFromYear date.year + daysBeforeMonth (isLeap date.year) date.month + (date.day - 1)

/-- The position of a day in its year. -/
def dayWithinYear (day : Int) : ℕ :=
  (day - dayFromYear (yearFromDay day)).toNat

theorem dayWithinYear_spec (day : Int) :
    day = dayFromYear (yearFromDay day) + dayWithinYear day ∧
      dayWithinYear day < daysBeforeMonth (isLeap (yearFromDay day)) 12 := by
  rcases yearFromDay_spec day with ⟨begun, running⟩
  rw [dayFromYear_succ, daysInYear_eq] at running
  rw [dayWithinYear]
  omega

/-- The date of a day. -/
def Date.ofDay (day : Int) : Date where
  year := yearFromDay day
  month := monthFromDay (isLeap (yearFromDay day)) (dayWithinYear day)
  day := dayWithinYear day - daysBeforeMonth (isLeap (yearFromDay day))
    (monthFromDay (isLeap (yearFromDay day)) (dayWithinYear day)) + 1
  month_lt := (monthFromDay_spec (dayWithinYear_spec day).2).1
  day_pos := Nat.le_add_left 1 _
  day_le := by
    rcases monthFromDay_spec (dayWithinYear_spec day).2 with ⟨_, begun, running⟩
    rw [daysInMonth]
    omega

theorem toDay_ofDay (day : Int) : (Date.ofDay day).toDay = day := by
  rcases dayWithinYear_spec day with ⟨position, inYear⟩
  rcases monthFromDay_spec inYear with ⟨_, begun, _⟩
  simp only [Date.toDay, Date.ofDay]
  omega

end Dates

end Calendar
