import UrjaSetu.Library.Calendar

/-!
Dates of the proleptic Gregorian calendar as a calendar writes them: which are
real, and the day each one is.

Owns: that `daysOfCivil` inverts `civilOfDays`, that every day has a real date,
and how far the day of a date is from the average its year gives.
-/

namespace UrjaSetu.Library.Calendar

/-- `year` has a 29th of February. -/
def IsLeap (year : ℤ) : Prop := year % 4 = 0 ∧ (year % 100 ≠ 0 ∨ year % 400 = 0)

instance (year : ℤ) : Decidable (IsLeap year) := by
  unfold IsLeap
  infer_instance

def daysInMonth (year month : ℤ) : ℤ :=
  if month = 2 then if IsLeap year then 29 else 28
  else if month = 4 ∨ month = 6 ∨ month = 9 ∨ month = 11 then 30
  else 31

namespace CivilDate

/-- The month has such a day. -/
def Real (date : CivilDate) : Prop :=
  1 ≤ date.month ∧ date.month ≤ 12 ∧ 1 ≤ date.day ∧ date.day ≤ daysInMonth date.year date.month

instance (date : CivilDate) : Decidable date.Real := by
  unfold Real
  infer_instance

end CivilDate

/-- The day of a date, counted from 1970-01-01. -/
def daysOfCivil (date : CivilDate) : ℤ :=
  let year := if date.month ≤ 2 then date.year - 1 else date.year
  let marchMonth := if date.month ≤ 2 then date.month + 9 else date.month - 3
  let dayOfYear := (153 * marchMonth + 2) / 5 + date.day - 1
  365 * (year % 400) + year % 400 / 4 - year % 400 / 100 + dayOfYear + 146097 * (year / 400) - 719468

/-- A day of an era is before the next year of that era starts. -/
theorem lt_next_yearStart {dayOfEra : ℤ} (start : 0 ≤ dayOfEra) (within : dayOfEra < 146097)
    (next : commonDays dayOfEra / 365 + 1 < 400) :
    dayOfEra < yearStart (commonDays dayOfEra / 365 + 1) := by
  have nonneg : 0 ≤ commonDays dayOfEra / 365 := (yearOfEra_bounds start within).1
  obtain ⟨year, yearEq⟩ := Int.eq_ofNat_of_zero_le nonneg
  rw [yearEq] at next ⊢
  by_contra late
  have leading := (commonDays_yearStart (year + 1) (by omega)).1
  have mono := commonDays_mono (show yearStart ((year + 1 : ℕ) : ℤ) ≤ dayOfEra by
    push_cast
    omega)
  push_cast at leading mono
  omega

section

variable (days : ℤ)

/-- What `civilOfDays` computes on the way: the era, the year of it and the day
of that year, the last one a leap day where there is one. -/
theorem exists_era : ∃ era yearOfEra dayOfYear : ℤ,
    0 ≤ yearOfEra ∧ yearOfEra < 400 ∧ 0 ≤ dayOfYear ∧ dayOfYear < 366 ∧
      (dayOfYear = 365 → IsLeap (yearOfEra + 1)) ∧
      days + 719468 = 146097 * era + yearStart yearOfEra + dayOfYear ∧
      civilOfDays days =
        let marchMonth := (5 * dayOfYear + 2) / 153
        let month := if marchMonth < 10 then marchMonth + 3 else marchMonth - 9
        ⟨yearOfEra + era * 400 + if month ≤ 2 then 1 else 0, month,
          dayOfYear - (153 * marchMonth + 2) / 5 + 1⟩ := by
  have start := Int.emod_nonneg (days + 719468) (by norm_num : (146097 : ℤ) ≠ 0)
  have within := Int.emod_lt_of_pos (days + 719468) (by norm_num : (0 : ℤ) < 146097)
  have whole := Int.mul_ediv_add_emod (days + 719468) 146097
  have bounds := yearOfEra_bounds start within
  have next := lt_next_yearStart start within
  refine ⟨(days + 719468) / 146097, commonDays ((days + 719468) % 146097) / 365,
    (days + 719468) % 146097 - yearStart (commonDays ((days + 719468) % 146097) / 365),
    bounds.1, bounds.2.1, bounds.2.2.1, bounds.2.2.2, ?_, by omega, rfl⟩
  generalize commonDays ((days + 719468) % 146097) / 365 = yearOfEra at *
  generalize (days + 719468) % 146097 = dayOfEra at *
  intro last
  unfold IsLeap
  by_cases inEra : yearOfEra + 1 < 400
  · -- The 366th day is before the next year starts, so this one has a leap day.
    have before := next inEra
    have quarters : (yearOfEra + 1) / 4 = yearOfEra / 4 ∨
        (yearOfEra + 1) / 4 = yearOfEra / 4 + 1 ∧ (yearOfEra + 1) % 4 = 0 := by omega
    have centuries : (yearOfEra + 1) / 100 = yearOfEra / 100 ∨
        (yearOfEra + 1) / 100 = yearOfEra / 100 + 1 ∧ (yearOfEra + 1) % 100 = 0 := by omega
    unfold yearStart at before last
    omega
  · omega

theorem daysOfCivil_civilOfDays : daysOfCivil (civilOfDays days) = days := by
  obtain ⟨era, yearOfEra, dayOfYear, start, within, first, last, -, position, date⟩ :=
    exists_era days
  rw [date]
  unfold daysOfCivil
  dsimp only
  unfold yearStart at position
  have march : 0 ≤ (5 * dayOfYear + 2) / 153 ∧ (5 * dayOfYear + 2) / 153 < 12 := by omega
  have eraEq : (yearOfEra + era * 400) / 400 = era := by omega
  have yearEq : (yearOfEra + era * 400) % 400 = yearOfEra := by omega
  generalize (5 * dayOfYear + 2) / 153 = marchMonth at *
  by_cases early : marchMonth < 10
  · have spring : ¬ marchMonth + 3 ≤ 2 := by omega
    simp only [early, spring, if_true, if_false, add_zero, add_sub_cancel_right, eraEq, yearEq]
    omega
  · have winter : marchMonth - 9 ≤ 2 := by omega
    simp only [early, winter, if_true, if_false, add_sub_cancel_right, sub_add_cancel, eraEq,
      yearEq]
    omega

theorem real_civilOfDays : (civilOfDays days).Real := by
  obtain ⟨era, yearOfEra, dayOfYear, start, within, first, last, leap, -, date⟩ := exists_era days
  rw [date]
  unfold CivilDate.Real daysInMonth
  dsimp only
  have march : 0 ≤ (5 * dayOfYear + 2) / 153 ∧ (5 * dayOfYear + 2) / 153 < 12 := by omega
  have leapYear : dayOfYear = 365 → IsLeap (yearOfEra + era * 400 + 1) := by
    intro lastDay
    have ofEra := leap lastDay
    unfold IsLeap at ofEra ⊢
    omega
  refine ⟨by split_ifs <;> omega, by split_ifs <;> omega, by omega, ?_⟩
  by_cases lastDay : dayOfYear = 365
  · subst lastDay
    norm_num
    rw [if_pos (leapYear rfl)]
  · split_ifs <;> omega

end

section

variable {date : CivilDate} (real : date.Real)
include real

/-- The day of a date is within a year of what the average length of a year gives. -/
theorem daysOfCivil_bounds :
    146097 * (date.year - 1970) - 1600 ≤ 400 * daysOfCivil date ∧
      400 * daysOfCivil date ≤ 146097 * (date.year - 1970) + 148000 := by
  obtain ⟨monthStart, monthEnd, dayStart, dayEnd⟩ := real
  have short : daysInMonth date.year date.month ≤ 31 := by
    unfold daysInMonth
    split_ifs <;> norm_num
  unfold daysOfCivil
  dsimp only
  by_cases early : date.month ≤ 2
  · simp only [early, if_true]
    omega
  · simp only [early, if_false]
    omega

theorem daysOfCivil_of_year_small (early : date.year ≤ 0) : daysOfCivil date < -719162 := by
  obtain ⟨monthStart, monthEnd, dayStart, dayEnd⟩ := real
  have short : daysInMonth date.year date.month ≤ 31 := by
    unfold daysInMonth
    split_ifs <;> norm_num
  unfold daysOfCivil
  dsimp only
  by_cases winter : date.month ≤ 2
  · simp only [winter, if_true]
    omega
  · simp only [winter, if_false]
    omega

theorem daysOfCivil_of_year_large (late : 10000 ≤ date.year) : 2932897 ≤ daysOfCivil date := by
  obtain ⟨monthStart, monthEnd, dayStart, dayEnd⟩ := real
  unfold daysOfCivil
  dsimp only
  by_cases early : date.month ≤ 2
  · simp only [early, if_true]
    omega
  · simp only [early, if_false]
    omega

end

end UrjaSetu.Library.Calendar
