import UrjaSetu.Library.Numerals

/-!
The proleptic Gregorian calendar over microseconds since 1970-01-01 UTC, and
the ISO text of an instant.

Owns: that the date of a day and the text of an instant determine them.
-/

namespace UrjaSetu.Library.Calendar

open Numerals

structure CivilDate where
  year : ℤ
  month : ℤ
  day : ℤ
deriving DecidableEq, Repr

/-- The date of a day counted from 1970-01-01. Years are counted from March, so
that a leap day ends its year, in eras of 400 years of 146097 days. -/
def civilOfDays (days : ℤ) : CivilDate :=
  let shifted := days + 719468
  let era := shifted / 146097
  let dayOfEra := shifted % 146097
  let yearOfEra := (dayOfEra - dayOfEra / 1460 + dayOfEra / 36524 - dayOfEra / 146096) / 365
  let dayOfYear := dayOfEra - (365 * yearOfEra + yearOfEra / 4 - yearOfEra / 100)
  let marchMonth := (5 * dayOfYear + 2) / 153
  let month := if marchMonth < 10 then marchMonth + 3 else marchMonth - 9
  { year := yearOfEra + era * 400 + if month ≤ 2 then 1 else 0
    month := month
    day := dayOfYear - (153 * marchMonth + 2) / 5 + 1 }

/-- `number` in at least `width` digits. -/
def paddedDigits (width number : ℕ) : List Char :=
  let digits := Nat.toDigits 10 number
  List.replicate (width - digits.length) '0' ++ digits

def padded (width : ℕ) (number : ℤ) : List Char :=
  if number < 0 then '-' :: paddedDigits width number.natAbs
  else paddedDigits width number.natAbs

def microsecondsPerDay : ℤ := 86400000000

/-- `instant.isoformat(timespec="microseconds")` of a UTC instant. -/
def isoChars (instant : ℤ) : List Char :=
  let date := civilOfDays (instant / microsecondsPerDay)
  let time := instant % microsecondsPerDay
  padded 4 date.year ++ '-' :: (padded 2 date.month ++ '-' :: (padded 2 date.day ++
    'T' :: (padded 2 (time / 3600000000) ++ ':' :: (padded 2 (time / 60000000 % 60) ++
      ':' :: (padded 2 (time / 1000000 % 60) ++ '.' :: (padded 6 (time % 1000000) ++
        ['+', '0', '0', ':', '0', '0']))))))

def isoText (instant : ℤ) : String := String.ofList (isoChars instant)

/-- `date.isoformat()` of a day counted from 1970-01-01. -/
def dateText (days : ℤ) : String :=
  let date := civilOfDays days
  String.ofList (padded 4 date.year ++ '-' :: (padded 2 date.month ++ '-' :: padded 2 date.day))

/-! ## The text determines the instant -/

theorem paddedDigits_isDigit (width number : ℕ) :
    ∀ char ∈ paddedDigits width number, char.isDigit = true := by
  intro char member
  rcases List.mem_append.mp member with zero | digit
  · rw [List.eq_of_mem_replicate zero]
    decide
  · exact toDigits_isDigit number char digit

theorem ofDigitChars_paddedDigits (width number : ℕ) :
    Nat.ofDigitChars 10 (paddedDigits width number) 0 = number := by
  have zeros : ∀ count, Nat.ofDigitChars 10 (List.replicate count '0') 0 = 0 := by
    intro count
    induction count with
    | zero => rfl
    | succ count inductionHypothesis =>
        rw [List.replicate_succ, Nat.ofDigitChars_cons]
        exact inductionHypothesis
  rw [paddedDigits, Nat.ofDigitChars_append, zeros, Nat.ofDigitChars_ten_toDigits]

theorem paddedDigits_ne_minus (width number : ℕ) (rest other : List Char) :
    paddedDigits width number ++ rest ≠ '-' :: other := by
  intro same
  cases digits : paddedDigits width number with
  | nil =>
      rw [paddedDigits, List.append_eq_nil_iff] at digits
      exact Nat.toDigits_ne_nil digits.2
  | cons head tail =>
      have digit := paddedDigits_isDigit width number head (by simp [digits])
      rw [digits, List.cons_append, List.cons.injEq] at same
      rw [same.1] at digit
      exact absurd digit (by decide)

/-- A padded number is read back from a text in which no digit follows it. -/
theorem padded_append_inj {width : ℕ} {left right : ℤ} {leftRest rightRest : List Char}
    (leftEnds : EndsNumeral leftRest) (rightEnds : EndsNumeral rightRest)
    (same : padded width left ++ leftRest = padded width right ++ rightRest) :
    left = right ∧ leftRest = rightRest := by
  have magnitudes : ∀ {first second : ℕ}, paddedDigits width first ++ leftRest =
      paddedDigits width second ++ rightRest → first = second ∧ leftRest = rightRest := by
    intro first second equal
    have parts := digits_append_inj (paddedDigits_isDigit width first)
      (paddedDigits_isDigit width second) leftEnds rightEnds equal
    refine ⟨?_, parts.2⟩
    rw [← ofDigitChars_paddedDigits width first, parts.1, ofDigitChars_paddedDigits]
  unfold padded at same
  split at same <;> split at same
  · rw [List.cons_append, List.cons_append, List.cons.injEq] at same
    have parts := magnitudes same.2
    exact ⟨by omega, parts.2⟩
  · exact absurd same.symm (paddedDigits_ne_minus width _ _ _)
  · exact absurd same (paddedDigits_ne_minus width _ _ _)
  · have parts := magnitudes same
    exact ⟨by omega, parts.2⟩

/-- The same for a number that a separator ends. -/
theorem padded_cons_inj {width : ℕ} {left right : ℤ} {separator : Char}
    {leftRest rightRest : List Char} (noDigit : separator.isDigit = false)
    (same : padded width left ++ separator :: leftRest =
      padded width right ++ separator :: rightRest) :
    left = right ∧ leftRest = rightRest := by
  have parts := padded_append_inj (EndsNumeral.cons noDigit leftRest)
    (EndsNumeral.cons noDigit rightRest) same
  exact ⟨parts.1, (List.cons.inj parts.2).2⟩

/-- The days of an era without its leap days, whose 365th is the year of the era. -/
def commonDays (dayOfEra : ℤ) : ℤ :=
  dayOfEra - dayOfEra / 1460 + dayOfEra / 36524 - dayOfEra / 146096

/-- The first day of a year of the era. -/
def yearStart (yearOfEra : ℤ) : ℤ := 365 * yearOfEra + yearOfEra / 4 - yearOfEra / 100

theorem commonDays_mono {earlier later : ℤ} (order : earlier ≤ later) :
    commonDays earlier ≤ commonDays later := by
  unfold commonDays
  omega

/-- The years of the era start where `commonDays` says they do. -/
theorem commonDays_yearStart (yearOfEra : ℕ) (within : yearOfEra < 400) :
    365 * (yearOfEra : ℤ) ≤ commonDays (yearStart yearOfEra) ∧
      (0 < yearOfEra → commonDays (yearStart yearOfEra - 1) < 365 * (yearOfEra : ℤ)) := by
  have every : ∀ year < 400, 365 * ((year : ℕ) : ℤ) ≤ commonDays (yearStart year) ∧
      (0 < year → commonDays (yearStart year - 1) < 365 * ((year : ℕ) : ℤ)) := by
    decide +kernel
  exact every yearOfEra within

/-- The year of an era and the day of a year are within their bounds. -/
theorem yearOfEra_bounds {dayOfEra : ℤ} (start : 0 ≤ dayOfEra) (within : dayOfEra < 146097) :
    0 ≤ commonDays dayOfEra / 365 ∧ commonDays dayOfEra / 365 < 400 ∧
      0 ≤ dayOfEra - yearStart (commonDays dayOfEra / 365) ∧
      dayOfEra - yearStart (commonDays dayOfEra / 365) < 366 := by
  have nonneg : 0 ≤ commonDays dayOfEra / 365 := by
    unfold commonDays
    omega
  have small : commonDays dayOfEra / 365 < 400 := by
    unfold commonDays
    omega
  obtain ⟨year, yearEq⟩ := Int.eq_ofNat_of_zero_le nonneg
  have yearSmall : year < 400 := by omega
  obtain ⟨_, before⟩ := commonDays_yearStart year yearSmall
  rw [← yearEq] at before
  refine ⟨nonneg, small, ?_, ?_⟩
  · by_contra early
    have positive : 0 < year := by
      by_contra zero
      rw [yearEq] at early
      unfold yearStart at early
      omega
    have mono := commonDays_mono (show dayOfEra ≤ yearStart (commonDays dayOfEra / 365) - 1 by omega)
    have less := before positive
    omega
  · by_contra late
    by_cases last : year + 1 < 400
    · obtain ⟨next, _⟩ := commonDays_yearStart (year + 1) last
      have mono := commonDays_mono (show yearStart ((year + 1 : ℕ) : ℤ) ≤ dayOfEra by
        rw [yearEq] at late
        unfold yearStart at late ⊢
        omega)
      omega
    · unfold yearStart at late
      omega

theorem civilOfDays_injective : Function.Injective civilOfDays := by
  intro left right same
  have leftBounds := yearOfEra_bounds (Int.emod_nonneg (left + 719468) (by norm_num))
    (Int.emod_lt_of_pos (left + 719468) (by norm_num))
  have rightBounds := yearOfEra_bounds (Int.emod_nonneg (right + 719468) (by norm_num))
    (Int.emod_lt_of_pos (right + 719468) (by norm_num))
  have parts : ∀ days : ℤ, civilOfDays days =
      let dayOfEra := (days + 719468) % 146097
      let yearOfEra := commonDays dayOfEra / 365
      let dayOfYear := dayOfEra - yearStart yearOfEra
      let marchMonth := (5 * dayOfYear + 2) / 153
      let month := if marchMonth < 10 then marchMonth + 3 else marchMonth - 9
      ⟨yearOfEra + (days + 719468) / 146097 * 400 + if month ≤ 2 then 1 else 0, month,
        dayOfYear - (153 * marchMonth + 2) / 5 + 1⟩ := fun _ => rfl
  simp only [parts, CivilDate.mk.injEq] at same
  obtain ⟨year, month, day⟩ := same
  -- The month determines the March-based one, which with the day gives the day
  -- of the year; the year then gives the era and the year in it.
  have split : ∀ days : ℤ, days + 719468 =
      146097 * ((days + 719468) / 146097) + (days + 719468) % 146097 :=
    fun days => (Int.mul_ediv_add_emod _ _).symm
  have leftSplit := split left
  have rightSplit := split right
  generalize (left + 719468) % 146097 = leftDay at *
  generalize (right + 719468) % 146097 = rightDay at *
  generalize (left + 719468) / 146097 = leftEra at *
  generalize (right + 719468) / 146097 = rightEra at *
  generalize leftYearEq : commonDays leftDay / 365 = leftYear at *
  generalize rightYearEq : commonDays rightDay / 365 = rightYear at *
  generalize leftStartEq : yearStart leftYear = leftStart at *
  generalize rightStartEq : yearStart rightYear = rightStart at *
  have months : (5 * (leftDay - leftStart) + 2) / 153 = (5 * (rightDay - rightStart) + 2) / 153 := by
    split at month <;> split at month <;> omega
  rw [months] at year day
  have dayOfYear : leftDay - leftStart = rightDay - rightStart := by omega
  have years : leftYear = rightYear ∧ leftEra = rightEra := by omega
  rw [years.1, rightStartEq] at leftStartEq
  omega

theorem isoChars_injective : Function.Injective isoChars := by
  intro left right same
  unfold isoChars at same
  obtain ⟨year, same⟩ := padded_cons_inj (by decide) same
  obtain ⟨month, same⟩ := padded_cons_inj (by decide) same
  obtain ⟨day, same⟩ := padded_cons_inj (by decide) same
  obtain ⟨hour, same⟩ := padded_cons_inj (by decide) same
  obtain ⟨minute, same⟩ := padded_cons_inj (by decide) same
  obtain ⟨second, same⟩ := padded_cons_inj (by decide) same
  obtain ⟨microsecond, _⟩ := padded_append_inj (EndsNumeral.cons (by decide) _)
    (EndsNumeral.cons (by decide) _) same
  have days : left / microsecondsPerDay = right / microsecondsPerDay := by
    apply civilOfDays_injective
    rw [CivilDate.mk.injEq]
    exact ⟨year, month, day⟩
  unfold microsecondsPerDay at days hour minute second microsecond
  omega

theorem isoText_injective : Function.Injective isoText :=
  fun _ _ same => isoChars_injective (String.ofList_injective same)

example : isoText 1709210096000007 = "2024-02-29T12:34:56.000007+00:00" := by decide +kernel
example : isoText (-1) = "1969-12-31T23:59:59.999999+00:00" := by decide +kernel

/-- `str(timedelta)` of a length in microseconds. -/
def durationText (length : ℤ) : String :=
  let days := length / microsecondsPerDay
  let time := length % microsecondsPerDay
  let dayChars := if days = 0 then []
    else (toString days).toList ++ (if days.natAbs = 1 then " day, " else " days, ").toList
  let fraction := if time % 1000000 = 0 then [] else '.' :: padded 6 (time % 1000000)
  String.ofList (dayChars ++ padded 1 (time / 3600000000) ++ ':' :: (padded 2 (time / 60000000 % 60)
    ++ ':' :: (padded 2 (time / 1000000 % 60) ++ fraction)))

/-! ## Datetimes with an offset -/

/-- A timezone-aware `datetime`: what its wall clock shows and the offset of its
zone, in microseconds. -/
structure AwareDatetime where
  wallClock : ℤ
  utcOffset : ℤ
deriving DecidableEq, Repr

namespace AwareDatetime

/-- The instant it denotes: `astimezone(UTC)`, and what comparisons go by. -/
def instant (moment : AwareDatetime) : ℤ := moment.wallClock - moment.utcOffset

/-- A length of less than a day as `HH:MM:SS`, with its microseconds if any. -/
def timeChars (time : ℤ) : List Char :=
  padded 2 (time / 3600000000) ++ ':' :: (padded 2 (time / 60000000 % 60) ++
    ':' :: (padded 2 (time / 1000000 % 60) ++
      if time % 1000000 = 0 then [] else '.' :: padded 6 (time % 1000000)))

/-- The offset as `HH:MM`, with its seconds if any. -/
def offsetChars (offset : ℤ) : List Char :=
  let length := (offset.natAbs : ℤ)
  (if offset < 0 then '-' else '+') ::
    if length % 60000000 = 0 then
      padded 2 (length / 3600000000) ++ ':' :: padded 2 (length / 60000000 % 60)
    else timeChars length

/-- `moment.isoformat()`. -/
def isoformat (moment : AwareDatetime) : String :=
  let date := civilOfDays (moment.wallClock / microsecondsPerDay)
  String.ofList (padded 4 date.year ++ '-' :: (padded 2 date.month ++ '-' :: (padded 2 date.day ++
    'T' :: (timeChars (moment.wallClock % microsecondsPerDay) ++ offsetChars moment.utcOffset))))

example : isoformat ⟨1709229896000000, 19800000000⟩ = "2024-02-29T18:04:56+05:30" := by
  decide +kernel

/-- `rest` cannot continue a time. -/
def EndsTime (rest : List Char) : Prop := ∀ char ∈ rest.head?, char.isDigit = false ∧ char ≠ '.'

theorem EndsTime.endsNumeral {rest : List Char} (ends : EndsTime rest) : EndsNumeral rest :=
  fun char member => (ends char member).1

theorem EndsTime.ne_point {rest : List Char} (ends : EndsTime rest) (other : List Char) :
    rest ≠ '.' :: other := by
  intro same
  exact (ends '.' (by rw [same]; rfl)).2 rfl

/-- A time is read back from a text in which nothing continues it. -/
theorem timeChars_append_inj {left right : ℤ} {leftRest rightRest : List Char}
    (leftEnds : EndsTime leftRest) (rightEnds : EndsTime rightRest)
    (same : timeChars left ++ leftRest = timeChars right ++ rightRest) :
    left = right ∧ leftRest = rightRest := by
  have ends : ∀ {time : ℤ} {rest : List Char}, EndsTime rest → EndsNumeral
      ((if time % 1000000 = 0 then [] else '.' :: padded 6 (time % 1000000)) ++ rest) := by
    intro time rest restEnds
    split
    · exact restEnds.endsNumeral
    · exact EndsNumeral.cons (by decide) _
  unfold timeChars at same
  rw [List.append_assoc, List.cons_append, List.append_assoc, List.cons_append, List.append_assoc,
    List.append_assoc, List.cons_append, List.append_assoc, List.cons_append,
    List.append_assoc] at same
  obtain ⟨hour, same⟩ := padded_cons_inj (by decide) same
  obtain ⟨minute, same⟩ := padded_cons_inj (by decide) same
  obtain ⟨second, same⟩ := padded_append_inj (ends leftEnds) (ends rightEnds) same
  split at same <;> split at same
  · exact ⟨by omega, same⟩
  · exact absurd same (leftEnds.ne_point _)
  · exact absurd same.symm (rightEnds.ne_point _)
  · obtain ⟨microsecond, rest⟩ := padded_append_inj leftEnds.endsNumeral rightEnds.endsNumeral
      (List.cons.inj same).2
    exact ⟨by omega, rest⟩

theorem offsetChars_endsTime (offset : ℤ) : EndsTime (offsetChars offset) := by
  intro char member
  unfold offsetChars at member
  dsimp only at member
  rw [List.head?_cons, Option.mem_some_iff] at member
  rw [← member]
  split <;> decide

/-- An hour and a minute alone are no time with its seconds. -/
theorem padded_ne_timeChars (hour minute time : ℤ) :
    padded 2 hour ++ ':' :: padded 2 minute ≠ timeChars time := by
  intro same
  unfold timeChars at same
  obtain ⟨_, same⟩ := padded_cons_inj (by decide) same
  rw [← List.append_nil (padded 2 minute)] at same
  have rests := (padded_append_inj EndsNumeral.nil (EndsNumeral.cons (by decide) _) same).2
  cases rests

theorem offsetChars_injective : Function.Injective offsetChars := by
  intro left right same
  have nothing : EndsTime [] := fun _ member => by cases member
  have lengths : (left.natAbs : ℤ) = right.natAbs := by
    have same := (List.cons.inj same).2
    split at same <;> split at same
    · obtain ⟨hour, same⟩ := padded_cons_inj (by decide) same
      rw [← List.append_nil (padded 2 ((left.natAbs : ℤ) / 60000000 % 60)),
        ← List.append_nil (padded 2 ((right.natAbs : ℤ) / 60000000 % 60))] at same
      have minute := (padded_append_inj EndsNumeral.nil EndsNumeral.nil same).1
      omega
    · exact absurd same (padded_ne_timeChars _ _ _)
    · exact absurd same.symm (padded_ne_timeChars _ _ _)
    · rw [← List.append_nil (timeChars left.natAbs), ← List.append_nil (timeChars right.natAbs)]
        at same
      exact (timeChars_append_inj nothing nothing same).1
  have signs : left < 0 ↔ right < 0 := by
    have heads := (List.cons.inj same).1
    split at heads <;> split at heads
    · simp [*]
    · exact absurd heads (by decide)
    · exact absurd heads (by decide)
    · simp [*]
  omega

theorem isoformat_injective : Function.Injective isoformat := by
  rintro ⟨leftClock, leftOffset⟩ ⟨rightClock, rightOffset⟩ same
  have texts := String.ofList_injective same
  dsimp only at texts
  obtain ⟨year, texts⟩ := padded_cons_inj (by decide) texts
  obtain ⟨month, texts⟩ := padded_cons_inj (by decide) texts
  obtain ⟨day, texts⟩ := padded_cons_inj (by decide) texts
  obtain ⟨time, offset⟩ := timeChars_append_inj (offsetChars_endsTime leftOffset)
    (offsetChars_endsTime rightOffset) texts
  have days : leftClock / microsecondsPerDay = rightClock / microsecondsPerDay := by
    apply civilOfDays_injective
    rw [CivilDate.mk.injEq]
    exact ⟨year, month, day⟩
  have clocks : leftClock = rightClock := by
    rw [← Int.mul_ediv_add_emod leftClock microsecondsPerDay, days, time, Int.mul_ediv_add_emod]
  rw [clocks, offsetChars_injective offset]

end AwareDatetime

example : durationText 900000000 = "0:15:00" := by decide +kernel

end UrjaSetu.Library.Calendar
