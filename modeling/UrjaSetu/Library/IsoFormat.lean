import UrjaSetu.Library.CivilDates
import UrjaSetu.Library.FixedDigits

/-!
Reading ISO 8601 datetimes: the grammar `datetime.fromisoformat` documents, with
extended, basic and week dates, any separator character, a clock down to the
microsecond and an offset.

A text that is refused is a `ValueError`; why it is refused is not kept. Where
the accelerated reader is laxer than the grammar the grammar is followed.

Owns: the reader, and that it reads back every `isoformat`.
-/

namespace UrjaSetu.Library.IsoFormat

open Calendar FixedDigits

/-- A `datetime`: its wall clock and, if it is aware, the offset of its zone, in
microseconds. -/
structure Datetime where
  wallClock : ℤ
  utcOffset : Option ℤ
deriving DecidableEq, Repr

def MINYEAR : ℤ := 1

def MAXYEAR : ℤ := 9999

/-- A date that `datetime` can hold. -/
def InRange (date : CivilDate) : Prop := MINYEAR ≤ date.year ∧ date.year ≤ MAXYEAR ∧ date.Real

instance (date : CivilDate) : Decidable (InRange date) := by
  unfold InRange
  infer_instance

/-! ## Dates -/

/-- Where the date ends. The fourth and fifth characters tell the formats apart;
a basic week date is told from one with a day by the parity of the digits after
it. -/
def separatorLocation (text : List Char) : ℕ :=
  if text.length = 7 then 7
  else if text[4]? = some '-' then
    if text[5]? = some 'W' then
      if text[8]? = some '-' ∧ ¬ (text[10]?.any Char.isDigit) then 10 else 8
    else 10
  else if text[4]? = some 'W' then
    let digitsEnd := 7 + ((text.drop 7).takeWhile Char.isDigit).length
    if digitsEnd < 9 then digitsEnd else if digitsEnd % 2 = 0 then 7 else 8
  else 8

/-- Monday is 0. -/
def weekday (days : ℤ) : ℤ := (days + 3) % 7

/-- The Monday of the first ISO week: the week with the year's first Thursday. -/
def isoWeek1Monday (year : ℤ) : ℤ :=
  let firstDay := daysOfCivil ⟨year, 1, 1⟩
  if 3 < weekday firstDay then firstDay - weekday firstDay + 7 else firstDay - weekday firstDay

/-- A year of 53 weeks starts on a Thursday, or on a Wednesday if it is leap. -/
def hasWeek53 (year : ℤ) : Bool :=
  let first := weekday (daysOfCivil ⟨year, 1, 1⟩)
  first = 3 || (first = 2 && IsLeap year)

def isoToYmd (year week day : ℕ) : Option CivilDate :=
  if MINYEAR ≤ year ∧ (year : ℤ) ≤ MAXYEAR ∧ 1 ≤ week ∧ (week ≤ 52 ∨ (week = 53 ∧ hasWeek53 year)) ∧
      1 ≤ day ∧ day ≤ 7 then
    some (civilOfDays (isoWeek1Monday year + (week - 1) * 7 + day - 1))
  else none

/-- `text` without its first character, which must be `expected`. -/
def skipChar (expected : Char) (text : List Char) : Option (List Char) :=
  if text.head? = some expected then some text.tail else none

/-- The separator that an extended format has here and a basic one has not. -/
def skipSeparator (extended : Bool) (separator : Char) (text : List Char) : Option (List Char) :=
  if extended then skipChar separator text else some text

/-- A week date after its `W`. -/
def readWeekDate (year : ℕ) (extended : Bool) (text : List Char) : Option CivilDate := do
  let (week, afterWeek) ← takeDigits 2 text
  if afterWeek = [] then isoToYmd year week 1
  else
    let dayText ← skipSeparator extended '-' afterWeek
    let (day, _) ← takeDigits 1 dayText
    isoToYmd year week day

def readDate (text : List Char) : Option CivilDate := do
  let (year, afterYear) ← takeDigits 4 text
  let extended := afterYear.head? = some '-'
  let monthText := if extended then afterYear.tail else afterYear
  if monthText.head? = some 'W' then readWeekDate year extended monthText.tail
  else
    let (month, afterMonth) ← takeDigits 2 monthText
    let dayText ← skipSeparator extended '-' afterMonth
    let (day, _) ← takeDigits 2 dayText
    some ⟨year, month, day⟩

/-! ## Clocks -/

/-- A time of day, or the length of an offset. -/
structure Clock where
  hour : ℕ
  minute : ℕ
  second : ℕ
  microsecond : ℕ
deriving DecidableEq, Repr

namespace Clock

def toMicroseconds (clock : Clock) : ℤ :=
  3600000000 * clock.hour + 60000000 * clock.minute + 1000000 * clock.second + clock.microsecond

/-- A time of day that `datetime` can hold. -/
def Real (clock : Clock) : Prop := clock.hour < 24 ∧ clock.minute < 60 ∧ clock.second < 60

instance (clock : Clock) : Decidable clock.Real := by
  unfold Real
  infer_instance

end Clock

/-- The decimals of a second, of which six count. -/
def readFraction (text : List Char) : Option ℕ :=
  let digits := text.tail
  if (text.head? = some '.' ∨ text.head? = some ',') ∧ digits ≠ [] ∧ digits.all Char.isDigit then
    some (Nat.ofDigitChars 10 (digits.take 6) 0 * 10 ^ (6 - digits.length))
  else none

/-- `HH[:?MM[:?SS[{.|,}f+]]]`. -/
def readClock (text : List Char) : Option Clock := do
  let (hour, afterHour) ← takeDigits 2 text
  if afterHour = [] then some ⟨hour, 0, 0, 0⟩
  else
    let extended := afterHour.head? = some ':'
    let minuteText ← skipSeparator extended ':' afterHour
    let (minute, afterMinute) ← takeDigits 2 minuteText
    if afterMinute = [] then some ⟨hour, minute, 0, 0⟩
    else
      let secondText ← skipSeparator extended ':' afterMinute
      let (second, afterSecond) ← takeDigits 2 secondText
      if afterSecond = [] then some ⟨hour, minute, second, 0⟩
      else
        let microsecond ← readFraction afterSecond
        some ⟨hour, minute, second, microsecond⟩

/-- The characters that begin an offset. -/
def beginsOffset (char : Char) : Bool := char = '+' || char = '-' || char = 'Z'

/-- The offset a time ends with: none, `Z`, or a signed length under a day. This is
the documented grammar, also where CPython's accelerated reader differs from it. -/
def readOffset (text : List Char) : Option (Option ℤ) :=
  if text = [] then some none
  else if text = ['Z'] then some (some 0)
  else if text.head? = some 'Z' then none
  else (readClock text.tail).bind fun clock =>
    if clock.toMicroseconds < microsecondsPerDay then
      some (some (if text.head? = some '-' then -clock.toMicroseconds else clock.toMicroseconds))
    else none

/-- A time of day, as microseconds, and its offset. -/
def readTime (text : List Char) : Option (ℤ × Option ℤ) := do
  let clock ← readClock (text.takeWhile fun char => !beginsOffset char)
  let offset ← readOffset (text.dropWhile fun char => !beginsOffset char)
  if clock.Real then some (clock.toMicroseconds, offset) else none

/-- `datetime.fromisoformat(text)`, or `none` for a `ValueError`. -/
def fromIsoChars (text : List Char) : Option Datetime :=
  if text.length < 7 then none
  else do
    let date ← readDate (text.take (separatorLocation text))
    if InRange date then
      let midnight := daysOfCivil date * microsecondsPerDay
      let timeText := text.drop (separatorLocation text)
      if timeText = [] then some ⟨midnight, none⟩
      else
        let (time, offset) ← readTime timeText.tail
        some ⟨midnight + time, offset⟩
    else none

def fromisoformat (text : String) : Option Datetime := fromIsoChars text.toList

example : fromisoformat "2024-02-29T18:04:56+05:30" =
    some ⟨1709229896000000, some 19800000000⟩ := by decide +kernel
example : fromisoformat "2020W011" = some ⟨1577664000000000, none⟩ := by decide +kernel
example : fromisoformat "1712010112305" = some ⟨-8141648100000000, none⟩ := by decide +kernel

/-! ## Fields -/

theorem fixedDigits_ne_nil {width : ℕ} (positive : 0 < width) (number : ℕ) :
    fixedDigits width number ≠ [] := by
  intro empty
  have length := fixedDigits_length width number
  rw [empty, List.length_nil] at length
  omega

theorem head?_fixedDigits_append {width : ℕ} (positive : 0 < width) (number : ℕ)
    (rest : List Char) :
    ∃ digit, (fixedDigits width number ++ rest).head? = some digit ∧ digit.isDigit = true := by
  cases field : fixedDigits width number with
  | nil => exact absurd field (fixedDigits_ne_nil positive number)
  | cons digit others =>
      exact ⟨digit, rfl, fixedDigits_isDigit width number digit (by simp [field])⟩

/-- A field does not begin with a character that is no digit. -/
theorem head?_fixedDigits_ne {width : ℕ} (positive : 0 < width) (number : ℕ) (rest : List Char)
    {char : Char} (noDigit : char.isDigit = false) :
    (fixedDigits width number ++ rest).head? ≠ some char := by
  obtain ⟨digit, head, isDigit⟩ := head?_fixedDigits_append positive number rest
  rw [head]
  intro same
  rw [Option.some.inj same, noDigit] at isDigit
  cases isDigit

theorem beginsOffset_of_isDigit {char : Char} (isDigit : char.isDigit = true) :
    beginsOffset char = false := by
  unfold beginsOffset
  rw [Bool.or_eq_false_iff, Bool.or_eq_false_iff]
  refine ⟨⟨?_, ?_⟩, ?_⟩ <;>
  · rw [decide_eq_false_iff_not]
    rintro rfl
    exact absurd isDigit (by decide)

/-- A time without an offset is read as its clock. -/
theorem readTime_of_no_offset {text : List Char}
    (noOffset : ∀ char ∈ text, beginsOffset char = false) :
    readTime text = (readClock text).bind fun clock =>
      if clock.Real then some (clock.toMicroseconds, none) else none := by
  have before : text.takeWhile (fun char => !beginsOffset char) = text := by
    rw [List.takeWhile_eq_self_iff]
    intro char member
    rw [noOffset char member]
    rfl
  have after : text.dropWhile (fun char => !beginsOffset char) = [] := by
    rw [List.dropWhile_eq_nil_iff]
    intro char member
    rw [noOffset char member]
    rfl
  unfold readTime
  rw [before, after]
  rfl

/-! ## The basic format -/

/-- A date of eight digits ends after them. -/
theorem separatorLocation_basic (date : ℕ) {rest : List Char} (long : 0 < rest.length) :
    separatorLocation (fixedDigits 8 date ++ rest) = 8 := by
  have fourth : ∃ digit, (fixedDigits 8 date ++ rest)[4]? = some digit ∧ digit.isDigit = true := by
    have inside : 4 < (fixedDigits 8 date).length := by rw [fixedDigits_length]; norm_num
    refine ⟨(fixedDigits 8 date)[4], ?_, fixedDigits_isDigit 8 date _ (List.getElem_mem inside)⟩
    rw [List.getElem?_append_left inside, List.getElem?_eq_getElem inside]
  obtain ⟨digit, at4, isDigit⟩ := fourth
  have noSign : digit ≠ '-' ∧ digit ≠ 'W' := by
    constructor <;>
    · rintro rfl
      exact absurd isDigit (by decide)
  unfold separatorLocation
  rw [List.length_append, fixedDigits_length, if_neg (by omega), at4, if_neg (by simp [noSign.1]),
    if_neg (by simp [noSign.2])]

theorem readDate_basic (date : ℕ) : readDate (fixedDigits 8 date) =
    some ⟨(date / 10 ^ 4 % 10 ^ 4 : ℕ), (date / 10 ^ 2 % 10 ^ 2 : ℕ), (date % 10 ^ 2 : ℕ)⟩ := by
  have fields : fixedDigits 8 date = fixedDigits 4 (date / 10 ^ 4) ++
      (fixedDigits 2 (date / 10 ^ 2) ++ fixedDigits 2 date) := by
    rw [fixedDigits_add 4 4, fixedDigits_add 2 2 date]
  rw [fields]
  unfold readDate
  simp only [takeDigits_fixedDigits, Option.bind_eq_bind, Option.bind_some,
    head?_fixedDigits_ne two_pos _ _ (by decide : ('-').isDigit = false),
    head?_fixedDigits_ne two_pos _ _ (by decide : ('W').isDigit = false), if_false, decide_false,
    skipSeparator, takeDigits_fixedDigits_end, Bool.false_eq_true]

/-- The date of eight digits, any character, and a clock. -/
theorem fromIsoChars_basic (date : ℕ) (separator : Char) {clockText : List Char} :
    fromIsoChars (fixedDigits 8 date ++ separator :: clockText) =
      let day : CivilDate :=
        ⟨(date / 10 ^ 4 % 10 ^ 4 : ℕ), (date / 10 ^ 2 % 10 ^ 2 : ℕ), (date % 10 ^ 2 : ℕ)⟩
      if InRange day then
        (readTime clockText).map fun time =>
          ⟨daysOfCivil day * microsecondsPerDay + time.1, time.2⟩
      else none := by
  unfold fromIsoChars
  rw [separatorLocation_basic date (by simp), List.take_left' (fixedDigits_length 8 date),
    List.drop_left' (fixedDigits_length 8 date), readDate_basic, if_neg (by simp; omega)]
  dsimp only [Option.bind_eq_bind, Option.bind_some, List.tail_cons]
  rw [if_neg (List.cons_ne_nil _ _)]
  cases readTime clockText <;> rfl

theorem readClock_hourMinute (clock : ℕ) : readClock (fixedDigits 4 clock) =
    some ⟨clock / 10 ^ 2 % 10 ^ 2, clock % 10 ^ 2, 0, 0⟩ := by
  have noColon : (fixedDigits 2 clock).head? ≠ some ':' := by
    have head := head?_fixedDigits_ne two_pos clock [] (by decide : (':').isDigit = false)
    rwa [List.append_nil] at head
  rw [fixedDigits_add 2 2]
  unfold readClock
  simp only [takeDigits_fixedDigits, takeDigits_fixedDigits_end, Option.bind_eq_bind,
    Option.bind_some, skipSeparator, noColon, decide_false, fixedDigits_ne_nil two_pos, if_false,
    if_true, Bool.false_eq_true]

theorem readClock_hourMinuteSecond (clock : ℕ) : readClock (fixedDigits 6 clock) =
    some ⟨clock / 10 ^ 4 % 10 ^ 2, clock / 10 ^ 2 % 10 ^ 2, clock % 10 ^ 2, 0⟩ := by
  have fields : fixedDigits 6 clock = fixedDigits 2 (clock / 10 ^ 4) ++
      (fixedDigits 2 (clock / 10 ^ 2) ++ fixedDigits 2 clock) := by
    rw [fixedDigits_add 2 4, fixedDigits_add 2 2 clock]
  rw [fields]
  unfold readClock
  simp only [takeDigits_fixedDigits, Option.bind_eq_bind, Option.bind_some, skipSeparator,
    head?_fixedDigits_ne two_pos _ _ (by decide : (':').isDigit = false), decide_false,
    List.append_eq_nil_iff, fixedDigits_ne_nil two_pos, and_false, if_false, if_true,
    takeDigits_fixedDigits_end, Bool.false_eq_true]

/-- Three digits are no clock: the minutes would have one. -/
theorem readClock_three (clock : ℕ) : readClock (fixedDigits 3 clock) = none := by
  have short : takeDigits 2 (fixedDigits 1 clock) = none :=
    takeDigits_short (by rw [fixedDigits_length]; norm_num)
  have noColon : (fixedDigits 1 clock).head? ≠ some ':' := by
    have head := head?_fixedDigits_ne one_pos clock [] (by decide : (':').isDigit = false)
    rwa [List.append_nil] at head
  rw [fixedDigits_add 2 1]
  unfold readClock
  simp only [takeDigits_fixedDigits, Option.bind_eq_bind, Option.bind_some, skipSeparator, noColon,
    decide_false, fixedDigits_ne_nil one_pos, if_false, short, Option.bind_none, Bool.false_eq_true]

/-- Five digits are no clock: the seconds would have one. -/
theorem readClock_five (clock : ℕ) : readClock (fixedDigits 5 clock) = none := by
  have fields : fixedDigits 5 clock = fixedDigits 2 (clock / 10 ^ 3) ++
      (fixedDigits 2 (clock / 10) ++ fixedDigits 1 clock) := by
    rw [fixedDigits_add 2 3, fixedDigits_add 2 1 clock, pow_one]
  have short : takeDigits 2 (fixedDigits 1 clock) = none :=
    takeDigits_short (by rw [fixedDigits_length]; norm_num)
  rw [fields]
  unfold readClock
  simp only [takeDigits_fixedDigits, Option.bind_eq_bind, Option.bind_some, skipSeparator,
    head?_fixedDigits_ne two_pos _ _ (by decide : (':').isDigit = false), decide_false,
    List.append_eq_nil_iff, fixedDigits_ne_nil two_pos, fixedDigits_ne_nil one_pos, and_false,
    if_false, short, Option.bind_none, Bool.false_eq_true]

/-! ## Reading an ISO text back -/

/-- An extended date ends at its tenth character. -/
theorem separatorLocation_extended (year month : ℕ) (rest : List Char) (long : 3 ≤ rest.length) :
    separatorLocation (fixedDigits 4 year ++ '-' :: (fixedDigits 2 month ++ rest)) = 10 := by
  have at4 : (fixedDigits 4 year ++ '-' :: (fixedDigits 2 month ++ rest))[4]? = some '-' := by
    rw [List.getElem?_append_right (by rw [fixedDigits_length]), fixedDigits_length]
    rfl
  have at5 : (fixedDigits 4 year ++ '-' :: (fixedDigits 2 month ++ rest))[5]? ≠ some 'W' := by
    rw [List.getElem?_append_right (by rw [fixedDigits_length]; norm_num), fixedDigits_length,
      List.getElem?_cons_succ, ← List.head?_eq_getElem?]
    exact head?_fixedDigits_ne two_pos month rest (by decide)
  unfold separatorLocation
  rw [if_neg (by simp; omega), if_pos at4, if_neg at5]

theorem readDate_extended (year month day : ℕ) :
    readDate (fixedDigits 4 year ++ '-' :: (fixedDigits 2 month ++ '-' :: fixedDigits 2 day)) =
      some ⟨(year % 10 ^ 4 : ℕ), (month % 10 ^ 2 : ℕ), (day % 10 ^ 2 : ℕ)⟩ := by
  unfold readDate
  simp only [takeDigits_fixedDigits, takeDigits_fixedDigits_end, Option.bind_eq_bind,
    Option.bind_some, List.head?_cons, List.tail_cons, decide_true, if_true, skipSeparator, skipChar,
    head?_fixedDigits_ne two_pos _ _ (by decide : ('W').isDigit = false), if_false]

/-- The fields of a length of less than a day. -/
def clockOf (time : ℤ) : Clock where
  hour := (time / 3600000000).toNat
  minute := (time / 60000000 % 60).toNat
  second := (time / 1000000 % 60).toNat
  microsecond := (time % 1000000).toNat

section Clock

variable {time : ℤ} (nonneg : 0 ≤ time) (within : time < microsecondsPerDay)
include nonneg within

theorem clockOf_toMicroseconds : (clockOf time).toMicroseconds = time := by
  unfold Clock.toMicroseconds clockOf
  unfold microsecondsPerDay at within
  dsimp only
  omega

theorem clockOf_real : (clockOf time).Real := by
  unfold Clock.Real clockOf
  unfold microsecondsPerDay at within
  dsimp only
  omega

theorem hourMinute_fields : padded 2 (time / 3600000000) = fixedDigits 2 (clockOf time).hour ∧
    padded 2 (time / 60000000 % 60) = fixedDigits 2 (clockOf time).minute := by
  unfold microsecondsPerDay at within
  exact ⟨padded_eq_fixedDigits two_pos (by omega) (by norm_num; omega),
    padded_eq_fixedDigits two_pos (by omega) (by norm_num; omega)⟩

theorem timeChars_fields : AwareDatetime.timeChars time =
    fixedDigits 2 (clockOf time).hour ++ ':' :: (fixedDigits 2 (clockOf time).minute ++ ':' ::
      (fixedDigits 2 (clockOf time).second ++
        if time % 1000000 = 0 then [] else '.' :: fixedDigits 6 (clockOf time).microsecond)) := by
  obtain ⟨hour, minute⟩ := hourMinute_fields nonneg within
  have second : padded 2 (time / 1000000 % 60) = fixedDigits 2 (clockOf time).second :=
    padded_eq_fixedDigits two_pos (by omega) (by norm_num; omega)
  have microsecond : padded 6 (time % 1000000) = fixedDigits 6 (clockOf time).microsecond :=
    padded_eq_fixedDigits (by norm_num) (by omega) (by norm_num; omega)
  rw [AwareDatetime.timeChars, hour, minute, second, microsecond]

theorem clockOf_small : (clockOf time).hour % 10 ^ 2 = (clockOf time).hour ∧
    (clockOf time).minute % 10 ^ 2 = (clockOf time).minute ∧
    (clockOf time).second % 10 ^ 2 = (clockOf time).second ∧
    (clockOf time).microsecond % 10 ^ 6 = (clockOf time).microsecond := by
  unfold clockOf
  unfold microsecondsPerDay at within
  dsimp only
  refine ⟨?_, ?_, ?_, ?_⟩ <;> exact Nat.mod_eq_of_lt (by norm_num; omega)

theorem readClock_timeChars : readClock (AwareDatetime.timeChars time) = some (clockOf time) := by
  obtain ⟨hour, minute, second, microsecond⟩ := clockOf_small nonneg within
  rw [timeChars_fields nonneg within]
  unfold readClock
  simp only [takeDigits_fixedDigits, Option.bind_eq_bind, Option.bind_some, List.head?_cons,
    List.tail_cons, decide_true, skipSeparator, skipChar, if_true, reduceCtorEq, if_false, hour,
    minute, second]
  by_cases whole : time % 1000000 = 0
  · have zero : (clockOf time).microsecond = 0 := by
      unfold clockOf
      dsimp only
      omega
    rw [if_pos whole, if_pos rfl, ← zero]
  · rw [if_neg whole, if_neg (List.cons_ne_nil _ _)]
    have digits : (fixedDigits 6 (clockOf time).microsecond).take 6 =
        fixedDigits 6 (clockOf time).microsecond :=
      List.take_of_length_le (by rw [fixedDigits_length])
    unfold readFraction
    rw [List.head?_cons, List.tail_cons, if_pos ⟨Or.inl rfl, fixedDigits_ne_nil (by norm_num) _,
      List.all_eq_true.mpr (fixedDigits_isDigit 6 _)⟩, digits, ofDigitChars_fixedDigits,
      fixedDigits_length, microsecond, Nat.sub_self, pow_zero, mul_one]
    rfl

theorem timeChars_noOffset : ∀ char ∈ AwareDatetime.timeChars time, beginsOffset char = false := by
  have colon : beginsOffset ':' = false := by decide
  have point : beginsOffset '.' = false := by decide
  have digits : ∀ width number, ∀ char ∈ fixedDigits width number, beginsOffset char = false :=
    fun width number char member => beginsOffset_of_isDigit (fixedDigits_isDigit width number char member)
  rw [timeChars_fields nonneg within]
  simp only [List.forall_mem_append, List.forall_mem_cons]
  refine ⟨digits _ _, colon, digits _ _, colon, digits _ _, ?_⟩
  split_ifs
  · exact fun char member => by cases member
  · exact List.forall_mem_cons.mpr ⟨point, digits _ _⟩

/-- A length without seconds, in hours and minutes. -/
theorem readClock_hourMinuteChars (minutes : time % 60000000 = 0) :
    readClock (padded 2 (time / 3600000000) ++ ':' :: padded 2 (time / 60000000 % 60)) =
      some (clockOf time) := by
  obtain ⟨hour, minute, -, -⟩ := clockOf_small nonneg within
  obtain ⟨hourField, minuteField⟩ := hourMinute_fields nonneg within
  rw [hourField, minuteField]
  unfold readClock
  simp only [takeDigits_fixedDigits, takeDigits_fixedDigits_end, Option.bind_eq_bind,
    Option.bind_some, List.head?_cons, List.tail_cons, decide_true, skipSeparator, skipChar, if_true,
    reduceCtorEq, if_false, hour, minute]
  have second : (clockOf time).second = 0 := by
    unfold clockOf
    dsimp only
    omega
  have microsecond : (clockOf time).microsecond = 0 := by
    unfold clockOf
    dsimp only
    omega
  conv_rhs => rw [show clockOf time = ⟨(clockOf time).hour, (clockOf time).minute,
    (clockOf time).second, (clockOf time).microsecond⟩ from rfl, second, microsecond]

end Clock

theorem offsetChars_cons (offset : ℤ) : AwareDatetime.offsetChars offset =
    (if offset < 0 then '-' else '+') :: (AwareDatetime.offsetChars offset).tail := by
  unfold AwareDatetime.offsetChars
  dsimp only [List.tail_cons]

theorem readOffset_offsetChars {offset : ℤ} (within : |offset| < microsecondsPerDay) :
    readOffset (AwareDatetime.offsetChars offset) = some (some offset) := by
  have length : (offset.natAbs : ℤ) = |offset| := Int.natCast_natAbs offset
  have nonneg : (0 : ℤ) ≤ offset.natAbs := by omega
  have small : (offset.natAbs : ℤ) < microsecondsPerDay := by rw [length]; exact within
  have clock : readClock (AwareDatetime.offsetChars offset).tail = some (clockOf offset.natAbs) := by
    unfold AwareDatetime.offsetChars
    dsimp only [List.tail_cons]
    split_ifs with minutes
    · exact readClock_hourMinuteChars nonneg small minutes
    · exact readClock_timeChars nonneg small
  have sign : (AwareDatetime.offsetChars offset).head? = some (if offset < 0 then '-' else '+') := by
    rw [offsetChars_cons, List.head?_cons]
  have nonempty : AwareDatetime.offsetChars offset ≠ [] := by
    rw [offsetChars_cons]
    exact List.cons_ne_nil _ _
  have noZulu : (AwareDatetime.offsetChars offset).head? ≠ some 'Z' := by
    rw [sign]
    split_ifs <;> decide
  have notZulu : AwareDatetime.offsetChars offset ≠ ['Z'] := by
    intro same
    rw [same] at noZulu
    exact noZulu rfl
  unfold readOffset
  rw [if_neg nonempty, if_neg notZulu, if_neg noZulu, clock, sign, Option.bind_some,
    clockOf_toMicroseconds nonneg small, if_pos small]
  by_cases negative : offset < 0
  · rw [if_pos negative, if_pos rfl]
    congr 2
    omega
  · rw [if_neg negative, if_neg (by decide)]
    congr 2
    omega

theorem readTime_isoformat {time offset : ℤ} (nonneg : 0 ≤ time)
    (within : time < microsecondsPerDay) (offsetWithin : |offset| < microsecondsPerDay) :
    readTime (AwareDatetime.timeChars time ++ AwareDatetime.offsetChars offset) =
      some (time, some offset) := by
  have noOffset := timeChars_noOffset nonneg within
  obtain ⟨sign, lengthChars, offsetEq, signBegins⟩ : ∃ sign lengthChars,
      AwareDatetime.offsetChars offset = sign :: lengthChars ∧ beginsOffset sign = true := by
    refine ⟨_, _, offsetChars_cons offset, ?_⟩
    split_ifs <;> decide
  have before : (AwareDatetime.timeChars time ++ AwareDatetime.offsetChars offset).takeWhile
      (fun char => !beginsOffset char) = AwareDatetime.timeChars time := by
    rw [List.takeWhile_append_of_pos fun char member => by rw [noOffset char member]; rfl, offsetEq,
      List.takeWhile_cons_of_neg (by rw [signBegins]; decide), List.append_nil]
  have after : (AwareDatetime.timeChars time ++ AwareDatetime.offsetChars offset).dropWhile
      (fun char => !beginsOffset char) = AwareDatetime.offsetChars offset := by
    rw [List.dropWhile_append_of_pos fun char member => by rw [noOffset char member]; rfl, offsetEq,
      List.dropWhile_cons_of_neg (by rw [signBegins]; decide)]
  unfold readTime
  rw [before, after, readClock_timeChars nonneg within, readOffset_offsetChars offsetWithin]
  simp only [Option.bind_eq_bind, Option.bind_some, clockOf_real nonneg within, if_true,
    clockOf_toMicroseconds nonneg within]

/-- Every aware datetime is read back from its ISO text, with its offset. -/
theorem fromisoformat_isoformat {moment : AwareDatetime}
    (start : MINYEAR ≤ (civilOfDays (moment.wallClock / microsecondsPerDay)).year)
    (finish : (civilOfDays (moment.wallClock / microsecondsPerDay)).year ≤ MAXYEAR)
    (offsetWithin : |moment.utcOffset| < microsecondsPerDay) :
    fromisoformat moment.isoformat = some ⟨moment.wallClock, some moment.utcOffset⟩ := by
  have real := real_civilOfDays (moment.wallClock / microsecondsPerDay)
  have day := daysOfCivil_civilOfDays (moment.wallClock / microsecondsPerDay)
  have whole := Int.mul_ediv_add_emod moment.wallClock microsecondsPerDay
  have nonneg := Int.emod_nonneg moment.wallClock (by decide : microsecondsPerDay ≠ 0)
  have within := Int.emod_lt_of_pos moment.wallClock (by decide : 0 < microsecondsPerDay)
  unfold fromisoformat AwareDatetime.isoformat
  rw [String.toList_ofList]
  generalize civilOfDays (moment.wallClock / microsecondsPerDay) = date at *
  obtain ⟨monthStart, monthEnd, dayStart, dayEnd⟩ := real
  have shortMonth : daysInMonth date.year date.month ≤ 31 := by
    unfold daysInMonth
    split_ifs <;> norm_num
  unfold MINYEAR at start
  unfold MAXYEAR at finish
  rw [padded_eq_fixedDigits (by norm_num) (by omega) (by norm_num; omega),
    padded_eq_fixedDigits two_pos (by omega) (by norm_num; omega),
    padded_eq_fixedDigits two_pos (by omega) (by norm_num; omega)]
  have text : fixedDigits 4 date.year.toNat ++ '-' :: (fixedDigits 2 date.month.toNat ++ '-' ::
      (fixedDigits 2 date.day.toNat ++ 'T' ::
        (AwareDatetime.timeChars (moment.wallClock % microsecondsPerDay) ++
          AwareDatetime.offsetChars moment.utcOffset))) =
      (fixedDigits 4 date.year.toNat ++ '-' :: (fixedDigits 2 date.month.toNat ++ '-' ::
        fixedDigits 2 date.day.toNat)) ++ 'T' ::
          (AwareDatetime.timeChars (moment.wallClock % microsecondsPerDay) ++
            AwareDatetime.offsetChars moment.utcOffset) := by
    simp only [List.append_assoc, List.cons_append]
  have length : (fixedDigits 4 date.year.toNat ++ '-' :: (fixedDigits 2 date.month.toNat ++ '-' ::
      fixedDigits 2 date.day.toNat)).length = 10 := by
    simp
  have location := separatorLocation_extended date.year.toNat date.month.toNat ('-' ::
    (fixedDigits 2 date.day.toNat ++ 'T' ::
      (AwareDatetime.timeChars (moment.wallClock % microsecondsPerDay) ++
        AwareDatetime.offsetChars moment.utcOffset))) (by simp)
  unfold fromIsoChars
  rw [location, text, List.take_left' length, List.drop_left' length, readDate_extended,
    if_neg (by simp; omega), Option.bind_eq_bind, Option.bind_some]
  have fields : (⟨(date.year.toNat % 10 ^ 4 : ℕ), (date.month.toNat % 10 ^ 2 : ℕ),
      (date.day.toNat % 10 ^ 2 : ℕ)⟩ : CivilDate) = date := by
    obtain ⟨year, month, day⟩ := date
    simp only [CivilDate.mk.injEq]
    dsimp only at start finish monthStart monthEnd dayStart dayEnd shortMonth
    omega
  rw [fields, if_pos ⟨start, finish, monthStart, monthEnd, dayStart, dayEnd⟩]
  dsimp only
  rw [if_neg (List.cons_ne_nil _ _), List.tail_cons, readTime_isoformat nonneg within offsetWithin,
    Option.bind_eq_bind, Option.bind_some, day]
  rw [mul_comm, whole]

end UrjaSetu.Library.IsoFormat
