import UrjaSetu.Adapters.CsvAdapter
import UrjaSetu.Library.Binary64Error

/-!
What the timestamp parser makes of an instant's own texts: its epoch in
milliseconds and its ISO rendering under any offset.

ISO 8601 is tried first, and its basic format with any separator has texts that
are all digits: thirteen of them are also a date, a separator and hours and
minutes, fifteen also have the seconds. An epoch of that length is read as the
epoch exactly where its digits are no such date.

Owns: that law, and the distance of the epoch parser from the instant.
-/

namespace UrjaSetu.Adapters.CsvAdapter

open UrjaSetu.Domain UrjaSetu.Library
open UrjaSetu.Library.Calendar UrjaSetu.Library.IsoFormat UrjaSetu.Library.FixedDigits
open UrjaSetu.Library.PythonText UrjaSetu.Library.Binary64 UrjaSetu.Library.Rounding
open UrjaSetu.Library.Strptime (strptime_of_digits)

/-- `str(milliseconds)`. -/
def epochText (milliseconds : ℕ) : String := String.ofList (Nat.toDigits 10 milliseconds)

/-- Eight digits as year, month and day. -/
def dateOfDigits (digits : ℕ) : CivilDate :=
  ⟨(digits / 10 ^ 4 % 10 ^ 4 : ℕ), (digits / 10 ^ 2 % 10 ^ 2 : ℕ), (digits % 10 ^ 2 : ℕ)⟩

/-- The date and the clock that the digits of an epoch spell around a separator. -/
def calendarReading (milliseconds : ℕ) : Option (CivilDate × Clock) :=
  if milliseconds < 10 ^ 12 then none
  else if milliseconds < 10 ^ 13 then
    some (dateOfDigits (milliseconds / 10 ^ 5),
      ⟨milliseconds / 10 ^ 2 % 10 ^ 2, milliseconds % 10 ^ 2, 0, 0⟩)
  else if milliseconds < 10 ^ 14 then none
  else some (dateOfDigits (milliseconds / 10 ^ 7),
    ⟨milliseconds / 10 ^ 4 % 10 ^ 2, milliseconds / 10 ^ 2 % 10 ^ 2, milliseconds % 10 ^ 2, 0⟩)

/-- The digits are a date and a time of day. -/
def ReadsAsDate (milliseconds : ℕ) : Prop :=
  ∃ reading ∈ calendarReading milliseconds, InRange reading.1 ∧ reading.2.Real

/-! ## The formats in their order -/

section Formats

variable {text : List Char} (nonempty : text ≠ [])
  (plain : ∀ char ∈ text, isSpace char = false ∧ char ≠ 'Z') (lineNum : ℕ)
include nonempty plain

private theorem parseTimestamp_of_iso {moment : Datetime} (iso : fromIsoChars text = some moment) :
    parseTimestamp (String.ofList text) lineNum =
      if inDatetimeRange (moment.wallClock - moment.utcOffset.getD 0) then
        .ok (moment.wallClock - moment.utcOffset.getD 0)
      else .error dateOutOfRange := by
  have stripped : strip text = text := stripBy_of_forall fun char member => (plain char member).1
  have noZulu : replaceChar 'Z' "+00:00".toList text = text :=
    replaceChar_of_forall fun char member => (plain char member).2
  unfold parseTimestamp
  dsimp only
  rw [String.toList_ofList, stripped, if_neg nonempty, noZulu, iso]

private theorem parseTimestamp_of_epoch {instant : Instant} (noIso : fromIsoChars text = none)
    (noFormat : (commonFormats.findSome? fun format => Strptime.strptime format text) = none)
    (epoch : parseEpoch text = some instant) :
    parseTimestamp (String.ofList text) lineNum = .ok instant := by
  have stripped : strip text = text := stripBy_of_forall fun char member => (plain char member).1
  have noZulu : replaceChar 'Z' "+00:00".toList text = text :=
    replaceChar_of_forall fun char member => (plain char member).2
  unfold parseTimestamp
  dsimp only
  rw [String.toList_ofList, stripped, if_neg nonempty, noZulu, noIso, noFormat, epoch]

end Formats

/-- Digits are in no case of a letter. -/
theorem toLower_of_isDigit {digit : Char} (isDigit : digit.isDigit = true) :
    digit.toLower = digit := by
  unfold Char.toLower
  rw [dif_neg]
  rintro ⟨upper, -⟩
  rw [Char.isDigit, Bool.and_eq_true, decide_eq_true_eq, decide_eq_true_eq] at isDigit
  exact absurd (UInt32.le_trans upper isDigit.2) (by decide)

/-- Every format after ISO 8601 has a separator. -/
theorem commonFormats_of_digits {text : List Char} (digits : ∀ char ∈ text, char.isDigit = true) :
    (commonFormats.findSome? fun format => Strptime.strptime format text) = none := by
  have noSeparator : ∀ char : Char, char.isDigit = false → char.toLower = char →
      ∀ digit : Char, digit.isDigit = true → digit.toLower ≠ char.toLower := by
    intro char noDigit lower digit isDigit same
    rw [toLower_of_isDigit isDigit, lower] at same
    rw [same, noDigit] at isDigit
    cases isDigit
  have separated : ∀ format ∈ commonFormats, Strptime.Directive.literal '-' ∈ format ∨
      Strptime.Directive.literal '/' ∈ format := by decide
  rw [List.findSome?_eq_none_iff]
  intro format member
  rcases separated format member with dash | slash
  · exact strptime_of_digits dash (noSeparator '-' (by decide) (by decide)) digits
  · exact strptime_of_digits slash (noSeparator '/' (by decide) (by decide)) digits

/-! ## The epoch as digits -/

/-- A clock that is only digits has no offset. -/
theorem readTime_fixedDigits (width number : ℕ) : readTime (fixedDigits width number) =
    (readClock (fixedDigits width number)).bind fun clock =>
      if clock.Real then some (clock.toMicroseconds, none) else none :=
  readTime_of_no_offset fun char member =>
    beginsOffset_of_isDigit (fixedDigits_isDigit width number char member)

/-- Eight digits, one more and a clock of `width` digits. -/
theorem fromIsoChars_fixedDigits (width number : ℕ) :
    fromIsoChars (fixedDigits (8 + (1 + width)) number) =
      (readClock (fixedDigits width number)).bind fun clock =>
        if InRange (dateOfDigits (number / 10 ^ (1 + width))) ∧ clock.Real then
          some ⟨daysOfCivil (dateOfDigits (number / 10 ^ (1 + width))) * microsecondsPerDay +
            clock.toMicroseconds, none⟩
        else none := by
  have separated : fixedDigits (8 + (1 + width)) number =
      fixedDigits 8 (number / 10 ^ (1 + width)) ++
        Nat.digitChar (number / 10 ^ width % 10) :: fixedDigits width number := by
    rw [fixedDigits_add 8, fixedDigits_add 1]
    rfl
  rw [separated, fromIsoChars_basic, readTime_fixedDigits]
  dsimp only
  rw [show (⟨(number / 10 ^ (1 + width) / 10 ^ 4 % 10 ^ 4 : ℕ),
    (number / 10 ^ (1 + width) / 10 ^ 2 % 10 ^ 2 : ℕ),
    (number / 10 ^ (1 + width) % 10 ^ 2 : ℕ)⟩ : CivilDate) =
      dateOfDigits (number / 10 ^ (1 + width)) from rfl]
  cases readClock (fixedDigits width number) with
  | none => simp
  | some clock =>
      by_cases date : InRange (dateOfDigits (number / 10 ^ (1 + width)))
      · by_cases real : clock.Real <;> simp [date, real]
      · simp [date]

/-- What ISO 8601 makes of the digits of an epoch is their calendar reading. -/
theorem fromIsoChars_epoch {milliseconds : ℕ} (start : 10 ^ 11 ≤ milliseconds)
    (finish : milliseconds < 10 ^ 15) :
    fromIsoChars (Nat.toDigits 10 milliseconds) =
      (calendarReading milliseconds).bind fun reading =>
        if InRange reading.1 ∧ reading.2.Real then
          some ⟨daysOfCivil reading.1 * microsecondsPerDay + reading.2.toMicroseconds, none⟩
        else none := by
  by_cases twelve : milliseconds < 10 ^ 12
  · rw [toDigits_eq_fixedDigits start twelve, fromIsoChars_fixedDigits 3, readClock_three,
      calendarReading, if_pos twelve]
    rfl
  by_cases thirteen : milliseconds < 10 ^ 13
  · rw [toDigits_eq_fixedDigits (not_lt.mp twelve) thirteen, fromIsoChars_fixedDigits 4,
      readClock_hourMinute, calendarReading, if_neg twelve, if_pos thirteen]
    rfl
  by_cases fourteen : milliseconds < 10 ^ 14
  · rw [toDigits_eq_fixedDigits (not_lt.mp thirteen) fourteen, fromIsoChars_fixedDigits 5,
      readClock_five, calendarReading, if_neg twelve, if_neg thirteen, if_pos fourteen]
    rfl
  · rw [toDigits_eq_fixedDigits (not_lt.mp fourteen) finish, fromIsoChars_fixedDigits 6,
      readClock_hourMinuteSecond, calendarReading, if_neg twelve, if_neg thirteen, if_neg fourteen]
    rfl

/-! ## The epoch as a number -/

/-- A second count that is not negative is off by at most a microsecond. -/
theorem fromtimestamp_close {seconds : ℚ} (nonneg : 0 ≤ seconds)
    (finish : seconds * 1000000 + 1 ≤ maxInstant) :
    ∃ instant, fromtimestamp seconds = some instant ∧ |(instant : ℚ) - seconds * 1000000| ≤ 1 := by
  have whole : Rounding.down.toInt seconds = ⌊seconds⌋ := if_pos nonneg
  have low := Int.floor_le seconds
  have high := Int.lt_floor_add_one seconds
  have wholeNonneg : (0 : ℤ) ≤ ⌊seconds⌋ := Int.floor_nonneg.mpr nonneg
  have twenty : (2 : ℚ) ^ (20 : ℤ) = 1048576 := by norm_num
  have fraction := @abs_double_sub_le_of_lt ((seconds - ⌊seconds⌋) * 1000000) 20 (by linarith)
    (by rw [twenty]; linarith)
  have nearest := abs_halfEvenInt_sub_le (double ((seconds - ⌊seconds⌋) * 1000000))
  have small : (2 : ℚ) ^ ((20 : ℤ) - 54) ≤ 1 / 2 := by norm_num
  obtain ⟨fractionLow, fractionHigh⟩ := abs_le.mp (fraction.trans small)
  obtain ⟨nearestLow, nearestHigh⟩ := abs_le.mp nearest
  have close : |((⌊seconds⌋ * 1000000 +
      halfEvenInt (double ((seconds - ⌊seconds⌋) * 1000000)) : ℤ) : ℚ) - seconds * 1000000| ≤ 1 := by
    rw [abs_le]
    push_cast
    constructor <;> linarith
  have representable : inDatetimeRange (⌊seconds⌋ * 1000000 +
      halfEvenInt (double ((seconds - ⌊seconds⌋) * 1000000))) = true := by
    obtain ⟨closeLow, closeHigh⟩ := abs_le.mp close
    have notEarly : (-1 : ℤ) ≤ ⌊seconds⌋ * 1000000 +
        halfEvenInt (double ((seconds - ⌊seconds⌋) * 1000000)) := by
      have : (-1 : ℚ) ≤ ((⌊seconds⌋ * 1000000 +
          halfEvenInt (double ((seconds - ⌊seconds⌋) * 1000000)) : ℤ) : ℚ) := by linarith
      exact_mod_cast this
    have notLate : ⌊seconds⌋ * 1000000 +
        halfEvenInt (double ((seconds - ⌊seconds⌋) * 1000000)) ≤ maxInstant := by
      have : ((⌊seconds⌋ * 1000000 +
          halfEvenInt (double ((seconds - ⌊seconds⌋) * 1000000)) : ℤ) : ℚ) ≤ maxInstant := by linarith
      exact_mod_cast this
    have early : minInstant ≤ -1 := by decide +kernel
    unfold inDatetimeRange
    rw [Bool.and_eq_true, decide_eq_true_eq, decide_eq_true_eq]
    exact ⟨early.trans notEarly, notLate⟩
  refine ⟨_, ?_, close⟩
  unfold fromtimestamp
  dsimp only
  rw [whole, if_pos representable]

/-- The largest epoch in milliseconds that `datetime` can hold. -/
def maxMilliseconds : ℕ := 253402300799999

/-- An epoch of milliseconds is off by less than twenty microseconds. -/
theorem parseEpoch_close {milliseconds : ℕ} (start : 10 ^ 11 < milliseconds)
    (finish : milliseconds ≤ maxMilliseconds) :
    ∃ instant, parseEpoch (Nat.toDigits 10 milliseconds) = some instant ∧
      |instant - 1000 * (milliseconds : ℤ)| < 20 := by
  unfold maxMilliseconds at finish
  have number : readFloat (Nat.toDigits 10 milliseconds) = some (milliseconds : ℚ) := by
    rw [readFloat_of_digits (Numerals.toDigits_isDigit milliseconds) Nat.toDigits_ne_nil,
      Nat.ofDigitChars_ten_toDigits, double_natCast (by omega)]
  have large : (100000000000 : ℚ) < milliseconds := by exact_mod_cast start
  have small : (milliseconds : ℚ) ≤ 253402300799999 := by exact_mod_cast finish
  have bits : (2 : ℚ) ^ (38 : ℤ) = 274877906944 := by norm_num
  have rounded := @abs_double_sub_le_of_lt ((milliseconds : ℚ) / 1000) 38 (by linarith)
    (by rw [bits]; linarith)
  have error : (2 : ℚ) ^ ((38 : ℤ) - 54) = 1 / 65536 := by norm_num
  rw [error] at rounded
  obtain ⟨roundedLow, roundedHigh⟩ := abs_le.mp rounded
  have finishInstant : (maxInstant : ℚ) = 253402300799999999 := by
    exact_mod_cast (by decide +kernel : maxInstant = 253402300799999999)
  obtain ⟨instant, read, close⟩ := @fromtimestamp_close (double ((milliseconds : ℚ) / 1000))
    (by linarith) (by rw [finishInstant]; linarith)
  obtain ⟨closeLow, closeHigh⟩ := abs_le.mp close
  refine ⟨instant, ?_, ?_⟩
  · unfold parseEpoch
    rw [number, Option.bind_some, if_pos large, read]
  · have within : |((instant - 1000 * (milliseconds : ℤ) : ℤ) : ℚ)| < ((20 : ℤ) : ℚ) := by
      rw [abs_lt]
      push_cast
      constructor <;> linarith
    rw [← Int.cast_abs] at within
    exact_mod_cast within

/-! ## The ISO rendering -/

section Iso

/-- White space and `Z`, which the parser changes, are not in the text. -/
def PlainText (text : List Char) : Prop := ∀ char ∈ text, isSpace char = false ∧ char ≠ 'Z'

private theorem PlainText.append {left right : List Char} (leftPlain : PlainText left)
    (rightPlain : PlainText right) : PlainText (left ++ right) :=
  List.forall_mem_append.mpr ⟨leftPlain, rightPlain⟩

private theorem PlainText.cons {char : Char} {rest : List Char}
    (charPlain : isSpace char = false ∧ char ≠ 'Z') (restPlain : PlainText rest) :
    PlainText (char :: rest) :=
  List.forall_mem_cons.mpr ⟨charPlain, restPlain⟩

private theorem padded_plain (width : ℕ) (number : ℤ) : PlainText (padded width number) := by
  have digits : PlainText (paddedDigits width number.natAbs) := by
    intro char member
    have laws := digit_laws (paddedDigits_isDigit width number.natAbs char member)
    exact ⟨laws.1, laws.2.2.2⟩
  unfold padded
  split
  · exact digits.cons (by decide)
  · exact digits

private theorem timeChars_plain (time : ℤ) : PlainText (AwareDatetime.timeChars time) := by
  unfold AwareDatetime.timeChars
  refine (padded_plain 2 _).append (PlainText.cons (by decide) ((padded_plain 2 _).append
    (PlainText.cons (by decide) ((padded_plain 2 _).append ?_))))
  split
  · intro char member
    cases member
  · exact (padded_plain 6 _).cons (by decide)

private theorem offsetChars_plain (offset : ℤ) : PlainText (AwareDatetime.offsetChars offset) := by
  unfold AwareDatetime.offsetChars
  apply PlainText.cons
  · split <;> decide
  · split
    · exact (padded_plain 2 _).append ((padded_plain 2 _).cons (by decide))
    · exact timeChars_plain _

private theorem isoformat_plain (moment : AwareDatetime) : PlainText moment.isoformat.toList := by
  unfold AwareDatetime.isoformat
  rw [String.toList_ofList]
  exact (padded_plain 4 _).append (PlainText.cons (by decide) ((padded_plain 2 _).append
    (PlainText.cons (by decide) ((padded_plain 2 _).append (PlainText.cons (by decide)
      ((timeChars_plain _).append (offsetChars_plain _)))))))

/-- A wall clock that `datetime` can hold has a year it can hold. -/
theorem year_bounds {wallClock : ℤ} (representable : inDatetimeRange wallClock = true) :
    MINYEAR ≤ (civilOfDays (wallClock / microsecondsPerDay)).year ∧
      (civilOfDays (wallClock / microsecondsPerDay)).year ≤ MAXYEAR := by
  rw [inDatetimeRange, Bool.and_eq_true, decide_eq_true_eq, decide_eq_true_eq,
    show minInstant = -62135596800000000 by decide +kernel,
    show maxInstant = 253402300799999999 by decide +kernel] at representable
  have real := real_civilOfDays (wallClock / microsecondsPerDay)
  have day := daysOfCivil_civilOfDays (wallClock / microsecondsPerDay)
  have notEarly : (-62135596800000000 : ℤ) ≤ wallClock := representable.1
  have notLate : wallClock ≤ (253402300799999999 : ℤ) := representable.2
  have within : -719162 ≤ wallClock / microsecondsPerDay ∧
      wallClock / microsecondsPerDay < 2932897 := by
    unfold microsecondsPerDay
    omega
  unfold MINYEAR MAXYEAR
  constructor
  · by_contra early
    have before := daysOfCivil_of_year_small real (by omega)
    omega
  · by_contra late
    have after := daysOfCivil_of_year_large real (by omega)
    omega

/-- The ISO text of an instant is read as the instant, whatever the offset. -/
theorem parseTimestamp_isoformat {instant offset : ℤ} (lineNum : ℕ)
    (representable : inDatetimeRange instant = true)
    (localRepresentable : inDatetimeRange (instant + offset) = true)
    (offsetWithin : |offset| < microsecondsPerDay) :
    parseTimestamp (AwareDatetime.isoformat ⟨instant + offset, offset⟩) lineNum = .ok instant := by
  obtain ⟨start, finish⟩ := year_bounds localRepresentable
  have iso := @fromisoformat_isoformat ⟨instant + offset, offset⟩ start finish offsetWithin
  have nonempty : (AwareDatetime.isoformat ⟨instant + offset, offset⟩).toList ≠ [] := by
    intro empty
    unfold fromisoformat at iso
    rw [empty] at iso
    cases iso
  have back : instant + offset - (some offset).getD 0 = instant := by
    rw [Option.getD_some]
    ring
  have parsed := parseTimestamp_of_iso nonempty (isoformat_plain _) lineNum iso
  rwa [String.ofList_toList, back, if_pos representable] at parsed

end Iso

/-! ## Epochs of milliseconds -/

/-- Near a minute of a day whose clock is its own last four digits, an epoch is
the start of that day. -/
theorem wholeDay_of_near {days : ℤ} {milliseconds hour minute : ℕ}
    (hourEq : hour = milliseconds / 100 % 100) (minuteEq : minute = milliseconds % 100)
    (near : |days * 86400000000 + (3600000000 * (hour : ℤ) + 60000000 * minute) -
      1000 * (milliseconds : ℤ)| < 1000) :
    (milliseconds : ℤ) = 86400000 * days := by
  obtain ⟨low, high⟩ := abs_lt.mp near
  have minutes : (milliseconds : ℤ) = 60000 * (1440 * days + 60 * hour + minute) := by omega
  have lastDigits : milliseconds % 10000 = 0 := by omega
  have noMinute : minute = 0 := by omega
  have noHour : hour = 0 := by omega
  rw [minutes, noMinute, noHour]
  push_cast
  ring

/-- No date's digits count the days to it in units of 864: only 2034 has dates of
about that size, and none of them fits. -/
theorem digits_ne_days {year month day : ℕ} (real : CivilDate.Real ⟨year, month, day⟩) :
    ((10000 * year + 100 * month + day : ℕ) : ℤ) ≠ 864 * daysOfCivil ⟨year, month, day⟩ := by
  intro same
  have bounds := daysOfCivil_bounds real
  obtain ⟨monthStart, monthEnd, dayStart, dayEnd⟩ := real
  have short : daysInMonth year month ≤ 31 := by
    unfold daysInMonth
    split_ifs <;> norm_num
  dsimp only at bounds monthStart monthEnd dayStart dayEnd
  have theYear : year = 2034 := by omega
  subst theYear
  unfold daysOfCivil at same
  dsimp only at same
  norm_cast at monthStart monthEnd
  interval_cases month <;> norm_num at same <;> omega

/-- Thirteen digits are never a date and a time at the instant they count to. -/
theorem thirteenDigits_far {milliseconds : ℕ} (within : milliseconds < 10 ^ 13)
    (real : (dateOfDigits (milliseconds / 10 ^ 5)).Real) :
    1000 ≤ |daysOfCivil (dateOfDigits (milliseconds / 10 ^ 5)) * microsecondsPerDay +
      Clock.toMicroseconds ⟨milliseconds / 10 ^ 2 % 10 ^ 2, milliseconds % 10 ^ 2, 0, 0⟩ -
        1000 * (milliseconds : ℤ)| := by
  by_contra near
  have wholeDay : (milliseconds : ℤ) =
      86400000 * daysOfCivil (dateOfDigits (milliseconds / 10 ^ 5)) := by
    refine wholeDay_of_near rfl rfl ?_
    rw [not_le, Clock.toMicroseconds] at near
    push_cast at near ⊢
    rw [add_zero, add_zero] at near
    exact near
  apply digits_ne_days real
  rw [show (⟨(milliseconds / 10 ^ 5 / 10 ^ 4 % 10 ^ 4 : ℕ), (milliseconds / 10 ^ 5 / 10 ^ 2 % 10 ^ 2 : ℕ),
    (milliseconds / 10 ^ 5 % 10 ^ 2 : ℕ)⟩ : CivilDate) = dateOfDigits (milliseconds / 10 ^ 5) from rfl]
  have fields : ∀ digits < 10 ^ 8, 10000 * (digits / 10 ^ 4 % 10 ^ 4) +
      100 * (digits / 10 ^ 2 % 10 ^ 2) + digits % 10 ^ 2 = digits := by
    intro digits small
    have century : digits / 10 ^ 4 = digits / 10 ^ 2 / 10 ^ 2 := by
      rw [Nat.div_div_eq_div_mul, ← pow_add]
    rw [century]
    omega
  rw [fields _ (by omega)]
  generalize daysOfCivil (dateOfDigits (milliseconds / 10 ^ 5)) = days at wholeDay ⊢
  omega

/-- Fifteen digits are a date long before the instant they count to. -/
theorem fifteenDigits_far {milliseconds : ℕ} (start : 10 ^ 14 ≤ milliseconds)
    (finish : milliseconds ≤ maxMilliseconds) {clock : Clock} (clockReal : clock.Real)
    (noFraction : clock.microsecond = 0)
    (real : (dateOfDigits (milliseconds / 10 ^ 7)).Real) :
    1000 ≤ |daysOfCivil (dateOfDigits (milliseconds / 10 ^ 7)) * microsecondsPerDay +
      clock.toMicroseconds - 1000 * (milliseconds : ℤ)| := by
  have bounds := (daysOfCivil_bounds real).2
  unfold maxMilliseconds at finish
  obtain ⟨hour, minute, second⟩ := clockReal
  have year : (dateOfDigits (milliseconds / 10 ^ 7)).year ≤ 2534 := by
    unfold dateOfDigits
    dsimp only
    omega
  generalize daysOfCivil (dateOfDigits (milliseconds / 10 ^ 7)) = days at bounds ⊢
  have days : days ≤ 206367 := by omega
  unfold Clock.toMicroseconds microsecondsPerDay
  rw [abs_sub_comm, le_abs]
  left
  omega

/-- A calendar reading is never the instant. -/
theorem calendarReading_far {milliseconds : ℕ} (finish : milliseconds ≤ maxMilliseconds)
    {reading : CivilDate × Clock} (read : calendarReading milliseconds = some reading)
    (date : InRange reading.1) (clock : reading.2.Real) :
    1000 ≤ |daysOfCivil reading.1 * microsecondsPerDay + reading.2.toMicroseconds -
      1000 * (milliseconds : ℤ)| := by
  unfold calendarReading at read
  split_ifs at read with twelve thirteen fourteen
  · cases read
    exact thirteenDigits_far thirteen date.2.2
  · cases read
    exact fifteenDigits_far (not_lt.mp fourteen) finish clock rfl date.2.2

/-- 2001-09-09 in milliseconds. -/
def minMilliseconds : ℕ := 999993600000

section Law

variable {milliseconds : ℕ} (start : minMilliseconds ≤ milliseconds)
  (finish : milliseconds ≤ maxMilliseconds) (lineNum : ℕ)
include start finish

private theorem parseTimestamp_epoch_close (noDate : ¬ ReadsAsDate milliseconds) :
    ∃ instant, parseTimestamp (epochText milliseconds) lineNum = .ok instant ∧
      |instant - 1000 * (milliseconds : ℤ)| < 1000 := by
  have digits := Numerals.toDigits_isDigit milliseconds
  unfold minMilliseconds at start
  obtain ⟨instant, read, close⟩ := parseEpoch_close (show 10 ^ 11 < milliseconds by omega) finish
  unfold maxMilliseconds at finish
  have noIso : fromIsoChars (Nat.toDigits 10 milliseconds) = none := by
    rw [fromIsoChars_epoch (by omega) (by omega)]
    cases reading : calendarReading milliseconds with
    | none => rfl
    | some found =>
        rw [Option.bind_some, if_neg]
        exact fun real => noDate ⟨found, reading, real⟩
  have plain : ∀ char ∈ Nat.toDigits 10 milliseconds, isSpace char = false ∧ char ≠ 'Z' := by
    intro char member
    have laws := digit_laws (digits char member)
    exact ⟨laws.1, laws.2.2.2⟩
  exact ⟨instant, parseTimestamp_of_epoch Nat.toDigits_ne_nil plain lineNum noIso
    (commonFormats_of_digits digits) read, by linarith⟩

private theorem parseTimestamp_epoch_far {instant : Instant} (date : ReadsAsDate milliseconds)
    (returned : parseTimestamp (epochText milliseconds) lineNum = .ok instant) :
    1000 ≤ |instant - 1000 * (milliseconds : ℤ)| := by
  obtain ⟨reading, read, inRange, real⟩ := date
  have far := calendarReading_far finish read inRange real
  unfold minMilliseconds at start
  unfold maxMilliseconds at finish
  have iso : fromIsoChars (Nat.toDigits 10 milliseconds) = some
      ⟨daysOfCivil reading.1 * microsecondsPerDay + reading.2.toMicroseconds, none⟩ := by
    rw [fromIsoChars_epoch (by omega) (by omega), read, Option.bind_some, if_pos ⟨inRange, real⟩]
  have plain : ∀ char ∈ Nat.toDigits 10 milliseconds, isSpace char = false ∧ char ≠ 'Z' := by
    intro char member
    have laws := digit_laws (Numerals.toDigits_isDigit milliseconds char member)
    exact ⟨laws.1, laws.2.2.2⟩
  rw [epochText, parseTimestamp_of_iso Nat.toDigits_ne_nil plain lineNum iso] at returned
  dsimp only at returned
  rw [Option.getD_none, sub_zero] at returned
  split_ifs at returned
  rw [← Except.ok.inj returned]
  exact far

/-- From 2001-09-09 on, an instant is read from its epoch in milliseconds, up to
the rounding of a float, and from its ISO text under any offset, exactly where
the digits of the epoch are no date and time. -/
theorem parseTimestamp_instant_iff :
    ((∃ instant, parseTimestamp (epochText milliseconds) lineNum = .ok instant ∧
      |instant - 1000 * (milliseconds : ℤ)| < 1000) ∧
        ∀ offset : ℤ, |offset| < microsecondsPerDay →
          inDatetimeRange (1000 * (milliseconds : ℤ) + offset) = true →
            parseTimestamp (AwareDatetime.isoformat
              ⟨1000 * (milliseconds : ℤ) + offset, offset⟩) lineNum =
                .ok (1000 * (milliseconds : ℤ))) ↔
      ¬ ReadsAsDate milliseconds := by
  constructor
  · rintro ⟨⟨instant, returned, close⟩, _⟩ date
    have far := parseTimestamp_epoch_far start finish lineNum date returned
    exact absurd close (not_lt.mpr far)
  · intro noDate
    refine ⟨parseTimestamp_epoch_close start finish lineNum noDate, ?_⟩
    intro offset offsetWithin localRepresentable
    refine parseTimestamp_isoformat lineNum ?_ localRepresentable offsetWithin
    unfold minMilliseconds at start
    unfold maxMilliseconds at finish
    unfold inDatetimeRange
    rw [Bool.and_eq_true, decide_eq_true_eq, decide_eq_true_eq,
      show minInstant = -62135596800000000 by decide +kernel,
      show maxInstant = 253402300799999999 by decide +kernel]
    constructor
    · show (-62135596800000000 : ℤ) ≤ 1000 * (milliseconds : ℤ)
      omega
    · show 1000 * (milliseconds : ℤ) ≤ (253402300799999999 : ℤ)
      omega

end Law

/-- 2024-04-01T22:21:52.399: the digits end in a minute that no clock shows. -/
theorem parseTimestamp_instant_sample :
    minMilliseconds ≤ 1712010112399 ∧ 1712010112399 ≤ maxMilliseconds ∧
      (((∃ instant, parseTimestamp (epochText 1712010112399) 2 = .ok instant ∧
        |instant - 1000 * ((1712010112399 : ℕ) : ℤ)| < 1000) ∧
          ∀ offset : ℤ, |offset| < microsecondsPerDay →
            inDatetimeRange (1000 * ((1712010112399 : ℕ) : ℤ) + offset) = true →
              parseTimestamp (AwareDatetime.isoformat
                ⟨1000 * ((1712010112399 : ℕ) : ℤ) + offset, offset⟩) 2 =
                  .ok (1000 * ((1712010112399 : ℕ) : ℤ))) ↔
        ¬ ReadsAsDate 1712010112399) :=
  ⟨by decide, by decide, parseTimestamp_instant_iff (by decide) (by decide) 2⟩

/-- 2024-04-01T22:21:52.305 is read as 23:05 on the first day of 1712. -/
theorem epochMilliseconds_misread :
    parseTimestamp (epochText 1712010112305) 2 = .ok (-8141648100000000) ∧
      ¬ ∃ instant, parseTimestamp (epochText 1712010112305) 2 = .ok instant ∧
        |instant - 1000 * ((1712010112305 : ℕ) : ℤ)| < 1000 := by
  have read : parseTimestamp (epochText 1712010112305) 2 = .ok (-8141648100000000) := by
    decide +kernel
  refine ⟨read, ?_⟩
  rintro ⟨instant, returned, close⟩
  rw [read] at returned
  rw [← Except.ok.inj returned] at close
  exact absurd close (by decide)

end UrjaSetu.Adapters.CsvAdapter
