import UrjaSetu.Library.IsoFormat
import UrjaSetu.Library.PythonText

/-!
Reading a datetime by a format of numeric directives, as `strptime` does: the
format is a regular expression, matched from the start of the text with the
alternatives in their order, and nothing may be left over.

A match is the first of a list of successes, which is what a backtracking
matcher finds.

Owns: the matcher, and that a format with a separator matches no run of digits.
-/

namespace UrjaSetu.Library.Strptime

open Calendar IsoFormat PythonText

inductive Directive where
  | year
  | month
  | day
  | hour
  | minute
  | second
  /-- A character, in either case. -/
  | literal (char : Char)
  /-- White space, at least one. -/
  | spaces
deriving DecidableEq, Repr

abbrev Format := List Directive

/-- What a format sets, and what it leaves at its default. -/
structure Fields where
  year : ℕ := 1900
  month : ℕ := 1
  day : ℕ := 1
  hour : ℕ := 0
  minute : ℕ := 0
  second : ℕ := 0
deriving DecidableEq, Repr

/-- `[first-last]`. -/
def between (first last : Char) (char : Char) : Bool := first ≤ char && char ≤ last

/-- `\\d`: a digit of any script. -/
def anyDigit (char : Char) : Bool := (decimalDigit char).isSome

/-- The alternatives of a directive, in the order the expression tries them. -/
def alternatives : Directive → List (List (Char → Bool))
  | .year => [[anyDigit, anyDigit, anyDigit, anyDigit]]
  | .month => [[(· = '1'), between '0' '2'], [(· = '0'), between '1' '9'], [between '1' '9']]
  | .day => [[(· = '3'), between '0' '1'], [between '1' '2', anyDigit], [(· = '0'), between '1' '9'],
      [between '1' '9'], [(· = ' '), between '1' '9']]
  | .hour => [[(· = '2'), between '0' '3'], [between '0' '1', anyDigit], [anyDigit]]
  | .minute => [[between '0' '5', anyDigit], [anyDigit]]
  | .second => [[(· = '6'), between '0' '1'], [between '0' '5', anyDigit], [anyDigit]]
  | .literal char => [[fun other => other.toLower = char.toLower]]
  | .spaces => []

/-- The characters at the head of the text that match, and what follows them. -/
def matchClasses : List (Char → Bool) → List Char → Option (List Char × List Char)
  | [], text => some ([], text)
  | _ :: _, [] => none
  | holds :: classes, char :: rest =>
      if holds char then (matchClasses classes rest).map fun found => (char :: found.1, found.2)
      else none

/-- The ways a directive matches at the head of the text, the preferred first. -/
def matchDirective (directive : Directive) (text : List Char) : List (List Char × List Char) :=
  match directive with
  | .spaces =>
      let run := (text.takeWhile isSpace).length
      ((List.range run).reverse.map (· + 1)).map fun count => (text.take count, text.drop count)
  | _ => (alternatives directive).filterMap fun classes => matchClasses classes text

/-- `int(found)`. -/
def readInt (found : List Char) : ℕ :=
  (found.filterMap decimalDigit).foldl (fun number digit => 10 * number + digit) 0

def setField (fields : Fields) (found : List Char) : Directive → Fields
  | .year => { fields with year := readInt found }
  | .month => { fields with month := readInt found }
  | .day => { fields with day := readInt found }
  | .hour => { fields with hour := readInt found }
  | .minute => { fields with minute := readInt found }
  | .second => { fields with second := readInt found }
  | .literal _ => fields
  | .spaces => fields

/-- The ways a format matches, with the fields each sets and what it leaves. -/
def matchFormat : Format → Fields → List Char → List (Fields × List Char)
  | [], fields, text => [(fields, text)]
  | directive :: format, fields, text =>
      (matchDirective directive text).flatMap fun found =>
        matchFormat format (setField fields found.1 directive) found.2

/-- The wall clock of the fields, in microseconds, if `datetime` can hold it. -/
def Fields.wallClock (fields : Fields) : Option ℤ :=
  let date : CivilDate := ⟨fields.year, fields.month, fields.day⟩
  let clock : Clock := ⟨fields.hour, fields.minute, fields.second, 0⟩
  if InRange date ∧ clock.Real then
    some (daysOfCivil date * microsecondsPerDay + clock.toMicroseconds)
  else none

/-- `datetime.strptime(text, format)`, or `none` for a `ValueError`. -/
def strptime (format : Format) (text : List Char) : Option ℤ := do
  let (fields, unconverted) ← (matchFormat format {} text).head?
  if unconverted = [] then fields.wallClock else none

/-- `%Y-%m-%d` with another separator. -/
def yearMonthDay (separator : Char) : Format :=
  [.year, .literal separator, .month, .literal separator, .day]

def hourMinute : Format := [.hour, .literal ':', .minute]

example : strptime (yearMonthDay '/' ++ .spaces :: hourMinute) "2024/2/9   7:05".toList =
    some 1707462300000000 := by decide +kernel
example : strptime (yearMonthDay '-') "2023-02-29".toList = none := by decide +kernel

/-! ## Runs of digits -/

theorem matchClasses_suffix {classes : List (Char → Bool)} {text : List Char}
    {found : List Char × List Char} (hit : matchClasses classes text = some found) :
    found.2 <:+ text := by
  induction classes generalizing text found with
  | nil =>
      cases hit
      exact List.suffix_rfl
  | cons holds classes inductionHypothesis =>
      cases text with
      | nil => cases hit
      | cons char rest =>
          rw [matchClasses] at hit
          split_ifs at hit
          obtain ⟨others, othersHit, rfl⟩ := Option.map_eq_some_iff.mp hit
          exact (inductionHypothesis othersHit).trans (List.suffix_cons char rest)

/-- What a directive leaves is the end of the text. -/
theorem matchDirective_suffix {directive : Directive} {text : List Char}
    {found : List Char × List Char} (member : found ∈ matchDirective directive text) :
    found.2 <:+ text := by
  have ofAlternatives : found ∈ (alternatives directive).filterMap
      (fun classes => matchClasses classes text) → found.2 <:+ text := by
    intro hit
    obtain ⟨classes, _, classesHit⟩ := List.mem_filterMap.mp hit
    exact matchClasses_suffix classesHit
  cases directive with
  | spaces =>
      obtain ⟨count, _, rfl⟩ := List.mem_map.mp member
      exact List.drop_suffix count text
  | _ => exact ofAlternatives member

/-- A character that is no digit does not match at the head of digits. -/
theorem matchDirective_literal_of_digits {char : Char} {text : List Char}
    (noDigit : ∀ digit : Char, digit.isDigit = true → digit.toLower ≠ char.toLower)
    (digits : ∀ other ∈ text, other.isDigit = true) : matchDirective (.literal char) text = [] := by
  cases text with
  | nil => rfl
  | cons head tail =>
      have mismatch := noDigit head (digits head (by simp))
      simp [matchDirective, alternatives, matchClasses, mismatch]

theorem matchFormat_of_digits {format : Format} {char : Char}
    (separator : Directive.literal char ∈ format)
    (noDigit : ∀ digit : Char, digit.isDigit = true → digit.toLower ≠ char.toLower)
    (fields : Fields) {text : List Char} (digits : ∀ other ∈ text, other.isDigit = true) :
    matchFormat format fields text = [] := by
  induction format generalizing fields text with
  | nil => cases separator
  | cons directive format inductionHypothesis =>
      rw [matchFormat]
      rcases List.mem_cons.mp separator with rfl | later
      · rw [matchDirective_literal_of_digits noDigit digits]
        rfl
      · rw [List.flatMap_eq_nil_iff]
        intro found member
        exact inductionHypothesis later _ fun other inside =>
          digits other ((matchDirective_suffix member).subset inside)

/-- A format with a separator reads no run of digits. -/
theorem strptime_of_digits {format : Format} {char : Char}
    (separator : Directive.literal char ∈ format)
    (noDigit : ∀ digit : Char, digit.isDigit = true → digit.toLower ≠ char.toLower)
    {text : List Char} (digits : ∀ other ∈ text, other.isDigit = true) :
    strptime format text = none := by
  rw [strptime, matchFormat_of_digits separator noDigit {} digits]
  rfl

end UrjaSetu.Library.Strptime
