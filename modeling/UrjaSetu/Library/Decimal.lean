import UrjaSetu.Library.Numerals
import UrjaSetu.Library.Rounding

/-!
Decimal numerals: a sign, a coefficient and a power of ten, as an unbounded
decimal type stores them, and their texts.

Owns: the value of a numeral, the shortest numeral of a rational on a decimal
grid, the rendering without an exponent, the normal form, and that the normal
form's text says the value and nothing else.
-/

namespace UrjaSetu.Library

open Rounding

structure Decimal where
  negative : Bool
  coefficient : ℕ
  exponent : ℤ
deriving DecidableEq, Repr

namespace Decimal

/-- The number a numeral denotes. -/
def toRat (number : Decimal) : ℚ :=
  (if number.negative then -1 else 1) * number.coefficient * 10 ^ number.exponent

def zeros (count : ℕ) : List Char := List.replicate count '0'

/-- The magnitude without an exponent: the coefficient's digits with the point
`exponent` places after their end. -/
def plainDigits (coefficient : ℕ) (exponent : ℤ) : List Char :=
  let digits := Nat.toDigits 10 coefficient
  if 0 ≤ exponent then
    if coefficient = 0 then digits else digits ++ zeros exponent.toNat
  else
    let places := (-exponent).toNat
    if places < digits.length then
      digits.take (digits.length - places) ++ '.' :: digits.drop (digits.length - places)
    else '0' :: '.' :: (zeros (places - digits.length) ++ digits)

/-- `format(number, "f")`. -/
def formatF (number : Decimal) : String :=
  String.ofList ((if number.negative then ['-'] else []) ++
    plainDigits number.coefficient number.exponent)

/-- The fewest decimals that hold `value` exactly; a denominator of a decimal
has no more places than bits. -/
def places (value : ℚ) : ℕ :=
  ((List.range (value.den.log2 + 1)).find? fun count => OnGrid count value).getD 0

/-- The numeral of a decimal value with no trailing zeros after the point. -/
def ofRat (value : ℚ) : Decimal where
  negative := value < 0
  coefficient := (value * 10 ^ places value).num.natAbs
  exponent := -(places value : ℤ)

/-! ## The general text -/

/-- `E+3` and the like. -/
def exponentChars (exponent : ℤ) : List Char :=
  'E' :: (if exponent < 0 then '-' else '+') :: Nat.toDigits 10 exponent.natAbs

/-- One digit, the point, and the others. -/
def mantissa (digits : List Char) : List Char :=
  if digits.length = 1 then digits else digits.take 1 ++ '.' :: digits.drop 1

/-- The magnitude as `str` writes it: without an exponent where that needs no
padding to the right and at most six zeros to the left. -/
def magnitudeChars (coefficient : ℕ) (exponent : ℤ) : List Char :=
  let digits := Nat.toDigits 10 coefficient
  let adjusted := exponent + digits.length - 1
  if exponent ≤ 0 ∧ -6 ≤ adjusted then plainDigits coefficient exponent
  else mantissa digits ++ exponentChars adjusted

def strChars (number : Decimal) : List Char :=
  (if number.negative then ['-'] else []) ++ magnitudeChars number.coefficient number.exponent

/-- `str(number)`. -/
def str (number : Decimal) : String := String.ofList number.strChars

/-- Take trailing zeros off a coefficient, at most `fuel` of them. -/
def stripZeros : ℕ → ℕ → ℤ → ℕ × ℤ
  | 0, coefficient, exponent => (coefficient, exponent)
  | fuel + 1, coefficient, exponent =>
      if coefficient % 10 = 0 then stripZeros fuel (coefficient / 10) (exponent + 1)
      else (coefficient, exponent)

/-- `number.normalize()`. -/
def normalize (number : Decimal) : Decimal :=
  if number.coefficient = 0 then ⟨number.negative, 0, 0⟩
  else
    let stripped := stripZeros number.coefficient number.coefficient number.exponent
    ⟨number.negative, stripped.1, stripped.2⟩

/-! ### Reading a text back -/

/-- The digits of a magnitude, and how many of them follow the point. -/
def readMantissa (text : List Char) : ℕ × ℕ :=
  let whole := text.takeWhile (· ≠ '.')
  let fraction := (text.dropWhile (· ≠ '.')).drop 1
  (Nat.ofDigitChars 10 (whole ++ fraction) 0, fraction.length)

def readExponent : List Char → ℤ
  | '-' :: digits => -(Nat.ofDigitChars 10 digits 0 : ℤ)
  | _ :: digits => Nat.ofDigitChars 10 digits 0
  | [] => 0

/-- Coefficient and exponent of a magnitude's text. -/
def readMagnitude (text : List Char) : ℕ × ℤ :=
  let read := readMantissa (text.takeWhile (· ≠ 'E'))
  (read.1, readExponent ((text.dropWhile (· ≠ 'E')).drop 1) - read.2)

theorem digits_ne (coefficient : ℕ) (char : Char) (noDigit : char.isDigit = false) :
    ∀ digit ∈ Nat.toDigits 10 coefficient, digit ≠ char := by
  intro digit member same
  have isDigit := Numerals.toDigits_isDigit coefficient digit member
  rw [same, noDigit] at isDigit
  cases isDigit

theorem takeWhile_before {text : List Char} {stop : Char} (rest : List Char) (before : ∀ char ∈ text, char ≠ stop) :
    (text ++ stop :: rest).takeWhile (· ≠ stop) = text ∧
      (text ++ stop :: rest).dropWhile (· ≠ stop) = stop :: rest := by
  induction text with
  | nil => simp
  | cons head tail inductionHypothesis =>
      have apart := before head (by simp)
      have onward := inductionHypothesis (fun char member => before char (by simp [member]))
      simp only [List.cons_append, List.takeWhile_cons, List.dropWhile_cons, apart, ne_eq,
        not_false_eq_true, decide_true, if_true, onward, and_self]

theorem takeWhile_throughout {text : List Char} {stop : Char} (before : ∀ char ∈ text, char ≠ stop) :
    text.takeWhile (· ≠ stop) = text ∧ text.dropWhile (· ≠ stop) = [] := by
  constructor
  · rw [List.takeWhile_eq_self_iff]
    simpa using before
  · rw [List.dropWhile_eq_nil_iff]
    simpa using before

theorem readMantissa_point {whole fraction : List Char} (before : ∀ char ∈ whole, char ≠ '.') :
    readMantissa (whole ++ '.' :: fraction) =
      (Nat.ofDigitChars 10 (whole ++ fraction) 0, fraction.length) := by
  have parts := takeWhile_before fraction before
  simp only [readMantissa, parts.1, parts.2, List.drop_succ_cons, List.drop_zero]

theorem readMantissa_whole {whole : List Char} (before : ∀ char ∈ whole, char ≠ '.') :
    readMantissa whole = (Nat.ofDigitChars 10 whole 0, 0) := by
  have parts := takeWhile_throughout before
  simp only [readMantissa, parts.1, parts.2, List.drop_nil, List.append_nil, List.length_nil]

/-- A text without an exponent says coefficient and places. -/
theorem readMantissa_plainDigits (coefficient : ℕ) {exponent : ℤ} (nonpos : exponent ≤ 0) :
    readMantissa (plainDigits coefficient exponent) = (coefficient, (-exponent).toNat) := by
  have noPoint := digits_ne coefficient '.' (by decide)
  dsimp only [plainDigits]
  split
  · rename_i nonneg
    have zero : exponent = 0 := le_antisymm nonpos nonneg
    subst zero
    simp only [zeros, Int.toNat_zero, List.replicate_zero, List.append_nil, ite_self, neg_zero]
    rw [readMantissa_whole noPoint, Nat.ofDigitChars_ten_toDigits]
  · split
    · rename_i inside
      rw [readMantissa_point, List.take_append_drop, Nat.ofDigitChars_ten_toDigits,
        List.length_drop]
      · congr 1
        omega
      · intro char member
        exact noPoint char (List.mem_of_mem_take member)
    · rename_i outside
      show readMantissa (['0'] ++ '.' :: _) = _
      rw [readMantissa_point (by simp)]
      have value : Nat.ofDigitChars 10 (['0'] ++ (zeros ((-exponent).toNat -
          (Nat.toDigits 10 coefficient).length) ++ Nat.toDigits 10 coefficient)) 0 =
            coefficient := by
        rw [Nat.ofDigitChars_append, zeros, Nat.ofDigitChars_append,
          Nat.ofDigitChars_replicate_zero]
        simp [Nat.ofDigitChars_cons, Nat.ofDigitChars_ten_toDigits]
      rw [value, List.length_append, zeros, List.length_replicate]
      congr 1
      omega

theorem readExponent_exponentChars (exponent : ℤ) :
    readExponent ((exponentChars exponent).drop 1) = exponent := by
  unfold exponentChars
  by_cases negative : exponent < 0
  · simp only [negative, if_true, List.drop_succ_cons, List.drop_zero, readExponent,
      Nat.ofDigitChars_ten_toDigits]
    omega
  · simp only [negative, if_false, List.drop_succ_cons, List.drop_zero]
    show ((Nat.ofDigitChars 10 (Nat.toDigits 10 exponent.natAbs) 0 : ℕ) : ℤ) = exponent
    rw [Nat.ofDigitChars_ten_toDigits]
    omega

theorem readMantissa_mantissa (coefficient : ℕ) :
    readMantissa (mantissa (Nat.toDigits 10 coefficient)) =
      (coefficient, (Nat.toDigits 10 coefficient).length - 1) := by
  have noPoint := digits_ne coefficient '.' (by decide)
  unfold mantissa
  split
  · rename_i single
    rw [readMantissa_whole noPoint, Nat.ofDigitChars_ten_toDigits, single]
  · rw [readMantissa_point, List.take_append_drop, Nat.ofDigitChars_ten_toDigits,
      List.length_drop]
    intro char member
    exact noPoint char (List.mem_of_mem_take member)

/-- The characters of a magnitude before its exponent. -/
theorem plainDigits_ne (coefficient : ℕ) (exponent : ℤ) :
    ∀ char ∈ plainDigits coefficient exponent, char.isDigit = true ∨ char = '.' := by
  have digits := Numerals.toDigits_isDigit coefficient
  have padding : ∀ count, ∀ char ∈ zeros count, char.isDigit = true := by
    intro count char member
    rw [List.eq_of_mem_replicate member]
    decide
  intro char member
  dsimp only [plainDigits] at member
  split_ifs at member
  · exact Or.inl (digits char member)
  · rcases List.mem_append.mp member with inside | after
    · exact Or.inl (digits char inside)
    · exact Or.inl (padding _ char after)
  · rcases List.mem_append.mp member with inside | after
    · exact Or.inl (digits char (List.mem_of_mem_take inside))
    · rcases List.mem_cons.mp after with point | fraction
      · exact Or.inr point
      · exact Or.inl (digits char (List.mem_of_mem_drop fraction))
  · rcases List.mem_cons.mp member with zero | after
    · left
      rw [zero]
      decide
    · rcases List.mem_cons.mp after with point | rest
      · exact Or.inr point
      · rcases List.mem_append.mp rest with inside | fraction
        · exact Or.inl (padding _ char inside)
        · exact Or.inl (digits char fraction)

theorem mantissa_ne (coefficient : ℕ) :
    ∀ char ∈ mantissa (Nat.toDigits 10 coefficient), char.isDigit = true ∨ char = '.' := by
  have digits := Numerals.toDigits_isDigit coefficient
  intro char member
  unfold mantissa at member
  split at member
  · exact Or.inl (digits char member)
  · rcases List.mem_append.mp member with inside | after
    · exact Or.inl (digits char (List.mem_of_mem_take inside))
    · rcases List.mem_cons.mp after with point | fraction
      · exact Or.inr point
      · exact Or.inl (digits char (List.mem_of_mem_drop fraction))

theorem ne_of_digit_or_point {char stop : Char} (isPart : char.isDigit = true ∨ char = '.')
    (noDigit : stop.isDigit = false) (noPoint : stop ≠ '.') : char ≠ stop := by
  intro same
  rcases isPart with digit | point
  · rw [same, noDigit] at digit
    cases digit
  · exact noPoint (same.symm.trans point)

/-- The text of a magnitude says its coefficient and its exponent. -/
theorem readMagnitude_magnitudeChars (coefficient : ℕ) (exponent : ℤ) :
    readMagnitude (magnitudeChars coefficient exponent) = (coefficient, exponent) := by
  dsimp only [magnitudeChars]
  split
  · rename_i plain
    have before : ∀ char ∈ plainDigits coefficient exponent, char ≠ 'E' := by
      intro char member
      exact ne_of_digit_or_point (plainDigits_ne coefficient exponent char member) (by decide)
        (by decide)
    have parts := takeWhile_throughout before
    simp only [readMagnitude, parts.1, parts.2, readMantissa_plainDigits coefficient plain.1,
      List.drop_nil, readExponent]
    congr 1
    omega
  · have before : ∀ char ∈ mantissa (Nat.toDigits 10 coefficient), char ≠ 'E' := by
      intro char member
      exact ne_of_digit_or_point (mantissa_ne coefficient char member) (by decide) (by decide)
    generalize adjusted : exponent + ((Nat.toDigits 10 coefficient).length : ℤ) - 1 = power
    have tail : exponentChars power = 'E' :: (exponentChars power).drop 1 := rfl
    have parts := takeWhile_before ((exponentChars power).drop 1) before
    rw [← tail] at parts
    have nonempty : 0 < (Nat.toDigits 10 coefficient).length :=
      List.length_pos_of_ne_nil Nat.toDigits_ne_nil
    simp only [readMagnitude, parts.1, parts.2, readMantissa_mantissa, readExponent_exponentChars]
    congr 1
    omega

theorem magnitudeChars_head (coefficient : ℕ) (exponent : ℤ) :
    ∀ char ∈ magnitudeChars coefficient exponent, char ≠ '|' := by
  intro char member
  dsimp only [magnitudeChars] at member
  split at member
  · exact ne_of_digit_or_point (plainDigits_ne coefficient exponent char member) (by decide)
      (by decide)
  · rcases List.mem_append.mp member with inside | after
    · exact ne_of_digit_or_point (mantissa_ne coefficient char inside) (by decide) (by decide)
    · unfold exponentChars at after
      rcases List.mem_cons.mp after with letter | rest
      · rw [letter]
        decide
      · rcases List.mem_cons.mp rest with sign | digits
        · rw [sign]
          split <;> decide
        · exact digits_ne _ '|' (by decide) char digits

/-! ### Normal forms -/

/-- Taking a zero off moves it into the exponent. -/
theorem stripZeros_value (fuel coefficient : ℕ) (exponent : ℤ) :
    ((stripZeros fuel coefficient exponent).1 : ℚ) * 10 ^ (stripZeros fuel coefficient exponent).2 =
      coefficient * 10 ^ exponent := by
  induction fuel generalizing coefficient exponent with
  | zero => rfl
  | succ fuel inductionHypothesis =>
      rw [stripZeros]
      split
      · rename_i whole
        rw [inductionHypothesis, zpow_add₀ (by norm_num), zpow_one]
        have exact_ : coefficient / 10 * 10 = coefficient := Nat.div_mul_cancel (Nat.dvd_of_mod_eq_zero whole)
        calc ((coefficient / 10 : ℕ) : ℚ) * (10 ^ exponent * 10)
            = ((coefficient / 10 * 10 : ℕ) : ℚ) * 10 ^ exponent := by push_cast; ring
          _ = coefficient * 10 ^ exponent := by rw [exact_]
      · rfl

/-- With as many rounds as the coefficient is large no zero is left. -/
theorem stripZeros_reduced (fuel coefficient : ℕ) (exponent : ℤ) (positive : 0 < coefficient)
    (enough : coefficient ≤ fuel) : (stripZeros fuel coefficient exponent).1 % 10 ≠ 0 := by
  induction fuel generalizing coefficient exponent with
  | zero => omega
  | succ fuel inductionHypothesis =>
      rw [stripZeros]
      split
      · rename_i whole
        apply inductionHypothesis
        · omega
        · omega
      · assumption

theorem normalize_toRat (number : Decimal) : number.normalize.toRat = number.toRat := by
  unfold normalize
  split
  · rename_i zero
    simp [toRat, zero]
  · simp only [toRat, mul_assoc, stripZeros_value]

/-- Two reduced magnitudes of the same value are the same. -/
theorem reduced_unique {left right : ℕ} {leftExponent rightExponent : ℤ}
    (leftReduced : left % 10 ≠ 0) (rightReduced : right % 10 ≠ 0)
    (same : (left : ℚ) * 10 ^ leftExponent = right * 10 ^ rightExponent) :
    left = right ∧ leftExponent = rightExponent := by
  have ordered : ∀ {left right : ℕ} {leftExponent rightExponent : ℤ}, left % 10 ≠ 0 →
      (left : ℚ) * 10 ^ leftExponent = right * 10 ^ rightExponent →
        rightExponent ≤ leftExponent := by
    intro left right leftExponent rightExponent reduced same
    by_contra later
    have gap : ∃ steps : ℕ, rightExponent = leftExponent + steps + 1 :=
      ⟨(rightExponent - leftExponent - 1).toNat, by omega⟩
    obtain ⟨steps, gap⟩ := gap
    rw [gap, add_assoc, zpow_add₀ (by norm_num), ← mul_assoc, mul_right_comm] at same
    have powers : ((left : ℚ)) = right * 10 ^ ((steps : ℤ) + 1) :=
      mul_right_cancel₀ (by positivity) same
    have whole : left = right * 10 ^ (steps + 1) := by exact_mod_cast powers
    apply reduced
    rw [whole, pow_succ, ← mul_assoc]
    exact Nat.mul_mod_left _ _
  have exponents : leftExponent = rightExponent :=
    le_antisymm (ordered rightReduced same.symm) (ordered leftReduced same)
  subst exponents
  refine ⟨?_, rfl⟩
  exact_mod_cast mul_right_cancel₀ (by positivity) same

/-- Positive numerals of one value have one normal form. -/
theorem normalize_eq_of_toRat_eq {left right : Decimal} (leftPositive : 0 < left.toRat)
    (same : left.toRat = right.toRat) : left.normalize = right.normalize := by
  have sign : ∀ number : Decimal, 0 < number.toRat →
      number.negative = false ∧ 0 < number.coefficient := by
    intro number positive
    unfold toRat at positive
    constructor
    · by_contra isNegative
      simp only [Bool.not_eq_false] at isNegative
      rw [isNegative] at positive
      have : (0 : ℚ) ≤ number.coefficient * 10 ^ number.exponent := by positivity
      simp only [if_true, neg_mul, one_mul] at positive
      linarith
    · by_contra zero
      have isZero : number.coefficient = 0 := by omega
      simp [isZero] at positive
  have leftSign := sign left leftPositive
  have rightSign := sign right (same ▸ leftPositive)
  have magnitudes : (left.coefficient : ℚ) * 10 ^ left.exponent =
      right.coefficient * 10 ^ right.exponent := by
    simpa [toRat, leftSign.1, rightSign.1] using same
  have unique := reduced_unique
    (stripZeros_reduced left.coefficient _ left.exponent leftSign.2 le_rfl)
    (stripZeros_reduced right.coefficient _ right.exponent rightSign.2 le_rfl)
    (by rw [stripZeros_value, stripZeros_value, magnitudes])
  rw [normalize, if_neg leftSign.2.ne', normalize, if_neg rightSign.2.ne', leftSign.1, rightSign.1]
  dsimp only
  rw [unique.1, unique.2]

/-- The texts of non-negative numerals determine them. -/
theorem strChars_inj {left right : Decimal} (leftSign : left.negative = false)
    (rightSign : right.negative = false) (same : left.strChars = right.strChars) : left = right := by
  have texts : magnitudeChars left.coefficient left.exponent =
      magnitudeChars right.coefficient right.exponent := by
    simpa [strChars, leftSign, rightSign] using same
  have read := congrArg readMagnitude texts
  rw [readMagnitude_magnitudeChars, readMagnitude_magnitudeChars, Prod.mk.injEq] at read
  rcases left with ⟨negative, coefficient, exponent⟩
  rcases right with ⟨otherNegative, otherCoefficient, otherExponent⟩
  simp only at leftSign rightSign read
  rw [leftSign, rightSign, read.1, read.2]

example : (Decimal.mk false 1000 (-2)).normalize.str = "1E+1" := by decide +kernel
example : (Decimal.mk false 12500 (-4)).normalize.str = "1.25" := by decide +kernel

example : (ofRat (-1 / 80)).formatF = "-0.0125" := by decide +kernel
example : (Decimal.mk false 12 3).formatF = "12000" := by decide +kernel

end Decimal

end UrjaSetu.Library
