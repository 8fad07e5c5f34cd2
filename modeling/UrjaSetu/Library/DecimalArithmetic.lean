import UrjaSetu.Library.Binary64
import UrjaSetu.Library.Decimal

/-!
Arithmetic on decimal numerals in the default context: 28 significant digits,
ties to even. Exponents stay clear of the context's bounds.

Owns: the operations with the exponents their results get, and numerals of
doubles.
-/

namespace UrjaSetu.Library.Decimal

open Rounding

/-- Round to the precision of the context. -/
def fix (number : Decimal) : Decimal :=
  let digits := (Nat.toDigits 10 number.coefficient).length
  if digits ≤ 28 then number
  else
    let dropped := digits - 28
    let rounded := (halfEvenInt (number.coefficient / 10 ^ dropped)).toNat
    if rounded = 10 ^ 28 then ⟨number.negative, 10 ^ 27, number.exponent + dropped + 1⟩
    else ⟨number.negative, rounded, number.exponent + dropped⟩

/-- The signed coefficient with respect to a smaller exponent. -/
def coefficientAt (exponent : ℤ) (number : Decimal) : ℤ :=
  (if number.negative then -1 else 1) * number.coefficient * 10 ^ (number.exponent - exponent).toNat

/-- `left + right`. -/
def add (left right : Decimal) : Decimal :=
  let exponent := min left.exponent right.exponent
  let total := left.coefficientAt exponent + right.coefficientAt exponent
  fix ⟨if total = 0 then left.negative && right.negative else total < 0, total.natAbs, exponent⟩

/-- `-number`. -/
def neg (number : Decimal) : Decimal :=
  fix ⟨number.coefficient ≠ 0 && !number.negative, number.coefficient, number.exponent⟩

/-- `left - right`. -/
def sub (left right : Decimal) : Decimal := left.add ⟨!right.negative, right.coefficient, right.exponent⟩

/-- `left / right` for `right` not zero. -/
def div (left right : Decimal) : Decimal :=
  let negative := left.negative != right.negative
  let ideal := left.exponent - right.exponent
  if left.coefficient = 0 then fix ⟨negative, 0, ideal⟩
  else
    let shift : ℤ := (Nat.toDigits 10 right.coefficient).length -
      (Nat.toDigits 10 left.coefficient).length + 29
    let dividend := left.coefficient * 10 ^ shift.toNat
    let divisor := right.coefficient * 10 ^ (-shift).toNat
    let quotient := dividend / divisor
    let exponent := ideal - shift
    if dividend % divisor = 0 then
      let stripped := stripZeros (ideal - exponent).toNat quotient exponent
      fix ⟨negative, stripped.1, stripped.2⟩
    else
      -- A digit that is no tie stands for the remainder.
      fix ⟨negative, if quotient % 5 = 0 then quotient + 1 else quotient, exponent⟩

/-- `Decimal(value)` of a double: all its digits. -/
def ofDouble (value : ℚ) : Decimal :=
  let bits := value.den.log2
  ⟨value < 0, value.num.natAbs * 5 ^ bits, -(bits : ℤ)⟩

/-- `Decimal(text)` of a numeral with `places` decimals. -/
def ofUnits (units : ℤ) (places : ℕ) : Decimal := ⟨units < 0, units.natAbs, -(places : ℤ)⟩

example : div (ofUnits 1 0) (ofUnits 3 0) = ⟨false, 3333333333333333333333333333, -28⟩ := by
  decide +kernel
example : div (ofUnits 150 2) (ofUnits 1 0) = ofUnits 150 2 := by decide +kernel
example : add (ofUnits 0 0) (ofUnits 500 2) = ofUnits 500 2 := by decide +kernel

theorem magnitudeChars_ne_minus (coefficient : ℕ) (exponent : ℤ) (rest : List Char) :
    magnitudeChars coefficient exponent ≠ '-' :: rest := by
  intro equal
  dsimp only [magnitudeChars] at equal
  split at equal
  · have sign : '-' ∈ plainDigits coefficient exponent := by simp [equal]
    exact ne_of_digit_or_point (plainDigits_ne coefficient exponent '-' sign) (by decide)
      (by decide) rfl
  · cases digits : mantissa (Nat.toDigits 10 coefficient) with
    | nil =>
        unfold mantissa at digits
        split at digits
        · exact Nat.toDigits_ne_nil digits
        · simp at digits
    | cons head tail =>
        rw [digits, List.cons_append, List.cons.injEq] at equal
        have sign : '-' ∈ mantissa (Nat.toDigits 10 coefficient) := by simp [digits, equal.1]
        exact ne_of_digit_or_point (mantissa_ne coefficient '-' sign) (by decide) (by decide) rfl

/-- The text of a numeral says which one it is. -/
theorem str_injective : Function.Injective str := by
  intro left right same
  have texts := String.ofList_injective same
  unfold strChars at texts
  rcases left with ⟨leftNegative, leftCoefficient, leftExponent⟩
  rcases right with ⟨rightNegative, rightCoefficient, rightExponent⟩
  have signs : leftNegative = rightNegative := by
    cases leftNegative <;> cases rightNegative
    · rfl
    · exact absurd texts (magnitudeChars_ne_minus leftCoefficient leftExponent _)
    · exact absurd texts.symm (magnitudeChars_ne_minus rightCoefficient rightExponent _)
    · rfl
  subst signs
  have magnitudes := congrArg readMagnitude (List.append_cancel_left texts)
  rw [readMagnitude_magnitudeChars, readMagnitude_magnitudeChars, Prod.mk.injEq] at magnitudes
  exact congrArg₂ (Decimal.mk leftNegative) magnitudes.1 magnitudes.2

end UrjaSetu.Library.Decimal
