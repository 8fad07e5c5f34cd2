import UrjaSetu.Library.Binary64

/-!
How far a double is from what it rounds.

Owns: the half-unit bound on the nearest double, and that whole numbers of at most
53 bits are doubles.
-/

namespace UrjaSetu.Library.Binary64

open Rounding

/-- The nearest double to a magnitude is at most half a last bit away. -/
theorem abs_double_sub_le {value : ℚ} (nonneg : 0 ≤ value) :
    |double value - value| ≤ lastBit value / 2 := by
  have bit := lastBit_pos value
  have scaled := abs_halfEvenInt_sub_le (value / lastBit value)
  have split : double value - value =
      (halfEvenInt (value / lastBit value) - value / lastBit value) * lastBit value := by
    rw [double, if_neg (not_lt.mpr nonneg), roundMagnitude, sub_mul,
      div_mul_cancel₀ _ bit.ne']
  rw [split, abs_mul, abs_of_pos bit]
  calc |(halfEvenInt (value / lastBit value) : ℚ) - value / lastBit value| * lastBit value
      ≤ 1 / 2 * lastBit value := mul_le_mul_of_nonneg_right scaled bit.le
    _ = lastBit value / 2 := by ring

/-- A magnitude under a power of two has a last bit 53 places below it. -/
theorem lastBit_le {value : ℚ} {bits : ℤ} (positive : 0 < value) (below : value < 2 ^ bits) :
    lastBit value ≤ 2 ^ (bits - 53) := by
  have leading : Int.log 2 value < bits := by
    rw [← Int.lt_zpow_iff_log_lt (by norm_num) positive]
    exact_mod_cast below
  unfold lastBit
  exact zpow_le_zpow_right₀ (by norm_num) (by omega)

theorem abs_double_sub_le_of_lt {value : ℚ} {bits : ℤ} (nonneg : 0 ≤ value) (below : value < 2 ^ bits) :
    |double value - value| ≤ 2 ^ (bits - 54) := by
  rcases nonneg.eq_or_lt with zero | positive
  · rw [← zero, double_zero, sub_zero, abs_zero]
    positivity
  · calc |double value - value| ≤ lastBit value / 2 := abs_double_sub_le nonneg
      _ ≤ 2 ^ (bits - 53) / 2 := by
          have := lastBit_le positive below
          linarith
      _ = 2 ^ (bits - 54) := by
          rw [show bits - 53 = (bits - 54) + 1 by ring, zpow_add_one₀ (by norm_num)]
          ring

/-- A whole number of at most 53 bits is a double. -/
theorem double_natCast {number : ℕ} (small : number < 2 ^ 53) : double (number : ℚ) = number := by
  rcases Nat.eq_zero_or_pos number with rfl | positive
  · exact_mod_cast double_zero
  · have positiveRat : (0 : ℚ) < number := by exact_mod_cast positive
    have leading : Int.log 2 (number : ℚ) = Nat.log 2 number := Int.log_natCast 2 number
    have bits : Nat.log 2 number < 53 := Nat.log_lt_of_lt_pow positive.ne' small
    have units : (number : ℚ) / lastBit number = ((number * 2 ^ (52 - Nat.log 2 number) : ℕ) : ℤ) := by
      rw [lastBit, leading]
      have exponent : ((Nat.log 2 number : ℕ) : ℤ) - 52 = -((52 - Nat.log 2 number : ℕ) : ℤ) := by
        omega
      rw [exponent, zpow_neg, div_inv_eq_mul, zpow_natCast]
      push_cast
      rfl
    rw [double, if_neg (not_lt.mpr positiveRat.le), roundMagnitude, units,
      show halfEvenInt (((number * 2 ^ (52 - Nat.log 2 number) : ℕ) : ℤ) : ℚ) =
        ((number * 2 ^ (52 - Nat.log 2 number) : ℕ) : ℤ) from halfEven.exact _, ← units,
      div_mul_cancel₀ _ (lastBit_pos _).ne']

end UrjaSetu.Library.Binary64
