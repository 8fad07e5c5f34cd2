import UrjaSetu.Library.Rounding

/-!
Rounding to binary64, by value.

A double is the rational it denotes. Magnitudes are taken to stay in the normal
range: nothing here overflows to an infinity or loses bits to a subnormal.

Owns: the double nearest to a rational, its sign and its zero.
-/

namespace UrjaSetu.Library.Binary64

open Rounding

/-- What the last of the 53 bits of a double of this magnitude counts. -/
def lastBit (magnitude : ℚ) : ℚ := 2 ^ (Int.log 2 magnitude - 52)

def roundMagnitude (magnitude : ℚ) : ℚ :=
  halfEvenInt (magnitude / lastBit magnitude) * lastBit magnitude

/-- The double nearest to `value`, ties to the even one. -/
def double (value : ℚ) : ℚ :=
  if value < 0 then -roundMagnitude (-value) else roundMagnitude value

example : double (1 / 10) = 3602879701896397 / 2 ^ 55 := by decide +kernel

theorem lastBit_pos (magnitude : ℚ) : 0 < lastBit magnitude := by
  unfold lastBit
  positivity

@[simp] theorem double_zero : double 0 = 0 := by decide +kernel

theorem roundMagnitude_pos {magnitude : ℚ} (positive : 0 < magnitude) :
    0 < roundMagnitude magnitude := by
  have leading : (2 : ℚ) ^ Int.log 2 magnitude ≤ magnitude := by
    exact_mod_cast Int.zpow_log_le_self (by norm_num : 1 < 2) positive
  have bits : (2 : ℚ) ^ (52 : ℤ) ≤ magnitude / lastBit magnitude := by
    rw [le_div_iff₀ (lastBit_pos magnitude), lastBit, ← zpow_add₀ (by norm_num : (2 : ℚ) ≠ 0)]
    rw [show (52 : ℤ) + (Int.log 2 magnitude - 52) = Int.log 2 magnitude by ring]
    exact leading
  have one : (1 : ℤ) ≤ ⌊magnitude / lastBit magnitude⌋ := by
    rw [Int.le_floor]
    have : (1 : ℚ) ≤ 2 ^ (52 : ℤ) := by norm_num
    exact_mod_cast this.trans bits
  have rounded := (halfEvenInt_bounds (magnitude / lastBit magnitude)).1
  have positiveInt : (0 : ℚ) < halfEvenInt (magnitude / lastBit magnitude) := by
    exact_mod_cast (by omega : 0 < halfEvenInt (magnitude / lastBit magnitude))
  exact mul_pos positiveInt (lastBit_pos magnitude)

theorem double_pos {value : ℚ} (positive : 0 < value) : 0 < double value := by
  rw [double, if_neg positive.not_gt]
  exact roundMagnitude_pos positive

theorem double_neg (value : ℚ) : double (-value) = -double value := by
  rcases lt_trichotomy value 0 with negative | zero | positive
  · rw [double, double, if_neg (by linarith), if_pos negative, neg_neg]
  · rw [zero, neg_zero, double_zero, neg_zero]
  · rw [double, double, if_pos (by linarith), if_neg positive.not_gt, neg_neg]

/-- Only zero rounds to zero. -/
theorem double_eq_zero_iff (value : ℚ) : double value = 0 ↔ value = 0 := by
  constructor
  · intro rounded
    rcases lt_trichotomy value 0 with negative | zero | positive
    · have reflected := double_pos (show 0 < -value by linarith)
      rw [double_neg, rounded, neg_zero] at reflected
      exact absurd reflected (lt_irrefl 0)
    · exact zero
    · exact absurd rounded (double_pos positive).ne'
  · intro zero
    rw [zero, double_zero]

end UrjaSetu.Library.Binary64
