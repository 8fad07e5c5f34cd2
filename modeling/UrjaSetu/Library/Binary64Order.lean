import UrjaSetu.Library.Binary64

/-!
Rounding to binary64 keeps the order.

Owns: that a magnitude is rounded within the powers of two around it, and the
monotonicity that follows.
-/

namespace UrjaSetu.Library.Binary64

open Rounding

/-- A magnitude is rounded within the powers of two around it. -/
theorem roundMagnitude_bounds {magnitude : ℚ} (positive : 0 < magnitude) :
    2 ^ Int.log 2 magnitude ≤ roundMagnitude magnitude ∧
      roundMagnitude magnitude ≤ 2 ^ (Int.log 2 magnitude + 1) := by
  have split : ∀ bits : ℤ, (2 : ℚ) ^ (Int.log 2 magnitude + bits) =
      2 ^ (52 + bits) * lastBit magnitude := by
    intro bits
    rw [lastBit, ← zpow_add₀ (by norm_num : (2 : ℚ) ≠ 0)]
    congr 1
    ring
  have low : (2 : ℚ) ^ Int.log 2 magnitude ≤ magnitude := by
    exact_mod_cast Int.zpow_log_le_self (by norm_num : 1 < 2) positive
  have high : magnitude < (2 : ℚ) ^ (Int.log 2 magnitude + 1) := by
    exact_mod_cast Int.lt_zpow_succ_log_self (by norm_num : 1 < 2) magnitude
  have lowBits : (2 ^ 52 : ℚ) ≤ magnitude / lastBit magnitude := by
    rw [le_div_iff₀ (lastBit_pos magnitude)]
    have same := split 0
    rw [add_zero, add_zero] at same
    exact (same.symm.trans_le low : _)
  have highBits : magnitude / lastBit magnitude ≤ (2 ^ 53 : ℚ) := by
    rw [div_le_iff₀ (lastBit_pos magnitude)]
    exact high.le.trans_eq (split 1)
  have exact_ : ∀ units : ℤ, halfEvenInt (units : ℚ) = units := halfEven.exact
  have lowInt := halfEvenInt_monotone lowBits
  have highInt := halfEvenInt_monotone highBits
  rw [show (2 ^ 52 : ℚ) = ((2 ^ 52 : ℤ) : ℚ) by norm_num, exact_] at lowInt
  rw [show (2 ^ 53 : ℚ) = ((2 ^ 53 : ℤ) : ℚ) by norm_num, exact_] at highInt
  have lowCast : (2 ^ 52 : ℚ) ≤ halfEvenInt (magnitude / lastBit magnitude) := by
    exact_mod_cast lowInt
  have highCast : (halfEvenInt (magnitude / lastBit magnitude) : ℚ) ≤ 2 ^ 53 := by
    exact_mod_cast highInt
  constructor
  · have same := split 0
    rw [add_zero, add_zero] at same
    rw [same]
    exact mul_le_mul_of_nonneg_right lowCast (lastBit_pos magnitude).le
  · rw [split 1]
    exact mul_le_mul_of_nonneg_right highCast (lastBit_pos magnitude).le

theorem roundMagnitude_mono {left right : ℚ} (positive : 0 < left) (below : left ≤ right) :
    roundMagnitude left ≤ roundMagnitude right := by
  have logs : Int.log 2 left ≤ Int.log 2 right := Int.log_mono_right positive below
  rcases logs.eq_or_lt with same | apart
  · have bits : lastBit left = lastBit right := by rw [lastBit, lastBit, same]
    rw [roundMagnitude, roundMagnitude, bits]
    apply mul_le_mul_of_nonneg_right _ (lastBit_pos right).le
    have quotients : left / lastBit right ≤ right / lastBit right :=
      div_le_div_of_nonneg_right below (lastBit_pos right).le
    exact_mod_cast halfEvenInt_monotone quotients
  · -- a power of two is between them
    calc roundMagnitude left ≤ 2 ^ (Int.log 2 left + 1) := (roundMagnitude_bounds positive).2
      _ ≤ 2 ^ Int.log 2 right := zpow_le_zpow_right₀ (by norm_num) (by omega)
      _ ≤ roundMagnitude right := (roundMagnitude_bounds (positive.trans_le below)).1

/-- Of two magnitudes the smaller is not rounded to the larger double. -/
theorem double_mono_of_nonneg {left right : ℚ} (nonneg : 0 ≤ left) (below : left ≤ right) :
    double left ≤ double right := by
  rcases nonneg.eq_or_lt with rfl | positive
  · rw [double_zero]
    rcases below.eq_or_lt with rfl | larger
    · rw [double_zero]
    · exact (double_pos larger).le
  · rw [double, double, if_neg positive.not_gt, if_neg (positive.trans_le below).not_gt]
    exact roundMagnitude_mono positive below

end UrjaSetu.Library.Binary64
