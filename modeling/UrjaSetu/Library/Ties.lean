import UrjaSetu.Library.Rounding

/-!
Where two modes that round to the nearest part.

Owns: the ties on which half-away-from-zero and half-even differ, and that they
differ on no other non-negative value.
-/

namespace UrjaSetu.Library.Rounding

/-- Halfway between a whole number that is even and the next one. -/
def EvenTie (value : ℚ) : Prop := value - ⌊value⌋ = 1 / 2 ∧ ⌊value⌋ % 2 = 0

instance (value : ℚ) : Decidable (EvenTie value) := instDecidableAnd

theorem halfUp_toInt {value : ℚ} (nonneg : 0 ≤ value) : halfUp.toInt value = ⌊value + 1 / 2⌋ :=
  if_pos nonneg

theorem floor_add_half_below {value : ℚ} (below : value - ⌊value⌋ < 1 / 2) :
    ⌊value + 1 / 2⌋ = ⌊value⌋ := by
  have whole := Int.floor_le value
  rw [Int.floor_eq_iff]
  constructor
  · linarith
  · linarith

theorem floor_add_half_above {value : ℚ} (above : 1 / 2 ≤ value - ⌊value⌋) :
    ⌊value + 1 / 2⌋ = ⌊value⌋ + 1 := by
  have whole := Int.lt_floor_add_one value
  rw [Int.floor_eq_iff]
  push_cast
  constructor
  · linarith
  · linarith

/-- On a non-negative value the modes differ on an even tie, and nowhere else. -/
theorem halfEven_eq_halfUp_iff {value : ℚ} (nonneg : 0 ≤ value) :
    halfEven.toInt value = halfUp.toInt value ↔ ¬ EvenTie value := by
  rw [halfUp_toInt nonneg]
  show halfEvenInt value = ⌊value + 1 / 2⌋ ↔ ¬ EvenTie value
  unfold halfEvenInt EvenTie
  rcases lt_trichotomy (value - ⌊value⌋) (1 / 2) with below | tie | above
  · rw [if_pos below, floor_add_half_below below]
    exact iff_of_true rfl fun even => below.ne even.1
  · rw [if_neg tie.not_lt, if_neg tie.symm.not_lt, floor_add_half_above tie.ge]
    by_cases even : ⌊value⌋ % 2 = 0
    · rw [if_pos even]
      simp [tie, even]
    · rw [if_neg even]
      simp [even]
  · rw [if_neg above.le.not_gt, if_pos above, floor_add_half_above above.le]
    exact iff_of_true rfl fun even => above.ne' even.1

theorem quantize_halfEven_eq_halfUp_iff {places : ℕ} {value : ℚ} (nonneg : 0 ≤ value) :
    quantize halfEven places value = quantize halfUp places value ↔
      ¬ EvenTie (value * 10 ^ places) := by
  rw [← halfEven_eq_halfUp_iff (mul_nonneg nonneg (scale_pos places).le)]
  unfold quantize
  rw [div_left_inj' (scale_pos places).ne', Int.cast_inj]

end UrjaSetu.Library.Rounding
