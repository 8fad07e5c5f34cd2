import Mathlib

/-!
Decimal grids and rounding to them.

A rounding mode is a monotone integer-valued function on the rationals which
is exact on integers. Every fact about rounding to a grid of `10 ^ places`
parts is proved once from these two laws, so it holds for truncation, for
half-away-from-zero and for half-even alike.

Owns: the grid, the three modes, and the order laws of `quantize`.
-/

namespace UrjaSetu.Library.Rounding

/-! ## The grid -/

/-- `value` is a whole number of `10 ^ -places`. -/
def OnGrid (places : ℕ) (value : ℚ) : Prop :=
  ∃ units : ℤ, value * 10 ^ places = units

theorem onGrid_iff_den (places : ℕ) (value : ℚ) :
    OnGrid places value ↔ (value * 10 ^ places).den = 1 := by
  constructor
  · rintro ⟨units, equal⟩
    rw [equal]
    exact Rat.den_intCast units
  · intro whole
    exact ⟨(value * 10 ^ places).num, (Rat.den_eq_one_iff _).mp whole |>.symm⟩

instance (places : ℕ) (value : ℚ) : Decidable (OnGrid places value) :=
  decidable_of_iff _ (onGrid_iff_den places value).symm

theorem scale_pos (places : ℕ) : (0 : ℚ) < 10 ^ places := by positivity

namespace OnGrid

variable {places : ℕ} {left right : ℚ}

theorem zero : OnGrid places 0 := ⟨0, by simp⟩

theorem intCast (units : ℤ) : OnGrid places units :=
  ⟨units * 10 ^ places, by push_cast; rfl⟩

theorem add (onLeft : OnGrid places left) (onRight : OnGrid places right) :
    OnGrid places (left + right) := by
  obtain ⟨leftUnits, leftEq⟩ := onLeft
  obtain ⟨rightUnits, rightEq⟩ := onRight
  exact ⟨leftUnits + rightUnits, by rw [add_mul, leftEq, rightEq]; push_cast; rfl⟩

theorem neg (onLeft : OnGrid places left) : OnGrid places (-left) := by
  obtain ⟨units, equal⟩ := onLeft
  exact ⟨-units, by rw [neg_mul, equal]; push_cast; rfl⟩

theorem sub (onLeft : OnGrid places left) (onRight : OnGrid places right) :
    OnGrid places (left - right) := by
  rw [sub_eq_add_neg]
  exact onLeft.add onRight.neg

theorem min (onLeft : OnGrid places left) (onRight : OnGrid places right) :
    OnGrid places (min left right) := by
  rcases min_choice left right with equal | equal <;> rw [equal] <;> assumption

theorem max (onLeft : OnGrid places left) (onRight : OnGrid places right) :
    OnGrid places (max left right) := by
  rcases max_choice left right with equal | equal <;> rw [equal] <;> assumption

theorem sum {values : List ℚ} (onGrid : ∀ value ∈ values, OnGrid places value) :
    OnGrid places values.sum := by
  induction values with
  | nil => exact OnGrid.zero
  | cons value rest inductionHypothesis =>
      rw [List.sum_cons]
      exact (onGrid value List.mem_cons_self).add
        (inductionHypothesis fun other member => onGrid other (List.mem_cons_of_mem _ member))

/-- Two points of a grid are a part of it apart. -/
theorem add_le_of_lt (onLeft : OnGrid places left) (onRight : OnGrid places right)
    (below : left < right) : left + 1 / 10 ^ places ≤ right := by
  have scale := scale_pos places
  obtain ⟨leftUnits, leftEq⟩ := onLeft
  obtain ⟨rightUnits, rightEq⟩ := onRight
  have apart : leftUnits < rightUnits := by
    have scaled := mul_lt_mul_of_pos_right below scale
    rw [leftEq, rightEq] at scaled
    exact_mod_cast scaled
  have step : (leftUnits : ℚ) + 1 ≤ rightUnits := by exact_mod_cast apart
  rw [← leftEq, ← rightEq] at step
  rw [← mul_le_mul_iff_left₀ scale, add_mul, div_mul_cancel₀ _ scale.ne']
  exact step

end OnGrid

/-! ## Rounding modes -/

/-- A monotone choice of a whole number, exact on whole numbers. -/
structure RoundingMode where
  toInt : ℚ → ℤ
  monotone : Monotone toInt
  exact : ∀ units : ℤ, toInt units = units

/-- Reflect a mode for non-negative inputs to the negative ones. -/
def awayFromSign (magnitude : ℚ → ℤ) (value : ℚ) : ℤ :=
  if 0 ≤ value then magnitude value else -magnitude (-value)

theorem awayFromSign_monotone {magnitude : ℚ → ℤ} (mono : Monotone magnitude)
    (nonneg : ∀ value, 0 ≤ value → 0 ≤ magnitude value) :
    Monotone (awayFromSign magnitude) := by
  intro left right below
  unfold awayFromSign
  by_cases leftNonneg : 0 ≤ left
  · rw [if_pos leftNonneg, if_pos (leftNonneg.trans below)]
    exact mono below
  · rw [if_neg leftNonneg]
    have leftSmall := nonneg (-left) (by linarith)
    by_cases rightNonneg : 0 ≤ right
    · rw [if_pos rightNonneg]
      have := nonneg right rightNonneg
      omega
    · rw [if_neg rightNonneg]
      have := mono (show -right ≤ -left by linarith)
      omega

/-- Truncation: `ROUND_DOWN`. -/
def down : RoundingMode where
  toInt := awayFromSign (fun value => ⌊value⌋)
  monotone := awayFromSign_monotone Int.floor_mono (fun _ nonneg => Int.floor_nonneg.mpr nonneg)
  exact := by
    intro units
    unfold awayFromSign
    split
    · exact Int.floor_intCast units
    · change -⌊(-(units : ℚ))⌋ = units
      rw [← Int.cast_neg, Int.floor_intCast, neg_neg]

/-- Ties away from zero: `ROUND_HALF_UP`. -/
def halfUp : RoundingMode where
  toInt := awayFromSign (fun value => ⌊value + 1 / 2⌋)
  monotone := by
    apply awayFromSign_monotone
    · intro left right below
      exact Int.floor_mono (by linarith)
    · intro value nonneg
      exact Int.floor_nonneg.mpr (by linarith)
  exact := by
    have half : ⌊(1 / 2 : ℚ)⌋ = 0 := by decide +kernel
    intro units
    unfold awayFromSign
    split
    · change ⌊(units : ℚ) + 1 / 2⌋ = units
      rw [Int.floor_intCast_add, half, add_zero]
    · change -⌊-(units : ℚ) + 1 / 2⌋ = units
      rw [← Int.cast_neg, Int.floor_intCast_add, half, add_zero, neg_neg]

/-- The integer nearest to `value`, ties to the even one. -/
def halfEvenInt (value : ℚ) : ℤ :=
  if value - ⌊value⌋ < 1 / 2 then ⌊value⌋
  else if 1 / 2 < value - ⌊value⌋ then ⌊value⌋ + 1
  else if ⌊value⌋ % 2 = 0 then ⌊value⌋ else ⌊value⌋ + 1

theorem halfEvenInt_bounds (value : ℚ) :
    ⌊value⌋ ≤ halfEvenInt value ∧ halfEvenInt value ≤ ⌊value⌋ + 1 := by
  unfold halfEvenInt
  split_ifs <;> omega

/-- The nearest whole number is at most a half away. -/
theorem abs_halfEvenInt_sub_le (value : ℚ) : |(halfEvenInt value : ℚ) - value| ≤ 1 / 2 := by
  have below := Int.floor_le value
  have above := Int.lt_floor_add_one value
  unfold halfEvenInt
  split_ifs with low high even <;> rw [abs_le] <;> push_cast <;> constructor <;> linarith

theorem halfEvenInt_monotone : Monotone halfEvenInt := by
  intro left right below
  have floors := Int.floor_mono below
  rcases floors.lt_or_eq with apart | same
  · have := (halfEvenInt_bounds left).2
    have := (halfEvenInt_bounds right).1
    omega
  · -- Same unit: the fractional parts are ordered, so the cases are too.
    unfold halfEvenInt
    rw [← same]
    split_ifs <;> first | omega | linarith

/-- Ties to the even digit: `ROUND_HALF_EVEN`, the default of a context. -/
def halfEven : RoundingMode where
  toInt := halfEvenInt
  monotone := halfEvenInt_monotone
  exact := by
    intro units
    unfold halfEvenInt
    rw [Int.floor_intCast, sub_self, if_pos (by norm_num)]

/-! ## Rounding to a grid -/

/-- `value` rounded to `places` decimals. -/
def quantize (mode : RoundingMode) (places : ℕ) (value : ℚ) : ℚ :=
  mode.toInt (value * 10 ^ places) / 10 ^ places

section Laws

variable (mode : RoundingMode) {places : ℕ} {value bound left right : ℚ}

theorem quantize_onGrid (places : ℕ) (value : ℚ) : OnGrid places (quantize mode places value) := by
  refine ⟨mode.toInt (value * 10 ^ places), ?_⟩
  unfold quantize
  rw [div_mul_cancel₀ _ (scale_pos places).ne']

/-- Rounding does nothing to a value that is already on the grid. -/
theorem quantize_of_onGrid (onGrid : OnGrid places value) : quantize mode places value = value := by
  obtain ⟨units, equal⟩ := onGrid
  unfold quantize
  rw [equal, mode.exact, ← equal, mul_div_cancel_right₀ _ (scale_pos places).ne']

theorem quantize_mono (below : left ≤ right) :
    quantize mode places left ≤ quantize mode places right := by
  unfold quantize
  have scaled : left * 10 ^ places ≤ right * 10 ^ places :=
    mul_le_mul_of_nonneg_right below (scale_pos places).le
  have units : (mode.toInt (left * 10 ^ places) : ℚ) ≤ mode.toInt (right * 10 ^ places) := by
    exact_mod_cast mode.monotone scaled
  exact div_le_div_of_nonneg_right units (scale_pos places).le

/-- Rounding never crosses a grid point from above. -/
theorem le_quantize (onGrid : OnGrid places bound) (below : bound ≤ value) :
    bound ≤ quantize mode places value := by
  calc bound = quantize mode places bound := (quantize_of_onGrid mode onGrid).symm
    _ ≤ quantize mode places value := quantize_mono mode below

/-- Rounding never crosses a grid point from below. -/
theorem quantize_le (onGrid : OnGrid places bound) (above : value ≤ bound) :
    quantize mode places value ≤ bound := by
  calc quantize mode places value ≤ quantize mode places bound := quantize_mono mode above
    _ = bound := quantize_of_onGrid mode onGrid

theorem quantize_nonneg (nonneg : 0 ≤ value) : 0 ≤ quantize mode places value :=
  le_quantize mode OnGrid.zero nonneg

@[simp] theorem quantize_zero : quantize mode places 0 = 0 :=
  quantize_of_onGrid mode OnGrid.zero

end Laws

/-- Truncating a non-negative value never increases it. -/
theorem quantize_down_le {places : ℕ} {value : ℚ} (nonneg : 0 ≤ value) :
    quantize down places value ≤ value := by
  have scaled : 0 ≤ value * 10 ^ places := mul_nonneg nonneg (scale_pos places).le
  unfold quantize
  rw [div_le_iff₀ (scale_pos places)]
  change ((awayFromSign (fun value => ⌊value⌋) (value * 10 ^ places) : ℤ) : ℚ) ≤ _
  rw [awayFromSign, if_pos scaled]
  exact Int.floor_le _

/-! ## Significant digits -/

/-- The decimals a value keeps in `digits` significant digits. -/
def precisionPlaces (digits : ℕ) (value : ℚ) : ℕ :=
  if 1 ≤ |value| then digits - 1 - Nat.log 10 ⌊|value|⌋₊
  else digits - 1 + Nat.clog 10 ⌈|value|⁻¹⌉₊

example : quantize halfUp 2 (1 / 200) = 1 / 100 := by decide +kernel
example : quantize halfEven 2 (1 / 200) = 0 := by decide +kernel

end UrjaSetu.Library.Rounding
