import UrjaSetu.Library.Rounding

/-!
The default decimal context on every magnitude: 28 significant digits, ties to
even, exponents from -999999 to 999999, with the gradual underflow below them.

Owns: the rounding of a result and its laws (odd, monotone, idempotent, exact on
what has few enough digits, near its argument), and the two signals of an
operation on numbers that the context traps.
-/

namespace UrjaSetu.Library.DecimalContext

open Rounding

/-- The exponent of the last digit a result keeps. -/
def lastExponent (value : ℚ) : ℤ := max (Int.log 10 |value| - 27) (-1000026)

/-- The result of an operation whose exact value is `value`. -/
def contextRound (value : ℚ) : ℚ :=
  halfEvenInt (value / 10 ^ lastExponent value) * 10 ^ lastExponent value

/-- The result has an exponent over the largest one: `decimal.Overflow`. -/
def Overflows (value : ℚ) : Prop := 999999 < Int.log 10 |contextRound value|

instance (value : ℚ) : Decidable (Overflows value) := by
  unfold Overflows
  infer_instance

example : contextRound (1 / 3) = 3333333333333333333333333333 / 10 ^ 28 := by decide +kernel
example : contextRound (10 ^ 40 - 1) = 10 ^ 40 := by decide +kernel

/-! ## Operations that can be trapped -/

/-- What the default context traps of an operation on numbers. -/
inductive DecimalSignal where
  | invalidOperation
  | overflow
deriving DecidableEq, Repr

/-- `exc.__class__.__name__`. -/
def DecimalSignal.name : DecimalSignal → String
  | .invalidOperation => "InvalidOperation"
  | .overflow => "Overflow"

/-- An operation of the context with the exact result `value`. -/
def contextResult (value : ℚ) : Except DecimalSignal ℚ :=
  if Overflows value then .error .overflow else .ok (contextRound value)

/-- `Decimal.quantize`, which refuses a result of more digits than the context
keeps. -/
def quantized (mode : RoundingMode) (places : ℕ) (value : ℚ) : Except DecimalSignal ℚ :=
  if 10 ^ (28 - places) ≤ |quantize mode places value| then .error .invalidOperation
  else .ok (quantize mode places value)

theorem contextResult_eq_ok_iff {value result : ℚ} :
    contextResult value = .ok result ↔ ¬ Overflows value ∧ result = contextRound value := by
  unfold contextResult
  split
  · rename_i overflows
    exact iff_of_false nofun fun returned => returned.1 overflows
  · rename_i fits
    rw [Except.ok.injEq, eq_comm]
    exact (and_iff_right fits).symm

theorem quantized_eq_ok_iff {mode : RoundingMode} {places : ℕ} {value result : ℚ} :
    quantized mode places value = .ok result ↔
      |result| < 10 ^ (28 - places) ∧ result = quantize mode places value := by
  unfold quantized
  split
  · rename_i large
    refine iff_of_false nofun ?_
    rintro ⟨small, rfl⟩
    exact large.not_gt small
  · rename_i small
    rw [Except.ok.injEq]
    constructor
    · rintro rfl
      exact ⟨not_le.mp small, rfl⟩
    · exact fun returned => returned.2.symm

/-! ## Laws of the rounding -/

theorem unit_pos (value : ℚ) : (0 : ℚ) < 10 ^ lastExponent value := by positivity

@[simp] theorem contextRound_zero : contextRound 0 = 0 := by decide +kernel

/-- Rounding to the nearest, ties to even, is the same on both sides of zero. -/
theorem halfEvenInt_neg (value : ℚ) : halfEvenInt (-value) = -halfEvenInt value := by
  have low := Int.floor_le value
  have high := Int.lt_floor_add_one value
  rcases low.eq_or_lt with whole | above
  · rw [← whole, ← Int.cast_neg, show halfEvenInt _ = _ from halfEven.exact _,
      show halfEvenInt _ = _ from halfEven.exact _]
  · have reflected : ⌊-value⌋ = -⌊value⌋ - 1 := by
      rw [Int.floor_eq_iff]
      push_cast
      constructor <;> linarith
    unfold halfEvenInt
    rw [reflected]
    push_cast
    split_ifs <;> first | omega | linarith

theorem contextRound_neg (value : ℚ) : contextRound (-value) = -contextRound value := by
  have exponent : lastExponent (-value) = lastExponent value := by
    unfold lastExponent
    rw [abs_neg]
  rw [contextRound, exponent, neg_div, halfEvenInt_neg, contextRound]
  push_cast
  ring

section Units

variable {value : ℚ} {exponent units : ℤ}

/-- A whole number of digits from the last one on, in units of the last one. -/
theorem scaled_units (within : lastExponent value ≤ exponent) (units : ℤ) :
    (units * 10 ^ exponent : ℚ) / 10 ^ lastExponent value =
      ((units * 10 ^ (exponent - lastExponent value).toNat : ℤ) : ℚ) := by
  have difference : ((exponent - lastExponent value).toNat : ℤ) = exponent - lastExponent value :=
    Int.toNat_of_nonneg (by omega)
  rw [div_eq_iff (unit_pos value).ne']
  push_cast
  rw [← zpow_natCast, difference, mul_assoc, ← zpow_add₀ (by norm_num), sub_add_cancel]

/-- Rounding never crosses a number that ends before the last digit it keeps. -/
theorem le_contextRound (within : lastExponent value ≤ exponent)
    (below : units * 10 ^ exponent ≤ value) : units * 10 ^ exponent ≤ contextRound value := by
  have unit := unit_pos value
  have scaled := div_le_div_of_nonneg_right below unit.le
  rw [scaled_units within] at scaled
  have kept := halfEvenInt_monotone scaled
  rw [show halfEvenInt _ = _ from halfEven.exact _] at kept
  rw [contextRound, ← div_le_iff₀ unit, scaled_units within]
  exact_mod_cast kept

theorem contextRound_le (within : lastExponent value ≤ exponent)
    (above : value ≤ units * 10 ^ exponent) : contextRound value ≤ units * 10 ^ exponent := by
  have unit := unit_pos value
  have scaled := div_le_div_of_nonneg_right above unit.le
  rw [scaled_units within] at scaled
  have kept := halfEvenInt_monotone scaled
  rw [show halfEvenInt (_ : ℤ) = _ from halfEven.exact _] at kept
  rw [contextRound, ← le_div_iff₀ unit, scaled_units within]
  exact_mod_cast kept

/-- A whole number of last digits is its own result. -/
theorem contextRound_of_units (within : lastExponent value ≤ exponent)
    (whole : value = units * 10 ^ exponent) : contextRound value = value := by
  apply le_antisymm
  · exact (contextRound_le within whole.le).trans whole.ge
  · exact whole.le.trans (le_contextRound within whole.ge)

/-- A nonzero value under `10 ^ (exponent + 28)` keeps no digit above `exponent`. -/
theorem lastExponent_le (nonzero : value ≠ 0) (below : |value| < 10 ^ (exponent + 28))
    (notUnder : -1000026 ≤ exponent) : lastExponent value ≤ exponent := by
  have log : Int.log 10 |value| < exponent + 28 := by
    rw [← Int.lt_zpow_iff_log_lt (by norm_num) (abs_pos.mpr nonzero)]
    exact_mod_cast below
  unfold lastExponent
  omega

/-- What has few enough digits is not rounded. -/
theorem contextRound_of_onGrid {places : ℕ} (few : places ≤ 28) (onGrid : OnGrid places value)
    (small : |value| < 10 ^ (28 - places)) : contextRound value = value := by
  by_cases nothing : value = 0
  · rw [nothing, contextRound_zero]
  obtain ⟨units, whole⟩ := onGrid
  have isUnits : value = units * 10 ^ (-(places : ℤ)) := by
    rw [← whole, zpow_neg, zpow_natCast, mul_assoc, mul_inv_cancel₀ (scale_pos places).ne', mul_one]
  refine contextRound_of_units (lastExponent_le nothing ?_ (by omega)) isUnits
  have exponent : -(places : ℤ) + 28 = ((28 - places : ℕ) : ℤ) := by omega
  rw [exponent, zpow_natCast]
  exact small

end Units

/-- The digits of a positive value begin at a power of ten. -/
theorem leading_le {value : ℚ} (positive : 0 < value) : (10 : ℚ) ^ Int.log 10 value ≤ value := by
  exact_mod_cast Int.zpow_log_le_self (by norm_num : 1 < 10) positive

theorem lastExponent_of_nonneg {value : ℚ} (nonneg : 0 ≤ value) :
    lastExponent value = max (Int.log 10 value - 27) (-1000026) := by
  rw [lastExponent, abs_of_nonneg nonneg]

theorem contextRound_nonneg {value : ℚ} (nonneg : 0 ≤ value) : 0 ≤ contextRound value := by
  have kept := @le_contextRound value (lastExponent value) 0 le_rfl (by simpa using nonneg)
  simpa using kept

/-- Of two values that are not negative either both keep the same last digit, or the
smaller one ends before the digits of the larger one begin. -/
theorem contextRound_mono_of_nonneg {lower upper : ℚ} (nonneg : 0 ≤ lower) (order : lower ≤ upper) :
    contextRound lower ≤ contextRound upper := by
  rcases nonneg.eq_or_lt with zero | positive
  · rw [← zero, contextRound_zero]
    exact contextRound_nonneg (nonneg.trans order)
  have upperPositive := positive.trans_le order
  have logs : Int.log 10 lower ≤ Int.log 10 upper := Int.log_mono_right positive order
  have lowerLast := lastExponent_of_nonneg nonneg
  have upperLast := lastExponent_of_nonneg upperPositive.le
  rcases (show lastExponent lower ≤ lastExponent upper by omega).eq_or_lt with same | coarser
  · unfold contextRound
    rw [same]
    have unit := unit_pos upper
    have units : halfEvenInt (lower / 10 ^ lastExponent upper) ≤
        halfEvenInt (upper / 10 ^ lastExponent upper) :=
      halfEvenInt_monotone (div_le_div_of_nonneg_right order unit.le)
    exact mul_le_mul_of_nonneg_right (by exact_mod_cast units) unit.le
  · have before : lower ≤ 10 ^ Int.log 10 upper := by
      have next : lower < (10 : ℚ) ^ (Int.log 10 lower + 1) := by
        exact_mod_cast Int.lt_zpow_succ_log_self (by norm_num : 1 < 10) lower
      exact next.le.trans (zpow_le_zpow_right₀ (by norm_num) (by omega))
    have ends := @contextRound_le lower (Int.log 10 upper) 1 (by omega) (by simpa using before)
    have begins := @le_contextRound upper (Int.log 10 upper) 1 (by omega)
      (by simpa using leading_le upperPositive)
    exact ends.trans begins

/-- Rounding keeps the order. -/
theorem contextRound_mono : Monotone contextRound :=
  monotone_of_odd_of_monotoneOn_nonneg contextRound_neg
    fun _ nonneg _ _ order => contextRound_mono_of_nonneg nonneg order

theorem contextRound_nonpos {value : ℚ} (nonpos : value ≤ 0) : contextRound value ≤ 0 := by
  simpa using contextRound_mono nonpos

theorem contextRound_le_one {value : ℚ} (atMostOne : value ≤ 1) : contextRound value ≤ 1 := by
  have kept := contextRound_mono atMostOne
  rwa [show contextRound 1 = 1 by decide +kernel] at kept

/-- A result is at most half a unit of its last digit away. -/
theorem abs_contextRound_sub_le (value : ℚ) :
    |contextRound value - value| ≤ 10 ^ lastExponent value / 2 := by
  have unit := unit_pos value
  have near := abs_halfEvenInt_sub_le (value / 10 ^ lastExponent value)
  have split : contextRound value - value =
      (halfEvenInt (value / 10 ^ lastExponent value) - value / 10 ^ lastExponent value) *
        10 ^ lastExponent value := by
    rw [sub_mul, div_mul_cancel₀ _ unit.ne', contextRound]
  rw [split, abs_mul, abs_of_pos unit]
  calc |(halfEvenInt (value / 10 ^ lastExponent value) : ℚ) - value / 10 ^ lastExponent value| *
        10 ^ lastExponent value ≤ 1 / 2 * 10 ^ lastExponent value :=
        mul_le_mul_of_nonneg_right near unit.le
    _ = 10 ^ lastExponent value / 2 := by ring

/-- The last digit of a value is the 28th from the leading one, unless it underflows. -/
theorem unit_le {value bound : ℚ} (positive : 0 < value) (within : value ≤ bound)
    (normal : 1 / 10 ^ 1000 ≤ bound) : (10 : ℚ) ^ lastExponent value ≤ bound / 10 ^ 27 := by
  have least : (10 : ℚ) ^ (-1000026 : ℤ) ≤ bound / 10 ^ 27 := by
    have small : (10 : ℚ) ^ (-1000026 : ℤ) ≤ 10 ^ (-(1027 : ℕ) : ℤ) :=
      zpow_le_zpow_right₀ (by norm_num) (by norm_num)
    rw [zpow_neg 10 ((1027 : ℕ) : ℤ), zpow_natCast, show (1027 : ℕ) = 1000 + 27 from rfl, pow_add, mul_inv, ← one_div,
      ← div_eq_mul_inv] at small
    exact small.trans (div_le_div_of_nonneg_right normal (by positivity))
  rw [lastExponent_of_nonneg positive.le]
  rcases max_choice (Int.log 10 value - 27) (-1000026) with leading | under
  · rw [leading, zpow_sub₀ (by norm_num)]
    have begins := (leading_le positive).trans within
    exact_mod_cast div_le_div_of_nonneg_right begins (by positivity)
  · rw [under]
    exact least

theorem abs_contextRound_sub_le_of_le {value bound : ℚ} (nonneg : 0 ≤ value) (within : value ≤ bound)
    (normal : 1 / 10 ^ 1000 ≤ bound) : |contextRound value - value| ≤ bound / 10 ^ 27 / 2 := by
  rcases nonneg.eq_or_lt with zero | positive
  · rw [← zero, contextRound_zero, sub_zero, abs_zero]
    have boundNonneg := nonneg.trans within
    positivity
  · exact (abs_contextRound_sub_le value).trans
      (div_le_div_of_nonneg_right (unit_le positive within normal) (by norm_num))

/-! ## Bounds on results -/

section Bounds

variable {mode : RoundingMode} {value result : ℚ} {places exponent : ℕ}

theorem lastExponent_pow (exponent : ℕ) : lastExponent ((10 : ℚ) ^ exponent) ≤ exponent := by
  have positive : (0 : ℚ) < 10 ^ exponent := by positivity
  apply lastExponent_le positive.ne' _ (by omega)
  rw [abs_of_pos positive, ← zpow_natCast]
  exact zpow_lt_zpow_right₀ (by norm_num) (by omega)

theorem contextRound_pow (exponent : ℕ) : contextRound ((10 : ℚ) ^ exponent) = 10 ^ exponent := by
  apply @contextRound_of_units _ (exponent : ℤ) 1 (lastExponent_pow exponent)
  rw [Int.cast_one, one_mul, zpow_natCast]

theorem contextRound_le_pow (within : value ≤ 10 ^ exponent) :
    contextRound value ≤ 10 ^ exponent := by
  have kept := contextRound_mono within
  rwa [contextRound_pow] at kept

theorem pow_onGrid (places exponent : ℕ) : OnGrid places ((10 : ℚ) ^ exponent) := by
  exact_mod_cast @OnGrid.intCast places ((10 ^ exponent : ℕ) : ℤ)

/-- A rounded result that can be quantized is small. -/
theorem abs_lt_of_quantized
    (returned : quantized mode places (contextRound value) = .ok result) :
    |value| < 10 ^ (28 - places) := by
  obtain ⟨small, rfl⟩ := quantized_eq_ok_iff.mp returned
  have power := pow_onGrid places (28 - places)
  by_contra large
  rcases le_abs.mp (not_lt.mp large) with above | below
  · have rounded := contextRound_mono above
    rw [contextRound_pow] at rounded
    exact (le_quantize mode power rounded).not_gt (lt_of_abs_lt small)
  · have rounded := contextRound_mono (le_neg_of_le_neg below)
    rw [contextRound_neg, contextRound_pow] at rounded
    exact (quantize_le mode power.neg rounded).not_gt (neg_lt_of_abs_lt small)

/-- Stored values have an exact difference where it can be quantized. -/
theorem exact_of_quantized (few : places ≤ 28) (onGrid : OnGrid places value)
    (returned : quantized mode places (contextRound value) = .ok result) :
    contextRound value = value ∧ result = value := by
  have exact := contextRound_of_onGrid few onGrid (abs_lt_of_quantized returned)
  refine ⟨exact, ?_⟩
  rw [(quantized_eq_ok_iff.mp returned).2, exact, quantize_of_onGrid mode onGrid]

theorem quantized_of_le (within : |value| ≤ 10 ^ exponent) (fits : exponent < 28 - places) :
    quantized mode places (contextRound value) = .ok (quantize mode places (contextRound value)) := by
  obtain ⟨low, high⟩ := abs_le.mp within
  refine quantized_eq_ok_iff.mpr ⟨?_, rfl⟩
  have power := pow_onGrid places exponent
  have lowRounded := contextRound_mono low
  rw [contextRound_neg, contextRound_pow] at lowRounded
  have bounded : |quantize mode places (contextRound value)| ≤ 10 ^ exponent :=
    abs_le.mpr ⟨le_quantize mode power.neg lowRounded,
      quantize_le mode power (contextRound_le_pow high)⟩
  exact bounded.trans_lt (pow_lt_pow_right₀ (by norm_num) fits)

/-- With one digit more than the context keeps, a value is its own result exactly where
that digit is zero. -/
theorem contextRound_eq_iff (some_ : 1 ≤ places) (few : places ≤ 28) (onGrid : OnGrid places value)
    (small : |value| < 10 ^ (29 - places)) :
    contextRound value = value ↔ |value| < 10 ^ (28 - places) ∨ OnGrid (places - 1) value := by
  constructor
  · intro exact
    by_cases within : |value| < 10 ^ (28 - places)
    · exact .inl within
    · right
      have large : (10 : ℚ) ^ ((28 - places : ℕ) : ℤ) ≤ |value| := by
        rw [zpow_natCast]
        exact not_lt.mp within
      have positive : 0 < |value| := lt_of_lt_of_le (by positivity) large
      have leading : ((28 - places : ℕ) : ℤ) ≤ Int.log 10 |value| :=
        (Int.zpow_le_iff_le_log (by norm_num) positive).mp (by rw [Nat.cast_ofNat]; exact large)
      have last : -((places - 1 : ℕ) : ℤ) ≤ lastExponent value := by
        unfold lastExponent
        omega
      obtain ⟨spare, isSpare⟩ := Int.le.dest last
      refine ⟨halfEvenInt (value / 10 ^ lastExponent value) * 10 ^ spare, ?_⟩
      have written : value =
          halfEvenInt (value / 10 ^ lastExponent value) * 10 ^ lastExponent value := exact.symm
      calc value * 10 ^ (places - 1) = halfEvenInt (value / 10 ^ lastExponent value) *
            10 ^ lastExponent value * 10 ^ (places - 1) := by rw [← written]
        _ = halfEvenInt (value / 10 ^ lastExponent value) *
            10 ^ (lastExponent value + (places - 1 : ℕ)) := by
          rw [zpow_add₀ (by norm_num), zpow_natCast, mul_assoc]
        _ = _ := by
          rw [show lastExponent value + (places - 1 : ℕ) = spare by omega, zpow_natCast]
          push_cast
          rfl
  · rintro (within | coarser)
    · exact contextRound_of_onGrid few onGrid within
    · apply contextRound_of_onGrid (by omega) coarser
      rwa [show 28 - (places - 1) = 29 - places by omega]

theorem abs_contextRound (value : ℚ) : |contextRound value| = contextRound |value| := by
  rcases le_total 0 value with nonneg | nonpos
  · rw [abs_of_nonneg nonneg, abs_of_nonneg (contextRound_nonneg nonneg)]
  · rw [abs_of_nonpos nonpos, abs_of_nonpos (contextRound_nonpos nonpos), contextRound_neg]

theorem not_overflows_of_le {bound : ℚ} (within : |value| ≤ |bound|) (fits : ¬ Overflows bound) :
    ¬ Overflows value := by
  unfold Overflows at fits ⊢
  rw [abs_contextRound, not_lt] at fits ⊢
  rcases (contextRound_nonneg (abs_nonneg value)).eq_or_lt with zero | positive
  · rw [← zero, Int.log_zero_right]
    norm_num
  · exact (Int.log_mono_right positive (contextRound_mono within)).trans fits

theorem not_overflows_pow (fits : exponent ≤ 999999) : ¬ Overflows ((10 : ℚ) ^ exponent) := by
  have power : Int.log 10 ((10 : ℚ) ^ exponent) = exponent := by
    have zpow := @Int.log_zpow ℚ _ _ _ _ 10 (by norm_num) exponent
    rwa [zpow_natCast] at zpow
  unfold Overflows
  rw [contextRound_pow, abs_of_pos (by positivity), not_lt, power]
  exact_mod_cast fits

theorem contextResult_of_le (within : |value| ≤ 10 ^ exponent) (fits : exponent ≤ 999999) :
    contextResult value = .ok (contextRound value) := by
  refine contextResult_eq_ok_iff.mpr ⟨not_overflows_of_le ?_ (not_overflows_pow fits), rfl⟩
  exact within.trans (le_abs_self _)

end Bounds

/-- A result has at most 28 digits, or is the power of ten after them. -/
theorem abs_units_le (value : ℚ) :
    |halfEvenInt (value / 10 ^ lastExponent value)| ≤ 10 ^ 28 := by
  have leading : |value| < 10 ^ (lastExponent value + 28) := by
    have log : |value| < (10 : ℚ) ^ (Int.log 10 |value| + 1) := by
      exact_mod_cast Int.lt_zpow_succ_log_self (by norm_num : 1 < 10) |value|
    refine log.trans_le (zpow_le_zpow_right₀ (by norm_num) ?_)
    unfold lastExponent
    omega
  rw [zpow_add₀ (by norm_num)] at leading
  have scaled : |value / 10 ^ lastExponent value| ≤ ((10 ^ 28 : ℤ) : ℚ) := by
    rw [abs_div, abs_of_pos (unit_pos value), div_le_iff₀ (unit_pos value), mul_comm]
    exact_mod_cast leading.le
  obtain ⟨low, high⟩ := abs_le.mp scaled
  rw [abs_le]
  constructor
  · have mono := halfEvenInt_monotone low
    rwa [← Int.cast_neg, show halfEvenInt _ = _ from halfEven.exact _] at mono
  · have mono := halfEvenInt_monotone high
    rwa [show halfEvenInt _ = _ from halfEven.exact _] at mono

/-- Rounding a result again changes nothing. -/
theorem contextRound_contextRound (value : ℚ) :
    contextRound (contextRound value) = contextRound value := by
  by_cases nothing : contextRound value = 0
  · rw [nothing, contextRound_zero]
  have unit := unit_pos value
  have notUnder : -1000026 ≤ lastExponent value := le_max_right _ _
  have bound := abs_units_le value
  have magnitude : |contextRound value| =
      |(halfEvenInt (value / 10 ^ lastExponent value) : ℚ)| * 10 ^ lastExponent value := by
    rw [contextRound, abs_mul, abs_of_pos unit]
  rcases bound.lt_or_eq with fewer | carried
  · refine contextRound_of_units (lastExponent_le nothing ?_ notUnder) rfl
    have fewerRat : |(halfEvenInt (value / 10 ^ lastExponent value) : ℚ)| < 10 ^ 28 := by
      exact_mod_cast fewer
    rw [magnitude, add_comm, zpow_add₀ (by norm_num)]
    exact mul_lt_mul_of_pos_right (by exact_mod_cast fewerRat) unit
  · -- The digits carried into a 29th place, which ends in a zero.
    have carriedRat : |(halfEvenInt (value / 10 ^ lastExponent value) : ℚ)| = 10 ^ 28 := by
      exact_mod_cast carried
    have tens : contextRound value = ((halfEvenInt (value / 10 ^ lastExponent value) / 10 : ℤ) : ℚ) *
        10 ^ (lastExponent value + 1) := by
      have divides : halfEvenInt (value / 10 ^ lastExponent value) =
          halfEvenInt (value / 10 ^ lastExponent value) / 10 * 10 := by
        rcases abs_eq (by positivity) |>.mp carried with plus | minus
        · rw [plus]
          norm_num
        · rw [minus]
          norm_num
      rw [zpow_add_one₀ (by norm_num), contextRound]
      conv_lhs => rw [divides]
      push_cast
      ring
    refine contextRound_of_units (lastExponent_le nothing ?_ (by omega)) tens
    rw [magnitude, carriedRat, show lastExponent value + 1 + 28 = lastExponent value + 28 + 1 by ring,
      zpow_add_one₀ (by norm_num), add_comm, zpow_add₀ (by norm_num)]
    have more : (10 : ℚ) ^ (28 : ℤ) * 10 ^ lastExponent value * 10 > 10 ^ 28 * 10 ^ lastExponent value := by
      have positive : (0 : ℚ) < 10 ^ 28 * 10 ^ lastExponent value := by positivity
      have same : (10 : ℚ) ^ (28 : ℤ) = 10 ^ 28 := by norm_num
      rw [same]
      linarith
    exact more

/-- Adding what is not negative does not lower a result. -/
theorem contextRound_le_add {value part : ℚ} (nonneg : 0 ≤ part) :
    contextRound value ≤ contextRound (contextRound value + part) := by
  have rounded := contextRound_mono (le_add_of_nonneg_right nonneg : contextRound value ≤ _)
  rwa [contextRound_contextRound] at rounded

end UrjaSetu.Library.DecimalContext
