import UrjaSetu.Adapters.BaselineProvider
import UrjaSetu.Library.Exceptions

/-!
What the baseline provider says of one interval.

The mean is capped before the spread is computed around it, and bounds and mean
are rounded on their own: to the 28 digits of the decimal context where they are
computed, and to three decimals where they are reported. A mean that can be
reported has no more digits than the context keeps.

Owns: when a point is made, and the order of its numbers.
-/

namespace UrjaSetu.Adapters.BaselineProvider

open UrjaSetu.Domain UrjaSetu.Domain.Interfaces UrjaSetu.Library
open UrjaSetu.Library.Rounding UrjaSetu.Library.DecimalContext UrjaSetu.Library.Binary64

namespace BaselineForecastProvider

variable (provider : BaselineForecastProvider) (squareRoot : ℚ → ℚ)

/-! ## What a point says -/

def lowerBound (samples : List ℚ) : ℚ :=
  quantize halfEven 3
    (max 0 (contextRound (provider.mean samples - provider.deviation squareRoot samples)))

def upperBound (samples : List ℚ) : ℚ :=
  quantize halfEven 3
    (provider.cap (contextRound (provider.mean samples + provider.deviation squareRoot samples)))

def predictedKw (samples : List ℚ) : ℚ := quantize halfEven 3 (provider.mean samples)

def predictedKwh (samples : List ℚ) (hours : ℚ) : ℚ :=
  quantize halfEven 3 (contextRound (provider.predictedKw samples * hours))

/-- The numbers of a point have at most 28 digits. -/
structure Fits (samples : List ℚ) (hours : ℚ) : Prop where
  power : provider.predictedKw samples < 10 ^ 25
  upper : provider.upperBound squareRoot samples < 10 ^ 25
  energy : |provider.predictedKwh samples hours| < 10 ^ 25

/-- A capacity is not negative and has at most three decimals. -/
structure Configured : Prop where
  nonneg : ∀ capacity ∈ provider.pvCapacityKw, 0 ≤ capacity
  onGrid : ∀ capacity ∈ provider.pvCapacityKw, OnGrid 3 capacity

variable {provider squareRoot} {samples : List ℚ} {value other hours : ℚ}

private theorem cap_le {capacity : ℚ} (configured : capacity ∈ provider.pvCapacityKw) :
    provider.cap value ≤ capacity := by
  unfold cap
  rw [Option.mem_def.mp configured]
  exact min_le_right _ _

private theorem le_cap (below : value ≤ other)
    (within : ∀ capacity ∈ provider.pvCapacityKw, value ≤ capacity) :
    value ≤ provider.cap other := by
  unfold cap
  cases held : provider.pvCapacityKw with
  | none => exact below
  | some capacity => exact le_min below (within capacity held)

private theorem cap_eq_or : provider.cap value = value ∨
    ∃ capacity ∈ provider.pvCapacityKw, provider.cap value = capacity := by
  unfold cap
  cases held : provider.pvCapacityKw with
  | none => exact Or.inl rfl
  | some capacity => exact (min_choice value capacity).imp_right fun same => ⟨capacity, rfl, same⟩

section Bounds

variable (configured : provider.Configured) (rootNonneg : ∀ value, 0 ≤ squareRoot value)
include configured

private theorem cap_nonneg (nonneg : 0 ≤ value) : 0 ≤ provider.cap value :=
  le_cap nonneg configured.nonneg

private theorem mean_nonneg (samples : List ℚ) : 0 ≤ provider.mean samples :=
  cap_nonneg configured (le_max_left _ _)

/-- A mean that is not too large is a number of the decimal context. -/
theorem contextRound_mean (small : provider.predictedKw samples < 10 ^ 25) :
    contextRound (provider.mean samples) = provider.mean samples := by
  have meanSmall : provider.mean samples < 10 ^ 25 := by
    by_contra large
    have whole : OnGrid 3 (10 ^ 25) := ⟨10 ^ 28, by norm_num⟩
    exact absurd small (not_lt.mpr (le_quantize halfEven whole (not_lt.mp large)))
  have nonneg := mean_nonneg configured samples
  rcases @cap_eq_or provider (max 0 (contextRound (sumDecimals samples / samples.length))) with
    uncapped | ⟨capacity, held, capped⟩
  · have own : provider.mean samples = max 0 (contextRound (sumDecimals samples / samples.length)) :=
      uncapped
    rcases le_total 0 (sumDecimals samples / samples.length) with average | negative
    · rw [own, max_eq_right (contextRound_nonneg average)]
      exact contextRound_contextRound _
    · rw [own, max_eq_left (contextRound_nonpos negative)]
      exact contextRound_zero
  · have own : provider.mean samples = capacity := capped
    rw [own] at nonneg meanSmall ⊢
    apply contextRound_of_onGrid (by norm_num) (configured.onGrid capacity held)
    rw [abs_of_nonneg nonneg]
    exact meanSmall

private theorem predictedKw_nonneg : 0 ≤ provider.predictedKw samples :=
  quantize_nonneg halfEven (mean_nonneg configured samples)

private theorem predictedKw_le {capacity : ℚ} (held : capacity ∈ provider.pvCapacityKw) :
    provider.predictedKw samples ≤ capacity :=
  quantize_le halfEven (configured.onGrid capacity held) (cap_le held)

private theorem upperBound_le {capacity : ℚ} (held : capacity ∈ provider.pvCapacityKw) :
    provider.upperBound squareRoot samples ≤ capacity :=
  quantize_le halfEven (configured.onGrid capacity held) (cap_le held)

include rootNonneg

omit configured in
private theorem deviation_nonneg (samples : List ℚ) :
    0 ≤ provider.deviation squareRoot samples := by
  unfold deviation
  split
  · exact rootNonneg _
  · exact le_rfl

private theorem lowerBound_le (small : provider.predictedKw samples < 10 ^ 25) :
    provider.lowerBound squareRoot samples ≤ provider.predictedKw samples := by
  have nonneg := mean_nonneg configured samples
  refine quantize_mono halfEven (max_le nonneg ?_)
  have below : provider.mean samples - provider.deviation squareRoot samples ≤
      provider.mean samples := sub_le_self _ (deviation_nonneg rootNonneg samples)
  have rounded := contextRound_mono below
  rwa [contextRound_mean configured small] at rounded

private theorem predictedKw_le_upperBound (small : provider.predictedKw samples < 10 ^ 25) :
    provider.predictedKw samples ≤ provider.upperBound squareRoot samples := by
  refine quantize_mono halfEven (le_cap ?_ fun capacity held => cap_le held)
  have above : provider.mean samples ≤
      provider.mean samples + provider.deviation squareRoot samples :=
    le_add_of_nonneg_right (deviation_nonneg rootNonneg samples)
  have rounded := contextRound_mono above
  rwa [contextRound_mean configured small] at rounded

/-- A confidence is a number from a twentieth to one. -/
theorem confidence_ok (samples : List ℚ) :
    ∃ confidence, provider.confidence squareRoot samples = .ok confidence ∧
      1 / 20 ≤ confidence ∧ confidence ≤ 1 := by
  have double_nonneg : ∀ value : ℚ, 0 ≤ value → 0 ≤ double value := by
    intro value nonneg
    rcases nonneg.eq_or_lt with zero | positive
    · rw [← zero, double_zero]
    · exact (double_pos positive).le
  have meanNonneg := double_nonneg _ (mean_nonneg configured samples)
  have divisor := double_pos (show 0 < double (provider.mean samples) + 1 by linarith)
  have spreadNonneg : 0 ≤ double (double (provider.deviation squareRoot samples) /
      double (double (provider.mean samples) + 1)) :=
    double_nonneg _ (div_nonneg (double_nonneg _ (deviation_nonneg rootNonneg samples)) divisor.le)
  have steady := double_pos (show 0 < 1 + double (double (provider.deviation squareRoot samples) /
      double (double (provider.mean samples) + 1)) by linarith)
  unfold confidence divideFloats
  dsimp only
  rw [if_neg divisor.ne', ok_bind, if_neg steady.ne', ok_bind]
  exact ⟨_, rfl, le_max_left _ _, max_le (by norm_num) (min_le_left _ _)⟩

end Bounds

private theorem quantizeMilli_eq_ok {rounded : ℚ} : quantizeMilli value = .ok rounded ↔
    |quantize halfEven 3 value| < 10 ^ 25 ∧ rounded = quantize halfEven 3 value := by
  unfold quantizeMilli
  rw [mapError_eq_ok, quantized_eq_ok_iff]
  constructor
  · rintro ⟨small, rfl⟩
    exact ⟨small, rfl⟩
  · rintro ⟨small, rfl⟩
    exact ⟨small, rfl⟩

/-- What is said of an interval for which there are samples. -/
def pointOf (provider : BaselineForecastProvider) (squareRoot : ℚ → ℚ) (start stop : Instant)
    (samples : List ℚ) (hours confidence : ℚ) : ForecastPoint where
  intervalStart := start
  intervalEnd := stop
  predictedKw := some (provider.predictedKw samples)
  predictedKwh := some (provider.predictedKwh samples hours)
  confidence := some confidence
  lowerBound := some (provider.lowerBound squareRoot samples)
  upperBound := some (provider.upperBound squareRoot samples)

/-- What is said of an interval for which there are none. -/
def emptyPoint (start stop : Instant) : ForecastPoint where
  intervalStart := start
  intervalEnd := stop
  predictedKw := some 0
  predictedKwh := some 0
  confidence := some 0
  lowerBound := some 0
  upperBound := some 0

private theorem pointFor_of_empty {start stop : Instant} :
    provider.pointFor squareRoot start stop [] hours = .ok (emptyPoint start stop) := rfl

/-- A point is made where its numbers fit, and says them. -/
theorem pointFor_eq_ok (configured : provider.Configured) (rootNonneg : ∀ value, 0 ≤ squareRoot value)
    {start stop : Instant} {confidence : ℚ} (sampled : samples ≠ [])
    (confident : provider.confidence squareRoot samples = .ok confidence) {point : ForecastPoint} :
    provider.pointFor squareRoot start stop samples hours = .ok point ↔
      provider.Fits squareRoot samples hours ∧
        point = provider.pointOf squareRoot start stop samples hours confidence := by
  unfold pointFor
  rw [if_neg sampled]
  dsimp only
  constructor
  · intro made
    obtain ⟨lower, lowerRounded, made⟩ := bind_eq_ok.mp made
    obtain ⟨upper, upperRounded, made⟩ := bind_eq_ok.mp made
    obtain ⟨known, isConfidence, made⟩ := bind_eq_ok.mp made
    obtain ⟨power, powerRounded, made⟩ := bind_eq_ok.mp made
    obtain ⟨energy, energyRounded, made⟩ := bind_eq_ok.mp made
    obtain ⟨_, rfl⟩ := quantizeMilli_eq_ok.mp lowerRounded
    obtain ⟨upperFits, rfl⟩ := quantizeMilli_eq_ok.mp upperRounded
    obtain ⟨powerFits, rfl⟩ := quantizeMilli_eq_ok.mp powerRounded
    obtain ⟨energyFits, rfl⟩ := quantizeMilli_eq_ok.mp energyRounded
    rw [confident] at isConfidence
    cases isConfidence
    cases made
    exact ⟨⟨(le_abs_self _).trans_lt powerFits, (le_abs_self _).trans_lt upperFits, energyFits⟩, rfl⟩
  · rintro ⟨fits, rfl⟩
    have powerNonneg := @predictedKw_nonneg provider samples configured
    have lowerNonneg : 0 ≤ provider.lowerBound squareRoot samples :=
      quantize_nonneg halfEven (le_max_left _ _)
    have lowerSmall := (lowerBound_le configured rootNonneg fits.power).trans_lt fits.power
    have upperNonneg := powerNonneg.trans
      (predictedKw_le_upperBound configured rootNonneg fits.power)
    have lowerRounded : quantizeMilli (max 0 (contextRound (provider.mean samples -
        provider.deviation squareRoot samples))) = .ok (provider.lowerBound squareRoot samples) :=
      quantizeMilli_eq_ok.mpr ⟨by rw [← lowerBound, abs_of_nonneg lowerNonneg]; exact lowerSmall, rfl⟩
    have upperRounded : quantizeMilli (provider.cap (contextRound (provider.mean samples +
        provider.deviation squareRoot samples))) = .ok (provider.upperBound squareRoot samples) :=
      quantizeMilli_eq_ok.mpr ⟨by rw [← upperBound, abs_of_nonneg upperNonneg]; exact fits.upper, rfl⟩
    have powerRounded : quantizeMilli (provider.mean samples) = .ok (provider.predictedKw samples) :=
      quantizeMilli_eq_ok.mpr
        ⟨by rw [← predictedKw, abs_of_nonneg powerNonneg]; exact fits.power, rfl⟩
    have energyRounded : quantizeMilli (contextRound (provider.predictedKw samples * hours)) =
        .ok (provider.predictedKwh samples hours) :=
      quantizeMilli_eq_ok.mpr ⟨fits.energy, rfl⟩
    rw [lowerRounded, ok_bind, upperRounded, ok_bind, confident, ok_bind, powerRounded, ok_bind,
      energyRounded, ok_bind]
    rfl

/-- What holds of the numbers of a point. -/
def Bounded (provider : BaselineForecastProvider) (point : ForecastPoint) : Prop :=
  ∃ lower predicted upper confidence, point.lowerBound = some lower ∧
    point.predictedKw = some predicted ∧ point.upperBound = some upper ∧
    point.confidence = some confidence ∧ 0 ≤ lower ∧ lower ≤ predicted ∧ predicted ≤ upper ∧
    0 ≤ confidence ∧ confidence ≤ 1 ∧
    ∀ capacity ∈ provider.pvCapacityKw, predicted ≤ capacity ∧ upper ≤ capacity

section Point

variable (configured : provider.Configured) (rootNonneg : ∀ value, 0 ≤ squareRoot value)
  {start stop : Instant} {point : ForecastPoint}
include configured rootNonneg

/-- There is a point exactly where there is nothing to say or it fits. -/
theorem pointFor_isOk_iff : (∃ point, provider.pointFor squareRoot start stop samples hours =
    .ok point) ↔ (samples ≠ [] → provider.Fits squareRoot samples hours) := by
  by_cases sampled : samples = []
  · rw [sampled]
    exact ⟨fun _ absurdity => absurd rfl absurdity, fun _ => ⟨_, pointFor_of_empty⟩⟩
  · obtain ⟨confidence, confident, _⟩ := confidence_ok configured rootNonneg samples
    constructor
    · rintro ⟨point, made⟩ _
      exact ((pointFor_eq_ok configured rootNonneg sampled confident).mp made).1
    · intro fits
      exact ⟨_, (pointFor_eq_ok configured rootNonneg sampled confident).mpr ⟨fits sampled, rfl⟩⟩

/-- Every point is of its interval, and bounded. -/
theorem pointFor_bounded
    (made : provider.pointFor squareRoot start stop samples hours = .ok point) :
    point.intervalStart = start ∧ point.intervalEnd = stop ∧ provider.Bounded point := by
  by_cases sampled : samples = []
  · rw [sampled, pointFor_of_empty] at made
    cases made
    exact ⟨rfl, rfl, 0, 0, 0, 0, rfl, rfl, rfl, rfl, le_rfl, le_rfl, le_rfl, le_rfl, zero_le_one,
      fun capacity held => ⟨configured.nonneg capacity held, configured.nonneg capacity held⟩⟩
  · obtain ⟨confidence, confident, least, most⟩ := confidence_ok configured rootNonneg samples
    obtain ⟨fits, rfl⟩ := (pointFor_eq_ok configured rootNonneg sampled confident).mp made
    refine ⟨rfl, rfl, _, _, _, _, rfl, rfl, rfl, rfl, ?_, ?_, ?_, ?_, most, ?_⟩
    · exact quantize_nonneg halfEven (le_max_left _ _)
    · exact lowerBound_le configured rootNonneg fits.power
    · exact predictedKw_le_upperBound configured rootNonneg fits.power
    · exact (by norm_num : (0 : ℚ) ≤ 1 / 20).trans least
    · exact fun capacity held => ⟨predictedKw_le configured held, upperBound_le configured held⟩

end Point

end BaselineForecastProvider

end UrjaSetu.Adapters.BaselineProvider
