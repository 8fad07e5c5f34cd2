import UrjaSetu.Domain.Policies.DynamicPricing
import Mathlib.Data.Int.Range

/-!
What a quote is made of, and when there is one.

A component is refused where its amount takes more than 28 digits. Of the fractions
that requests of one base price are charged, the largest ones decide.

Owns: the shares of a base price, the parts of a quote, and exactly when every request
of a base price is quoted.
-/

namespace UrjaSetu.Domain.Policies.DynamicPricing

open UrjaSetu.Domain UrjaSetu.Domain.Interfaces UrjaSetu.Library UrjaSetu.Library.Rounding
open UrjaSetu.Library.DecimalContext UrjaSetu.Domain.Policies.ClearingPrice

/-! ## Shares of a base price -/

/-- `quantize_price(base * fraction)`, of however many digits. -/
def shareOf (basePrice fraction : ℚ) : ℚ := quantizePrice (contextRound (basePrice * fraction))

/-- The share has at most 28 digits. -/
def Fits (basePrice fraction : ℚ) : Prop := |shareOf basePrice fraction| < 10 ^ 24

instance (basePrice fraction : ℚ) : Decidable (Fits basePrice fraction) := by
  unfold Fits
  infer_instance

section Shares

variable {basePrice fraction lower upper : ℚ}

private theorem share_eq_ok_iff {request : PricingRequest} {amount : ℚ} :
    share request fraction = .ok amount ↔
      Fits request.basePriceInrPerKwh fraction ∧
        amount = shareOf request.basePriceInrPerKwh fraction := by
  unfold share
  rw [bind_eq_ok]
  constructor
  · rintro ⟨product, isProduct, rounded⟩
    obtain ⟨_, rfl⟩ := contextResult_eq_ok_iff.mp isProduct
    obtain ⟨small, rfl⟩ := quantized_eq_ok_iff.mp rounded
    exact ⟨small, rfl⟩
  · rintro ⟨fits, rfl⟩
    have rounded : quantized halfUp pricePlaces
        (contextRound (request.basePriceInrPerKwh * fraction)) =
        .ok (shareOf request.basePriceInrPerKwh fraction) := quantized_eq_ok_iff.mpr ⟨fits, rfl⟩
    have small := (abs_lt_of_quantized rounded).le
    exact ⟨_, contextResult_of_le small (by norm_num [pricePlaces]), rounded⟩

theorem shareOf_zero (basePrice : ℚ) : shareOf basePrice 0 = 0 := by
  rw [shareOf, mul_zero, contextRound_zero]
  exact quantize_zero halfUp

theorem shareOf_mono (base : 0 ≤ basePrice) (order : lower ≤ upper) :
    shareOf basePrice lower ≤ shareOf basePrice upper := by
  apply quantize_mono halfUp
  exact contextRound_mono (mul_le_mul_of_nonneg_left order base)

theorem shareOf_nonneg (base : 0 ≤ basePrice) (nonneg : 0 ≤ fraction) :
    0 ≤ shareOf basePrice fraction :=
  quantize_nonneg halfUp (contextRound_nonneg (mul_nonneg base nonneg))

theorem shareOf_onGrid (basePrice fraction : ℚ) : OnGrid pricePlaces (shareOf basePrice fraction) :=
  quantize_onGrid halfUp _ _

private theorem Fits.of_le (base : 0 ≤ basePrice) (nonneg : 0 ≤ lower) (order : lower ≤ upper)
    (fits : Fits basePrice upper) : Fits basePrice lower := by
  unfold Fits at fits ⊢
  rw [abs_of_nonneg (shareOf_nonneg base nonneg)]
  exact (shareOf_mono base order).trans_lt (lt_of_abs_lt fits)

end Shares

/-! ## Fractions -/

/-- The band of a local hour. -/
def bandOfHour (parameters : PricingParameters) (hour : ℤ) : TimeOfDayBand :=
  match parameters.tariffBands.find? fun tariff => tariff.contains hour with
  | some tariff => tariff.band
  | none => .normal

/-- The fraction that deliveries from a local hour are charged for their time. -/
def fractionOfHour (parameters : PricingParameters) (hour : ℤ) : ℚ :=
  fractionOf parameters (bandOfHour parameters hour)

theorem localHour_mem (moment : Instant) (offset : ℤ) :
    0 ≤ localHour moment offset ∧ localHour moment offset < 24 := by
  unfold localHour
  omega

/-- Deliveries start in every hour. -/
theorem exists_localHour (offset : ℤ) {hour : ℤ} (nonneg : 0 ≤ hour) (below : hour < 24) :
    ∃ moment : Instant, localHour moment offset = hour := by
  refine ⟨hour * 3600000000 - offset, ?_⟩
  unfold localHour
  omega

section Fractions

variable (parameters : AcceptedParameters)

theorem congestionMaxFraction_nonneg : 0 ≤ parameters.congestionMaxFraction :=
  parameters.checked.nonneg ("congestion_max_fraction", _) List.mem_cons_self

theorem imbalanceFractionPerUncertainty_nonneg : 0 ≤ parameters.imbalanceFractionPerUncertainty :=
  parameters.checked.nonneg ("imbalance_fraction_per_uncertainty", _)
    (by simp [PricingParameters.nonnegative])

private theorem unknownConfidenceFraction_nonneg : 0 ≤ parameters.unknownConfidenceFraction :=
  parameters.checked.nonneg ("unknown_confidence_fraction", _)
    (by simp [PricingParameters.nonnegative])

theorem localRenewableFraction_nonneg : 0 ≤ parameters.localRenewableFraction :=
  parameters.checked.nonneg ("local_renewable_fraction", _)
    (by simp [PricingParameters.nonnegative])

/-- The part of the way from the threshold to the rating. -/
def rampPart (loading : ℚ) : ℚ :=
  contextRound (contextRound (min loading 100 - parameters.congestionThresholdPct) /
    contextRound (100 - parameters.congestionThresholdPct))

private theorem span_nonneg : 0 ≤ contextRound (100 - parameters.congestionThresholdPct) :=
  contextRound_nonneg (sub_nonneg.mpr parameters.checked.threshold.2.le)

private theorem rampPart_bounds {loading : ℚ}
    (above : parameters.congestionThresholdPct < loading) :
    0 ≤ rampPart parameters loading ∧ rampPart parameters loading ≤ 1 := by
  have beyond : 0 ≤ contextRound (min loading 100 - parameters.congestionThresholdPct) :=
    contextRound_nonneg (sub_nonneg.mpr (le_min above.le parameters.checked.threshold.2.le))
  have within : contextRound (min loading 100 - parameters.congestionThresholdPct) ≤
      contextRound (100 - parameters.congestionThresholdPct) :=
    contextRound_mono (sub_le_sub_right (min_le_right _ _) _)
  exact ⟨contextRound_nonneg (div_nonneg beyond (span_nonneg parameters)),
    contextRound_le_one (div_le_one_of_le₀ within (span_nonneg parameters))⟩

theorem rampPart_mono {lower upper : ℚ} (order : lower ≤ upper) :
    rampPart parameters lower ≤ rampPart parameters upper := by
  apply contextRound_mono
  apply div_le_div_of_nonneg_right _ (span_nonneg parameters)
  exact contextRound_mono (sub_le_sub_right (min_le_min_right 100 order) _)

/-- At the rating the whole way is gone. -/
theorem rampPart_rating (span : contextRound (100 - parameters.congestionThresholdPct) ≠ 0) :
    rampPart parameters 100 = 1 := by
  rw [rampPart, min_self, div_self span]
  decide +kernel

theorem congestionFraction_safe {metrics : Option GridMetrics} {loading : ℚ}
    (reported : utilisationPct metrics = some loading) :
    congestionFraction parameters.toPricingParameters .safe metrics =
      if loading ≤ parameters.congestionThresholdPct then .ok 0
      else if contextRound (100 - parameters.congestionThresholdPct) = 0 then
        .error .invalidOperation
      else contextResult (parameters.congestionMaxFraction * rampPart parameters loading) := by
  unfold congestionFraction
  rw [reported]
  rfl

/-- Every congestion fraction is up to the largest one, or to that as it is rounded. -/
theorem congestionFraction_bounds {status : GridValidationStatus} {metrics : Option GridMetrics}
    {fraction : ℚ}
    (charged : congestionFraction parameters.toPricingParameters status metrics = .ok fraction) :
    0 ≤ fraction ∧ (fraction ≤ parameters.congestionMaxFraction ∨
      fraction ≤ contextRound parameters.congestionMaxFraction) := by
  have largest := congestionMaxFraction_nonneg parameters
  unfold congestionFraction at charged
  split at charged
  · cases charged
    exact ⟨largest, .inl le_rfl⟩
  · cases charged
    exact ⟨largest, .inl le_rfl⟩
  · split at charged
    · cases charged
      exact ⟨largest, .inl le_rfl⟩
    · rename_i loading reported
      split at charged
      · cases charged
        exact ⟨le_rfl, .inl largest⟩
      · rename_i above
        obtain ⟨nonneg, atMostOne⟩ := rampPart_bounds parameters (not_le.mp above)
        dsimp only at charged
        split at charged
        · cases charged
        · obtain ⟨_, rfl⟩ := contextResult_eq_ok_iff.mp charged
          exact ⟨contextRound_nonneg (mul_nonneg largest nonneg),
            .inr (contextRound_mono (mul_le_of_le_one_right largest atMostOne))⟩

theorem imbalanceFraction_bounds {confidence : Option ℚ} {fraction : ℚ}
    (charged : imbalanceFraction parameters.toPricingParameters confidence = .ok fraction) :
    0 ≤ fraction ∧ (fraction ≤ parameters.unknownConfidenceFraction ∨
      fraction ≤ contextRound parameters.imbalanceFractionPerUncertainty) := by
  have perUnit := imbalanceFractionPerUncertainty_nonneg parameters
  unfold imbalanceFraction at charged
  split at charged
  · cases charged
    exact ⟨unknownConfidenceFraction_nonneg parameters, .inl le_rfl⟩
  · rename_i confidence
    obtain ⟨_, rfl⟩ := contextResult_eq_ok_iff.mp charged
    have uncertain : 0 ≤ contextRound (1 - min (max confidence 0) 1) :=
      contextRound_nonneg (sub_nonneg.mpr (min_le_right _ _))
    have atMostOne : contextRound (1 - min (max confidence 0) 1) ≤ 1 :=
      contextRound_le_one (sub_le_self _ (le_min (le_max_right _ _) zero_le_one))
    exact ⟨contextRound_nonneg (mul_nonneg uncertain perUnit),
      .inr (contextRound_mono (mul_le_of_le_one_left perUnit atMostOne))⟩

end Fractions

/-! ## Quotes -/

/-- The parts of a quote. -/
structure Quoted (request : PricingRequest) (parameters : PricingParameters)
    (result : PricingResult) : Prop where
  nonneg : 0 ≤ request.basePriceInrPerKwh
  base : quantized halfUp pricePlaces request.basePriceInrPerKwh = .ok result.baseMarketPrice
  time : timeComponent request parameters = .ok result.timeComponent
  congestion : congestionComponent request parameters = .ok result.congestionComponent
  imbalance : imbalanceComponent request parameters = .ok result.imbalanceComponent
  renewable : localRenewableComponent request parameters = .ok result.localRenewableComponent
  final : result.finalPrice = contextRound (contextRound (contextRound (contextRound
    (result.baseMarketPrice + result.timeComponent) + result.congestionComponent) +
      result.imbalanceComponent) + result.localRenewableComponent)
  decision : result.recommendedDecision =
    recommend parameters request.gridStatus result.baseMarketPrice result.congestionComponent

section Quotes

variable {parameters : PricingParameters} {request : PricingRequest} {result : PricingResult}

theorem quote_ok (quoted : quote request parameters = .ok result) :
    Quoted request parameters result := by
  unfold quote at quoted
  split at quoted
  · cases quoted
  · rename_i nonneg
    have isPriced := mapError_eq_ok.mp quoted
    unfold priced at isPriced
    obtain ⟨base, isBase, isPriced⟩ := bind_eq_ok.mp isPriced
    obtain ⟨time, isTime, isPriced⟩ := bind_eq_ok.mp isPriced
    obtain ⟨congestion, isCongestion, isPriced⟩ := bind_eq_ok.mp isPriced
    obtain ⟨imbalance, isImbalance, isPriced⟩ := bind_eq_ok.mp isPriced
    obtain ⟨renewable, isRenewable, isPriced⟩ := bind_eq_ok.mp isPriced
    cases isPriced
    exact ⟨not_lt.mp nonneg, isBase, isTime, isCongestion, isImbalance, isRenewable, rfl, rfl⟩

/-- There is a quote where there are its parts. -/
theorem exists_quote {base time congestion imbalance renewable : ℚ}
    (nonneg : 0 ≤ request.basePriceInrPerKwh)
    (isBase : quantized halfUp pricePlaces request.basePriceInrPerKwh = .ok base)
    (isTime : timeComponent request parameters = .ok time)
    (isCongestion : congestionComponent request parameters = .ok congestion)
    (isImbalance : imbalanceComponent request parameters = .ok imbalance)
    (isRenewable : localRenewableComponent request parameters = .ok renewable) :
    ∃ result, quote request parameters = .ok result := by
  unfold quote priced
  rw [if_neg (not_lt.mpr nonneg), isBase, ok_bind, isTime, ok_bind, isCongestion, ok_bind,
    isImbalance, ok_bind, isRenewable, ok_bind]
  exact ⟨_, rfl⟩

theorem Quoted.base_eq (quoted : Quoted request parameters result) :
    result.baseMarketPrice = quantizePrice request.basePriceInrPerKwh :=
  (quantized_eq_ok_iff.mp quoted.base).2

theorem Quoted.time_eq (quoted : Quoted request parameters result) :
    Fits request.basePriceInrPerKwh (fractionOfHour parameters
        (localHour request.deliveryStart parameters.localUtcOffset)) ∧
      result.timeComponent = shareOf request.basePriceInrPerKwh (fractionOfHour parameters
        (localHour request.deliveryStart parameters.localUtcOffset)) :=
  share_eq_ok_iff.mp quoted.time

theorem Quoted.congestion_eq (quoted : Quoted request parameters result) :
    ∃ fraction, congestionFraction parameters request.gridStatus request.gridMetrics =
        .ok fraction ∧ Fits request.basePriceInrPerKwh fraction ∧
      result.congestionComponent = shareOf request.basePriceInrPerKwh fraction := by
  obtain ⟨fraction, isFraction, shared⟩ := bind_eq_ok.mp quoted.congestion
  exact ⟨fraction, isFraction, share_eq_ok_iff.mp shared⟩

theorem Quoted.imbalance_eq (quoted : Quoted request parameters result) :
    ∃ fraction, imbalanceFraction parameters request.forecastConfidence = .ok fraction ∧
      Fits request.basePriceInrPerKwh fraction ∧
      result.imbalanceComponent = shareOf request.basePriceInrPerKwh fraction := by
  obtain ⟨fraction, isFraction, shared⟩ := bind_eq_ok.mp quoted.imbalance
  exact ⟨fraction, isFraction, share_eq_ok_iff.mp shared⟩

theorem Quoted.renewable_eq (quoted : Quoted request parameters result) :
    result.localRenewableComponent = if request.localRenewable then
      -shareOf request.basePriceInrPerKwh parameters.localRenewableFraction else 0 := by
  have renewable := quoted.renewable
  unfold localRenewableComponent at renewable
  by_cases isRenewable : request.localRenewable = true
  · rw [if_pos isRenewable] at renewable ⊢
    obtain ⟨amount, shared, negated⟩ := bind_eq_ok.mp renewable
    rw [← Except.ok.inj negated, (share_eq_ok_iff.mp shared).2]
  · rw [if_neg isRenewable] at renewable ⊢
    rw [(quantized_eq_ok_iff.mp renewable).2]
    exact quantize_zero halfUp

/-- Neither charge for a risk is negative. -/
theorem Quoted.charges_nonneg {parameters : AcceptedParameters}
    (quoted : Quoted request parameters.toPricingParameters result)
    (nonneg : 0 ≤ request.basePriceInrPerKwh) :
    0 ≤ result.congestionComponent ∧ 0 ≤ result.imbalanceComponent := by
  obtain ⟨congestion, isCongestion, _, congested⟩ := quoted.congestion_eq
  obtain ⟨imbalance, isImbalance, _, imbalanced⟩ := quoted.imbalance_eq
  rw [congested, imbalanced]
  exact ⟨shareOf_nonneg nonneg (congestionFraction_bounds parameters isCongestion).1,
    shareOf_nonneg nonneg (imbalanceFraction_bounds parameters isImbalance).1⟩

end Quotes

/-! ## When there is a quote -/

/-- 28 digits hold the base price and the largest shares of it. -/
structure Quotable (parameters : PricingParameters) (basePrice : ℚ) : Prop where
  base : |quantizePrice basePrice| < 10 ^ 24
  hours : ∀ hour : ℤ, 0 ≤ hour → hour < 24 → Fits basePrice (fractionOfHour parameters hour)
  span : contextRound (100 - parameters.congestionThresholdPct) ≠ 0
  congestion : ¬ Overflows parameters.congestionMaxFraction ∧
    Fits basePrice parameters.congestionMaxFraction ∧
    Fits basePrice (contextRound parameters.congestionMaxFraction)
  imbalance : ¬ Overflows parameters.imbalanceFractionPerUncertainty ∧
    Fits basePrice parameters.unknownConfidenceFraction ∧
    Fits basePrice (contextRound parameters.imbalanceFractionPerUncertainty)
  renewable : Fits basePrice parameters.localRenewableFraction

section

variable (parameters : AcceptedParameters) {basePrice : ℚ}

theorem Quotable.congestion_ok
    (quotable : Quotable parameters.toPricingParameters basePrice) (nonneg : 0 ≤ basePrice)
    (status : GridValidationStatus) (metrics : Option GridMetrics) :
    ∃ fraction, congestionFraction parameters.toPricingParameters status metrics = .ok fraction ∧
      Fits basePrice fraction := by
  have largest := congestionMaxFraction_nonneg parameters
  obtain ⟨fraction, charged⟩ : ∃ fraction,
      congestionFraction parameters.toPricingParameters status metrics = .ok fraction := by
    cases status with
    | unsafe_ => exact ⟨_, rfl⟩
    | unknown => exact ⟨_, rfl⟩
    | safe =>
        cases reported : utilisationPct metrics with
        | none =>
            unfold congestionFraction
            rw [reported]
            exact ⟨_, rfl⟩
        | some loading =>
            rw [congestionFraction_safe parameters reported]
            split
            · exact ⟨_, rfl⟩
            · rename_i above
              obtain ⟨partNonneg, atMostOne⟩ := rampPart_bounds parameters (not_le.mp above)
              rw [if_neg quotable.span]
              refine ⟨_, contextResult_eq_ok_iff.mpr
                ⟨not_overflows_of_le ?_ quotable.congestion.1, rfl⟩⟩
              rw [abs_of_nonneg (mul_nonneg largest partNonneg), abs_of_nonneg largest]
              exact mul_le_of_le_one_right largest atMostOne
  obtain ⟨fractionNonneg, within⟩ := congestionFraction_bounds parameters charged
  refine ⟨fraction, charged, ?_⟩
  rcases within with unrounded | rounded
  · exact Fits.of_le nonneg fractionNonneg unrounded quotable.congestion.2.1
  · exact Fits.of_le nonneg fractionNonneg rounded quotable.congestion.2.2

theorem Quotable.imbalance_ok
    (quotable : Quotable parameters.toPricingParameters basePrice) (nonneg : 0 ≤ basePrice)
    (confidence : Option ℚ) :
    ∃ fraction, imbalanceFraction parameters.toPricingParameters confidence = .ok fraction ∧
      Fits basePrice fraction := by
  have perUnit := imbalanceFractionPerUncertainty_nonneg parameters
  obtain ⟨fraction, charged⟩ : ∃ fraction,
      imbalanceFraction parameters.toPricingParameters confidence = .ok fraction := by
    cases confidence with
    | none => exact ⟨_, rfl⟩
    | some confidence =>
        have uncertain : 0 ≤ contextRound (1 - min (max confidence 0) 1) :=
          contextRound_nonneg (sub_nonneg.mpr (min_le_right _ _))
        have atMostOne : contextRound (1 - min (max confidence 0) 1) ≤ 1 :=
          contextRound_le_one (sub_le_self _ (le_min (le_max_right _ _) zero_le_one))
        refine ⟨_, contextResult_eq_ok_iff.mpr ⟨not_overflows_of_le ?_ quotable.imbalance.1, rfl⟩⟩
        rw [abs_of_nonneg (mul_nonneg uncertain perUnit), abs_of_nonneg perUnit]
        exact mul_le_of_le_one_left perUnit atMostOne
  obtain ⟨fractionNonneg, within⟩ := imbalanceFraction_bounds parameters charged
  refine ⟨fraction, charged, ?_⟩
  rcases within with unknown | rounded
  · exact Fits.of_le nonneg fractionNonneg unknown quotable.imbalance.2.1
  · exact Fits.of_le nonneg fractionNonneg rounded quotable.imbalance.2.2

/-- Where the digits hold the largest shares, every request is quoted. -/
theorem Quotable.quoted (quotable : Quotable parameters.toPricingParameters basePrice)
    (nonneg : 0 ≤ basePrice) {request : PricingRequest}
    (isBase : request.basePriceInrPerKwh = basePrice) :
    ∃ result, quote request parameters.toPricingParameters = .ok result := by
  subst isBase
  obtain ⟨hourNonneg, hourBelow⟩ := localHour_mem request.deliveryStart parameters.localUtcOffset
  obtain ⟨congestion, isCongestion, congestionFits⟩ :=
    quotable.congestion_ok parameters nonneg request.gridStatus request.gridMetrics
  obtain ⟨imbalance, isImbalance, imbalanceFits⟩ :=
    quotable.imbalance_ok parameters nonneg request.forecastConfidence
  have renewable : ∃ amount,
      localRenewableComponent request parameters.toPricingParameters = .ok amount := by
    unfold localRenewableComponent
    split
    · rw [share_eq_ok_iff.mpr ⟨quotable.renewable, rfl⟩]
      exact ⟨_, rfl⟩
    · refine ⟨_, quantized_eq_ok_iff.mpr ⟨?_, rfl⟩⟩
      rw [quantize_zero, abs_zero]
      positivity
  obtain ⟨amount, isAmount⟩ := renewable
  apply exists_quote nonneg (quantized_eq_ok_iff.mpr ⟨quotable.base, rfl⟩)
    (share_eq_ok_iff.mpr ⟨quotable.hours _ hourNonneg hourBelow, rfl⟩)
    _ _ isAmount
  · exact shareOf request.basePriceInrPerKwh congestion
  · exact shareOf request.basePriceInrPerKwh imbalance
  · exact bind_eq_ok.mpr ⟨congestion, isCongestion, share_eq_ok_iff.mpr ⟨congestionFits, rfl⟩⟩
  · exact bind_eq_ok.mpr ⟨imbalance, isImbalance, share_eq_ok_iff.mpr ⟨imbalanceFits, rfl⟩⟩

/-- A request from a local hour for certain energy over an idle network. -/
def idleRequest (basePrice : ℚ) (deliveryStart : Instant) : PricingRequest where
  basePriceInrPerKwh := basePrice
  quantityKwh := 1
  deliveryStart := deliveryStart
  deliveryEnd := deliveryStart + 900000000
  gridStatus := .safe
  gridMetrics := some { maxLineLoadingPct := some 0 }
  forecastConfidence := some 1
  localRenewable := true

/-- A safe network loaded to its rating, and no confidence in the forecast. -/
def ratedRequest (basePrice : ℚ) : PricingRequest :=
  { idleRequest basePrice 0 with
    gridMetrics := some { maxLineLoadingPct := some 100 }
    forecastConfidence := some 0 }

/-- An unsafe network, and a forecast that reports no confidence. -/
def unknownRequest (basePrice : ℚ) : PricingRequest :=
  { idleRequest basePrice 0 with gridStatus := .unsafe_, forecastConfidence := none }

theorem congestionFraction_rated :
    congestionFraction parameters.toPricingParameters .safe
        (some { maxLineLoadingPct := some 100 }) =
      if contextRound (100 - parameters.congestionThresholdPct) = 0 then .error .invalidOperation
      else contextResult parameters.congestionMaxFraction := by
  rw [@congestionFraction_safe parameters (some { maxLineLoadingPct := some 100 }) 100 rfl,
    if_neg (not_le.mpr parameters.checked.threshold.2)]
  split
  · rfl
  · rename_i span
    rw [rampPart_rating parameters span, mul_one]

/-- Every request of a base price is quoted exactly where 28 digits hold the base price
and the largest shares of it. -/
theorem quotable_iff (nonneg : 0 ≤ basePrice) :
    (∀ request, request.basePriceInrPerKwh = basePrice →
        ∃ result, quote request parameters.toPricingParameters = .ok result) ↔
      Quotable parameters.toPricingParameters basePrice := by
  constructor
  · intro returns
    obtain ⟨rated, isRated⟩ := returns (ratedRequest basePrice) rfl
    obtain ⟨unknown, isUnknown⟩ := returns (unknownRequest basePrice) rfl
    have atRating := quote_ok isRated
    have unsafe_ := quote_ok isUnknown
    obtain ⟨charge, isCharge, chargeFits, _⟩ := atRating.congestion_eq
    rw [show (ratedRequest basePrice).gridStatus = .safe from rfl,
      show (ratedRequest basePrice).gridMetrics = some { maxLineLoadingPct := some 100 } from rfl,
      congestionFraction_rated] at isCharge
    obtain ⟨risk, isRisk, riskFits, _⟩ := atRating.imbalance_eq
    obtain ⟨largest, isLargest, largestFits, _⟩ := unsafe_.congestion_eq
    obtain ⟨unreported, isUnreported, unreportedFits, _⟩ := unsafe_.imbalance_eq
    cases isLargest
    cases isUnreported
    have whole : contextRound (1 - min (max (0 : ℚ) 0) 1) *
        parameters.imbalanceFractionPerUncertainty =
        parameters.imbalanceFractionPerUncertainty := by
      rw [show contextRound (1 - min (max (0 : ℚ) 0) 1) = 1 by decide +kernel, one_mul]
    have isWhole : contextResult parameters.imbalanceFractionPerUncertainty = .ok risk := by
      rw [← whole]
      exact isRisk
    obtain ⟨riskHeld, rfl⟩ := contextResult_eq_ok_iff.mp isWhole
    split at isCharge
    · cases isCharge
    · rename_i span
      obtain ⟨chargeHeld, rfl⟩ := contextResult_eq_ok_iff.mp isCharge
      obtain ⟨amount, shared, _⟩ := bind_eq_ok.mp atRating.renewable
      obtain ⟨baseFits, baseIs⟩ := quantized_eq_ok_iff.mp atRating.base
      rw [baseIs] at baseFits
      refine ⟨baseFits, ?_, span, ⟨chargeHeld, largestFits, chargeFits⟩, ⟨riskHeld, unreportedFits, riskFits⟩,
        (share_eq_ok_iff.mp shared).1⟩
      intro hour hourNonneg hourBelow
      obtain ⟨start, isHour⟩ := exists_localHour parameters.localUtcOffset hourNonneg hourBelow
      obtain ⟨result, quoted⟩ := returns (idleRequest basePrice start) rfl
      have timed := (quote_ok quoted).time_eq.1
      rwa [show (idleRequest basePrice start).deliveryStart = start from rfl, isHour] at timed
  · intro quotable request isBase
    exact quotable.quoted parameters nonneg isBase

end

end UrjaSetu.Domain.Policies.DynamicPricing
