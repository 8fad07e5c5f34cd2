import UrjaSetu.Domain.Policies.DynamicPricing.Quotable
import UrjaSetu.Library.Ties

/-!
When every quoted price of a base price is positive.

The constructor bounds the fractions that are taken off the base price, and each
of them is rounded on its own before the sum. The lowest price of a base price is that
of local renewable energy over an idle network, from the cheapest hour.

Owns: exactly when the rounded discounts of every hour leave something of the base
price, and accepted parameters under which they do not.
-/

namespace UrjaSetu.Domain.Policies.DynamicPricing

open UrjaSetu.Domain UrjaSetu.Domain.Interfaces UrjaSetu.Library.Rounding
open UrjaSetu.Library.DecimalContext UrjaSetu.Domain.Policies.ClearingPrice

/-- How many ticks of 0.0001 a fraction of the base price comes to in decimal
arithmetic; half a tick counts. -/
def ticksOf (basePrice fraction : ℚ) : ℤ :=
  ⌊contextRound (basePrice * fraction) * 10 ^ pricePlaces + 1 / 2⌋

/-- In every hour the discounts of the band and of renewable energy, each in whole
ticks, come to less than the base price and the surcharge of the band. -/
def DiscountsLeave (parameters : PricingParameters) (basePrice : ℚ) : Prop :=
  ∀ hour : ℤ, 0 ≤ hour → hour < 24 →
    (ticksOf basePrice (max (-fractionOfHour parameters hour) 0) +
        ticksOf basePrice parameters.localRenewableFraction : ℚ) <
      basePrice * 10 ^ pricePlaces + ticksOf basePrice (max (fractionOfHour parameters hour) 0)

instance (parameters : PricingParameters) (basePrice : ℚ) :
    Decidable (DiscountsLeave parameters basePrice) := by
  unfold DiscountsLeave
  infer_instance

/-- Every request of a base price gets a price above zero. -/
def PricesPositive (parameters : PricingParameters) (basePrice : ℚ) : Prop :=
  ∀ request, request.basePriceInrPerKwh = basePrice →
    ∃ priced, quote request parameters = .ok priced ∧ 0 < priced.finalPrice

section

variable {basePrice fraction : ℚ}

private theorem shareOf_eq_ticks (base : 0 ≤ basePrice) (nonneg : 0 ≤ fraction) :
    shareOf basePrice fraction = ticksOf basePrice fraction / 10 ^ pricePlaces := by
  show (halfUp.toInt (contextRound (basePrice * fraction) * 10 ^ pricePlaces) : ℚ) / _ = _
  rw [halfUp_toInt (mul_nonneg (contextRound_nonneg (mul_nonneg base nonneg))
    (scale_pos pricePlaces).le)]
  rfl

private theorem shareOf_neg (base : 0 ≤ basePrice) (nonneg : 0 ≤ fraction) :
    shareOf basePrice (-fraction) = -shareOf basePrice fraction := by
  have product := contextRound_nonneg (mul_nonneg base nonneg)
  rcases product.eq_or_lt with zero | positive
  · unfold shareOf
    rw [mul_neg, contextRound_neg, ← zero, neg_zero, quantizePrice, quantize_zero, neg_zero]
  · have scaled := mul_pos positive (scale_pos pricePlaces)
    have below : ¬ 0 ≤ -(contextRound (basePrice * fraction) * 10 ^ pricePlaces) :=
      (neg_neg_of_pos scaled).not_ge
    rw [shareOf_eq_ticks base nonneg, ← neg_div]
    show ((awayFromSign (fun value => ⌊value + 1 / 2⌋)
      (contextRound (basePrice * -fraction) * 10 ^ pricePlaces) : ℤ) : ℚ) / _ = _
    rw [mul_neg, contextRound_neg, neg_mul, awayFromSign, if_neg below, neg_neg]
    push_cast
    rfl

private theorem ticksOf_zero (basePrice : ℚ) : ticksOf basePrice 0 = 0 := by
  unfold ticksOf
  rw [mul_zero, contextRound_zero]
  norm_num

/-- A share in ticks, of a discount or a surcharge. -/
theorem shareOf_eq_sub (base : 0 ≤ basePrice) (fraction : ℚ) :
    shareOf basePrice fraction = (ticksOf basePrice (max fraction 0) -
      ticksOf basePrice (max (-fraction) 0) : ℚ) / 10 ^ pricePlaces := by
  rcases le_total 0 fraction with nonneg | nonpos
  · rw [shareOf_eq_ticks base nonneg, max_eq_left nonneg, max_eq_right (neg_nonpos.mpr nonneg),
      ticksOf_zero, Int.cast_zero, sub_zero]
  · have opposite := neg_nonneg.mpr nonpos
    rw [← neg_neg fraction, shareOf_neg base opposite, shareOf_eq_ticks base opposite, neg_neg,
      max_eq_right nonpos, max_eq_left opposite, ticksOf_zero, Int.cast_zero, zero_sub, neg_div]

/-- The discounts leave something in each hour where they do in whole ticks. -/
theorem discountsLeave_iff (parameters : AcceptedParameters) (base : 0 ≤ basePrice) :
    DiscountsLeave parameters.toPricingParameters basePrice ↔
      ∀ hour : ℤ, 0 ≤ hour → hour < 24 → shareOf basePrice parameters.localRenewableFraction <
        basePrice + shareOf basePrice (fractionOfHour parameters.toPricingParameters hour) := by
  have scale : (0 : ℚ) < 10 ^ pricePlaces := scale_pos pricePlaces
  unfold DiscountsLeave
  refine forall₃_congr fun hour _ _ => ?_
  rw [shareOf_eq_ticks base (localRenewableFraction_nonneg parameters), shareOf_eq_sub base,
    div_lt_iff₀ scale, add_mul, div_mul_cancel₀ _ scale.ne']
  constructor
  · intro left
    linarith
  · intro left
    linarith

end

section

variable (parameters : AcceptedParameters) {basePrice : ℚ}

theorem idle_congestionFraction : congestionFraction parameters.toPricingParameters .safe
    (some { maxLineLoadingPct := some 0 }) = .ok 0 := by
  rw [@congestionFraction_safe parameters (some { maxLineLoadingPct := some 0 }) 0 rfl,
    if_pos parameters.checked.threshold.1.le]

theorem certain_imbalanceFraction :
    imbalanceFraction parameters.toPricingParameters (some 1) = .ok 0 := by
  have nothing : contextRound (1 - min (max (1 : ℚ) 0) 1) = 0 := by decide +kernel
  unfold imbalanceFraction
  dsimp only
  rw [nothing, zero_mul]
  decide +kernel

/-- The price of renewable energy over an idle network, in the digits of the context. -/
theorem idle_finalPrice {start : Instant} {result : PricingResult}
    (quoted : quote (idleRequest basePrice start) parameters.toPricingParameters = .ok result) :
    result.finalPrice = contextRound (contextRound (quantizePrice basePrice +
      shareOf basePrice (fractionOfHour parameters.toPricingParameters
        (localHour start parameters.localUtcOffset))) -
      shareOf basePrice parameters.localRenewableFraction) := by
  have parts := quote_ok quoted
  obtain ⟨congestion, isCongestion, _, congested⟩ := parts.congestion_eq
  obtain ⟨imbalance, isImbalance, _, imbalanced⟩ := parts.imbalance_eq
  cases Except.ok.inj ((idle_congestionFraction parameters).symm.trans isCongestion)
  cases Except.ok.inj ((certain_imbalanceFraction parameters).symm.trans isImbalance)
  rw [parts.final, parts.base_eq, parts.time_eq.2, congested, imbalanced, parts.renewable_eq,
    shareOf_zero, add_zero, add_zero, contextRound_contextRound, contextRound_contextRound,
    sub_eq_add_neg]
  rfl

/-- Where a discount leaves something of the base price at an hour, a tick more than the
discount is left of it after rounding. -/
private theorem tick_le_timePrice {discount component : ℚ} (onGrid : OnGrid pricePlaces basePrice)
    (discountOnGrid : OnGrid pricePlaces discount) (componentOnGrid : OnGrid pricePlaces component)
    (nonneg : 0 ≤ discount) (fits : |discount| < 10 ^ 24) (left : discount < basePrice + component) :
    discount + 1 / 10 ^ pricePlaces ≤ contextRound (basePrice + component) := by
  have tick : (0 : ℚ) < 1 / 10 ^ pricePlaces := by positivity
  have exact := discountOnGrid.add_le_of_lt (onGrid.add componentOnGrid) left
  have small := discountOnGrid.add_le_of_lt (pow_onGrid pricePlaces 24) (lt_of_abs_lt fits)
  rcases lt_or_ge (basePrice + component) (10 ^ 24) with few | many
  · rw [contextRound_of_onGrid (by decide) (onGrid.add componentOnGrid)]
    · exact exact
    · rw [abs_of_nonneg (by linarith)]
      exact few
  · have rounded := contextRound_mono many
    rw [contextRound_pow] at rounded
    exact small.trans rounded

/-- A price is not below that of renewable energy over an idle network. -/
theorem finalPrice_pos (nonneg : 0 ≤ basePrice) (onGrid : OnGrid pricePlaces basePrice)
    (leaves : DiscountsLeave parameters.toPricingParameters basePrice)
    {request : PricingRequest} {result : PricingResult}
    (isBase : request.basePriceInrPerKwh = basePrice)
    (quoted : quote request parameters.toPricingParameters = .ok result)
    (fits : Fits basePrice parameters.localRenewableFraction) : 0 < result.finalPrice := by
  subst isBase
  have parts := quote_ok quoted
  have stored : quantizePrice request.basePriceInrPerKwh = request.basePriceInrPerKwh :=
    quantize_of_onGrid halfUp onGrid
  obtain ⟨hourNonneg, hourBelow⟩ := localHour_mem request.deliveryStart parameters.localUtcOffset
  have left := (discountsLeave_iff parameters nonneg).mp leaves _ hourNonneg hourBelow
  let renewable := shareOf request.basePriceInrPerKwh parameters.localRenewableFraction
  have renewableNonneg : 0 ≤ renewable :=
    shareOf_nonneg nonneg (localRenewableFraction_nonneg parameters)
  have withTime : renewable + 1 / 10 ^ pricePlaces ≤
      contextRound (result.baseMarketPrice + result.timeComponent) := by
    rw [parts.base_eq, parts.time_eq.2, stored]
    exact tick_le_timePrice onGrid (shareOf_onGrid _ _) (shareOf_onGrid _ _) renewableNonneg fits left
  obtain ⟨congested, imbalanced⟩ := parts.charges_nonneg nonneg
  have discount : -renewable ≤ result.localRenewableComponent := by
    rw [parts.renewable_eq]
    split
    · exact le_rfl
    · linarith
  have withRisk :=
    withTime.trans ((contextRound_le_add congested).trans (contextRound_le_add imbalanced))
  rw [parts.final]
  have remaining : (1 / 10 ^ pricePlaces : ℚ) ≤
      contextRound (contextRound (contextRound (result.baseMarketPrice + result.timeComponent) +
        result.congestionComponent) + result.imbalanceComponent) +
          result.localRenewableComponent := by linarith
  have rounded := contextRound_mono remaining
  have tick : (0 : ℚ) < 1 / 10 ^ pricePlaces := by positivity
  rw [show contextRound (1 / 10 ^ pricePlaces) = 1 / 10 ^ pricePlaces by decide +kernel] at rounded
  linarith

end

/-! ## Discounts that use up the price -/

/-- Half of the base price off for local renewable energy. -/
def halfOff : AcceptedParameters := ⟨{ localRenewableFraction := 1 / 2 }, by decide +kernel⟩

/-- A band and renewable energy that take nearly all of the base price off. -/
def nearlyFree : AcceptedParameters :=
  ⟨{ tariffBands := [⟨.solar, 0, 24, -8749999999999999999999999999 / 10 ^ 28⟩]
     localRenewableFraction := 1 / 8 }, by decide +kernel⟩

theorem defaultParameters_quotable : Quotable defaultParameters.toPricingParameters 5 := by
  constructor <;> decide +kernel

end UrjaSetu.Domain.Policies.DynamicPricing
