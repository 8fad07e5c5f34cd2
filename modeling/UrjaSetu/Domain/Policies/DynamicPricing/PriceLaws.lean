import UrjaSetu.Domain.Policies.DynamicPricing.Positivity

/-!
How a quoted price moves with what the grid and the forecast report.

Every component is a fraction of the base price, rounded on its own, and keeps the
order of the fractions. Two roundings to the 28 digits of the decimal context can
show. The congestion fraction is rounded where it is interpolated, and is not where it
is the largest one, so that the charge at the rating can exceed the largest charge. A
running total from 10^24 on loses its last digit, and the parts no longer add up to
the price.

Owns: the laws of the price, and the two roundings they depend on.
-/

namespace UrjaSetu.Domain.Policies.DynamicPricing

open UrjaSetu.Domain UrjaSetu.Domain.Interfaces UrjaSetu.Library UrjaSetu.Library.Rounding
open UrjaSetu.Library.DecimalContext UrjaSetu.Domain.Policies.ClearingPrice

/-- What a grid report that is no loading of a safe network may be: unsafe, unknown,
or safe without a loading. -/
def WithoutLoading (status : GridValidationStatus) (metrics : Option GridMetrics) : Prop :=
  status = .safe → utilisationPct metrics = none

/-- The laws of the price under one parameter set, over all requests of one base
price. -/
structure PriceLaws (parameters : PricingParameters) (basePrice : ℚ) : Prop where
  /-- More loading of a safe network never lowers the price. -/
  loading : ∀ (request : PricingRequest) (metrics : Option GridMetrics) (lower upper : ℚ)
      (result newResult : PricingResult), request.basePriceInrPerKwh = basePrice →
    request.gridStatus = .safe → utilisationPct request.gridMetrics = some lower →
    utilisationPct metrics = some upper → lower ≤ upper →
    quote request parameters = .ok result →
    quote { request with gridMetrics := metrics } parameters = .ok newResult →
    result.finalPrice ≤ newResult.finalPrice
  /-- Neither does losing the loading, or the safety. -/
  assessed : ∀ (request : PricingRequest) (status : GridValidationStatus)
      (metrics : Option GridMetrics) (loading : ℚ) (result newResult : PricingResult),
    request.basePriceInrPerKwh = basePrice → request.gridStatus = .safe →
    utilisationPct request.gridMetrics = some loading → WithoutLoading status metrics →
    quote request parameters = .ok result →
    quote { request with gridStatus := status, gridMetrics := metrics } parameters =
      .ok newResult →
    result.finalPrice ≤ newResult.finalPrice
  /-- More confidence in the forecast never raises it. -/
  confidence : ∀ (request : PricingRequest) (lower upper : ℚ) (result newResult : PricingResult),
    request.basePriceInrPerKwh = basePrice → request.forecastConfidence = some lower →
    lower ≤ upper → quote request parameters = .ok result →
    quote { request with forecastConfidence := some upper } parameters = .ok newResult →
    newResult.finalPrice ≤ result.finalPrice
  /-- Neither does local renewable energy. -/
  renewable : ∀ (request : PricingRequest) (result newResult : PricingResult),
    request.basePriceInrPerKwh = basePrice → request.localRenewable = false →
    quote request parameters = .ok result →
    quote { request with localRenewable := true } parameters = .ok newResult →
    newResult.finalPrice ≤ result.finalPrice
  /-- Each request gets a quote, which is the sum of its parts, charges congestion up to
  the largest share, and rejects what is not permitted. -/
  single : ∀ request : PricingRequest, request.basePriceInrPerKwh = basePrice →
    ∃ result, quote request parameters = .ok result ∧
      (0 ≤ result.congestionComponent ∧
        result.congestionComponent ≤ shareOf basePrice parameters.congestionMaxFraction) ∧
      result.partsSum = result.finalPrice ∧
      (result.recommendedDecision = .reject ↔ request.gridStatus.permitsTrade = false)

/-! ## The conditions -/

/-- The largest congestion fraction, rounded to the digits of the decimal context,
has no larger share of the base price than unrounded. -/
def CapHolds (parameters : PricingParameters) (basePrice : ℚ) : Prop :=
  shareOf basePrice (contextRound parameters.congestionMaxFraction) ≤
    shareOf basePrice parameters.congestionMaxFraction

/-- A fraction of at most 28 digits is no cap that rounding raises. -/
theorem capHolds_of_digits {parameters : PricingParameters} (basePrice : ℚ)
    (digits : contextRound parameters.congestionMaxFraction = parameters.congestionMaxFraction) :
    CapHolds parameters basePrice := by
  unfold CapHolds
  rw [digits]

/-- 28 digits hold a total of prices. -/
def Held (total : ℚ) : Prop := |total| < 10 ^ 24 ∨ OnGrid 3 total

/-- 28 digits hold the base price, and what it comes to with each share that is charged
after another. -/
def TotalsHeld (parameters : PricingParameters) (basePrice : ℚ) : Prop :=
  ∀ (hour : ℤ) (status : GridValidationStatus) (metrics : Option GridMetrics)
      (confidence : Option ℚ) (congestion imbalance : ℚ), 0 ≤ hour → hour < 24 →
    congestionFraction parameters status metrics = .ok congestion →
    imbalanceFraction parameters confidence = .ok imbalance →
    let timed := quantizePrice basePrice + shareOf basePrice (fractionOfHour parameters hour)
    let congested := timed + shareOf basePrice congestion
    let risked := congested + shareOf basePrice imbalance
    Held timed ∧ Held congested ∧ Held risked ∧
      Held (risked - shareOf basePrice parameters.localRenewableFraction)

/-- A sum of that many prices of at most 28 digits. -/
def SumOf (count : ℕ) (total : ℚ) : Prop := OnGrid pricePlaces total ∧ |total| < count * 10 ^ 24

section Totals

variable {count more : ℕ} {total part basePrice fraction : ℚ}

private theorem SumOf.add (first : SumOf count total) (second : SumOf more part) :
    SumOf (count + more) (total + part) := by
  refine ⟨first.1.add second.1, (abs_add_le total part).trans_lt ?_⟩
  rw [Nat.cast_add, add_mul]
  exact add_lt_add first.2 second.2

private theorem SumOf.sub (first : SumOf count total) (second : SumOf more part) :
    SumOf (count + more) (total - part) := by
  rw [sub_eq_add_neg]
  exact first.add ⟨second.1.neg, (abs_neg part).trans_lt second.2⟩

private theorem sumOf_share (fits : Fits basePrice fraction) :
    SumOf 1 (shareOf basePrice fraction) := by
  refine ⟨shareOf_onGrid _ _, ?_⟩
  rwa [Nat.cast_one, one_mul]

private theorem sumOf_base {parameters : PricingParameters}
    (quotable : Quotable parameters basePrice) :
    SumOf 1 (quantizePrice basePrice) := by
  refine ⟨quantize_onGrid halfUp _ _, ?_⟩
  rw [Nat.cast_one, one_mul]
  exact quotable.base

/-- Few prices are held exactly where the context does not round their sum. -/
theorem SumOf.held_iff (sum : SumOf count total) (few : count ≤ 10) :
    Held total ↔ contextRound total = total := by
  refine (@contextRound_eq_iff total pricePlaces (by decide) (by decide) sum.1 ?_).symm
  have bound : (count : ℚ) * 10 ^ 24 ≤ 10 * 10 ^ 24 :=
    mul_le_mul_of_nonneg_right (by exact_mod_cast few) (by positivity)
  exact sum.2.trans_le (bound.trans (by norm_num [pricePlaces]))

end Totals

/-! ## Fractions -/

section Fractions

variable (parameters : AcceptedParameters)

private theorem congestionFraction_withoutLoading {status : GridValidationStatus}
    {metrics : Option GridMetrics} (without : WithoutLoading status metrics) :
    congestionFraction parameters.toPricingParameters status metrics =
      .ok parameters.congestionMaxFraction := by
  cases status with
  | unsafe_ => rfl
  | unknown => rfl
  | safe =>
      unfold congestionFraction
      rw [without rfl]

/-- More loading is no smaller fraction. -/
theorem congestionFraction_mono {metrics heavier : Option GridMetrics}
    {lower upper fraction newFraction : ℚ} (reported : utilisationPct metrics = some lower)
    (alsoReported : utilisationPct heavier = some upper) (order : lower ≤ upper)
    (charged : congestionFraction parameters.toPricingParameters .safe metrics = .ok fraction)
    (newCharged :
      congestionFraction parameters.toPricingParameters .safe heavier = .ok newFraction) :
    fraction ≤ newFraction := by
  by_cases within : lower ≤ parameters.congestionThresholdPct
  · rw [congestionFraction_safe parameters reported, if_pos within] at charged
    cases charged
    exact (congestionFraction_bounds parameters newCharged).1
  · have above : ¬ upper ≤ parameters.congestionThresholdPct :=
      fun also => within (order.trans also)
    rw [congestionFraction_safe parameters reported, if_neg within] at charged
    rw [congestionFraction_safe parameters alsoReported, if_neg above] at newCharged
    split at charged
    · cases charged
    · rename_i span
      rw [if_neg span] at newCharged
      obtain ⟨_, rfl⟩ := contextResult_eq_ok_iff.mp charged
      obtain ⟨_, rfl⟩ := contextResult_eq_ok_iff.mp newCharged
      apply contextRound_mono
      exact mul_le_mul_of_nonneg_left (rampPart_mono parameters order)
        (congestionMaxFraction_nonneg parameters)

/-- The imbalance fraction falls with the confidence. -/
theorem imbalanceFraction_anti {lower upper fraction newFraction : ℚ} (order : lower ≤ upper)
    (charged : imbalanceFraction parameters.toPricingParameters (some lower) = .ok fraction)
    (newCharged :
      imbalanceFraction parameters.toPricingParameters (some upper) = .ok newFraction) :
    newFraction ≤ fraction := by
  obtain ⟨_, rfl⟩ := contextResult_eq_ok_iff.mp charged
  obtain ⟨_, rfl⟩ := contextResult_eq_ok_iff.mp newCharged
  apply contextRound_mono
  apply mul_le_mul_of_nonneg_right _ (imbalanceFractionPerUncertainty_nonneg parameters)
  apply contextRound_mono
  exact sub_le_sub_left (min_le_min_right 1 (max_le_max_right 0 order)) 1

end Fractions

/-! ## Two quotes -/

section Quotes

variable {parameters : PricingParameters} {request other : PricingRequest}
  {result newResult : PricingResult}

/-- Only what is not permitted is rejected. -/
theorem recommend_eq_reject_iff (parameters : PricingParameters) (status : GridValidationStatus)
    (basePrice congestion : ℚ) :
    recommend parameters status basePrice congestion = .reject ↔ status.permitsTrade = false := by
  unfold recommend
  split_ifs with refused
  · exact iff_of_true rfl refused
  · simp [refused]
  · simp [refused]
  · simp [refused]

/-- Parts that are no smaller make no smaller price of the same base price at the same
time. -/
theorem Quoted.finalPrice_le (quoted : Quoted request parameters result)
    (requoted : Quoted other parameters newResult)
    (sameBase : request.basePriceInrPerKwh = other.basePriceInrPerKwh)
    (sameStart : request.deliveryStart = other.deliveryStart)
    (congestion : result.congestionComponent ≤ newResult.congestionComponent)
    (imbalance : result.imbalanceComponent ≤ newResult.imbalanceComponent)
    (renewable : result.localRenewableComponent ≤ newResult.localRenewableComponent) :
    result.finalPrice ≤ newResult.finalPrice := by
  have base : result.baseMarketPrice = newResult.baseMarketPrice := by
    rw [quoted.base_eq, requoted.base_eq, sameBase]
  have time : result.timeComponent = newResult.timeComponent := by
    rw [quoted.time_eq.2, requoted.time_eq.2, sameBase, sameStart]
  rw [quoted.final, requoted.final, base, time]
  have congested := contextRound_mono (add_le_add_right congestion
    (contextRound (newResult.baseMarketPrice + newResult.timeComponent)))
  have risked := contextRound_mono (add_le_add congested imbalance)
  exact contextRound_mono (add_le_add risked renewable)

private theorem Quoted.imbalance_eq_of_confidence (quoted : Quoted request parameters result)
    (requoted : Quoted other parameters newResult)
    (sameBase : request.basePriceInrPerKwh = other.basePriceInrPerKwh)
    (same : request.forecastConfidence = other.forecastConfidence) :
    result.imbalanceComponent = newResult.imbalanceComponent := by
  obtain ⟨fraction, charged, _, shared⟩ := quoted.imbalance_eq
  obtain ⟨newFraction, newCharged, _, newShared⟩ := requoted.imbalance_eq
  rw [same, newCharged] at charged
  cases charged
  rw [shared, newShared, sameBase]

private theorem Quoted.congestion_eq_of_grid (quoted : Quoted request parameters result)
    (requoted : Quoted other parameters newResult)
    (sameBase : request.basePriceInrPerKwh = other.basePriceInrPerKwh)
    (sameStatus : request.gridStatus = other.gridStatus)
    (sameMetrics : request.gridMetrics = other.gridMetrics) :
    result.congestionComponent = newResult.congestionComponent := by
  obtain ⟨fraction, charged, _, shared⟩ := quoted.congestion_eq
  obtain ⟨newFraction, newCharged, _, newShared⟩ := requoted.congestion_eq
  rw [sameStatus, sameMetrics, newCharged] at charged
  cases charged
  rw [shared, newShared, sameBase]

/-- A grid report that charges no less congestion makes no lower price. -/
theorem finalPrice_le_of_congestion {status : GridValidationStatus} {metrics : Option GridMetrics}
    (quoted : quote request parameters = .ok result)
    (requoted : quote { request with gridStatus := status, gridMetrics := metrics } parameters =
      .ok newResult)
    (dearer : result.congestionComponent ≤ newResult.congestionComponent) :
    result.finalPrice ≤ newResult.finalPrice := by
  have parts := quote_ok quoted
  have newParts := quote_ok requoted
  apply parts.finalPrice_le newParts rfl rfl dearer
  · exact (parts.imbalance_eq_of_confidence newParts rfl rfl).le
  · rw [parts.renewable_eq, newParts.renewable_eq]

end Quotes

/-! ## The laws -/

section Laws

variable (parameters : AcceptedParameters) {basePrice : ℚ}

/-- The share of a fraction of congestion goes up to that of the largest fraction. -/
theorem shareOf_congestion_le (nonneg : 0 ≤ basePrice)
    (cap : CapHolds parameters.toPricingParameters basePrice) {status : GridValidationStatus}
    {metrics : Option GridMetrics} {fraction : ℚ}
    (charged : congestionFraction parameters.toPricingParameters status metrics = .ok fraction) :
    shareOf basePrice fraction ≤ shareOf basePrice parameters.congestionMaxFraction := by
  rcases (congestionFraction_bounds parameters charged).2 with unrounded | rounded
  · exact shareOf_mono nonneg unrounded
  · exact (shareOf_mono nonneg rounded).trans cap

/-- Where the digits hold the totals, the price is the sum of its parts. -/
theorem partsSum_of_totalsHeld (held : TotalsHeld parameters.toPricingParameters basePrice)
    {request : PricingRequest} {result : PricingResult}
    (isBase : request.basePriceInrPerKwh = basePrice)
    (quotable : Quotable parameters.toPricingParameters basePrice)
    (quoted : quote request parameters.toPricingParameters = .ok result) :
    result.partsSum = result.finalPrice := by
  subst isBase
  have parts := quote_ok quoted
  obtain ⟨congestion, isCongestion, congestionFits, congested⟩ := parts.congestion_eq
  obtain ⟨imbalance, isImbalance, imbalanceFits, imbalanced⟩ := parts.imbalance_eq
  obtain ⟨hourNonneg, hourBelow⟩ := localHour_mem request.deliveryStart parameters.localUtcOffset
  obtain ⟨timedHeld, congestedHeld, riskedHeld, reducedHeld⟩ :=
    held _ _ _ _ congestion imbalance hourNonneg hourBelow isCongestion isImbalance
  have timedSum := (sumOf_base quotable).add (sumOf_share parts.time_eq.1)
  have congestedSum := timedSum.add (sumOf_share congestionFits)
  have riskedSum := congestedSum.add (sumOf_share imbalanceFits)
  have reducedSum := riskedSum.sub (sumOf_share quotable.renewable)
  have timed := (timedSum.held_iff (by decide)).mp timedHeld
  have withCongestion := (congestedSum.held_iff (by decide)).mp congestedHeld
  have withRisk := (riskedSum.held_iff (by decide)).mp riskedHeld
  have reduced := (reducedSum.held_iff (by decide)).mp reducedHeld
  rw [PricingResult.partsSum, parts.final, parts.base_eq, parts.time_eq.2, congested, imbalanced,
    parts.renewable_eq, timed, withCongestion, withRisk]
  split
  · rw [← sub_eq_add_neg, reduced]
  · rw [add_zero, withRisk]

/-- Where there are quotes, rounding does not raise the cap and the digits hold the
totals, every law of the price holds. -/
theorem priceLaws_of_conditions (nonneg : 0 ≤ basePrice)
    (quotable : Quotable parameters.toPricingParameters basePrice)
    (cap : CapHolds parameters.toPricingParameters basePrice)
    (held : TotalsHeld parameters.toPricingParameters basePrice) :
    PriceLaws parameters.toPricingParameters basePrice where
  loading := by
    rintro request metrics lower upper result newResult rfl isSafe reported alsoReported order quoted
      requoted
    obtain ⟨fraction, charged, _, shared⟩ := (quote_ok quoted).congestion_eq
    obtain ⟨newFraction, newCharged, _, newShared⟩ := (quote_ok requoted).congestion_eq
    dsimp only at newCharged newShared
    rw [isSafe] at charged newCharged
    apply @finalPrice_le_of_congestion _ request _ _ request.gridStatus metrics quoted requoted
    rw [shared, newShared]
    exact shareOf_mono nonneg
      (congestionFraction_mono parameters reported alsoReported order charged newCharged)
  assessed := by
    rintro request status metrics loading result newResult rfl isSafe reported without quoted
      requoted
    obtain ⟨fraction, charged, _, shared⟩ := (quote_ok quoted).congestion_eq
    obtain ⟨newFraction, newCharged, _, newShared⟩ := (quote_ok requoted).congestion_eq
    dsimp only at newCharged newShared
    rw [congestionFraction_withoutLoading parameters without] at newCharged
    cases newCharged
    apply finalPrice_le_of_congestion quoted requoted
    rw [shared, newShared]
    exact shareOf_congestion_le parameters nonneg cap charged
  confidence := by
    rintro request lower upper result newResult rfl reported order quoted requoted
    have parts := quote_ok quoted
    have newParts := quote_ok requoted
    obtain ⟨fraction, charged, _, shared⟩ := parts.imbalance_eq
    obtain ⟨newFraction, newCharged, _, newShared⟩ := newParts.imbalance_eq
    dsimp only at newCharged newShared
    rw [reported] at charged
    apply newParts.finalPrice_le parts rfl rfl
    · exact (newParts.congestion_eq_of_grid parts rfl rfl rfl).le
    · rw [shared, newShared]
      exact shareOf_mono nonneg (imbalanceFraction_anti parameters order charged newCharged)
    · rw [parts.renewable_eq, newParts.renewable_eq]
  renewable := by
    rintro request result newResult rfl notRenewable quoted requoted
    have parts := quote_ok quoted
    have newParts := quote_ok requoted
    apply newParts.finalPrice_le parts rfl rfl
    · exact (newParts.congestion_eq_of_grid parts rfl rfl rfl).le
    · exact (newParts.imbalance_eq_of_confidence parts rfl rfl).le
    · rw [parts.renewable_eq, newParts.renewable_eq, notRenewable]
      exact neg_nonpos.mpr (shareOf_nonneg nonneg (localRenewableFraction_nonneg parameters))
  single := by
    rintro request isBase
    obtain ⟨result, quoted⟩ := quotable.quoted parameters nonneg isBase
    have parts := quote_ok quoted
    obtain ⟨fraction, charged, _, shared⟩ := parts.congestion_eq
    rw [isBase] at shared
    refine ⟨result, quoted, ⟨?_, ?_⟩, partsSum_of_totalsHeld parameters held isBase quotable quoted,
      ?_⟩
    · exact (parts.charges_nonneg (isBase ▸ nonneg)).1
    · rw [shared]
      exact shareOf_congestion_le parameters nonneg cap charged
    · rw [parts.decision]
      exact recommend_eq_reject_iff _ _ _ _

/-- The rounded totals of every request, from the laws. -/
theorem PriceLaws.totals (laws : PriceLaws parameters.toPricingParameters basePrice) {hour : ℤ}
    (hourNonneg : 0 ≤ hour) (hourBelow : hour < 24) {status : GridValidationStatus}
    {metrics : Option GridMetrics} {confidence : Option ℚ} {congestion imbalance : ℚ}
    (charged : congestionFraction parameters.toPricingParameters status metrics = .ok congestion)
    (risked : imbalanceFraction parameters.toPricingParameters confidence = .ok imbalance)
    (renewable : Bool) :
    let timed := quantizePrice basePrice +
      shareOf basePrice (fractionOfHour parameters.toPricingParameters hour)
    let incentive := if renewable then
      -shareOf basePrice parameters.localRenewableFraction else 0
    contextRound (contextRound (contextRound (contextRound timed + shareOf basePrice congestion) +
      shareOf basePrice imbalance) + incentive) =
        timed + shareOf basePrice congestion + shareOf basePrice imbalance + incentive := by
  obtain ⟨start, isHour⟩ := exists_localHour parameters.localUtcOffset hourNonneg hourBelow
  let request : PricingRequest := { idleRequest basePrice start with
    gridStatus := status, gridMetrics := metrics, forecastConfidence := confidence
    localRenewable := renewable }
  obtain ⟨result, quoted, _, sum, _⟩ := laws.single request rfl
  have parts := quote_ok quoted
  obtain ⟨_, isCongestion, _, congested⟩ := parts.congestion_eq
  obtain ⟨_, isImbalance, _, imbalanced⟩ := parts.imbalance_eq
  cases Except.ok.inj (charged.symm.trans isCongestion)
  cases Except.ok.inj (risked.symm.trans isImbalance)
  have time := parts.time_eq.2
  rw [show request.deliveryStart = start from rfl, isHour] at time
  rw [PricingResult.partsSum, parts.final, parts.base_eq, time, congested, imbalanced,
    parts.renewable_eq] at sum
  exact sum.symm

/-- A total is held as soon as a request that is charged nothing more gets its sum. -/
theorem totalsHeld_of_priceLaws (quotable : Quotable parameters.toPricingParameters basePrice)
    (nonneg : 0 ≤ basePrice) (laws : PriceLaws parameters.toPricingParameters basePrice) :
    TotalsHeld parameters.toPricingParameters basePrice := by
  intro hour status metrics confidence congestion imbalance hourNonneg hourBelow charged risked
  have congestionFits : Fits basePrice congestion := by
    obtain ⟨fraction, isFraction, fits⟩ := quotable.congestion_ok parameters nonneg status metrics
    cases Except.ok.inj (charged.symm.trans isFraction)
    exact fits
  have imbalanceFits : Fits basePrice imbalance := by
    obtain ⟨fraction, isFraction, fits⟩ := quotable.imbalance_ok parameters nonneg confidence
    cases Except.ok.inj (risked.symm.trans isFraction)
    exact fits
  have timedSum := (sumOf_base quotable).add (sumOf_share (quotable.hours hour hourNonneg hourBelow))
  have congestedSum := timedSum.add (sumOf_share congestionFits)
  have riskedSum := congestedSum.add (sumOf_share imbalanceFits)
  have reducedSum := riskedSum.sub (sumOf_share quotable.renewable)
  have idle := idle_congestionFraction parameters
  have certain := certain_imbalanceFraction parameters
  have timed := laws.totals parameters hourNonneg hourBelow idle certain false
  have congested := laws.totals parameters hourNonneg hourBelow charged certain false
  have withRisk := laws.totals parameters hourNonneg hourBelow charged risked false
  have reduced := laws.totals parameters hourNonneg hourBelow charged risked true
  simp only [shareOf_zero, add_zero, Bool.false_eq_true, if_false, if_true,
    contextRound_contextRound] at timed congested withRisk reduced
  rw [timed] at congested withRisk reduced
  rw [congested] at withRisk reduced
  rw [withRisk, ← sub_eq_add_neg] at reduced
  exact ⟨(timedSum.held_iff (by decide)).mpr timed,
    (congestedSum.held_iff (by decide)).mpr congested,
    (riskedSum.held_iff (by decide)).mpr withRisk, (reducedSum.held_iff (by decide)).mpr reduced⟩

/-- A network at its rating shows whether rounding raises the cap. -/
theorem capHolds_of_priceLaws (quotable : Quotable parameters.toPricingParameters basePrice)
    (laws : PriceLaws parameters.toPricingParameters basePrice) :
    CapHolds parameters.toPricingParameters basePrice := by
  obtain ⟨result, quoted, capped, _⟩ := laws.single (ratedRequest basePrice) rfl
  obtain ⟨fraction, charged, _, shared⟩ := (quote_ok quoted).congestion_eq
  rw [show (ratedRequest basePrice).gridStatus = .safe from rfl,
    show (ratedRequest basePrice).gridMetrics = some { maxLineLoadingPct := some 100 } from rfl,
    congestionFraction_rated, if_neg quotable.span] at charged
  obtain ⟨_, rfl⟩ := contextResult_eq_ok_iff.mp charged
  have within := capped.2
  rw [shared] at within
  exact within

end Laws

/-! ## Ordinary prices -/

/-- No fraction is more than the whole base price. -/
structure AtMostWhole (parameters : PricingParameters) : Prop where
  hours : ∀ hour : ℤ, 0 ≤ hour → hour < 24 → |fractionOfHour parameters hour| ≤ 1
  congestion : parameters.congestionMaxFraction ≤ 1
  perUncertainty : parameters.imbalanceFractionPerUncertainty ≤ 1
  unknown : parameters.unknownConfidenceFraction ≤ 1
  renewable : parameters.localRenewableFraction ≤ 1

section Ordinary

variable (parameters : AcceptedParameters) {basePrice fraction : ℚ}

private theorem abs_shareOf_le (nonneg : 0 ≤ basePrice) (ordinary : basePrice ≤ 10 ^ 22)
    (atMostWhole : |fraction| ≤ 1) : |shareOf basePrice fraction| ≤ 10 ^ 22 := by
  have product : |basePrice * fraction| ≤ 10 ^ 22 := by
    rw [abs_mul, abs_of_nonneg nonneg]
    exact (mul_le_of_le_one_right nonneg atMostWhole).trans ordinary
  obtain ⟨low, high⟩ := abs_le.mp product
  have power := pow_onGrid pricePlaces 22
  have lowRounded := contextRound_mono low
  rw [contextRound_neg, contextRound_pow] at lowRounded
  exact abs_le.mpr ⟨le_quantize halfUp power.neg lowRounded,
    quantize_le halfUp power (contextRound_le_pow high)⟩

/-- Five parts of at most 10^22 add up to fewer than 28 digits. -/
theorem totalsHeld_of_atMostWhole (atMostWhole : AtMostWhole parameters.toPricingParameters)
    (nonneg : 0 ≤ basePrice) (ordinary : basePrice ≤ 10 ^ 22) :
    TotalsHeld parameters.toPricingParameters basePrice := by
  intro hour status metrics confidence congestion imbalance hourNonneg hourBelow charged risked
  have part : ∀ {fraction : ℚ}, 0 ≤ fraction → fraction ≤ 1 →
      0 ≤ shareOf basePrice fraction ∧ shareOf basePrice fraction ≤ 10 ^ 22 := by
    intro fraction fractionNonneg atMostOne
    refine ⟨shareOf_nonneg nonneg fractionNonneg, (le_abs_self _).trans ?_⟩
    exact abs_shareOf_le nonneg ordinary (abs_le.mpr ⟨by linarith, atMostOne⟩)
  obtain ⟨congestionNonneg, congestionWithin⟩ := congestionFraction_bounds parameters charged
  have congested := part congestionNonneg (congestionWithin.elim
    (fun within => within.trans atMostWhole.congestion)
    fun within => within.trans (contextRound_le_one atMostWhole.congestion))
  obtain ⟨imbalanceNonneg, imbalanceWithin⟩ := imbalanceFraction_bounds parameters risked
  have withRisk := part imbalanceNonneg (imbalanceWithin.elim
    (fun within => within.trans atMostWhole.unknown)
    fun within => within.trans (contextRound_le_one atMostWhole.perUncertainty))
  have reduced := part (localRenewableFraction_nonneg parameters) atMostWhole.renewable
  obtain ⟨timeLow, timeHigh⟩ := abs_le.mp
    (abs_shareOf_le nonneg ordinary (atMostWhole.hours hour hourNonneg hourBelow))
  have baseNonneg : 0 ≤ quantizePrice basePrice := quantize_nonneg halfUp nonneg
  have base : quantizePrice basePrice ≤ 10 ^ 22 :=
    quantize_le halfUp (pow_onGrid pricePlaces 22) ordinary
  refine ⟨.inl ?_, .inl ?_, .inl ?_, .inl ?_⟩ <;> rw [abs_lt] <;> constructor <;> linarith

end Ordinary

/-- A largest congestion fraction of 29 digits. -/
def fineCap : AcceptedParameters :=
  ⟨{ congestionMaxFraction := 30004999999999999999999999996 / 10 ^ 29 }, by decide +kernel⟩

end UrjaSetu.Domain.Policies.DynamicPricing
