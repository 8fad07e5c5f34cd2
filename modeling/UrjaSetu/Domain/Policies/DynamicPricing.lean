import UrjaSetu.Domain.Interfaces.Pricing
import UrjaSetu.Domain.Policies.ClearingPrice
import UrjaSetu.Library.DecimalContext
import UrjaSetu.Library.Exceptions

/-!
The dynamic pricing formula of `app/domain/policies/dynamic_pricing.py`: the
clearing price and four components, each a fraction of it, each rounded to the
stored precision before the sum.

Every result is rounded as the decimal context rounds it, and what the context traps
is raised. The texts of the reasons are left out, and with them the overflow of a
percentage from 10^999998 on.
-/

namespace UrjaSetu.Domain.Policies.DynamicPricing

open UrjaSetu.Domain UrjaSetu.Domain.Interfaces UrjaSetu.Library UrjaSetu.Library.Rounding
open UrjaSetu.Library.DecimalContext UrjaSetu.Domain.Policies.ClearingPrice

/-- A local-clock window `[startHour, endHour)` and its fraction of the base
price. -/
structure TariffBand where
  band : TimeOfDayBand
  startHour : ℤ
  endHour : ℤ
  fraction : ℚ
deriving DecidableEq, Repr

def TariffBand.contains (tariff : TariffBand) (hour : ℤ) : Bool :=
  tariff.startHour ≤ hour ∧ hour < tariff.endHour

structure PricingParameters where
  formulaVersion : String := "1.0.0"
  engineName : String := "component_pricing"
  localUtcOffset : ℤ := 19800000000
  tariffBands : List TariffBand := [⟨.peak, 18, 22, 1 / 10⟩, ⟨.solar, 9, 16, -1 / 20⟩]
  congestionThresholdPct : ℚ := 70
  congestionMaxFraction : ℚ := 1 / 4
  imbalanceFractionPerUncertainty : ℚ := 1 / 10
  unknownConfidenceFraction : ℚ := 1 / 20
  localRenewableFraction : ℚ := 1 / 20
  repriceThresholdFraction : ℚ := 1 / 50
deriving DecidableEq, Repr

/-! ## What the constructors accept -/

/-- A `ValueError` of `TariffBand` or `PricingParameters`. -/
inductive ParameterError where
  | outsideDay (band : TimeOfDayBand)
  | wrapsMidnight (band : TimeOfDayBand) (startHour endHour : ℤ)
  | negative (name : String)
  | congestionThreshold
  | discounts (deepestDiscount : ℚ)
  | bandTwice
deriving DecidableEq, Repr

/-- `TariffBand.__post_init__`. -/
def TariffBand.postInit (tariff : TariffBand) : Except ParameterError Unit :=
  if ¬ (0 ≤ tariff.startHour ∧ tariff.startHour < 24) ∨
      ¬ (0 < tariff.endHour ∧ tariff.endHour ≤ 24) then
    .error (.outsideDay tariff.band)
  else if tariff.endHour ≤ tariff.startHour then
    .error (.wrapsMidnight tariff.band tariff.startHour tariff.endHour)
  else .ok ()

namespace PricingParameters

variable (parameters : PricingParameters)

/-- The fractions that must not be negative, in the order of the check. -/
def nonnegative : List (String × ℚ) :=
  [("congestion_max_fraction", parameters.congestionMaxFraction),
    ("imbalance_fraction_per_uncertainty", parameters.imbalanceFractionPerUncertainty),
    ("unknown_confidence_fraction", parameters.unknownConfidenceFraction),
    ("local_renewable_fraction", parameters.localRenewableFraction),
    ("reprice_threshold_fraction", parameters.repriceThresholdFraction)]

/-- The renewable discount with the largest discount of a band. -/
def deepestDiscount : ℚ :=
  contextRound (parameters.localRenewableFraction +
    ((parameters.tariffBands.filter fun tariff => tariff.fraction < 0).map fun tariff =>
      contextRound (-tariff.fraction)).foldl max 0)

/-- `PricingParameters.__post_init__`, on bands that are constructed first. -/
def postInit : Except ParameterError Unit := do
  parameters.tariffBands.forM TariffBand.postInit
  parameters.nonnegative.forM fun named =>
    if named.2 < 0 then .error (.negative named.1) else .ok ()
  if ¬ (0 < parameters.congestionThresholdPct ∧ parameters.congestionThresholdPct < 100) then
    .error .congestionThreshold
  else if 1 ≤ parameters.deepestDiscount then .error (.discounts parameters.deepestDiscount)
  else if ¬ (parameters.tariffBands.map TariffBand.band).Nodup then .error .bandTwice
  else .ok ()

/-- What the constructors check. -/
structure Checked : Prop where
  bands : ∀ tariff ∈ parameters.tariffBands, tariff.postInit = .ok ()
  nonneg : ∀ named ∈ parameters.nonnegative, 0 ≤ named.2
  threshold : 0 < parameters.congestionThresholdPct ∧ parameters.congestionThresholdPct < 100
  discounts : parameters.deepestDiscount < 1
  distinct : (parameters.tariffBands.map TariffBand.band).Nodup

private theorem checked_of_postInit (accepted : parameters.postInit = .ok ()) :
    parameters.Checked := by
  unfold postInit at accepted
  obtain ⟨_, bands, accepted⟩ := bind_eq_ok.mp accepted
  obtain ⟨_, nonneg, accepted⟩ := bind_eq_ok.mp accepted
  split_ifs at accepted with threshold discounts distinct
  refine ⟨passed_of_forM bands, ?_, threshold, not_le.mp discounts, distinct⟩
  intro named member
  have passed := passed_of_forM nonneg named member
  by_contra negative
  rw [if_pos (not_le.mp negative)] at passed
  cases passed

end PricingParameters

/-- Parameters that passed the constructors. -/
structure AcceptedParameters extends PricingParameters where
  accepted : toPricingParameters.postInit = .ok ()

theorem AcceptedParameters.checked (parameters : AcceptedParameters) :
    parameters.toPricingParameters.Checked :=
  PricingParameters.checked_of_postInit _ parameters.accepted

/-- `DEFAULT_PARAMETERS`. -/
def defaultParameters : AcceptedParameters := ⟨{}, by decide +kernel⟩

/-! ## Components -/

/-- `(moment + offset).hour`. -/
def localHour (moment : Instant) (offset : ℤ) : ℤ := (moment + offset) % 86400000000 / 3600000000

section Components

variable (request : PricingRequest) (parameters : PricingParameters)

/-- Which tariff band a delivery window starts in. -/
def bandFor (moment : Instant) : TimeOfDayBand :=
  match parameters.tariffBands.find? fun tariff =>
      tariff.contains (localHour moment parameters.localUtcOffset) with
  | some tariff => tariff.band
  | none => .normal

/-- A fraction of the base price, rounded to the stored precision. -/
def share (fraction : ℚ) : Except DecimalSignal ℚ := do
  let product ← contextResult (request.basePriceInrPerKwh * fraction)
  quantized halfUp pricePlaces product

/-- The fraction that is looked up by the name of a band. -/
def fractionOf (band : TimeOfDayBand) : ℚ :=
  ((parameters.tariffBands.find? fun tariff => tariff.band = band).map TariffBand.fraction).getD 0

def timeComponent : Except DecimalSignal ℚ :=
  share request (fractionOf parameters (bandFor parameters request.deliveryStart))

/-- The larger of line and transformer loading; `none` when neither is known. -/
def utilisationPct (metrics : Option GridMetrics) : Option ℚ :=
  match metrics with
  | none => none
  | some metrics =>
      match metrics.maxLineLoadingPct, metrics.maxTransformerLoadingPct with
      | some line, some transformer => some (max line transformer)
      | some line, none => some line
      | none, transformer => transformer

def congestionFraction (status : GridValidationStatus) (metrics : Option GridMetrics) :
    Except DecimalSignal ℚ :=
  match status with
  | .unsafe_ | .unknown => .ok parameters.congestionMaxFraction
  | .safe =>
      match utilisationPct metrics with
      | none => .ok parameters.congestionMaxFraction
      | some loading =>
          if loading ≤ parameters.congestionThresholdPct then .ok 0
          else
            let span := contextRound (100 - parameters.congestionThresholdPct)
            let above := contextRound (min loading 100 - parameters.congestionThresholdPct)
            -- A threshold of over a million digits leaves no span, and nothing above it.
            if span = 0 then .error .invalidOperation
            else contextResult (parameters.congestionMaxFraction * contextRound (above / span))

def congestionComponent : Except DecimalSignal ℚ := do
  let fraction ← congestionFraction parameters request.gridStatus request.gridMetrics
  share request fraction

def imbalanceFraction (confidence : Option ℚ) : Except DecimalSignal ℚ :=
  match confidence with
  | none => .ok parameters.unknownConfidenceFraction
  | some confidence =>
      let bounded := min (max confidence 0) 1
      contextResult (contextRound (1 - bounded) * parameters.imbalanceFractionPerUncertainty)

def imbalanceComponent : Except DecimalSignal ℚ := do
  let fraction ← imbalanceFraction parameters request.forecastConfidence
  share request fraction

def localRenewableComponent : Except DecimalSignal ℚ :=
  if request.localRenewable then do
    let amount ← share request parameters.localRenewableFraction
    pure (-amount)
  else quantized halfUp pricePlaces 0

/-- What pricing suggests should happen to the trade. -/
def recommend (status : GridValidationStatus) (basePrice congestion : ℚ) :
    GridValidationDecision :=
  if status.permitsTrade = false then .reject
  else if basePrice ≤ 0 ∨ congestion ≤ 0 then .accept
  else if parameters.repriceThresholdFraction < contextRound (congestion / basePrice) then .reprice
  else .accept

/-- `ValueError("base price must not be negative")`, or a signal of the arithmetic. -/
inductive PricingError where
  | negativeBasePrice
  | decimal (signal : DecimalSignal)
deriving DecidableEq, Repr

/-- The parts of a quote, and their sum. -/
def priced : Except DecimalSignal PricingResult := do
  let base ← quantized halfUp pricePlaces request.basePriceInrPerKwh
  let timePart ← timeComponent request parameters
  let congestionPart ← congestionComponent request parameters
  let imbalancePart ← imbalanceComponent request parameters
  let renewablePart ← localRenewableComponent request parameters
  pure
    { formulaVersion := parameters.formulaVersion
      engine := parameters.engineName
      baseMarketPrice := base
      timeComponent := timePart
      congestionComponent := congestionPart
      imbalanceComponent := imbalancePart
      localRenewableComponent := renewablePart
      finalPrice := contextRound (contextRound (contextRound (contextRound (base + timePart) +
        congestionPart) + imbalancePart) + renewablePart)
      recommendedDecision := recommend parameters request.gridStatus base congestionPart
      gridStatus := request.gridStatus }

/-- `ComponentPricingEngine(parameters).quote(request)`. -/
def quote : Except PricingError PricingResult :=
  if request.basePriceInrPerKwh < 0 then .error .negativeBasePrice
  else (priced request parameters).mapError .decimal

end Components

/-- `DEFAULT_ENGINE.quote`. -/
def defaultQuote (request : PricingRequest) : Except PricingError PricingResult :=
  quote request {}

/-- An evening peak at 85 % loading: 5 + 0.5 + 0.625 + 0.25 - 0.25. -/
example : ((defaultQuote
    { basePriceInrPerKwh := 5, quantityKwh := 1
      deliveryStart := 45900000000, deliveryEnd := 46800000000
      gridStatus := .safe, gridMetrics := some { maxLineLoadingPct := some 85 }
      localRenewable := true }).toOption.map PricingResult.finalPrice) = some (49 / 8) := by
  decide +kernel

end UrjaSetu.Domain.Policies.DynamicPricing
