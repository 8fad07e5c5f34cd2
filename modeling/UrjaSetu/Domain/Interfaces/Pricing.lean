import UrjaSetu.Domain.Enums

/-!
The dynamic pricing contract of `app/domain/interfaces/pricing.py`, with the
grid metrics of `app/domain/interfaces/grid.py` it reads. The itemised reasons
of a result are prose that no modelled function reads, and are left out.
-/

namespace UrjaSetu.Domain.Interfaces

open UrjaSetu.Domain

/-- The normalised numbers of a grid engine; `none` is not measured. -/
structure GridMetrics where
  minVoltagePu : Option ℚ := none
  maxVoltagePu : Option ℚ := none
  maxLineLoadingPct : Option ℚ := none
  maxTransformerLoadingPct : Option ℚ := none
deriving DecidableEq, Repr

/-- Everything a price may depend on. -/
structure PricingRequest where
  basePriceInrPerKwh : ℚ
  quantityKwh : ℚ
  deliveryStart : Instant
  deliveryEnd : Instant
  gridStatus : GridValidationStatus := .unknown
  gridMetrics : Option GridMetrics := none
  forecastConfidence : Option ℚ := none
  localRenewable : Bool := false
deriving DecidableEq, Repr

structure PricingResult where
  formulaVersion : String
  engine : String
  baseMarketPrice : ℚ
  timeComponent : ℚ
  congestionComponent : ℚ
  imbalanceComponent : ℚ
  localRenewableComponent : ℚ
  finalPrice : ℚ
  recommendedDecision : GridValidationDecision := .accept
  gridStatus : GridValidationStatus := .unknown
deriving DecidableEq, Repr

/-- The five parts added up. -/
def PricingResult.partsSum (result : PricingResult) : ℚ :=
  result.baseMarketPrice + result.timeComponent + result.congestionComponent +
    result.imbalanceComponent + result.localRenewableComponent

end UrjaSetu.Domain.Interfaces
