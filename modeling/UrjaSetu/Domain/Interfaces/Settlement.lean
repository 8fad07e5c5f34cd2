import UrjaSetu.Domain.Enums
import UrjaSetu.Library.DecimalContext

/-!
The settlement contract of `app/domain/interfaces/settlement.py`: what a
calculator is given and what it returns.

Decimals are their rational values; each sum and product is rounded as the decimal
context rounds it.
-/

namespace UrjaSetu.Domain.Interfaces

open UrjaSetu.Domain UrjaSetu.Library.DecimalContext

/-- Measured delivery over a window. `none` means not measured, never zero. -/
structure ActualEnergy where
  windowStart : Instant
  windowEnd : Instant
  quantityKwh : Option ℚ := none
  readingCount : ℕ := 0
deriving DecidableEq, Repr

/-- The price a trade settles at, and where it came from. -/
structure EffectivePrice where
  priceInrPerKwh : ℚ
  sourceId : Option UUID := none
deriving DecidableEq, Repr

/-- The comparison of commitment and delivery, kept separate from the money. -/
structure ReconciliationOutcome where
  committedQuantityKwh : ℚ
  actualQuantityKwh : Option ℚ
  deviationKwh : Option ℚ
  deviationPct : Option ℚ
  withinTolerance : Bool
  balancingKwh : ℚ
  settledQuantityKwh : Option ℚ
  status : ReconciliationStatus
  reason : String
  policyVersion : String
deriving DecidableEq, Repr

/-- Everything a settlement depends on. -/
structure SettlementRequest where
  tradeId : UUID
  buyerUserId : UUID
  sellerUserId : UUID
  committedQuantityKwh : ℚ
  effectivePrice : EffectivePrice
  deliveryStart : Instant
  deliveryEnd : Instant
  actual : ActualEnergy
  forecastBasisId : Option UUID := none
  gridValidationId : Option UUID := none
deriving DecidableEq, Repr

/-- One itemised entry of a settlement. -/
structure SettlementLine where
  label : String
  quantityKwh : Option ℚ
  priceInrPerKwh : Option ℚ
  amountInr : ℚ
  reason : String
deriving DecidableEq, Repr

/-- An auditable settlement. -/
structure SettlementResult where
  tradeId : UUID
  buyerUserId : UUID
  sellerUserId : UUID
  settledQuantityKwh : ℚ
  effectivePriceInrPerKwh : ℚ
  grossAmountInr : ℚ
  platformFeeInr : ℚ
  balancingChargeInr : ℚ
  buyerDebitInr : ℚ
  sellerCreditInr : ℚ
  status : SettlementStatus
  policyVersion : String
  reconciliation : ReconciliationOutcome
  priceComponentsId : Option UUID := none
  forecastBasisId : Option UUID := none
  gridValidationId : Option UUID := none
  lines : List SettlementLine := []
deriving DecidableEq, Repr

namespace SettlementResult

def platformRetainedInr (result : SettlementResult) : ℚ :=
  contextRound (result.platformFeeInr + result.balancingChargeInr)

/-- What the buyer is debited is what the seller is credited plus everything
the platform retained. -/
def ledgerBalances (result : SettlementResult) : Bool :=
  result.buyerDebitInr = contextRound (result.sellerCreditInr + result.platformRetainedInr)

end SettlementResult

end UrjaSetu.Domain.Interfaces
