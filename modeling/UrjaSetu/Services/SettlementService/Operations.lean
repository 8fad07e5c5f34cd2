import UrjaSetu.Library.PythonText
import UrjaSetu.Repositories.Settlement
import UrjaSetu.Services.AuditService.Append
import UrjaSetu.Services.SettlementService
import UrjaSetu.Services.SettlementService.ActualEnergy

/-!
The operations of `app/services/settlement_service.py`, each one transaction, with
the standard calculator and the resolvers they have by default.

Every read is a query of its own and no row is locked. A settlement that is
refused because nothing was measured is a committed transaction, which raises
after its commit.

Owns: `reconcile_trade` and `settle_trade`. The forecast quantity, which reaches
neither the accounts nor a row, and the notifications are left out.
-/

namespace UrjaSetu.Services.SettlementService

open UrjaSetu.Core UrjaSetu.Domain UrjaSetu.Domain.Interfaces UrjaSetu.Db UrjaSetu.Db.Models
open UrjaSetu.Domain.Policies.Settlement UrjaSetu.Library UrjaSetu.Library.Transaction
open UrjaSetu.Repositories.Settlement UrjaSetu.Repositories.Telemetry
open UrjaSetu.Services.AuditService

/-- `NotReconcilableError`. -/
def notReconcilableError (message : String) (details : List (String × DetailValue)) :
    UrjaSetuError :=
  unprocessableError "SETTLEMENT_NOT_RECONCILABLE" message details

/-! ## What a settlement depends on -/

/-- `PricingServicePriceResolver.effective_price_for`. -/
def effectivePriceFor (tradeId : UUID) : Txn EffectivePrice := do
  let found ← query fun db => latestForTrade db tradeId
  let breakdown ← Txn.orRaise (notFoundError "PRICE_BREAKDOWN_NOT_FOUND"
    "No price breakdown has been calculated for this trade." [("trade_id", .uuid tradeId)]) found
  pure { priceInrPerKwh := breakdown.finalPrice, sourceId := some breakdown.id }

/-- `TelemetryActualEnergyResolver.actual_energy_for`, inside a transaction. -/
def measureActual (siteId : UUID) (start end_ : Instant) : Txn ActualEnergy := do
  let known ← query fun db => db.community.sites.any fun site => site.id = siteId
  Txn.require known (notFoundError "SITE_NOT_FOUND" "Site not found." [("id", .uuid siteId)])
  let buckets ← query fun db => aggregateForSite db.community.meters db.readings.rows siteId start
    end_ (end_ - start) true
  pure
    { windowStart := start
      windowEnd := end_
      quantityKwh := totalOf buckets
      readingCount := (buckets.map AggregatedReading.readingCount).sum }

/-- The row of an order, by its key. -/
def orderById (orderId : UUID) : Txn (Option Order) :=
  query fun db => db.orders.find? fun order => order.id = orderId

/-- The request of a trade, of what was read for it. -/
def requestOf (trade : Trade) (buy sell : Order) (price : EffectivePrice) (actual : ActualEnergy) :
    SettlementRequest where
  tradeId := trade.id
  buyerUserId := buy.userId
  sellerUserId := sell.userId
  committedQuantityKwh := trade.quantityKwh
  effectivePrice := price
  deliveryStart := trade.deliveryStart
  deliveryEnd := trade.deliveryEnd
  actual := actual
  forecastBasisId := sell.forecastBasisId
  gridValidationId := trade.gridValidationId

/-- `build_request`. -/
def buildRequest (trade : Trade) : Txn SettlementRequest := do
  let buy ← orderById trade.buyOrderId
  let sell ← orderById trade.sellOrderId
  let missing := settlementError
    "The trade's orders are missing, so its parties cannot be identified."
    [("trade_id", .uuid trade.id)]
  let buy ← Txn.orRaise missing buy
  let sell ← Txn.orRaise missing sell
  let price ← effectivePriceFor trade.id
  let actual ← measureActual sell.siteId trade.deliveryStart trade.deliveryEnd
  pure (requestOf trade buy sell price actual)

/-- `_calculate`. -/
def calculate (calculator : StandardSettlementCalculator) (tradeId : UUID) :
    Txn SettlementResult := do
  let found ← query fun db => db.trades.find? fun trade => trade.id = tradeId
  let trade ← Txn.orRaise (notFoundError "TRADE_NOT_FOUND" "Trade not found."
    [("trade_id", .uuid tradeId)]) found
  let request ← buildRequest trade
  lift ((calculator.settle request).mapError fun signal => Failure.domain (settlementError
    ("Settlement calculator " ++ PythonText.reprText calculator.name ++ " failed.")
    [("trade_id", .uuid tradeId), ("reason", .text signal.name)]))

/-! ## Reconciliation -/

/-- The row of an outcome. -/
def reconciliationRow (id : UUID) (createdAt : Instant) (tradeId : UUID)
    (outcome : ReconciliationOutcome) : MeterReconciliation where
  id := id
  tradeId := tradeId
  committedKwh := outcome.committedQuantityKwh
  actualKwh := outcome.actualQuantityKwh
  deviationKwh := outcome.deviationKwh
  withinTolerance := outcome.withinTolerance
  balancingKwh := outcome.balancingKwh
  reconciliationStatus := outcome.status
  reason := some outcome.reason
  createdAt := createdAt

/-- `_record_reconciliation`. -/
def recordReconciliation (sha256 : String → String) (tradeId : UUID) (result : SettlementResult) :
    Txn MeterReconciliation := do
  let createdAt ← Txn.utcNow
  let id ← Txn.uuid4
  let row := reconciliationRow id createdAt tradeId result.reconciliation
  statement (Relations.reconciliations.insert row.asStored)
  let event ← tradeReconciled row result.reconciliation.policyVersion result.forecastBasisId
    createdAt
  let _ ← append sha256 event
  pure row

/-- `reconcile_trade`. -/
def reconcileTrade (sha256 : String → String) (calculator : StandardSettlementCalculator)
    (tradeId : UUID) : Txn MeterReconciliation := do
  let result ← calculate calculator tradeId
  let row ← recordReconciliation sha256 tradeId result
  pure row.asStored

/-! ## Settlement -/

/-- The row of a result. -/
def settlementRow (id : UUID) (result : SettlementResult) (settledAt : Instant) :
    Settlement where
  id := id
  tradeId := result.tradeId
  buyerUserId := result.buyerUserId
  sellerUserId := result.sellerUserId
  settledKwh := result.settledQuantityKwh
  grossAmountInr := result.grossAmountInr
  platformFeeInr := result.platformFeeInr
  balancingChargeInr := result.balancingChargeInr
  sellerCreditInr := result.sellerCreditInr
  buyerDebitInr := result.buyerDebitInr
  status := .settled
  settledAt := settledAt

/-- The flush of the settlements that a new one supersedes. -/
def supersede (standing : List Settlement) : Database → Except Failure Database :=
  Relations.settlements.modify (fun row => standing.any fun loaded => loaded.id = row.id)
    fun row => { row with status := .superseded }

/-- The rest of `settle_trade`, for a measured delivery. -/
def recordSettlement (sha256 : String → String) (calculator : StandardSettlementCalculator)
    (tradeId : UUID) (result : SettlementResult) (moment : Instant) : Txn Settlement := do
  lift ((validateResult result calculator.name).mapError Failure.domain)
  let existing ← query fun db => listForTrade db tradeId
  let id ← Txn.uuid4
  let row := settlementRow id result moment
  statement (supersede (existing.filter fun row => row.status = .settled))
  statement (Relations.settlements.insert row.asStored)
  let event ← tradeSettled result row.id moment
  let _ ← append sha256 event
  pure row.asStored

/-- `settle_trade`. -/
def settleTrade (sha256 : String → String) (calculator : StandardSettlementCalculator)
    (tradeId : UUID) (at_ : Option Instant) : Txn (Except UrjaSetuError Settlement) := do
  let moment ← Txn.momentOf at_
  let result ← calculate calculator tradeId
  let _ ← recordReconciliation sha256 tradeId result
  if result.reconciliation.status.isComplete then do
    let row ← recordSettlement sha256 calculator tradeId result moment
    pure (.ok row)
  else
    pure (.error (notReconcilableError
      "Actual delivery for this trade has not been measured, so it cannot be settled."
      [("trade_id", .uuid tradeId),
        ("reconciliation_status", .text result.reconciliation.status.value),
        ("reason", .text result.reconciliation.reason)]))

end UrjaSetu.Services.SettlementService
