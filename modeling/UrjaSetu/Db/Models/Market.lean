import UrjaSetu.Db.Models.Telemetry

/-!
Orders and trades of `app/db/models/market.py`, with the grid runs of `grid.py`
and the price breakdowns of `pricing.py` that trades refer to.
-/

namespace UrjaSetu.Db.Models

open UrjaSetu.Domain UrjaSetu.Library

structure MarketSession where
  id : UUID
  marketDate : ℤ
  marketType : MarketType
  status : MarketSessionStatus
  openedAt : Option Instant
  closedAt : Option Instant := none
  clearedAt : Option Instant := none
deriving DecidableEq, Repr

/-- `later IS NULL OR earlier IS NULL OR later >= earlier`. -/
def nullOrOrdered : Option Instant → Option Instant → Bool
  | some earlier, some later => earlier ≤ later
  | _, _ => true

/-- `uq_market_sessions_market_date_market_type`, and the order of the three
instants. -/
def marketSessions : Schema MarketSession where
  check session := nullOrOrdered session.openedAt session.closedAt &&
    nullOrOrdered session.closedAt session.clearedAt
  conflict earlier later := earlier.id = later.id ∨
    (earlier.marketDate = later.marketDate ∧ earlier.marketType = later.marketType)

/-- A buy or sell intent. -/
structure Order where
  id : UUID
  marketSessionId : UUID
  userId : UUID
  siteId : UUID
  nodeId : Option UUID
  side : OrderSide
  energyKwh : ℚ
  minPriceInrPerKwh : Option ℚ
  maxPriceInrPerKwh : Option ℚ
  deliveryStart : Instant
  deliveryEnd : Instant
  forecastBasisId : Option UUID
  status : OrderStatus
  matchedKwh : ℚ
  createdAt : Instant
deriving DecidableEq, Repr

/-- The row as its columns hold it. -/
def Order.asStored (order : Order) : Order :=
  { order with
    energyKwh := numeric4 order.energyKwh
    minPriceInrPerKwh := order.minPriceInrPerKwh.map numeric4
    maxPriceInrPerKwh := order.maxPriceInrPerKwh.map numeric4
    matchedKwh := numeric4 order.matchedKwh }

/-- Energy still available to match. -/
def Order.remainingKwh (order : Order) : ℚ := order.energyKwh - order.matchedKwh

/-- `price IS NULL OR price >= 0`. -/
def priceNullOrNonneg : Option ℚ → Bool
  | none => true
  | some price => 0 ≤ price

def orders : Schema Order where
  check order := 0 < order.energyKwh && order.deliveryStart < order.deliveryEnd &&
    0 ≤ order.matchedKwh && order.matchedKwh ≤ order.energyKwh &&
      (order.side ≠ .buy || order.maxPriceInrPerKwh.isSome) &&
        (order.side ≠ .sell || order.minPriceInrPerKwh.isSome) &&
          priceNullOrNonneg order.minPriceInrPerKwh && priceNullOrNonneg order.maxPriceInrPerKwh
  conflict earlier later := earlier.id = later.id

/-- A matched market transaction. -/
structure Trade where
  id : UUID
  fillSequence : ℤ
  buyOrderId : UUID
  sellOrderId : UUID
  quantityKwh : ℚ
  clearingPriceInrPerKwh : ℚ
  deliveryStart : Instant
  deliveryEnd : Instant
  gridValidationId : Option UUID
  status : TradeStatus
  committedAt : Option Instant
  matchingEngine : Option String
  matchingEngineVersion : Option String
  createdAt : Instant
deriving DecidableEq, Repr

/-- The row as its columns hold it. -/
def Trade.asStored (trade : Trade) : Trade :=
  { trade with
    quantityKwh := numeric4 trade.quantityKwh
    clearingPriceInrPerKwh := numeric4 trade.clearingPriceInrPerKwh }

/-- The columns of `uq_trades_buy_order_id_sell_order_id_delivery_start`. -/
def Trade.fillKey (trade : Trade) : UUID × UUID × Instant × ℤ :=
  (trade.buyOrderId, trade.sellOrderId, trade.deliveryStart, trade.fillSequence)

def trades : Schema Trade where
  check trade := 0 < trade.quantityKwh && 0 ≤ trade.clearingPriceInrPerKwh &&
    trade.deliveryStart < trade.deliveryEnd && trade.buyOrderId ≠ trade.sellOrderId
  conflict earlier later := earlier.id = later.id ∨ earlier.fillKey = later.fillKey

/-- The result of validating a delivery interval on the grid. -/
structure GridValidationRun where
  id : UUID
  tradeId : Option UUID
  gridSnapshotId : Option UUID
  simulationEngine : String
  engineVersion : Option String
  inputHash : String
  status : GridValidationStatus
  minVoltagePu : Option ℚ
  maxVoltagePu : Option ℚ
  maxLineLoadingPct : Option ℚ
  maxTransformerLoadingPct : Option ℚ
  decision : GridValidationDecision
  reason : Option String
  createdAt : Instant
deriving DecidableEq, Repr

/-- The row as its columns hold it. -/
def GridValidationRun.asStored (run : GridValidationRun) : GridValidationRun :=
  { run with
    minVoltagePu := run.minVoltagePu.map numeric4
    maxVoltagePu := run.maxVoltagePu.map numeric4
    maxLineLoadingPct := run.maxLineLoadingPct.map numeric3
    maxTransformerLoadingPct := run.maxTransformerLoadingPct.map numeric3 }

def gridValidationRuns : Schema GridValidationRun where
  check run := (run.status = .safe ↔ run.decision = .accept) &&
    (match run.minVoltagePu, run.maxVoltagePu with
      | some lowest, some highest => lowest ≤ highest
      | _, _ => true)
  conflict earlier later := earlier.id = later.id

/-- The stored breakdown of a trade's price. -/
structure PriceComponents where
  id : UUID
  tradeId : UUID
  baseMarketPrice : ℚ
  timeComponent : ℚ
  congestionComponent : ℚ
  imbalanceComponent : ℚ
  localRenewableComponent : ℚ
  finalPrice : ℚ
  formulaVersion : String
  createdAt : Instant
deriving DecidableEq, Repr

def priceComponents : Schema PriceComponents where
  check price := price.baseMarketPrice + price.timeComponent + price.congestionComponent +
      price.imbalanceComponent + price.localRenewableComponent = price.finalPrice &&
    0 ≤ price.baseMarketPrice && 0 ≤ price.finalPrice && 0 ≤ price.congestionComponent &&
      0 ≤ price.imbalanceComponent && price.localRenewableComponent ≤ 0
  conflict earlier later := earlier.id = later.id

end UrjaSetu.Db.Models
