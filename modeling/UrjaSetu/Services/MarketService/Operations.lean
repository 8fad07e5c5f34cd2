import UrjaSetu.Repositories.Forecasting
import UrjaSetu.Repositories.Market
import UrjaSetu.Services.AuditService.Append
import UrjaSetu.Services.MarketService

/-!
The operations of `app/services/market_service.py`, each one transaction.

Every read is a query of its own and no row is locked. An instance that a
session has loaded keeps the values it was loaded with, and a flush writes the
columns in which it differs from them.

Owns: `open_session`, `place_order`, `cancel_order`, `close_session` and
`clear_session`. Whether a user may trade is the identity service's decision,
which is a parameter; the notifications sent around the transactions are left
out.
-/

namespace UrjaSetu.Services.MarketService

open UrjaSetu.Core UrjaSetu.Domain UrjaSetu.Domain.Interfaces UrjaSetu.Db UrjaSetu.Db.Models
open UrjaSetu.Domain.Policies.MarketMatching UrjaSetu.Domain.Policies.Surplus UrjaSetu.Library
open UrjaSetu.Library.Transaction
open UrjaSetu.Repositories.Forecasting UrjaSetu.Repositories.Market
open UrjaSetu.Services.AuditService

/-- What `identity_service.get_eligibility` decides. -/
structure EligibilityDecision where
  canBuy : Bool
  canSell : Bool
  reasons : List String
deriving DecidableEq, Repr

/-- The code outside the market: the digest of the audit chain and the identity
service. -/
structure Platform where
  sha256 : String → String
  eligibility : Database → UUID → Instant → Except Failure EligibilityDecision

/-- `MarketStateError`. -/
def marketStateError (message : String) (details : List (String × DetailValue)) :
    UrjaSetuError :=
  conflictError "MARKET_STATE_INVALID" message details

def orderQuantityInvalid : UrjaSetuError :=
  unprocessableError "ORDER_QUANTITY_INVALID" "energy_kwh must be greater than zero." []

def orderWindowInvalid : UrjaSetuError :=
  unprocessableError "ORDER_WINDOW_INVALID" "delivery_end must be after delivery_start." []

def orderPriceRequired (message : String) : UrjaSetuError :=
  unprocessableError "ORDER_PRICE_REQUIRED" message []

/-- `list(decision.reasons)`, rendered. -/
def reasonsText (reasons : List String) : String := String.intercalate ", " reasons

/-! ## Sessions -/

/-- `open_session`. -/
def openSession (marketDate : ℤ) (marketType : MarketType) (at_ : Option Instant) :
    Txn MarketSession := do
  let existing ← query fun db => getForDate db marketDate marketType
  Txn.require existing.isNone (conflictError "MARKET_SESSION_ALREADY_EXISTS"
    "A market session already exists for this date and type."
    [("market_date", .text (Calendar.dateText marketDate)), ("market_type", .text marketType.value)])
  let openedAt ← Txn.momentOf at_
  let sessionId ← Txn.uuid4
  let session : MarketSession :=
    { id := sessionId, marketDate, marketType, status := .open, openedAt := some openedAt }
  statement (Relations.marketSessions.insert session)
  pure session

/-- `get_session`. -/
def getSession (marketSessionId : UUID) : Txn MarketSession := do
  let found ← query fun db => db.marketSessions.find? fun session => session.id = marketSessionId
  Txn.orRaise (notFoundError "MARKET_SESSION_NOT_FOUND" "Market session not found."
    [("id", .uuid marketSessionId)]) found

/-- The stored row after the flush of a session instance. -/
def sessionFlushed (loaded current row : MarketSession) : MarketSession :=
  { row with
    status := if current.status = loaded.status then row.status else current.status
    closedAt := if current.closedAt = loaded.closedAt then row.closedAt else current.closedAt
    clearedAt := if current.clearedAt = loaded.clearedAt then row.clearedAt else current.clearedAt }

/-- The flush of a session instance. -/
def flushSession (loaded current : MarketSession) (db : Database) : Except Failure Database :=
  Relations.marketSessions.modify (fun row => row.id = loaded.id) (sessionFlushed loaded current) db

/-- `close_session`. -/
def closeSession (marketSessionId : UUID) (at_ : Option Instant) : Txn MarketSession := do
  let session ← getSession marketSessionId
  Txn.require (session.status = .open) (marketStateError
    ("A " ++ session.status.value ++ " session cannot be closed.")
    [("status", .text session.status.value)])
  let closedAt ← Txn.momentOf at_
  let closed := { session with status := .closed, closedAt := some closedAt }
  statement (flushSession session closed)
  pure closed

/-! ## Orders -/

/-- The arguments of `place_order`. -/
structure OrderRequest where
  marketSessionId : UUID
  userId : UUID
  siteId : UUID
  side : OrderSide
  energyKwh : ℚ
  deliveryStart : Instant
  deliveryEnd : Instant
  maxPriceInrPerKwh : Option ℚ := none
  minPriceInrPerKwh : Option ℚ := none
  nodeId : Option UUID := none
  forecastBasisId : Option UUID := none
  at_ : Option Instant := none
deriving DecidableEq, Repr

/-- `_require_eligibility`. -/
def requireEligibility (platform : Platform) (userId : UUID) (side : OrderSide) : Txn Unit := do
  let evaluatedAt ← Txn.utcNow
  let outcome ← query fun db => platform.eligibility db userId evaluatedAt
  let decision ← lift outcome
  let permitted := if side = .sell then decision.canSell else decision.canBuy
  Txn.require permitted (unprocessableError "USER_NOT_ELIGIBLE"
    ("User is not eligible to " ++ side.value ++ ".")
    [("side", .text side.value), ("reasons", .text (reasonsText decision.reasons))])

/-- `_validate_order_shape`. -/
def validateOrderShape (request : OrderRequest) : Txn Unit := do
  Txn.require (0 < request.energyKwh) orderQuantityInvalid
  Txn.require (request.deliveryStart < request.deliveryEnd) orderWindowInvalid
  Txn.require (request.side ≠ .buy || request.maxPriceInrPerKwh.isSome)
    (orderPriceRequired "A buy order requires max_price_inr_per_kwh.")
  Txn.require (request.side ≠ .sell || request.minPriceInrPerKwh.isSome)
    (orderPriceRequired "A sell order requires min_price_inr_per_kwh.")

/-- The site a request names must exist. -/
def requireSite (siteId : UUID) : Txn Unit := do
  let known ← query fun db => db.community.sites.any fun site => site.id = siteId
  Txn.require known (notFoundError "SITE_NOT_FOUND" "Site not found." [("id", .uuid siteId)])

/-- `forecast_service.get_surplus_for_site`, as its `total_exportable_kwh`. -/
def getSurplusForSite (siteId : UUID) (start end_ : Instant) : Txn ℚ := do
  requireSite siteId
  let generation ← query fun db => latestPerIntervalForSite db siteId start end_ .solar
  let consumption ← query fun db => latestPerIntervalForSite db siteId start end_ .load
  pure (totalExportableKwh (calculateSurplus (predictions generation) (predictions consumption)))

/-- `_require_forecast_surplus`. -/
def requireForecastSurplus (siteId : UUID) (energyKwh : ℚ) (start end_ : Instant) : Txn Unit := do
  let available ← getSurplusForSite siteId start end_
  Txn.require (energyKwh ≤ available) (unprocessableError "INSUFFICIENT_FORECAST_SURPLUS"
    "Sell quantity exceeds eligible available energy."
    [("requested_kwh", .decimal energyKwh), ("available_kwh", .decimal available)])

/-- The row of an accepted request. -/
def OrderRequest.order (request : OrderRequest) (orderId : UUID) (createdAt : Instant) : Order where
  id := orderId
  marketSessionId := request.marketSessionId
  userId := request.userId
  siteId := request.siteId
  nodeId := request.nodeId
  side := request.side
  energyKwh := request.energyKwh
  minPriceInrPerKwh := request.minPriceInrPerKwh
  maxPriceInrPerKwh := request.maxPriceInrPerKwh
  deliveryStart := request.deliveryStart
  deliveryEnd := request.deliveryEnd
  forecastBasisId := request.forecastBasisId
  status := .open
  matchedKwh := 0
  createdAt := createdAt

/-- `place_order`. -/
def placeOrder (platform : Platform) (request : OrderRequest) : Txn Order := do
  let session ← getSession request.marketSessionId
  Txn.require session.status.acceptsOrders (marketStateError
    ("A " ++ session.status.value ++ " session does not accept orders.")
    [("status", .text session.status.value)])
  requireSite request.siteId
  requireEligibility platform request.userId request.side
  validateOrderShape request
  if request.side = .sell then
    requireForecastSurplus request.siteId request.energyKwh request.deliveryStart
      request.deliveryEnd
  let createdAt ← Txn.momentOf request.at_
  let orderId ← Txn.uuid4
  let order := request.order orderId createdAt
  statement (Relations.orders.insert order.asStored)
  let event ← orderPlaced order createdAt
  let _ ← append platform.sha256 event
  pure order.asStored

/-- `get_order`. -/
def getOrder (orderId : UUID) : Txn Order := do
  let found ← query fun db => db.orders.find? fun order => order.id = orderId
  Txn.orRaise (notFoundError "ORDER_NOT_FOUND" "Order not found." [("id", .uuid orderId)]) found

/-- The stored row after the flush of an order instance. -/
def orderFlushed (loaded current row : Order) : Order :=
  { row with
    status := if current.status = loaded.status then row.status else current.status
    matchedKwh :=
      if current.matchedKwh = loaded.matchedKwh then row.matchedKwh
      else numeric4 current.matchedKwh }

/-- The flush of order instances: each with what it was loaded as. -/
def flushOrders (instances : List (Order × Order)) (db : Database) : Except Failure Database :=
  Relations.orders.modify
    (fun row => instances.any fun order => order.1.id = row.id)
    (fun row => match instances.find? fun order => order.1.id = row.id with
      | some order => orderFlushed order.1 order.2 row
      | none => row) db

/-- `cancel_order`. -/
def cancelOrder (orderId : UUID) : Txn Order := do
  let order ← getOrder orderId
  Txn.require order.status.isActive (marketStateError
    ("A " ++ order.status.value ++ " order cannot be cancelled.")
    [("status", .text order.status.value)])
  let cancelled := { order with status := .cancelled }
  statement (flushOrders [(order, cancelled)])
  pure cancelled

/-! ## Clearing -/

/-- `_to_entry`. -/
def toEntry (order : Order) : OrderBookEntry where
  orderId := order.id
  side := order.side
  userId := order.userId
  siteId := order.siteId
  nodeId := order.nodeId
  remainingKwh := order.remainingKwh
  deliveryStart := order.deliveryStart
  deliveryEnd := order.deliveryEnd
  createdAt := order.createdAt
  maxPriceInrPerKwh := order.maxPriceInrPerKwh
  minPriceInrPerKwh := order.minPriceInrPerKwh

/-- The book of a session's active orders. -/
def orderBook (session : MarketSession) (orders : List Order) : OrderBook where
  marketSessionId := session.id
  marketDate := session.marketDate
  marketType := session.marketType
  buys := (orders.map toEntry).filter fun entry => entry.side = .buy
  sells := (orders.map toEntry).filter fun entry => entry.side = .sell

/-- `_apply_fill`. -/
def applyFill (order : Order) (quantityKwh : ℚ) : Order :=
  let matchedKwh := order.matchedKwh + quantityKwh
  { order with
    matchedKwh := matchedKwh
    status := if order.energyKwh ≤ matchedKwh then .filled else .partiallyFilled }

/-- `_apply_fill(orders[order_id], quantity)`, on the instances a session holds. -/
def fillOrder (orderId : UUID) (quantityKwh : ℚ) (orders : List Order) :
    Except Failure (List Order) :=
  if orders.any fun order => order.id = orderId then
    .ok (orders.map fun order =>
      if order.id = orderId then applyFill order quantityKwh else order)
  else .error (.engine "KeyError")

/-- Both orders of a trade. -/
def fillTrade (orders : List Order) (trade : ProposedTrade) : Except Failure (List Order) := do
  let orders ← fillOrder trade.buyOrderId trade.quantityKwh orders
  fillOrder trade.sellOrderId trade.quantityKwh orders

/-- `exc.__class__.__name__`. -/
def className : MatchError → String
  | .priceCross _ => "PriceCrossError"
  | .assertion => "AssertionError"

/-- The row of a proposed trade. -/
def tradeRow (result : MatchingResult) (proposed : ProposedTrade) (tradeId : UUID)
    (createdAt : Instant) : Trade where
  id := tradeId
  fillSequence := 1
  buyOrderId := proposed.buyOrderId
  sellOrderId := proposed.sellOrderId
  quantityKwh := proposed.quantityKwh
  clearingPriceInrPerKwh := proposed.clearingPriceInrPerKwh
  deliveryStart := proposed.deliveryStart
  deliveryEnd := proposed.deliveryEnd
  gridValidationId := none
  status := .proposed
  committedAt := none
  matchingEngine := some result.engine
  matchingEngineVersion := some result.engineVersion
  createdAt := createdAt

/-- `TradeRepository.add_all`: every row with an id of its own, in one flush. -/
def addTrades (result : MatchingResult) (createdAt : Instant) :
    List ProposedTrade → Txn (List Trade)
  | [] => pure []
  | proposed :: rest => do
      let tradeId ← Txn.uuid4
      let trade := tradeRow result proposed tradeId createdAt
      statement (Relations.trades.insert trade.asStored)
      let trades ← addTrades result createdAt rest
      pure (trade :: trades)

/-- `clear_session`. -/
def clearSession (platform : Platform) (engine : BaselineMatchingEngine) (marketSessionId : UUID)
    (at_ : Option Instant) : Txn (List Trade) := do
  let session ← getSession marketSessionId
  Txn.require session.status.canClear (marketStateError
    ("A " ++ session.status.value ++ " session cannot be cleared.")
    [("status", .text session.status.value)])
  let clearedAt ← Txn.momentOf at_
  -- `build_order_book` finds the session in the identity map.
  let loaded ← query fun db => listActiveForSession db marketSessionId
  let book := orderBook session loaded
  let result ← lift ((engine.matchRequest ⟨book, clearedAt⟩).mapError fun error =>
    Failure.domain (matchingEngineError
      ("Matching engine '" ++ engine.name ++ "' failed to clear the session.")
      [("engine", .text engine.name), ("reason", .text (className error))]))
  lift ((validateResult result book engine.name).mapError Failure.domain)
  -- The second listing refreshes no instance the first one loaded.
  let listed ← query fun db => listActiveForSession db marketSessionId
  let orders := listed.map fun row => (loaded.find? fun order => order.id = row.id).getD row
  let createdAt ← Txn.serverNow
  let trades ← addTrades result createdAt result.trades
  let filled ← lift (result.trades.foldlM fillTrade orders)
  statement (flushOrders (orders.zip filled))
  statement (flushSession session
    { session with status := .cleared, clearedAt := some clearedAt })
  let event ← marketCleared session trades.length (result.trades.map ProposedTrade.quantityKwh).sum
    result.engine result.engineVersion clearedAt
  let _ ← append platform.sha256 event
  forItems (fun trade => do
    let event ← tradeProposed trade trade.createdAt
    let _ ← append platform.sha256 event
    pure ()) trades
  pure (trades.map Trade.asStored)

/-! ## Requests -/

inductive Request where
  | openSession (marketDate : ℤ) (marketType : MarketType) (at_ : Option Instant)
  | placeOrder (request : OrderRequest)
  | cancelOrder (orderId : UUID)
  | closeSession (marketSessionId : UUID) (at_ : Option Instant)
  | clearSession (marketSessionId : UUID) (at_ : Option Instant)
deriving DecidableEq, Repr

/-- What a request returns. -/
inductive Response where
  | session (session : MarketSession)
  | order (order : Order)
  | trades (trades : List Trade)
deriving DecidableEq, Repr

/-- The trades a response created. -/
def Response.created : Response → List Trade
  | .trades created => created
  | _ => []

/-- The code of a request. -/
def handle (platform : Platform) (engine : BaselineMatchingEngine) : Request → Txn Response
  | .openSession marketDate marketType at_ => do
      let session ← openSession marketDate marketType at_
      pure (.session session)
  | .placeOrder request => do
      let order ← placeOrder platform request
      pure (.order order)
  | .cancelOrder orderId => do
      let order ← cancelOrder orderId
      pure (.order order)
  | .closeSession marketSessionId at_ => do
      let session ← closeSession marketSessionId at_
      pure (.session session)
  | .clearSession marketSessionId at_ => do
      let trades ← clearSession platform engine marketSessionId at_
      pure (.trades trades)

end UrjaSetu.Services.MarketService
