import UrjaSetu.Domain.Policies.DynamicPricing
import UrjaSetu.Domain.Policies.MarketMatching
import UrjaSetu.Services.WorkspaceService.GridDecision

/-!
The market of `app/services/workspace_service.py`: `clear_market` and
`accept_offer`.

An order in hand is the row as this transaction last wrote it: the session keeps
one object a row, and writes it with the next flush, which here comes at once.

Owns: the operations. Does not own: what they do to the tables (see
`ClearingEffects`).
-/

namespace UrjaSetu.Services.WorkspaceService

open UrjaSetu.Domain UrjaSetu.Domain.Interfaces UrjaSetu.Db UrjaSetu.Db.Models UrjaSetu.Library
open UrjaSetu.Domain.Policies.CommunityEnergy UrjaSetu.Domain.Policies.DynamicPricing
open UrjaSetu.Domain.Policies.MarketMatching

def orderOf (id : UUID) (db : Database) : Option Order := db.orders.find? fun order => order.id = id

/-- The objects of an earlier query, as they are now. -/
def refreshed (orders : List Order) (db : Database) : List Order :=
  orders.filterMap fun order => orderOf order.id db

/-- What a clearing is about: every order, or those that are named. -/
def named (orderIds : Option (List UUID)) (order : Order) : Bool :=
  match orderIds with
  | none => true
  | some ids => order.id ∈ ids

/-- `open_orders`. -/
def openOrders (clock : Instant) (orderIds : Option (List UUID)) (db : Database) : List Order :=
  (db.orders.where_ fun order => order.status.isActive && clock < order.deliveryStart).filter
    (named orderIds)

/-! ## The book of a slot -/

/-- What of an order may be matched. -/
def matchableKwh (quantityCap : Option ℚ) (order : Order) : ℚ :=
  match quantityCap with
  | none => order.remainingKwh
  | some cap => min order.remainingKwh cap

def bookEntry (quantityCap : Option ℚ) (order : Order) : OrderBookEntry where
  orderId := order.id
  side := order.side
  userId := order.userId
  siteId := order.siteId
  nodeId := order.nodeId
  remainingKwh := matchableKwh quantityCap order
  deliveryStart := order.deliveryStart
  deliveryEnd := order.deliveryEnd
  createdAt := order.createdAt
  minPriceInrPerKwh := order.minPriceInrPerKwh
  maxPriceInrPerKwh := order.maxPriceInrPerKwh

/-- The order book of the orders of one delivery start. -/
def clearingBook (quantityCap : Option ℚ) (start : Instant) (group : List Order) : OrderBook where
  marketSessionId := (group.head?.map Order.marketSessionId).getD 0
  marketDate := start / DAY
  marketType := .dayAhead
  buys := (group.map (bookEntry quantityCap)).filter fun entry => entry.side = .buy
  sells := (group.map (bookEntry quantityCap)).filter fun entry => entry.side = .sell

/-! ## One proposal -/

/-- The request for the price of a proposal. -/
def priceRequest (proposal : ProposedTrade) (start : Instant) (grid : GridValidationRun)
    (confidence : Option ℚ) : PricingRequest where
  basePriceInrPerKwh := proposal.clearingPriceInrPerKwh
  quantityKwh := proposal.quantityKwh
  deliveryStart := start
  deliveryEnd := start + INTERVAL
  gridStatus := grid.status
  gridMetrics := some
    { minVoltagePu := grid.minVoltagePu
      maxVoltagePu := grid.maxVoltagePu
      maxLineLoadingPct := grid.maxLineLoadingPct
      maxTransformerLoadingPct := grid.maxTransformerLoadingPct }
  forecastConfidence := confidence
  localRenewable := true

/-- `sell.min_price <= final_price <= buy.max_price`, where both are given. -/
def withinLimits (buy sell : Order) (finalPrice : ℚ) : Bool :=
  match sell.minPriceInrPerKwh, buy.maxPriceInrPerKwh with
  | some floor, some ceiling => floor ≤ finalPrice && finalPrice ≤ ceiling
  | _, _ => false

/-- `accepted`. -/
def accepts (grid : GridValidationRun) (buy sell : Order) (finalPrice : ℚ) : Bool :=
  grid.status = .safe && withinLimits buy sell finalPrice

/-- One more than the largest fill of the pair at that start. -/
def nextFill (buyOrderId sellOrderId : UUID) (start : Instant) (db : Database) : ℤ :=
  1 + (largest id ((db.trades.where_ fun trade => trade.buyOrderId = buyOrderId &&
    trade.sellOrderId = sellOrderId && trade.deliveryStart = start).map
      Trade.fillSequence)).getD 0

/-- The row of a proposal. -/
def tradeRow (id : UUID) (fillSequence : ℤ) (createdAt clock : Instant)
    (engine : BaselineMatchingEngine) (grid : GridValidationRun) (start : Instant)
    (proposal : ProposedTrade) (accepted : Bool) : Trade where
  id := id
  fillSequence := fillSequence
  buyOrderId := proposal.buyOrderId
  sellOrderId := proposal.sellOrderId
  quantityKwh := proposal.quantityKwh
  clearingPriceInrPerKwh := proposal.clearingPriceInrPerKwh
  deliveryStart := start
  deliveryEnd := start + INTERVAL
  gridValidationId := some grid.id
  status := if accepted then .committed else .rejected
  committedAt := if accepted then some clock else none
  matchingEngine := some engine.name
  matchingEngineVersion := some engine.engineVersion
  createdAt := createdAt

/-- The row of a quote. -/
def priceRow (id tradeId : UUID) (createdAt : Instant) (quote : PricingResult) :
    PriceComponents where
  id := id
  tradeId := tradeId
  baseMarketPrice := quote.baseMarketPrice
  timeComponent := quote.timeComponent
  congestionComponent := quote.congestionComponent
  imbalanceComponent := quote.imbalanceComponent
  localRenewableComponent := quote.localRenewableComponent
  finalPrice := quote.finalPrice
  formulaVersion := quote.formulaVersion
  createdAt := createdAt

/-- An order of a proposal that was accepted, or was not. -/
def decidedOrder (accepted : Bool) (quantityKwh : ℚ) (order : Order) : Order :=
  if accepted then
    let filled := { order with matchedKwh := order.matchedKwh + quantityKwh }
    { filled with status := if filled.remainingKwh = 0 then .filled else .partiallyFilled }
  else { order with status := .rejected }

/-- `trade.grid.reason if grid.status != SAFE else ...`. -/
def proposalReason (grid : GridValidationRun) : Value :=
  if grid.status = .safe then .str "Final price checked against both order limits."
  else Value.ofOption .str grid.reason

/-- An `Exception` of the pricing engine. -/
def pricingFailure : PricingError → Failure
  | .negativeBasePrice => .engine "ValueError"
  | .decimal signal => .engine signal.name

/-- What is recorded of a proposal: its trade, its price and both orders. -/
def recordProposal (engines : Engines) (sim : Simulation) (start : Instant)
    (engine : BaselineMatchingEngine) (grid : GridValidationRun) (proposal : ProposedTrade)
    (buy sell : Order) (quote : PricingResult) : Call Trade := do
  let accepted := accepts grid buy sell quote.finalPrice
  let fillSequence ← Work.read (nextFill buy.id sell.id start)
  let tradeId ← uuid4
  let createdAt ← serverNow
  let trade := tradeRow tradeId fillSequence createdAt sim.clock engine grid start proposal accepted
  Work.execute (Relations.trades.insert trade.asStored)
  let priceId ← uuid4
  Work.execute (Relations.prices.insert (priceRow priceId trade.id createdAt quote))
  addAudit engines .tradeProposed .trade trade.id
    [("outcome", .str trade.status.value), ("grid", .str grid.status.value),
      ("final_price", .str (columnText 4 quote.finalPrice)), ("reason", proposalReason grid)]
  Work.execute (Relations.orders.modify (fun row => row.id = buy.id || row.id = sell.id)
    (decidedOrder accepted proposal.quantityKwh))
  pure trade

/-- The body of the loop over the proposals; `none` is a `continue`. -/
def decideProposal (engines : Engines) (sim : Simulation) (start : Instant)
    (engine : BaselineMatchingEngine) (grid : GridValidationRun) (proposal : ProposedTrade) :
    Call (Option Trade) := do
  let buy ← Work.read (orderOf proposal.buyOrderId)
  let sell ← Work.read (orderOf proposal.sellOrderId)
  match buy, sell with
  | some buy, some sell =>
      if buy.status = .rejected ∨ sell.status = .rejected then pure none
      else if buy.userId = sell.userId then pure none
      else do
        let basis ← prediction sell.siteId start
        let quote ← Work.lift ((defaultQuote (priceRequest proposal start grid
          basis.solar.confidence)).mapError pricingFailure)
        let trade ← recordProposal engines sim start engine grid proposal buy sell quote
        pure (some trade)
  | _, _ => Work.raise (.engine "KeyError")

/-! ## Operations -/

/-- `BaselineMatchingEngine().match(MatchingRequest(book, clock))`. -/
def matchBook (engine : BaselineMatchingEngine) (book : OrderBook) (clock : Instant) :
    Except Failure MatchingResult :=
  (engine.matchRequest ⟨book, clock⟩).mapError fun _ => .engine "AssertionError"

/-- The body of the loop over the delivery starts. -/
def clearSlot (engines : Engines) (sim : Simulation) (quantityCap : Option ℚ) (orders : List Order)
    (trades : List Trade) (start : Instant) : Call (List Trade) := do
  let current ← Work.read (refreshed orders)
  let group := current.filter fun order => order.deliveryStart = start
  let engine : BaselineMatchingEngine := {}
  let result ← Work.lift (matchBook engine (clearingBook quantityCap start group) sim.clock)
  if result.trades = [] then pure trades
  else do
    let grid ← validateGrid engines sim start
    Work.foldItems (fun trades proposal => do
      let decided ← decideProposal engines sim start engine grid proposal
      pure (trades ++ decided.toList)) trades result.trades

/-- The delivery starts of the orders, in order. -/
def slotsOf (orders : List Order) : List Instant :=
  sortBy id (orders.map Order.deliveryStart).dedup

/-- `clear_market`. -/
def clearMarket (engines : Engines) (orderIds : Option (List UUID)) (quantityCap : Option ℚ)
    (commit : Bool) : Call (List Trade) := do
  let sim ← state
  let orders ← Work.read (openOrders sim.clock orderIds)
  let trades ← Work.foldItems (clearSlot engines sim quantityCap orders) [] (slotsOf orders)
  bump
  finish commit
  pure trades

/-- What `body_hash` is the hash of: the same for numerals of one value. -/
def acceptanceText (offerId : UUID) (quantity price : Decimal) (ownOrderId : Option UUID) : String :=
  uuidText offerId ++ "|" ++ quantity.normalize.str ++ "|" ++ price.normalize.str ++ "|" ++
    (ownOrderId.map uuidText).getD "None"

/-- `body_hash`. -/
def bodyHashOf (engines : Engines) (offerId : UUID) (quantity : QuantityInput) (price : PriceInput)
    (ownOrderId : Option UUID) : String :=
  engines.sha256 (acceptanceText offerId quantity.value price.value ownOrderId)

def oppositeSide (side : OrderSide) : OrderSide := if side = .sell then .buy else .sell

/-- The order that takes the offer: the one named, or a new one. -/
def acceptingOrder (engines : Engines) (user : User) (offer : Order) (quantity : QuantityInput)
    (price : PriceInput) (ownOrderId : Option UUID) : Call Order :=
  match ownOrderId with
  | some ownOrderId => do
      let own ← Work.read (orderOf ownOrderId)
      let own ← orHttp (own.filter fun order => order.userId = user.id) 404
        "Your order was not found."
      require (own.status.isActive && own.side = oppositeSide offer.side &&
          own.deliveryStart = offer.deliveryStart && quantity.toRat ≤ own.remainingKwh) 409
        "Your order must have enough energy in the same delivery slot and opposite direction."
      pure own
  | none =>
      placeOrder engines user offer.deliveryStart (oppositeSide offer.side) quantity price false

/-- The first trade of a clearing, where it was committed. -/
def firstCommitted (trades : List Trade) : Option Trade :=
  trades.head?.filter fun trade => trade.status = .committed

/-- The answer to a request that was made before. -/
def repeated (previous : MarketplaceAction) (bodyHash : String) : Call Trade := do
  require (previous.bodyHash = bodyHash) 409 "This request ID was already used for another trade."
  let trade ← Work.read fun db => db.trades.find? fun trade => trade.id = previous.tradeId
  match trade with
  | some trade => pure trade
  | none => Work.raise (.engine "AssertionError")

/-- `accept_offer`. -/
def acceptOffer (engines : Engines) (user : User) (offerId : UUID) (quantity : QuantityInput)
    (price : PriceInput) (requestId : UUID) (ownOrderId : Option UUID) : Call Trade := do
  let sim ← state
  let bodyHash := bodyHashOf engines offerId quantity price ownOrderId
  let previous ← Work.read fun db =>
    db.actions.find? fun action => action.userId = user.id && action.requestId = requestId
  match previous with
  | some previous => repeated previous bodyHash
  | none => do
      let offer ← Work.read (orderOf offerId)
      let offer ← orHttp (offer.filter fun order =>
          order.status.isActive && sim.clock < order.deliveryStart) 409
        "This offer is no longer available. Refresh the marketplace."
      require (offer.userId ≠ user.id) 409 "Choose another household's offer."
      require (quantity.toRat ≤ offer.remainingKwh) 409
        ("Only " ++ fourPlaces offer.remainingKwh ++ " kWh is still available.")
      let own ← acceptingOrder engines user offer quantity price ownOrderId
      let trades ← clearMarket engines (some [own.id, offer.id]) (some quantity.toRat) false
      let trade ← orHttp (firstCommitted trades) 409
        ("Unable to match within both price limits and grid capacity. Try a different limit " ++
          "or delivery slot.")
      Work.execute (Relations.actions.insert ⟨user.id, requestId, bodyHash, trade.id⟩)
      Work.commit
      pure trade

end UrjaSetu.Services.WorkspaceService
