import UrjaSetu.Domain.Enums
import UrjaSetu.Library.Rounding

/-!
The market clearing contract of `app/domain/interfaces/market.py`: the plain
order book handed to a matching engine and the result it hands back, with the
vocabulary in which the engine's guarantees are stated.

Decimals are their exact rational values. What an order's row can hold is
`OrderBookEntry.Stored`, and that no difference or midpoint of a stored book has
more digits than the decimal context keeps is shown in
`Domain.Policies.MatchingDecimals`.
-/

namespace UrjaSetu.Domain.Interfaces

open UrjaSetu.Domain UrjaSetu.Library.Rounding

/-- A value of a `NUMERIC(precision, scale)` column. -/
structure Numeric (precision scale : ℕ) (value : ℚ) : Prop where
  onGrid : OnGrid scale value
  width : |value| < 10 ^ (precision - scale)

/-- One order, reduced to what matching needs. -/
structure OrderBookEntry where
  orderId : UUID
  side : OrderSide
  userId : UUID
  siteId : UUID
  remainingKwh : ℚ
  deliveryStart : Instant
  deliveryEnd : Instant
  createdAt : Instant
  nodeId : Option UUID := none
  maxPriceInrPerKwh : Option ℚ := none
  minPriceInrPerKwh : Option ℚ := none
deriving DecidableEq, Repr

namespace OrderBookEntry

/-- The price bound that applies to this order's side. -/
def limitPrice (entry : OrderBookEntry) : Option ℚ :=
  if entry.side = .buy then entry.maxPriceInrPerKwh else entry.minPriceInrPerKwh

/-- The figures of an order are values of their columns. -/
structure Stored (entry : OrderBookEntry) : Prop where
  remaining : Numeric 14 4 entry.remainingKwh
  maxPrice : ∀ price, entry.maxPriceInrPerKwh = some price → Numeric 12 4 price
  minPrice : ∀ price, entry.minPriceInrPerKwh = some price → Numeric 12 4 price

/-- `instant` lies in the half-open delivery window. -/
def Delivers (entry : OrderBookEntry) (instant : Instant) : Prop :=
  entry.deliveryStart ≤ instant ∧ instant < entry.deliveryEnd

end OrderBookEntry

/-- The matchable state of one market session at a moment in time. -/
structure OrderBook where
  marketSessionId : UUID
  marketDate : ℤ
  marketType : MarketType
  buys : List OrderBookEntry := []
  sells : List OrderBookEntry := []
deriving DecidableEq, Repr

namespace OrderBook

def isEmpty (book : OrderBook) : Bool := book.buys.isEmpty || book.sells.isEmpty

/-- Every entry comes from a stored order. -/
structure Stored (book : OrderBook) : Prop where
  buys : ∀ buy ∈ book.buys, buy.Stored
  sells : ∀ sell ∈ book.sells, sell.Stored

/-- No two entries of the book carry the same order id. -/
def DistinctIds (book : OrderBook) : Prop :=
  ((book.buys ++ book.sells).map OrderBookEntry.orderId).Nodup

instance (book : OrderBook) : Decidable book.DistinctIds := by
  unfold DistinctIds
  infer_instance

theorem DistinctIds.buys {book : OrderBook} (distinct : book.DistinctIds) :
    (book.buys.map OrderBookEntry.orderId).Nodup := by
  unfold DistinctIds at distinct
  rw [List.map_append] at distinct
  exact List.Nodup.of_append_left distinct

theorem DistinctIds.sells {book : OrderBook} (distinct : book.DistinctIds) :
    (book.sells.map OrderBookEntry.orderId).Nodup := by
  unfold DistinctIds at distinct
  rw [List.map_append] at distinct
  exact List.Nodup.of_append_right distinct

end OrderBook

/-- Everything an engine needs to clear a session. -/
structure MatchingRequest where
  orderBook : OrderBook
  clearedAt : Instant
deriving DecidableEq, Repr

/-- One candidate pairing produced by an engine. -/
structure ProposedTrade where
  buyOrderId : UUID
  sellOrderId : UUID
  quantityKwh : ℚ
  clearingPriceInrPerKwh : ℚ
  deliveryStart : Instant
  deliveryEnd : Instant
deriving DecidableEq, Repr

/-- What an engine returns. -/
structure MatchingResult where
  engine : String
  engineVersion : String
  trades : List ProposedTrade := []
  unmatchedBuyOrderIds : List UUID := []
  unmatchedSellOrderIds : List UUID := []
deriving DecidableEq, Repr

/-! ## Vocabulary of the guarantees -/

/-- What `trades` take from the buy order `orderId`. -/
def boughtKwh (trades : List ProposedTrade) (orderId : UUID) : ℚ :=
  ((trades.filter fun trade => trade.buyOrderId = orderId).map ProposedTrade.quantityKwh).sum

/-- What `trades` take from the sell order `orderId`. -/
def soldKwh (trades : List ProposedTrade) (orderId : UUID) : ℚ :=
  ((trades.filter fun trade => trade.sellOrderId = orderId).map ProposedTrade.quantityKwh).sum

/-- What is left of a buy entry after `trades`. -/
def residualBuyKwh (trades : List ProposedTrade) (buy : OrderBookEntry) : ℚ :=
  buy.remainingKwh - boughtKwh trades buy.orderId

/-- What is left of a sell entry after `trades`. -/
def residualSellKwh (trades : List ProposedTrade) (sell : OrderBookEntry) : ℚ :=
  sell.remainingKwh - soldKwh trades sell.orderId

/-- Two entries that could trade with each other: different users, prices that
cross, and a shared instant of delivery. -/
structure Compatible (buy sell : OrderBookEntry) : Prop where
  users : buy.userId ≠ sell.userId
  prices : ∃ ceiling floor, buy.maxPriceInrPerKwh = some ceiling ∧
    sell.minPriceInrPerKwh = some floor ∧ floor ≤ ceiling
  windows : ∃ instant, buy.Delivers instant ∧ sell.Delivers instant

end UrjaSetu.Domain.Interfaces
