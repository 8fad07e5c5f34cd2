import UrjaSetu.Domain.Policies.ClearingPrice
import UrjaSetu.Library.GreedyFill
import UrjaSetu.Library.Sorting

/-!
The baseline matching engine of `app/domain/policies/market_matching.py`.

`matchRequest` is the source's `match`: filter and sort both sides, then visit
every sell for every buy while the dictionaries `rem_buys` and `rem_sells` run
down. `matchRequest_refines` says that this nested loop, with its skips and its
early exit, is the greedy filling of the compatible pairs in visiting order, and
that it never raises.

The loop is written for any rounding of its differences and midpoints. In
`matchRequest` they are exact.

Does not own: the guarantees drawn from that (see `MatchingGuarantees`), and that
the rounding of the decimal context changes nothing on stored orders (see
`MatchingDecimals`).
-/

namespace UrjaSetu.Domain.Policies.MarketMatching

open UrjaSetu.Domain UrjaSetu.Domain.Interfaces
open UrjaSetu.Domain.Policies.ClearingPrice
open UrjaSetu.Library

/-! ## Sort keys -/

abbrev SortKey := ℚ ×ₗ Instant ×ₗ UUID

/-- `(-b.max_price_inr_per_kwh, b.created_at, b.order_id)`. -/
def buyKey (buy : OrderBookEntry) : SortKey :=
  toLex (-(buy.maxPriceInrPerKwh.getD 0), toLex (buy.createdAt, buy.orderId))

/-- `(s.min_price_inr_per_kwh, s.created_at, s.order_id)`. -/
def sellKey (sell : OrderBookEntry) : SortKey :=
  toLex (sell.minPriceInrPerKwh.getD 0, toLex (sell.createdAt, sell.orderId))

/-- Python's stable `sorted(entries, key=key)`. -/
def sortedBy (key : OrderBookEntry → SortKey) (entries : List OrderBookEntry) :
    List OrderBookEntry :=
  sortBy key entries

def validBuys (book : OrderBook) : List OrderBookEntry :=
  book.buys.filter fun b => 0 < b.remainingKwh ∧ b.maxPriceInrPerKwh.isSome

def validSells (book : OrderBook) : List OrderBookEntry :=
  book.sells.filter fun s => 0 < s.remainingKwh ∧ s.minPriceInrPerKwh.isSome

def sortedBuys (book : OrderBook) : List OrderBookEntry := sortedBy buyKey (validBuys book)

def sortedSells (book : OrderBook) : List OrderBookEntry := sortedBy sellKey (validSells book)

/-! ## The matching loop -/

/-- A `dict[UUID, Decimal]` of remaining quantities. -/
abbrev Remaining := UUID → Option ℚ

/-- `{e.order_id: e.remaining_kwh for e in entries}`. -/
def remainingOf (entries : List OrderBookEntry) : Remaining :=
  entries.foldl (fun rem e => Function.update rem e.orderId (some e.remainingKwh)) fun _ => none

/-- `rem[order_id]`; the loop only reads ids it put there. -/
def Remaining.get (rem : Remaining) (orderId : UUID) : ℚ := (rem orderId).getD 0

/-- `rem[order_id] -= quantity`. -/
def Remaining.subtract (round : ℚ → ℚ) (rem : Remaining) (orderId : UUID) (quantity : ℚ) :
    Remaining :=
  Function.update rem orderId (some (round (rem.get orderId - quantity)))

structure MatchState where
  remBuys : Remaining
  remSells : Remaining
  trades : List ProposedTrade

/-- What the loop could raise: a price cross error, or one of its two asserts. -/
inductive MatchError where
  | priceCross (error : PriceCrossError)
  | assertion
deriving DecidableEq, Repr

/-- The body of the inner loop up to the trade; `none` is a `continue`. -/
def proposeTrade (round : ℚ → ℚ) (state : MatchState) (buy sell : OrderBookEntry) :
    Except MatchError (Option ProposedTrade) :=
  if sell.userId = buy.userId then .ok none
  else if state.remSells.get sell.orderId ≤ 0 then .ok none
  else if ¬ pricesCross buy.maxPriceInrPerKwh sell.minPriceInrPerKwh then .ok none
  else
    let overlapStart := max buy.deliveryStart sell.deliveryStart
    let overlapEnd := min buy.deliveryEnd sell.deliveryEnd
    if overlapEnd ≤ overlapStart then .ok none
    else
      let tradeQty := min (state.remBuys.get buy.orderId) (state.remSells.get sell.orderId)
      if tradeQty ≤ 0 then .ok none
      else
        match buy.maxPriceInrPerKwh, sell.minPriceInrPerKwh with
        | some buyMax, some sellMin =>
            match midpointClearingPrice round buyMax sellMin with
            | .error error => .error (.priceCross error)
            | .ok clearingPrice =>
                .ok (some
                  { buyOrderId := buy.orderId
                    sellOrderId := sell.orderId
                    quantityKwh := tradeQty
                    clearingPriceInrPerKwh := clearingPrice
                    deliveryStart := overlapStart
                    deliveryEnd := overlapEnd })
        | _, _ => .error .assertion

/-- Append the trade and run both residuals down by its quantity. -/
def MatchState.record (round : ℚ → ℚ) (state : MatchState) (trade : ProposedTrade) :
    MatchState where
  remBuys := state.remBuys.subtract round trade.buyOrderId trade.quantityKwh
  remSells := state.remSells.subtract round trade.sellOrderId trade.quantityKwh
  trades := state.trades ++ [trade]

/-- The inner loop: `for sell in sorted_sells`, left once the buy is filled. -/
def visitSells (round : ℚ → ℚ) (buy : OrderBookEntry) :
    List OrderBookEntry → MatchState → Except MatchError MatchState
  | [], state => .ok state
  | sell :: rest, state =>
      match proposeTrade round state buy sell with
      | .error error => .error error
      | .ok none => visitSells round buy rest state
      | .ok (some trade) =>
          let state := state.record round trade
          if state.remBuys.get buy.orderId ≤ 0 then .ok state
          else visitSells round buy rest state

/-- The outer loop: `for buy in sorted_buys`. -/
def visitBuys (round : ℚ → ℚ) (sells : List OrderBookEntry) :
    List OrderBookEntry → MatchState → Except MatchError MatchState
  | [], state => .ok state
  | buy :: rest, state =>
      if state.remBuys.get buy.orderId ≤ 0 then visitBuys round sells rest state
      else
        match visitSells round buy sells state with
        | .error error => .error error
        | .ok state => visitBuys round sells rest state

/-- `BaselineMatchingEngine`, with the defaults of its constructor. -/
structure BaselineMatchingEngine where
  name : String := "baseline_double_auction"
  engineVersion : String := "0.1.0"
deriving DecidableEq, Repr

def openingState (book : OrderBook) : MatchState where
  remBuys := remainingOf (sortedBuys book)
  remSells := remainingOf (sortedSells book)
  trades := []

/-- The ids of `entries` whose residual, or remaining quantity when they never
entered the dictionary, is positive. -/
def unmatchedIds (rem : Remaining) (entries : List OrderBookEntry) : List UUID :=
  (entries.filter fun e => 0 < (rem e.orderId).getD e.remainingKwh).map OrderBookEntry.orderId

/-- `match`, where differences and midpoints are rounded by `round`. -/
def BaselineMatchingEngine.matchIn (round : ℚ → ℚ) (engine : BaselineMatchingEngine)
    (request : MatchingRequest) : Except MatchError MatchingResult :=
  let book := request.orderBook
  if book.isEmpty then
    .ok
      { engine := engine.name
        engineVersion := engine.engineVersion
        trades := []
        unmatchedBuyOrderIds := book.buys.map OrderBookEntry.orderId
        unmatchedSellOrderIds := book.sells.map OrderBookEntry.orderId }
  else
    match visitBuys round (sortedSells book) (sortedBuys book) (openingState book) with
    | .error error => .error error
    | .ok state =>
        .ok
          { engine := engine.name
            engineVersion := engine.engineVersion
            trades := state.trades
            unmatchedBuyOrderIds := unmatchedIds state.remBuys book.buys
            unmatchedSellOrderIds := unmatchedIds state.remSells book.sells }

/-- Pair buyers with sellers deterministically from the order book. -/
def BaselineMatchingEngine.matchRequest (engine : BaselineMatchingEngine)
    (request : MatchingRequest) : Except MatchError MatchingResult := engine.matchIn id request

/-! ## Compatibility as the loop tests it -/

theorem windows_overlap_iff (buy sell : OrderBookEntry) :
    (∃ instant, buy.Delivers instant ∧ sell.Delivers instant) ↔
      max buy.deliveryStart sell.deliveryStart < min buy.deliveryEnd sell.deliveryEnd := by
  constructor
  · rintro ⟨instant, ⟨buyStarts, buyEnds⟩, sellStarts, sellEnds⟩
    exact lt_of_le_of_lt (max_le buyStarts sellStarts) (lt_min buyEnds sellEnds)
  · intro nonempty
    refine ⟨max buy.deliveryStart sell.deliveryStart, ⟨le_max_left _ _, ?_⟩, le_max_right _ _, ?_⟩
    · exact nonempty.trans_le (min_le_left _ _)
    · exact nonempty.trans_le (min_le_right _ _)

private theorem compatible_iff (buy sell : OrderBookEntry) :
    Compatible buy sell ↔ buy.userId ≠ sell.userId ∧
      pricesCross buy.maxPriceInrPerKwh sell.minPriceInrPerKwh = true ∧
      max buy.deliveryStart sell.deliveryStart < min buy.deliveryEnd sell.deliveryEnd := by
  rw [pricesCross_iff, ← windows_overlap_iff]
  exact ⟨fun both => ⟨both.users, both.prices, both.windows⟩,
    fun ⟨users, prices, windows⟩ => ⟨users, prices, windows⟩⟩

instance (buy sell : OrderBookEntry) : Decidable (Compatible buy sell) :=
  decidable_of_iff _ (compatible_iff buy sell).symm

/-- A proposed trade is of the pair, and of the smaller residual, which is positive. -/
theorem proposeTrade_eq_some {round : ℚ → ℚ} {state : MatchState} {buy sell : OrderBookEntry}
    {trade : ProposedTrade} (proposed : proposeTrade round state buy sell = .ok (some trade)) :
    trade.buyOrderId = buy.orderId ∧ trade.sellOrderId = sell.orderId ∧
      0 < trade.quantityKwh ∧
      trade.quantityKwh = min (state.remBuys.get buy.orderId) (state.remSells.get sell.orderId) := by
  unfold proposeTrade at proposed
  dsimp only at proposed
  split_ifs at proposed with sameUser noSupply crosses noOverlap nothing
  iterate 4 cases proposed
  · split at proposed
    · split at proposed
      · cases proposed
      · cases proposed
        exact ⟨rfl, rfl, not_le.mp nothing, rfl⟩
    · cases proposed
  · cases proposed

/-! ## The pairs the loop serves -/

abbrev Pair := OrderBookEntry × OrderBookEntry

/-- A pair draws on the residuals of its two order ids. -/
def orderAccounts : GreedyFill.Accounts Pair UUID UUID where
  buyer pair := pair.1.orderId
  seller pair := pair.2.orderId

/-- The trade the loop builds when it moves `fill.amount` for a pair. -/
def tradeOf (fill : GreedyFill.Fill Pair ℚ) : ProposedTrade where
  buyOrderId := fill.ticket.1.orderId
  sellOrderId := fill.ticket.2.orderId
  quantityKwh := fill.amount
  clearingPriceInrPerKwh := quantizePrice
    ((fill.ticket.1.maxPriceInrPerKwh.getD 0 + fill.ticket.2.minPriceInrPerKwh.getD 0) / 2)
  deliveryStart := max fill.ticket.1.deliveryStart fill.ticket.2.deliveryStart
  deliveryEnd := min fill.ticket.1.deliveryEnd fill.ticket.2.deliveryEnd

/-- The compatible pairs of one buy, in the order of the inner loop. -/
def pairsOf (buy : OrderBookEntry) (sells : List OrderBookEntry) : List Pair :=
  (sells.filter fun sell => Compatible buy sell).map (buy, ·)

private theorem pairsOf_buyer (buy : OrderBookEntry) (sells : List OrderBookEntry) :
    ∀ pair ∈ pairsOf buy sells, orderAccounts.buyer pair = buy.orderId := by
  intro pair member
  simp only [pairsOf, List.mem_map] at member
  obtain ⟨sell, _, rfl⟩ := member
  rfl

/-- All compatible pairs, in the order of the two loops. -/
def pairs (buys sells : List OrderBookEntry) : List Pair :=
  buys.flatMap (pairsOf · sells)

/-- The loop state and the greedy position agree. -/
structure Simulates (state : MatchState) (position : GreedyFill.Position Pair UUID UUID ℚ) :
    Prop where
  demand : ∀ orderId, state.remBuys.get orderId = position.demand orderId
  supply : ∀ orderId, state.remSells.get orderId = position.supply orderId
  trades : state.trades = position.fills.map tradeOf

theorem Remaining.get_subtract (rem : Remaining) (orderId other : UUID) (quantity : ℚ) :
    (rem.subtract id orderId quantity).get other =
      Function.update (fun held => rem.get held) orderId (rem.get orderId - quantity) other := by
  unfold Remaining.subtract
  by_cases same : other = orderId
  · subst same
    simp [Remaining.get]
  · simp [Remaining.get, same]

variable {state : MatchState} {position : GreedyFill.Position Pair UUID UUID ℚ}

private theorem proposeTrade_of_incompatible (buy sell : OrderBookEntry)
    (incompatible : ¬ Compatible buy sell) : proposeTrade id state buy sell = .ok none := by
  rw [compatible_iff, not_and_or, not_and_or, not_not, not_lt] at incompatible
  unfold proposeTrade
  rcases incompatible with sameUser | noCross | noOverlap
  · rw [if_pos sameUser.symm]
  · rw [if_pos noCross]
    split_ifs <;> rfl
  · simp only [noOverlap, if_true]
    split_ifs <;> rfl

/-- The inner body on a compatible pair: a trade of the smaller residual, unless
that is not positive. -/
theorem proposeTrade_of_compatible (simulates : Simulates state position) (buy sell : OrderBookEntry)
    (compatible : Compatible buy sell) :
    proposeTrade id state buy sell = .ok
      (if 0 < GreedyFill.available orderAccounts position (buy, sell) then
        some (tradeOf ⟨(buy, sell), GreedyFill.available orderAccounts position (buy, sell)⟩)
      else none) := by
  obtain ⟨ceiling, floor, buyMax, sellMin, cross⟩ := compatible.prices
  have crosses : pricesCross buy.maxPriceInrPerKwh sell.minPriceInrPerKwh = true :=
    pricesCross_iff.mpr compatible.prices
  have overlap := (windows_overlap_iff buy sell).mp compatible.windows
  have quantity : min (state.remBuys.get buy.orderId) (state.remSells.get sell.orderId) =
      GreedyFill.available orderAccounts position (buy, sell) := by
    rw [simulates.demand, simulates.supply]
    rfl
  unfold proposeTrade
  rw [if_neg compatible.users.symm]
  simp only [crosses, not_true_eq_false, if_false, quantity, if_neg overlap.not_ge]
  by_cases positive : 0 < GreedyFill.available orderAccounts position (buy, sell)
  · have supplyLeft : 0 < state.remSells.get sell.orderId :=
      (lt_min_iff.mp (quantity ▸ positive)).2
    rw [if_neg supplyLeft.not_ge, if_neg positive.not_ge, if_pos positive]
    simp only [buyMax, sellMin, midpointClearingPrice, if_neg cross.not_gt, id_eq]
    simp [tradeOf, buyMax, sellMin]
  · rw [if_neg positive, if_pos (not_lt.mp positive), ite_self]

/-- Recording a trade is serving its pair. -/
theorem Simulates.record (simulates : Simulates state position) (pair : Pair) (amount : ℚ) :
    Simulates (state.record id (tradeOf ⟨pair, amount⟩))
      (GreedyFill.record orderAccounts position pair amount) where
  demand := by
    intro orderId
    have demandEq : (fun id => state.remBuys.get id) = position.demand := funext simulates.demand
    change (state.remBuys.subtract id pair.1.orderId amount).get orderId = _
    rw [Remaining.get_subtract, demandEq, simulates.demand]
    rfl
  supply := by
    intro orderId
    have supplyEq : (fun id => state.remSells.get id) = position.supply := funext simulates.supply
    change (state.remSells.subtract id pair.2.orderId amount).get orderId = _
    rw [Remaining.get_subtract, supplyEq, simulates.supply]
    rfl
  trades := by
    simp [MatchState.record, GreedyFill.record, simulates.trades]

/-- The inner loop serves the compatible pairs of its buy. The early exit is
sound because a filled buy has nothing left for any later pair. -/
theorem visitSells_refines (simulates : Simulates state position) (buy : OrderBookEntry)
    (sells : List OrderBookEntry) :
    ∃ next, visitSells id buy sells state = .ok next ∧
      Simulates next (GreedyFill.run orderAccounts position (pairsOf buy sells)) := by
  induction sells generalizing state position with
  | nil => exact ⟨state, rfl, simulates⟩
  | cons sell rest inductionHypothesis =>
      by_cases compatible : Compatible buy sell
      · have proposed := proposeTrade_of_compatible simulates buy sell compatible
        have visited : pairsOf buy (sell :: rest) = (buy, sell) :: pairsOf buy rest := by
          simp [pairsOf, compatible]
        rw [visitSells, proposed, visited, GreedyFill.run_cons]
        by_cases positive : 0 < GreedyFill.available orderAccounts position (buy, sell)
        · have recorded := simulates.record (buy, sell)
            (GreedyFill.available orderAccounts position (buy, sell))
          rw [if_pos positive, GreedyFill.serve, if_pos positive]
          dsimp only
          by_cases filled : (state.record id (tradeOf ⟨(buy, sell),
              GreedyFill.available orderAccounts position (buy, sell)⟩)).remBuys.get buy.orderId ≤ 0
          · rw [if_pos filled, GreedyFill.run_of_buyer_exhausted buy.orderId (pairsOf_buyer buy rest)]
            · exact ⟨_, rfl, recorded⟩
            · rw [← recorded.demand]
              exact filled
          · rw [if_neg filled]
            exact inductionHypothesis recorded
        · rw [if_neg positive, GreedyFill.serve, if_neg positive]
          exact inductionHypothesis simulates
      · have skipped : pairsOf buy (sell :: rest) = pairsOf buy rest := by
          simp [pairsOf, compatible]
        rw [visitSells, proposeTrade_of_incompatible buy sell compatible, skipped]
        exact inductionHypothesis simulates

theorem visitBuys_refines (simulates : Simulates state position) (buys sells : List OrderBookEntry) :
    ∃ next, visitBuys id sells buys state = .ok next ∧
      Simulates next (GreedyFill.run orderAccounts position (pairs buys sells)) := by
  induction buys generalizing state position with
  | nil => exact ⟨state, rfl, simulates⟩
  | cons buy rest inductionHypothesis =>
      have visited : pairs (buy :: rest) sells = pairsOf buy sells ++ pairs rest sells := rfl
      rw [visitBuys, visited, GreedyFill.run_append]
      by_cases filled : state.remBuys.get buy.orderId ≤ 0
      · have exhausted : position.demand buy.orderId ≤ 0 := by
          rw [← simulates.demand]
          exact filled
        rw [if_pos filled,
          GreedyFill.run_of_buyer_exhausted buy.orderId (pairsOf_buyer buy sells) exhausted]
        exact inductionHypothesis simulates
      · obtain ⟨inner, innerEq, innerSimulates⟩ := visitSells_refines simulates buy sells
        rw [if_neg filled, innerEq]
        exact inductionHypothesis innerSimulates

/-! ## The engine as a greedy run -/

/-- The position before the loop. -/
def opening (book : OrderBook) : GreedyFill.Position Pair UUID UUID ℚ where
  demand := (remainingOf (sortedBuys book)).get
  supply := (remainingOf (sortedSells book)).get
  fills := []

def bookPairs (book : OrderBook) : List Pair := pairs (sortedBuys book) (sortedSells book)

/-- The position after serving every compatible pair of the book. -/
def clearing (book : OrderBook) : GreedyFill.Position Pair UUID UUID ℚ :=
  GreedyFill.run orderAccounts (opening book) (bookPairs book)

private theorem bookPairs_of_isEmpty (book : OrderBook) (empty : book.isEmpty = true) :
    bookPairs book = [] := by
  rw [OrderBook.isEmpty, Bool.or_eq_true, List.isEmpty_iff, List.isEmpty_iff] at empty
  rcases empty with noBuys | noSells
  · simp [bookPairs, pairs, sortedBuys, sortedBy, validBuys, noBuys]
  · simp [bookPairs, pairs, pairsOf, sortedSells, sortedBy, validSells, noSells]

/-- The engine never raises, and its trades are the fills of the greedy run. -/
theorem matchRequest_refines (engine : BaselineMatchingEngine) (request : MatchingRequest) :
    ∃ result, engine.matchRequest request = .ok result ∧
      result.trades = (clearing request.orderBook).fills.map tradeOf := by
  unfold BaselineMatchingEngine.matchRequest BaselineMatchingEngine.matchIn
  by_cases empty : request.orderBook.isEmpty = true
  · refine ⟨_, by rw [if_pos empty], ?_⟩
    rw [clearing, bookPairs_of_isEmpty _ empty]
    rfl
  · have opened : Simulates (openingState request.orderBook) (opening request.orderBook) :=
      ⟨fun _ => rfl, fun _ => rfl, rfl⟩
    obtain ⟨state, stateEq, simulates⟩ :=
      visitBuys_refines opened (sortedBuys request.orderBook) (sortedSells request.orderBook)
    refine ⟨_, by rw [if_neg empty, stateEq], ?_⟩
    exact simulates.trades

end UrjaSetu.Domain.Policies.MarketMatching
