import UrjaSetu.Core.Errors
import UrjaSetu.Library.Dict
import UrjaSetu.Library.Exceptions
import UrjaSetu.Domain.Policies.MatchingGuarantees

/-!
The boundary check of `app/services/market_service.py` on a matching result.

Owns: `_validate_result`, when it accepts, and that it accepts every result of
the baseline engine on a book of storable entries.
-/

namespace UrjaSetu.Services.MarketService

open UrjaSetu.Core UrjaSetu.Domain UrjaSetu.Domain.Interfaces UrjaSetu.Library
open UrjaSetu.Domain.Policies.ClearingPrice UrjaSetu.Domain.Policies.MarketMatching
open UrjaSetu.Domain.Policies.MatchingGuarantees
open UrjaSetu.Library.Rounding

/-- An engine failed, or returned a result the contract does not allow. -/
def matchingEngineError (message : String) (details : List (String × DetailValue)) :
    UrjaSetuError :=
  unprocessableError "MATCHING_ENGINE_FAILED" message details

/-! ## The check -/

/-- `known`: the entries of both sides by order id. -/
def knownEntries (book : OrderBook) : Dict UUID OrderBookEntry :=
  Dict.ofItems OrderBookEntry.orderId id (book.buys ++ book.sells)

/-- `committed`: what the trades read so far take from each order. -/
abbrev Committed := Dict UUID ℚ

/-- `committed.get(order_id, ZERO)`. -/
def committedKwh (committed : Committed) (orderId : UUID) : ℚ := (committed.get? orderId).getD 0

/-- One of the two orders a trade names: it must be in the book and on the side
the trade puts it on. -/
def checkSide (engine : String) (known : Dict UUID OrderBookEntry) (orderId : UUID)
    (expectedSide : OrderSide) (quantityKwh : ℚ) (committed : Committed) :
    Except UrjaSetuError Committed :=
  match known.get? orderId with
  | none =>
      .error (matchingEngineError "Engine proposed a trade referencing an order outside the book."
        [("engine", .text engine), ("order_id", .uuid orderId)])
  | some entry =>
      if entry.side ≠ expectedSide then
        .error (matchingEngineError "Engine paired an order on the wrong side of the trade."
          [("engine", .text engine), ("order_id", .uuid orderId)])
      else
        .ok (committed.set orderId (committedKwh committed orderId + quantityKwh))

/-- The checks of a trade on its own. -/
def checkTradeShape (engine : String) (trade : ProposedTrade) : Except UrjaSetuError Unit :=
  if trade.quantityKwh ≤ 0 then
    .error (matchingEngineError "Engine proposed a non-positive trade quantity."
      [("engine", .text engine), ("quantity_kwh", .decimal trade.quantityKwh)])
  else if trade.clearingPriceInrPerKwh < 0 then
    .error (matchingEngineError "Engine proposed a negative clearing price."
      [("engine", .text engine)])
  else if trade.deliveryEnd ≤ trade.deliveryStart then
    .error (matchingEngineError "Engine proposed a trade whose delivery window is empty."
      [("engine", .text engine)])
  else .ok ()

/-- The body of the loop over the trades. -/
def checkTrade (engine : String) (known : Dict UUID OrderBookEntry) (committed : Committed)
    (trade : ProposedTrade) : Except UrjaSetuError Committed := do
  let committed ← checkSide engine known trade.buyOrderId .buy trade.quantityKwh committed
  let committed ← checkSide engine known trade.sellOrderId .sell trade.quantityKwh committed
  checkTradeShape engine trade
  return committed

/-- The body of the loop over `committed.items()`; its keys are known. -/
def checkTotal (engine : String) (known : Dict UUID OrderBookEntry) (item : UUID × ℚ) :
    Except UrjaSetuError Unit :=
  let remaining := ((known.get? item.1).map OrderBookEntry.remainingKwh).getD 0
  if remaining < item.2 then
    .error (matchingEngineError "Engine over-filled an order beyond its remaining energy."
      [("engine", .text engine), ("order_id", .uuid item.1), ("committed_kwh", .decimal item.2),
        ("remaining_kwh", .decimal remaining)])
  else .ok ()

/-- Check an engine's output before trusting it. -/
def validateResult (result : MatchingResult) (book : OrderBook) (engine : String) :
    Except UrjaSetuError Unit := do
  let known := knownEntries book
  let committed ← result.trades.foldlM (checkTrade engine known) Dict.empty
  forM committed.entries (checkTotal engine known)

/-! ## What it accepts -/

/-- What `trades` take from the order `orderId`, on either side. -/
def takenKwh (trades : List ProposedTrade) (orderId : UUID) : ℚ :=
  boughtKwh trades orderId + soldKwh trades orderId

/-- A trade the loop passes: both orders known on their sides, and a sound
quantity, price and window. -/
structure Acceptable (known : Dict UUID OrderBookEntry) (trade : ProposedTrade) : Prop where
  buy : ∃ entry, known.get? trade.buyOrderId = some entry ∧ entry.side = .buy
  sell : ∃ entry, known.get? trade.sellOrderId = some entry ∧ entry.side = .sell
  quantity : 0 < trade.quantityKwh
  price : 0 ≤ trade.clearingPriceInrPerKwh
  window : trade.deliveryStart < trade.deliveryEnd

private theorem committedKwh_set (committed : Committed) (orderId other : UUID) (total : ℚ) :
    committedKwh (committed.set orderId total) other =
      if other = orderId then total else committedKwh committed other := by
  unfold committedKwh
  rw [Dict.get?_set]
  split <;> rfl

private theorem checkSide_ok {engine : String} {known : Dict UUID OrderBookEntry} {orderId : UUID}
    {expectedSide : OrderSide} (quantityKwh : ℚ) (committed : Committed) {entry : OrderBookEntry}
    (found : known.get? orderId = some entry) (side : entry.side = expectedSide) :
    checkSide engine known orderId expectedSide quantityKwh committed =
      .ok (committed.set orderId (committedKwh committed orderId + quantityKwh)) := by
  unfold checkSide
  rw [found]
  simp [side]

/-- `committed` after both sides of `trade`. -/
def bookTrade (committed : Committed) (trade : ProposedTrade) : Committed :=
  let bought := committed.set trade.buyOrderId
    (committedKwh committed trade.buyOrderId + trade.quantityKwh)
  bought.set trade.sellOrderId (committedKwh bought trade.sellOrderId + trade.quantityKwh)

private theorem checkTrade_ok {engine : String} {known : Dict UUID OrderBookEntry}
    {trade : ProposedTrade}
    (acceptable : Acceptable known trade) (committed : Committed) :
    checkTrade engine known committed trade = .ok (bookTrade committed trade) := by
  obtain ⟨buyEntry, buyFound, buySide⟩ := acceptable.buy
  obtain ⟨sellEntry, sellFound, sellSide⟩ := acceptable.sell
  have shape : checkTradeShape engine trade = .ok () := by
    unfold checkTradeShape
    rw [if_neg acceptable.quantity.not_ge, if_neg acceptable.price.not_gt,
      if_neg acceptable.window.not_ge]
  unfold checkTrade
  rw [checkSide_ok trade.quantityKwh committed buyFound buySide, ok_bind,
    checkSide_ok trade.quantityKwh _ sellFound sellSide, ok_bind, shape, ok_bind]
  rfl

theorem takenKwh_append (visited : List ProposedTrade) (trade : ProposedTrade) (orderId : UUID) :
    takenKwh (visited ++ [trade]) orderId = takenKwh visited orderId +
      ((if orderId = trade.buyOrderId then trade.quantityKwh else 0) +
        if orderId = trade.sellOrderId then trade.quantityKwh else 0) := by
  have bought : boughtKwh (visited ++ [trade]) orderId = boughtKwh visited orderId +
      if orderId = trade.buyOrderId then trade.quantityKwh else 0 := by
    by_cases same : trade.buyOrderId = orderId <;>
      simp [boughtKwh, List.filter_append, same, eq_comm (a := orderId)]
  have sold : soldKwh (visited ++ [trade]) orderId = soldKwh visited orderId +
      if orderId = trade.sellOrderId then trade.quantityKwh else 0 := by
    by_cases same : trade.sellOrderId = orderId <;>
      simp [soldKwh, List.filter_append, same, eq_comm (a := orderId)]
  rw [takenKwh, takenKwh, bought, sold]
  ring

private theorem committedKwh_bookTrade (committed : Committed) (trade : ProposedTrade)
    (orderId : UUID) :
    committedKwh (bookTrade committed trade) orderId = committedKwh committed orderId +
      ((if orderId = trade.buyOrderId then trade.quantityKwh else 0) +
        if orderId = trade.sellOrderId then trade.quantityKwh else 0) := by
  simp only [bookTrade, committedKwh_set]
  by_cases isSell : orderId = trade.sellOrderId
  · subst isSell
    by_cases isBuy : trade.sellOrderId = trade.buyOrderId
    · rw [if_pos rfl, if_pos isBuy, if_pos isBuy, if_pos rfl, isBuy]
      ring
    · rw [if_pos rfl, if_neg isBuy, if_neg isBuy, if_pos rfl]
      ring
  · by_cases isBuy : orderId = trade.buyOrderId
    · rw [if_neg isSell, if_pos isBuy, if_pos isBuy, if_neg isSell, isBuy]
      ring
    · rw [if_neg isSell, if_neg isBuy, if_neg isBuy, if_neg isSell]
      ring

/-- What holds of `committed` after the trades in `visited`: it has booked what
they take from every order, and only known orders have an entry. -/
structure Booked (known : Dict UUID OrderBookEntry) (visited : List ProposedTrade)
    (committed : Committed) : Prop where
  taken : ∀ orderId, committedKwh committed orderId = takenKwh visited orderId
  known : ∀ orderId total, committed.get? orderId = some total →
    ∃ entry, known.get? orderId = some entry

private theorem Booked.step {known : Dict UUID OrderBookEntry} {visited : List ProposedTrade}
    {committed : Committed} {trade : ProposedTrade} (booked : Booked known visited committed)
    (acceptable : Acceptable known trade) :
    Booked known (visited ++ [trade]) (bookTrade committed trade) where
  taken := by
    intro orderId
    rw [committedKwh_bookTrade, takenKwh_append, booked.taken]
  known := by
    intro orderId total found
    rw [bookTrade, Dict.get?_set, Dict.get?_set] at found
    by_cases isSell : orderId = trade.sellOrderId
    · obtain ⟨entry, entryFound, _⟩ := acceptable.sell
      exact ⟨entry, isSell ▸ entryFound⟩
    · by_cases isBuy : orderId = trade.buyOrderId
      · obtain ⟨entry, entryFound, _⟩ := acceptable.buy
        exact ⟨entry, isBuy ▸ entryFound⟩
      · rw [if_neg isSell, if_neg isBuy] at found
        exact booked.known orderId total found

private theorem checkTrades_ok (engine : String) {known : Dict UUID OrderBookEntry}
    {trades : List ProposedTrade} (acceptable : ∀ trade ∈ trades, Acceptable known trade) :
    ∃ committed, trades.foldlM (checkTrade engine known) Dict.empty = .ok committed ∧
      Booked known trades committed := by
  apply foldlM_ok (Booked known)
  · exact ⟨fun _ => by simp [committedKwh, takenKwh, boughtKwh, soldKwh], fun _ _ found => by
      simp at found⟩
  · intro visited trade committed member booked
    exact ⟨_, checkTrade_ok (acceptable trade member) committed,
      booked.step (acceptable trade member)⟩

/-- A result is accepted when each trade is and no known order is taken beyond
what it had left. -/
theorem validateResult_ok {engine : String} {result : MatchingResult} {book : OrderBook}
    (acceptable : ∀ trade ∈ result.trades, Acceptable (knownEntries book) trade)
    (within : ∀ orderId entry, (knownEntries book).get? orderId = some entry →
      takenKwh result.trades orderId ≤ entry.remainingKwh) :
    validateResult result book engine = .ok () := by
  obtain ⟨committed, committedEq, booked⟩ := checkTrades_ok engine acceptable
  dsimp only [validateResult]
  rw [committedEq, ok_bind]
  apply forM_ok
  rintro ⟨orderId, total⟩ member
  have held : committed.get? orderId = some total := Dict.mem_entries_iff.mp member
  obtain ⟨entry, found⟩ := booked.known orderId total held
  have totalEq : total = takenKwh result.trades orderId := by
    rw [← booked.taken, committedKwh, held]
    rfl
  have enough : total ≤ entry.remainingKwh := totalEq ▸ within orderId entry found
  simp only [checkTotal, found, Option.map_some, Option.getD_some]
  rw [if_neg enough.not_gt]

/-! ## The engine's results pass -/

/-- The order-table constraints, on what an entry carries of the row. -/
structure Storable (entry : OrderBookEntry) : Prop where
  remaining : 0 ≤ entry.remainingKwh
  price : ∃ limit, entry.limitPrice = some limit ∧ 0 ≤ limit ∧ OnGrid pricePlaces limit
  window : entry.deliveryStart < entry.deliveryEnd

/-- A book built from stored orders, each on its own side. -/
structure StorableBook (book : OrderBook) : Prop where
  distinct : book.DistinctIds
  buys : ∀ buy ∈ book.buys, buy.side = .buy ∧ Storable buy
  sells : ∀ sell ∈ book.sells, sell.side = .sell ∧ Storable sell

section

variable {book : OrderBook}

private theorem StorableBook.buyLimit (storable : StorableBook book) {buy : OrderBookEntry}
    (member : buy ∈ book.buys) :
    ∃ limit, buy.maxPriceInrPerKwh = some limit ∧ 0 ≤ limit ∧ OnGrid pricePlaces limit := by
  obtain ⟨side, entry⟩ := storable.buys buy member
  have price := entry.price
  rwa [OrderBookEntry.limitPrice, if_pos side] at price

private theorem StorableBook.sellLimit (storable : StorableBook book) {sell : OrderBookEntry}
    (member : sell ∈ book.sells) :
    ∃ limit, sell.minPriceInrPerKwh = some limit ∧ 0 ≤ limit ∧ OnGrid pricePlaces limit := by
  obtain ⟨side, entry⟩ := storable.sells sell member
  have notBuy : sell.side ≠ .buy := by
    rw [side]
    decide
  have price := entry.price
  rwa [OrderBookEntry.limitPrice, if_neg notBuy] at price

/-- What a trade of the engine promises about the two orders it names. -/
structure SafeTrade (buy sell : OrderBookEntry) (trade : ProposedTrade) : Prop where
  buyOrder : trade.buyOrderId = buy.orderId
  sellOrder : trade.sellOrderId = sell.orderId
  quantity : 0 < trade.quantityKwh
  users : buy.userId ≠ sell.userId
  price : ∃ ceiling floor, buy.maxPriceInrPerKwh = some ceiling ∧
    sell.minPriceInrPerKwh = some floor ∧ floor ≤ trade.clearingPriceInrPerKwh ∧
    trade.clearingPriceInrPerKwh ≤ ceiling
  window : trade.deliveryStart < trade.deliveryEnd
  buyWindow : buy.deliveryStart ≤ trade.deliveryStart ∧ trade.deliveryEnd ≤ buy.deliveryEnd
  sellWindow : sell.deliveryStart ≤ trade.deliveryStart ∧ trade.deliveryEnd ≤ sell.deliveryEnd

private theorem safeTrade_of_fill (storable : StorableBook book) {fill : GreedyFill.Fill Pair ℚ}
    (member : fill ∈ (clearing book).fills) :
    fill.ticket.1 ∈ book.buys ∧ fill.ticket.2 ∈ book.sells ∧
      SafeTrade fill.ticket.1 fill.ticket.2 (tradeOf fill) := by
  obtain ⟨buySorted, sellSorted, compatible⟩ := mem_bookPairs.mp (fill_pair member)
  have buyMember := (mem_sortedBuys.mp buySorted).1
  have sellMember := (mem_sortedSells.mp sellSorted).1
  obtain ⟨ceiling, ceilingEq, _, ceilingStored⟩ := storable.buyLimit buyMember
  obtain ⟨floor, floorEq, _, floorStored⟩ := storable.sellLimit sellMember
  have cross : floor ≤ ceiling := by
    obtain ⟨otherCeiling, otherFloor, otherCeilingEq, otherFloorEq, below⟩ := compatible.prices
    rw [ceilingEq, Option.some_inj] at otherCeilingEq
    rw [floorEq, Option.some_inj] at otherFloorEq
    rwa [otherCeilingEq, otherFloorEq]
  have overlap := (windows_overlap_iff _ _).mp compatible.windows
  refine ⟨buyMember, sellMember, ⟨rfl, rfl, (clearing_fills book).2 fill member,
    compatible.users, ⟨ceiling, floor, ceilingEq, floorEq, ?_⟩, overlap,
    ⟨le_max_left _ _, min_le_left _ _⟩, ⟨le_max_right _ _, min_le_right _ _⟩⟩⟩
  have priced : (tradeOf fill).clearingPriceInrPerKwh = quantizePrice ((ceiling + floor) / 2) := by
    simp [tradeOf, ceilingEq, floorEq]
  rw [priced]
  exact quantizePrice_midpoint_mem ceilingStored floorStored cross

private theorem known_of_buy (storable : StorableBook book) {buy : OrderBookEntry}
    (member : buy ∈ book.buys) : (knownEntries book).get? buy.orderId = some buy :=
  Dict.get?_ofItems storable.distinct (List.mem_append_left _ member)

private theorem known_of_sell (storable : StorableBook book) {sell : OrderBookEntry}
    (member : sell ∈ book.sells) : (knownEntries book).get? sell.orderId = some sell :=
  Dict.get?_ofItems storable.distinct (List.mem_append_right _ member)

private theorem acceptable_of_safe (storable : StorableBook book) {buy sell : OrderBookEntry}
    {trade : ProposedTrade} (buyMember : buy ∈ book.buys) (sellMember : sell ∈ book.sells)
    (safe : SafeTrade buy sell trade) : Acceptable (knownEntries book) trade where
  buy := ⟨buy, safe.buyOrder ▸ known_of_buy storable buyMember, (storable.buys buy buyMember).1⟩
  sell :=
    ⟨sell, safe.sellOrder ▸ known_of_sell storable sellMember, (storable.sells sell sellMember).1⟩
  quantity := safe.quantity
  price := by
    obtain ⟨_, floor, _, floorEq, above, _⟩ := safe.price
    obtain ⟨limit, limitEq, nonneg, _⟩ := storable.sellLimit sellMember
    rw [floorEq, Option.some_inj] at limitEq
    exact (limitEq ▸ nonneg).trans above
  window := safe.window

/-- An order takes part on one side only, so no order is taken beyond what it
had left. -/
theorem takenKwh_le (storable : StorableBook book) {entry : OrderBookEntry}
    (member : entry ∈ book.buys ++ book.sells) :
    takenKwh ((clearing book).fills.map tradeOf) entry.orderId ≤ entry.remainingKwh := by
  have apart : ∀ buy ∈ book.buys, ∀ sell ∈ book.sells, buy.orderId ≠ sell.orderId := by
    have distinct := storable.distinct
    rw [OrderBook.DistinctIds, List.map_append, List.nodup_append] at distinct
    intro buy buyMember sell sellMember
    exact distinct.2.2 _ (List.mem_map_of_mem buyMember) _ (List.mem_map_of_mem sellMember)
  rw [takenKwh]
  rcases List.mem_append.mp member with isBuy | isSell
  · have nothingSold : soldKwh ((clearing book).fills.map tradeOf) entry.orderId = 0 := by
      apply soldKwh_of_absent
      intro trade tradeMember same
      obtain ⟨fill, _, rfl, _, sellSorted, _⟩ := trade_pair tradeMember
      exact apart entry isBuy _ (mem_sortedSells.mp sellSorted).1 same.symm
    rw [nothingSold, add_zero]
    exact boughtKwh_le storable.distinct isBuy (storable.buys entry isBuy).2.remaining
  · have nothingBought : boughtKwh ((clearing book).fills.map tradeOf) entry.orderId = 0 := by
      apply boughtKwh_of_absent
      intro trade tradeMember same
      obtain ⟨fill, _, rfl, buySorted, _, _⟩ := trade_pair tradeMember
      exact apart _ (mem_sortedBuys.mp buySorted).1 entry isSell same
    rw [nothingBought, zero_add]
    exact soldKwh_le storable.distinct isSell (storable.sells entry isSell).2.remaining

private theorem clearing_pairs_nodup (distinct : book.DistinctIds) :
    (((clearing book).fills.map tradeOf).map fun trade =>
      (trade.buyOrderId, trade.sellOrderId)).Nodup := by
  have pairIds : ((clearing book).fills.map tradeOf).map
      (fun trade => (trade.buyOrderId, trade.sellOrderId)) =
      ((clearing book).fills.map GreedyFill.Fill.ticket).map
        fun pair => (pair.1.orderId, pair.2.orderId) := by
    rw [List.map_map, List.map_map]
    rfl
  rw [pairIds]
  exact (bookPairs_ids_nodup distinct).sublist ((clearing_fills book).1.map _)

end

/-- On a book of stored orders the baseline engine returns safe trades, and the
boundary check accepts them. -/
theorem matchRequest_safe (engine : BaselineMatchingEngine) (request : MatchingRequest)
    (storable : StorableBook request.orderBook) :
    ∃ result, engine.matchRequest request = .ok result ∧
      (∀ trade ∈ result.trades, ∃ buy ∈ request.orderBook.buys,
        ∃ sell ∈ request.orderBook.sells, SafeTrade buy sell trade) ∧
      (∀ entry ∈ request.orderBook.buys ++ request.orderBook.sells,
        takenKwh result.trades entry.orderId ≤ entry.remainingKwh) ∧
      (result.trades.map fun trade => (trade.buyOrderId, trade.sellOrderId)).Nodup ∧
      validateResult result request.orderBook engine.name = .ok () := by
  obtain ⟨result, returned, trades⟩ := matchRequest_refines engine request
  have safe : ∀ trade ∈ result.trades, ∃ buy ∈ request.orderBook.buys,
      ∃ sell ∈ request.orderBook.sells, SafeTrade buy sell trade := by
    intro trade member
    rw [trades] at member
    obtain ⟨fill, fillMember, rfl⟩ := List.mem_map.mp member
    obtain ⟨buyMember, sellMember, fillSafe⟩ := safeTrade_of_fill storable fillMember
    exact ⟨_, buyMember, _, sellMember, fillSafe⟩
  have within : ∀ entry ∈ request.orderBook.buys ++ request.orderBook.sells,
      takenKwh result.trades entry.orderId ≤ entry.remainingKwh := by
    rw [trades]
    exact fun entry => takenKwh_le storable
  have pairsNodup : (result.trades.map fun trade =>
      (trade.buyOrderId, trade.sellOrderId)).Nodup := by
    rw [trades]
    exact clearing_pairs_nodup storable.distinct
  refine ⟨result, returned, safe, within, pairsNodup, validateResult_ok ?_ ?_⟩
  · intro trade member
    obtain ⟨buy, buyMember, sell, sellMember, tradeSafe⟩ := safe trade member
    exact acceptable_of_safe storable buyMember sellMember tradeSafe
  · intro orderId entry found
    obtain ⟨member, same⟩ := Dict.mem_of_get?_ofItems found
    exact same ▸ within entry member

private theorem sampleBook_storable : StorableBook sampleBook where
  distinct := by decide +kernel
  buys := by
    intro buy member
    simp only [sampleBook, List.mem_cons, List.not_mem_nil, or_false] at member
    rcases member with rfl | rfl
    · exact ⟨rfl, by norm_num, ⟨6, rfl, by norm_num, by decide +kernel⟩, by norm_num⟩
    · exact ⟨rfl, by norm_num, ⟨9 / 2, rfl, by norm_num, by decide +kernel⟩, by norm_num⟩
  sells := by
    intro sell member
    simp only [sampleBook, List.mem_cons, List.not_mem_nil, or_false] at member
    rcases member with rfl | rfl
    · exact ⟨rfl, by norm_num, ⟨5, rfl, by norm_num, by decide +kernel⟩, by norm_num⟩
    · exact ⟨rfl, by norm_num, ⟨40001 / 10000, rfl, by norm_num, by decide +kernel⟩, by norm_num⟩

theorem matchRequest_safe_sample :
    ∃ result, ({} : BaselineMatchingEngine).matchRequest sampleRequest = .ok result ∧
      (∀ trade ∈ result.trades, ∃ buy ∈ sampleBook.buys, ∃ sell ∈ sampleBook.sells,
        SafeTrade buy sell trade) ∧
      (∀ entry ∈ sampleBook.buys ++ sampleBook.sells,
        takenKwh result.trades entry.orderId ≤ entry.remainingKwh) ∧
      (result.trades.map fun trade => (trade.buyOrderId, trade.sellOrderId)).Nodup ∧
      validateResult result sampleBook "baseline_double_auction" = .ok () :=
  matchRequest_safe {} sampleRequest sampleBook_storable

end UrjaSetu.Services.MarketService
