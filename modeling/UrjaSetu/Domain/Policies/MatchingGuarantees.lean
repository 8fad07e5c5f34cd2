import UrjaSetu.Domain.Policies.MarketMatching

/-!
What the baseline engine guarantees of the trades it returns.

Everything here is read off the greedy run that `matchRequest_refines` names:
conservation of each order's quantity, the pairs that can appear and how often,
maximality of the trade set, and price-time priority on both sides.
-/

namespace UrjaSetu.Domain.Policies.MatchingGuarantees

open UrjaSetu.Domain UrjaSetu.Domain.Interfaces
open UrjaSetu.Domain.Policies.MarketMatching
open UrjaSetu.Library

/-! ## The sorted sides -/

private theorem mem_sortedBy {key : OrderBookEntry → SortKey} {entries : List OrderBookEntry}
    {entry : OrderBookEntry} : entry ∈ sortedBy key entries ↔ entry ∈ entries :=
  mem_sortBy key

private theorem sortedBy_ids_nodup {key : OrderBookEntry → SortKey} {entries : List OrderBookEntry}
    (distinct : (entries.map OrderBookEntry.orderId).Nodup) :
    ((sortedBy key entries).map OrderBookEntry.orderId).Nodup :=
  ((sortBy_perm key entries).map OrderBookEntry.orderId).nodup_iff.mpr distinct

theorem mem_sortedBuys {book : OrderBook} {buy : OrderBookEntry} :
    buy ∈ sortedBuys book ↔
      buy ∈ book.buys ∧ 0 < buy.remainingKwh ∧ buy.maxPriceInrPerKwh.isSome := by
  rw [sortedBuys, mem_sortedBy, validBuys, List.mem_filter, decide_eq_true_iff]

theorem mem_sortedSells {book : OrderBook} {sell : OrderBookEntry} :
    sell ∈ sortedSells book ↔
      sell ∈ book.sells ∧ 0 < sell.remainingKwh ∧ sell.minPriceInrPerKwh.isSome := by
  rw [sortedSells, mem_sortedBy, validSells, List.mem_filter, decide_eq_true_iff]

private theorem sortedBuys_ids_nodup {book : OrderBook} (distinct : book.DistinctIds) :
    ((sortedBuys book).map OrderBookEntry.orderId).Nodup :=
  sortedBy_ids_nodup (distinct.buys.sublist (List.filter_sublist.map _))

private theorem sortedSells_ids_nodup {book : OrderBook} (distinct : book.DistinctIds) :
    ((sortedSells book).map OrderBookEntry.orderId).Nodup :=
  sortedBy_ids_nodup (distinct.sells.sublist (List.filter_sublist.map _))

/-! ## The opening residuals -/

theorem remainingOf_append (entries : List OrderBookEntry) (entry : OrderBookEntry) :
    remainingOf (entries ++ [entry]) =
      Function.update (remainingOf entries) entry.orderId (some entry.remainingKwh) := by
  simp [remainingOf]

/-- What holds of nothing and of every quantity holds of every residual. -/
theorem remainingOf_holds {holds : ℚ → Prop} (zero : holds 0) {entries : List OrderBookEntry}
    (all : ∀ entry ∈ entries, holds entry.remainingKwh) (orderId : UUID) :
    holds ((remainingOf entries).get orderId) := by
  induction entries using List.reverseRecOn with
  | nil => exact zero
  | append_singleton front last inductionHypothesis =>
      rw [remainingOf_append, Remaining.get]
      by_cases own : orderId = last.orderId
      · subst own
        rw [Function.update_self]
        exact all last (by simp)
      · rw [Function.update_of_ne own]
        exact inductionHypothesis fun entry member => all entry (by simp [member])

/-- Under distinct ids the dictionary holds each entry's own quantity. -/
theorem remainingOf_get {entries : List OrderBookEntry}
    (distinct : (entries.map OrderBookEntry.orderId).Nodup) {entry : OrderBookEntry}
    (member : entry ∈ entries) : (remainingOf entries).get entry.orderId = entry.remainingKwh := by
  induction entries using List.reverseRecOn with
  | nil => cases member
  | append_singleton front last inductionHypothesis =>
      rw [List.map_append, List.nodup_append] at distinct
      obtain ⟨frontDistinct, _, apart⟩ := distinct
      rw [remainingOf_append, Remaining.get]
      rcases List.mem_append.mp member with early | final
      · have different : entry.orderId ≠ last.orderId :=
          apart _ (List.mem_map_of_mem early) _ (by simp)
        rw [Function.update_of_ne different]
        exact inductionHypothesis frontDistinct early
      · rw [List.mem_singleton] at final
        subst final
        rw [Function.update_self]
        rfl

private theorem opening_nonneg (book : OrderBook) :
    (∀ orderId, 0 ≤ (opening book).demand orderId) ∧
      ∀ orderId, 0 ≤ (opening book).supply orderId := by
  constructor
  · exact remainingOf_holds le_rfl fun buy member => (mem_sortedBuys.mp member).2.1.le
  · exact remainingOf_holds le_rfl fun sell member => (mem_sortedSells.mp member).2.1.le

/-! ## The pairs that can trade -/

theorem mem_bookPairs {book : OrderBook} {pair : Pair} :
    pair ∈ bookPairs book ↔
      pair.1 ∈ sortedBuys book ∧ pair.2 ∈ sortedSells book ∧ Compatible pair.1 pair.2 := by
  obtain ⟨buy, sell⟩ := pair
  simp only [bookPairs, pairs, pairsOf, List.mem_flatMap, List.mem_map, List.mem_filter,
    decide_eq_true_iff, Prod.mk.injEq]
  constructor
  · rintro ⟨other, otherMember, candidate, ⟨candidateMember, compatible⟩, rfl, rfl⟩
    exact ⟨otherMember, candidateMember, compatible⟩
  · rintro ⟨buyMember, sellMember, compatible⟩
    exact ⟨buy, buyMember, sell, ⟨sellMember, compatible⟩, rfl, rfl⟩

/-- Pairs are visited by buy priority, and for one buy by sell priority. -/
theorem bookPairs_ordered {book : OrderBook} (distinct : book.DistinctIds) :
    (bookPairs book).Pairwise fun earlier later =>
      buyKey earlier.1 ≤ buyKey later.1 ∧
        (earlier.1 = later.1 → sellKey earlier.2 ≤ sellKey later.2) := by
  unfold bookPairs pairs
  rw [List.pairwise_flatMap]
  constructor
  · intro buy _
    rw [pairsOf, List.pairwise_map]
    refine ((sortBy_pairwise sellKey (validSells book)).filter _).imp ?_
    intro earlier later ordered
    exact ⟨le_rfl, fun _ => ordered⟩
  · have apart : (sortedBuys book).Pairwise fun left right => left ≠ right :=
      (sortedBuys_ids_nodup distinct).of_map
    refine ((sortBy_pairwise buyKey (validBuys book)).and apart).imp ?_
    rintro left right ⟨ordered, different⟩ earlier earlierMember later laterMember
    simp only [pairsOf, List.mem_map] at earlierMember laterMember
    obtain ⟨_, _, rfl⟩ := earlierMember
    obtain ⟨_, _, rfl⟩ := laterMember
    exact ⟨ordered, fun same => absurd same different⟩

theorem bookPairs_ids_nodup {book : OrderBook} (distinct : book.DistinctIds) :
    ((bookPairs book).map fun pair => (pair.1.orderId, pair.2.orderId)).Nodup := by
  unfold bookPairs pairs
  rw [List.Nodup, List.pairwise_map, List.pairwise_flatMap]
  constructor
  · intro buy _
    rw [pairsOf, List.pairwise_map]
    have sellsApart := List.pairwise_map.mp (sortedSells_ids_nodup distinct)
    refine (sellsApart.filter _).imp ?_
    intro earlier later different same
    exact different (Prod.ext_iff.mp same).2
  · have buysApart := List.pairwise_map.mp (sortedBuys_ids_nodup distinct)
    refine buysApart.imp ?_
    intro left right different earlier earlierMember later laterMember same
    simp only [pairsOf, List.mem_map] at earlierMember laterMember
    obtain ⟨_, _, rfl⟩ := earlierMember
    obtain ⟨_, _, rfl⟩ := laterMember
    exact different (Prod.ext_iff.mp same).1

/-! ## Fills of the clearing -/

theorem clearing_fills (book : OrderBook) :
    ((clearing book).fills.map GreedyFill.Fill.ticket).Sublist (bookPairs book) ∧
      ∀ fill ∈ (clearing book).fills, 0 < fill.amount := by
  obtain ⟨added, fillsEq, ordered, positive⟩ :=
    @GreedyFill.run_fills _ _ _ _ _ _ _ _ orderAccounts (opening book) (bookPairs book)
  have fromEmpty : (clearing book).fills = added := by
    rw [clearing, fillsEq]
    rfl
  rw [fromEmpty]
  exact ⟨ordered, positive⟩

private theorem clearing_nonneg (book : OrderBook) :
    (∀ orderId, 0 ≤ (clearing book).demand orderId) ∧
      ∀ orderId, 0 ≤ (clearing book).supply orderId :=
  GreedyFill.run_nonneg (opening_nonneg book).1 (opening_nonneg book).2

/-- Where the remaining quantities lie in a set closed under differences, so does
every traded quantity. -/
theorem trades_closed {book : OrderBook} (within : ℚ → Prop) (zero : within 0)
    (closed : ∀ left right, within left → within right → within (left - right))
    (buys : ∀ buy ∈ book.buys, within buy.remainingKwh)
    (sells : ∀ sell ∈ book.sells, within sell.remainingKwh) :
    ∀ trade ∈ (clearing book).fills.map tradeOf, within trade.quantityKwh := by
  intro trade member
  obtain ⟨fill, fillMember, rfl⟩ := List.mem_map.mp member
  apply GreedyFill.run_fills_closed within closed _ _ _ fill fillMember
  · exact remainingOf_holds zero fun buy member => buys buy (mem_sortedBuys.mp member).1
  · exact remainingOf_holds zero fun sell member => sells sell (mem_sortedSells.mp member).1
  · intro other absurdity
    cases absurdity

theorem fill_pair {book : OrderBook} {fill : GreedyFill.Fill Pair ℚ}
    (member : fill ∈ (clearing book).fills) : fill.ticket ∈ bookPairs book :=
  (clearing_fills book).1.subset (List.mem_map_of_mem member)

private theorem boughtKwh_map (fills : List (GreedyFill.Fill Pair ℚ)) (orderId : UUID) :
    boughtKwh (fills.map tradeOf) orderId =
      GreedyFill.moved (fun pair => orderAccounts.buyer pair = orderId) fills := by
  rw [boughtKwh, GreedyFill.moved, List.filter_map, List.map_map]
  rfl

private theorem soldKwh_map (fills : List (GreedyFill.Fill Pair ℚ)) (orderId : UUID) :
    soldKwh (fills.map tradeOf) orderId =
      GreedyFill.moved (fun pair => orderAccounts.seller pair = orderId) fills := by
  rw [soldKwh, GreedyFill.moved, List.filter_map, List.map_map]
  rfl

/-- The residual of a live buy is its balance at the end of the run. -/
theorem residualBuy_eq {book : OrderBook} (distinct : book.DistinctIds) {buy : OrderBookEntry}
    (member : buy ∈ sortedBuys book) :
    residualBuyKwh ((clearing book).fills.map tradeOf) buy = (clearing book).demand buy.orderId := by
  have conserved := @GreedyFill.run_demand_conserved _ _ _ _ _ _ _ _ orderAccounts
    (opening book) (bookPairs book) buy.orderId
  have opened : (opening book).demand buy.orderId = buy.remainingKwh :=
    remainingOf_get (sortedBuys_ids_nodup distinct) member
  rw [residualBuyKwh, boughtKwh_map, ← opened]
  have nothing : GreedyFill.moved (fun pair => orderAccounts.buyer pair = buy.orderId)
      (opening book).fills = 0 := rfl
  rw [nothing, add_zero] at conserved
  rw [← conserved]
  exact add_sub_cancel_right _ _

theorem residualSell_eq {book : OrderBook} (distinct : book.DistinctIds) {sell : OrderBookEntry}
    (member : sell ∈ sortedSells book) :
    residualSellKwh ((clearing book).fills.map tradeOf) sell =
      (clearing book).supply sell.orderId := by
  have conserved := @GreedyFill.run_supply_conserved _ _ _ _ _ _ _ _ orderAccounts
    (opening book) (bookPairs book) sell.orderId
  have opened : (opening book).supply sell.orderId = sell.remainingKwh :=
    remainingOf_get (sortedSells_ids_nodup distinct) member
  rw [residualSellKwh, soldKwh_map, ← opened]
  have nothing : GreedyFill.moved (fun pair => orderAccounts.seller pair = sell.orderId)
      (opening book).fills = 0 := rfl
  rw [nothing, add_zero] at conserved
  rw [← conserved]
  exact add_sub_cancel_right _ _

/-! ## Orders that never enter the loop -/

theorem boughtKwh_of_absent {trades : List ProposedTrade} {orderId : UUID}
    (absent : ∀ trade ∈ trades, trade.buyOrderId ≠ orderId) : boughtKwh trades orderId = 0 := by
  have none : trades.filter (fun trade => trade.buyOrderId = orderId) = [] := by
    rw [List.filter_eq_nil_iff]
    intro trade member same
    exact absent trade member (of_decide_eq_true same)
  rw [boughtKwh, none]
  rfl

theorem soldKwh_of_absent {trades : List ProposedTrade} {orderId : UUID}
    (absent : ∀ trade ∈ trades, trade.sellOrderId ≠ orderId) : soldKwh trades orderId = 0 := by
  have none : trades.filter (fun trade => trade.sellOrderId = orderId) = [] := by
    rw [List.filter_eq_nil_iff]
    intro trade member same
    exact absent trade member (of_decide_eq_true same)
  rw [soldKwh, none]
  rfl

/-- The entry of a side is determined by its id. -/
theorem entry_eq_of_id {entries : List OrderBookEntry}
    (distinct : (entries.map OrderBookEntry.orderId).Nodup) {left right : OrderBookEntry}
    (leftMember : left ∈ entries) (rightMember : right ∈ entries)
    (same : left.orderId = right.orderId) : left = right :=
  List.inj_on_of_nodup_map distinct leftMember rightMember same

/-- A trade of the clearing, with the entries it pairs. -/
theorem trade_pair {book : OrderBook} {trade : ProposedTrade}
    (member : trade ∈ (clearing book).fills.map tradeOf) :
    ∃ fill ∈ (clearing book).fills, trade = tradeOf fill ∧ fill.ticket.1 ∈ sortedBuys book ∧
      fill.ticket.2 ∈ sortedSells book ∧ Compatible fill.ticket.1 fill.ticket.2 := by
  obtain ⟨fill, fillMember, rfl⟩ := List.mem_map.mp member
  obtain ⟨buyMember, sellMember, compatible⟩ := mem_bookPairs.mp (fill_pair fillMember)
  exact ⟨fill, fillMember, rfl, buyMember, sellMember, compatible⟩

/-- No order is filled beyond what it had left: a live one runs down to a
non-negative balance, and any other takes part in no trade. -/
theorem boughtKwh_le {book : OrderBook} (distinct : book.DistinctIds) {buy : OrderBookEntry}
    (member : buy ∈ book.buys) (nonneg : 0 ≤ buy.remainingKwh) :
    boughtKwh ((clearing book).fills.map tradeOf) buy.orderId ≤ buy.remainingKwh := by
  by_cases live : buy ∈ sortedBuys book
  · have balance := (clearing_nonneg book).1 buy.orderId
    rw [← residualBuy_eq distinct live, residualBuyKwh] at balance
    linarith
  · rw [boughtKwh_of_absent]
    · exact nonneg
    · intro trade tradeMember same
      obtain ⟨fill, _, rfl, buyMember, _, _⟩ := trade_pair tradeMember
      have equal := entry_eq_of_id distinct.buys (mem_sortedBuys.mp buyMember).1 member same
      exact live (equal ▸ buyMember)

theorem soldKwh_le {book : OrderBook} (distinct : book.DistinctIds) {sell : OrderBookEntry}
    (member : sell ∈ book.sells) (nonneg : 0 ≤ sell.remainingKwh) :
    soldKwh ((clearing book).fills.map tradeOf) sell.orderId ≤ sell.remainingKwh := by
  by_cases live : sell ∈ sortedSells book
  · have balance := (clearing_nonneg book).2 sell.orderId
    rw [← residualSell_eq distinct live, residualSellKwh] at balance
    linarith
  · rw [soldKwh_of_absent]
    · exact nonneg
    · intro trade tradeMember same
      obtain ⟨fill, _, rfl, _, sellMember, _⟩ := trade_pair tradeMember
      have equal := entry_eq_of_id distinct.sells (mem_sortedSells.mp sellMember).1 member same
      exact live (equal ▸ sellMember)

/-! ## A small book

Two buys and two sells of four users. The better buy takes all of the cheaper
sell and part of the dearer one; the other buy crosses only the cheaper sell. -/

def sampleBook : OrderBook where
  marketSessionId := 0
  marketDate := 0
  marketType := .dayAhead
  buys :=
    [ { orderId := 1, side := .buy, userId := 11, siteId := 21, remainingKwh := 3
        deliveryStart := 0, deliveryEnd := 900, createdAt := 5, maxPriceInrPerKwh := some 6 },
      { orderId := 2, side := .buy, userId := 12, siteId := 22, remainingKwh := 1
        deliveryStart := 0, deliveryEnd := 900, createdAt := 1
        maxPriceInrPerKwh := some (9 / 2) } ]
  sells :=
    [ { orderId := 3, side := .sell, userId := 13, siteId := 23, remainingKwh := 2
        deliveryStart := 0, deliveryEnd := 900, createdAt := 2, minPriceInrPerKwh := some 5 },
      { orderId := 4, side := .sell, userId := 14, siteId := 24, remainingKwh := 2
        deliveryStart := 450, deliveryEnd := 1350, createdAt := 3
        minPriceInrPerKwh := some (40001 / 10000) } ]

def sampleRequest : MatchingRequest := ⟨sampleBook, 0⟩

example : ((({} : BaselineMatchingEngine).matchRequest sampleRequest).toOption.map
    MatchingResult.trades) = some
      [ { buyOrderId := 1, sellOrderId := 4, quantityKwh := 2
          clearingPriceInrPerKwh := 50001 / 10000, deliveryStart := 450, deliveryEnd := 900 },
        { buyOrderId := 1, sellOrderId := 3, quantityKwh := 1
          clearingPriceInrPerKwh := 11 / 2, deliveryStart := 0, deliveryEnd := 900 } ] := by
  decide +kernel

/-! ## Maximality -/

/-- A compatible pair with quantity left on both sides is in the visiting order,
so the run has exhausted one of the two. -/
theorem clearing_exhausts {book : OrderBook} (distinct : book.DistinctIds)
    {buy sell : OrderBookEntry} (buyMember : buy ∈ book.buys) (sellMember : sell ∈ book.sells)
    (compatible : Compatible buy sell) (buyLive : 0 < buy.remainingKwh)
    (sellLive : 0 < sell.remainingKwh) :
    residualBuyKwh ((clearing book).fills.map tradeOf) buy ≤ 0 ∨
      residualSellKwh ((clearing book).fills.map tradeOf) sell ≤ 0 := by
  obtain ⟨ceiling, floor, buyMax, sellMin, _⟩ := compatible.prices
  have buySorted : buy ∈ sortedBuys book :=
    mem_sortedBuys.mpr ⟨buyMember, buyLive, by rw [buyMax]; rfl⟩
  have sellSorted : sell ∈ sortedSells book :=
    mem_sortedSells.mpr ⟨sellMember, sellLive, by rw [sellMin]; rfl⟩
  have visited : (buy, sell) ∈ bookPairs book :=
    mem_bookPairs.mpr ⟨buySorted, sellSorted, compatible⟩
  rw [residualBuy_eq distinct buySorted, residualSell_eq distinct sellSorted]
  exact GreedyFill.run_exhausts (opening book) visited

/-- A residual is never more than what the entry started with. -/
theorem remaining_of_residualBuy {book : OrderBook} {buy : OrderBookEntry}
    (positive : 0 < residualBuyKwh ((clearing book).fills.map tradeOf) buy) :
    0 < buy.remainingKwh := by
  have bought : 0 ≤ boughtKwh ((clearing book).fills.map tradeOf) buy.orderId := by
    apply List.sum_nonneg
    intro amount member
    obtain ⟨trade, tradeMember, rfl⟩ := List.mem_map.mp member
    obtain ⟨fill, fillMember, rfl⟩ := List.mem_map.mp (List.mem_of_mem_filter tradeMember)
    exact ((clearing_fills book).2 fill fillMember).le
  rw [residualBuyKwh] at positive
  linarith

private theorem remaining_of_residualSell {book : OrderBook} {sell : OrderBookEntry}
    (positive : 0 < residualSellKwh ((clearing book).fills.map tradeOf) sell) :
    0 < sell.remainingKwh := by
  have sold : 0 ≤ soldKwh ((clearing book).fills.map tradeOf) sell.orderId := by
    apply List.sum_nonneg
    intro amount member
    obtain ⟨trade, tradeMember, rfl⟩ := List.mem_map.mp member
    obtain ⟨fill, fillMember, rfl⟩ := List.mem_map.mp (List.mem_of_mem_filter tradeMember)
    exact ((clearing_fills book).2 fill fillMember).le
  rw [residualSellKwh] at positive
  linarith

/-- The trade set is maximal: no compatible pair is left with quantity on both
sides. -/
theorem matchRequest_maximal (engine : BaselineMatchingEngine) (request : MatchingRequest)
    (distinct : request.orderBook.DistinctIds) :
    ∃ result, engine.matchRequest request = .ok result ∧
      ∀ buy ∈ request.orderBook.buys, ∀ sell ∈ request.orderBook.sells, Compatible buy sell →
        ¬ (0 < residualBuyKwh result.trades buy ∧ 0 < residualSellKwh result.trades sell) := by
  obtain ⟨result, returned, trades⟩ := matchRequest_refines engine request
  refine ⟨result, returned, ?_⟩
  intro buy buyMember sell sellMember compatible both
  rw [trades] at both
  have exhausted := clearing_exhausts distinct buyMember sellMember compatible
    (remaining_of_residualBuy both.1) (remaining_of_residualSell both.2)
  exact exhausted.elim both.1.not_ge both.2.not_ge

theorem matchRequest_maximal_sample :
    ∃ result, ({} : BaselineMatchingEngine).matchRequest sampleRequest = .ok result ∧
      ∀ buy ∈ sampleBook.buys, ∀ sell ∈ sampleBook.sells, Compatible buy sell →
        ¬ (0 < residualBuyKwh result.trades buy ∧ 0 < residualSellKwh result.trades sell) :=
  matchRequest_maximal {} sampleRequest (by decide +kernel)

/-! ## Priority -/

/-- `other` is strictly ahead in buy priority: higher maximum price, then
earlier `created_at`, then smaller id. -/
def AheadAmongBuys (other buy : OrderBookEntry) : Prop :=
  ∃ otherMax buyMax, other.maxPriceInrPerKwh = some otherMax ∧ buy.maxPriceInrPerKwh = some buyMax ∧
    (buyMax < otherMax ∨ otherMax = buyMax ∧ (other.createdAt < buy.createdAt ∨
      other.createdAt = buy.createdAt ∧ other.orderId < buy.orderId))

/-- `other` is strictly ahead in sell priority: lower minimum price, then
earlier `created_at`, then smaller id. -/
def AheadAmongSells (other sell : OrderBookEntry) : Prop :=
  ∃ otherMin sellMin, other.minPriceInrPerKwh = some otherMin ∧
    sell.minPriceInrPerKwh = some sellMin ∧
    (otherMin < sellMin ∨ otherMin = sellMin ∧ (other.createdAt < sell.createdAt ∨
      other.createdAt = sell.createdAt ∧ other.orderId < sell.orderId))

private theorem AheadAmongBuys.key_lt {other buy : OrderBookEntry}
    (ahead : AheadAmongBuys other buy) :
    buyKey other < buyKey buy := by
  obtain ⟨otherMax, buyMax, otherEq, buyEq, order⟩ := ahead
  simp only [buyKey, otherEq, buyEq, Option.getD_some, Prod.Lex.toLex_lt_toLex, neg_lt_neg_iff,
    neg_inj]
  exact order

private theorem AheadAmongSells.key_lt {other sell : OrderBookEntry}
    (ahead : AheadAmongSells other sell) :
    sellKey other < sellKey sell := by
  obtain ⟨otherMin, sellMin, otherEq, sellEq, order⟩ := ahead
  simp only [sellKey, otherEq, sellEq, Option.getD_some, Prod.Lex.toLex_lt_toLex]
  exact order

/-- In a list split at one pair, a pair that the order puts strictly before it
lies in the front. -/
private theorem mem_front_of_not_after {ordered : Pair → Pair → Prop} {front back all : List Pair}
    {here earlier : Pair} (split : all = front ++ here :: back) (pairwise : all.Pairwise ordered)
    (member : earlier ∈ all) (different : earlier ≠ here) (notAfter : ¬ ordered here earlier) :
    earlier ∈ front := by
  rw [split] at pairwise member
  rcases List.mem_append.mp member with inFront | rest
  · exact inFront
  · rcases List.mem_cons.mp rest with same | later
    · exact absurd same different
    · have inOrder := (List.pairwise_append.mp pairwise).2.1
      exact absurd (List.rel_of_pairwise_cons inOrder later) notAfter

/-- Price-time priority on both sides: whoever is strictly ahead of a party of a
trade, and could have traded with its counterparty, has nothing left. -/
theorem matchRequest_priority (engine : BaselineMatchingEngine) (request : MatchingRequest)
    (distinct : request.orderBook.DistinctIds) :
    ∃ result, engine.matchRequest request = .ok result ∧
      ∀ trade ∈ result.trades, ∀ buy ∈ request.orderBook.buys, ∀ sell ∈ request.orderBook.sells,
        trade.buyOrderId = buy.orderId → trade.sellOrderId = sell.orderId →
        (∀ other ∈ request.orderBook.sells, AheadAmongSells other sell → Compatible buy other →
          residualSellKwh result.trades other ≤ 0) ∧
        ∀ other ∈ request.orderBook.buys, AheadAmongBuys other buy → Compatible other sell →
          residualBuyKwh result.trades other ≤ 0 := by
  obtain ⟨result, returned, trades⟩ := matchRequest_refines engine request
  refine ⟨result, returned, ?_⟩
  rw [trades]
  intro trade member buy buyMember sell sellMember buyId sellId
  obtain ⟨fill, fillMember, rfl, buySorted, sellSorted, _⟩ := trade_pair member
  obtain rfl : fill.ticket.1 = buy :=
    entry_eq_of_id distinct.buys (mem_sortedBuys.mp buySorted).1 buyMember buyId
  obtain rfl : fill.ticket.2 = sell :=
    entry_eq_of_id distinct.sells (mem_sortedSells.mp sellSorted).1 sellMember sellId
  obtain empty | ⟨front, back, split, demandLeft, supplyLeft⟩ := GreedyFill.mem_run_fills fillMember
  · cases empty
  have ordered := bookPairs_ordered distinct
  constructor
  · -- A better seller was offered to this very buy before the trade's seller was.
    intro other otherMember ahead compatible
    by_contra left
    rw [not_le] at left
    have live := remaining_of_residualSell left
    have otherSorted : other ∈ sortedSells request.orderBook := by
      obtain ⟨price, _, priceEq, _⟩ := ahead
      exact mem_sortedSells.mpr ⟨otherMember, live, by rw [priceEq]; rfl⟩
    have visited : (fill.ticket.1, other) ∈ bookPairs request.orderBook :=
      mem_bookPairs.mpr ⟨buySorted, otherSorted, compatible⟩
    have keyLt := ahead.key_lt
    have inFront : (fill.ticket.1, other) ∈ front := by
      apply mem_front_of_not_after split ordered visited
      · intro same
        rw [← same] at keyLt
        exact lt_irrefl _ keyLt
      · rintro ⟨_, sellOrder⟩
        exact (sellOrder rfl).not_gt keyLt
    have exhausted := GreedyFill.supply_exhausted_of_earlier split inFront demandLeft
    rw [residualSell_eq distinct otherSorted] at left
    exact left.not_ge exhausted
  · -- A better buyer's own pass over the sells came before this buyer's.
    intro other otherMember ahead compatible
    by_contra left
    rw [not_le] at left
    have live := remaining_of_residualBuy left
    have otherSorted : other ∈ sortedBuys request.orderBook := by
      obtain ⟨price, _, priceEq, _⟩ := ahead
      exact mem_sortedBuys.mpr ⟨otherMember, live, by rw [priceEq]; rfl⟩
    have visited : (other, fill.ticket.2) ∈ bookPairs request.orderBook :=
      mem_bookPairs.mpr ⟨otherSorted, sellSorted, compatible⟩
    have keyLt := ahead.key_lt
    have inFront : (other, fill.ticket.2) ∈ front := by
      apply mem_front_of_not_after split ordered visited
      · intro same
        rw [← same] at keyLt
        exact lt_irrefl _ keyLt
      · rintro ⟨buyOrder, _⟩
        exact buyOrder.not_gt keyLt
    have exhausted := GreedyFill.demand_exhausted_of_earlier split inFront supplyLeft
    rw [residualBuy_eq distinct otherSorted] at left
    exact left.not_ge exhausted

theorem matchRequest_priority_sample :
    ∃ result, ({} : BaselineMatchingEngine).matchRequest sampleRequest = .ok result ∧
      ∀ trade ∈ result.trades, ∀ buy ∈ sampleBook.buys, ∀ sell ∈ sampleBook.sells,
        trade.buyOrderId = buy.orderId → trade.sellOrderId = sell.orderId →
        (∀ other ∈ sampleBook.sells, AheadAmongSells other sell → Compatible buy other →
          residualSellKwh result.trades other ≤ 0) ∧
        ∀ other ∈ sampleBook.buys, AheadAmongBuys other buy → Compatible other sell →
          residualBuyKwh result.trades other ≤ 0 :=
  matchRequest_priority {} sampleRequest (by decide +kernel)

end UrjaSetu.Domain.Policies.MatchingGuarantees
