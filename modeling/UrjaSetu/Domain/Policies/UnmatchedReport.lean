import UrjaSetu.Domain.Policies.MatchingGuarantees

/-!
The orders the baseline engine reports as unmatched.

After the loop an entry counts by its tracked residual, or by its remaining
quantity where it never was tracked. A book with an empty side is answered before
the loop, with the ids of all its entries.

Owns: which ids the loop tracks, and when the report is of the entries that have
quantity left.
-/

namespace UrjaSetu.Domain.Policies.MatchingGuarantees

open UrjaSetu.Domain UrjaSetu.Domain.Interfaces
open UrjaSetu.Domain.Policies.ClearingPrice UrjaSetu.Domain.Policies.MarketMatching
open UrjaSetu.Library

/-! ## What the loop tracks -/

/-- The two dictionaries hold exactly these ids. -/
structure Tracks (buyIds sellIds : List UUID) (state : MatchState) : Prop where
  buys : ∀ orderId, (state.remBuys orderId).isSome = true ↔ orderId ∈ buyIds
  sells : ∀ orderId, (state.remSells orderId).isSome = true ↔ orderId ∈ sellIds

private theorem remainingOf_isSome {entries : List OrderBookEntry} {orderId : UUID} :
    (remainingOf entries orderId).isSome = true ↔
      orderId ∈ entries.map OrderBookEntry.orderId := by
  induction entries using List.reverseRecOn with
  | nil => simp [remainingOf]
  | append_singleton front last inductionHypothesis =>
      rw [remainingOf_append, List.map_append, List.mem_append, ← inductionHypothesis]
      by_cases own : orderId = last.orderId
      · simp [own]
      · simp [own]

private theorem openingState_tracks (book : OrderBook) :
    Tracks ((sortedBuys book).map OrderBookEntry.orderId)
      ((sortedSells book).map OrderBookEntry.orderId) (openingState book) where
  buys _ := remainingOf_isSome
  sells _ := remainingOf_isSome

/-- Running down a residual that is held adds no id. -/
theorem subtract_isSome {rem : Remaining} {ids : List UUID} {held : UUID} (quantity : ℚ)
    (tracked : ∀ orderId, (rem orderId).isSome = true ↔ orderId ∈ ids) (isHeld : held ∈ ids)
    (orderId : UUID) :
    (rem.subtract id held quantity orderId).isSome = true ↔ orderId ∈ ids := by
  unfold Remaining.subtract
  by_cases own : orderId = held
  · rw [own, Function.update_self]
    exact ⟨fun _ => isHeld, fun _ => rfl⟩
  · rw [Function.update_of_ne own]
    exact tracked orderId

section Loop

variable {buyIds sellIds : List UUID} {state next : MatchState}

private theorem Tracks.record (tracks : Tracks buyIds sellIds state) {trade : ProposedTrade}
    (buyHeld : trade.buyOrderId ∈ buyIds) (sellHeld : trade.sellOrderId ∈ sellIds) :
    Tracks buyIds sellIds (state.record id trade) where
  buys := subtract_isSome trade.quantityKwh tracks.buys buyHeld
  sells := subtract_isSome trade.quantityKwh tracks.sells sellHeld

private theorem visitSells_tracks {buy : OrderBookEntry} (buyHeld : buy.orderId ∈ buyIds)
    (sells : List OrderBookEntry) (sellsHeld : ∀ sell ∈ sells, sell.orderId ∈ sellIds)
    (tracks : Tracks buyIds sellIds state) (visited : visitSells id buy sells state = .ok next) :
    Tracks buyIds sellIds next := by
  induction sells generalizing state with
  | nil =>
      cases visited
      exact tracks
  | cons sell rest inductionHypothesis =>
      have restHeld : ∀ other ∈ rest, other.orderId ∈ sellIds := fun other member =>
        sellsHeld other (List.mem_cons_of_mem _ member)
      unfold visitSells at visited
      split at visited
      · cases visited
      · exact inductionHypothesis restHeld tracks visited
      · rename_i trade proposed
        obtain ⟨sameBuy, sameSell, _⟩ := proposeTrade_eq_some proposed
        have recorded : Tracks buyIds sellIds (state.record id trade) := by
          apply tracks.record
          · rw [sameBuy]
            exact buyHeld
          · rw [sameSell]
            exact sellsHeld sell List.mem_cons_self
        dsimp only at visited
        split at visited
        · cases visited
          exact recorded
        · exact inductionHypothesis restHeld recorded visited

private theorem visitBuys_tracks (buys sells : List OrderBookEntry)
    (buysHeld : ∀ buy ∈ buys, buy.orderId ∈ buyIds)
    (sellsHeld : ∀ sell ∈ sells, sell.orderId ∈ sellIds) (tracks : Tracks buyIds sellIds state)
    (visited : visitBuys id sells buys state = .ok next) : Tracks buyIds sellIds next := by
  induction buys generalizing state with
  | nil =>
      cases visited
      exact tracks
  | cons buy rest inductionHypothesis =>
      have restHeld : ∀ other ∈ rest, other.orderId ∈ buyIds := fun other member =>
        buysHeld other (List.mem_cons_of_mem _ member)
      unfold visitBuys at visited
      split at visited
      · exact inductionHypothesis restHeld tracks visited
      · split at visited
        · cases visited
        · rename_i inner served
          exact inductionHypothesis restHeld
            (visitSells_tracks (buysHeld buy List.mem_cons_self) sells sellsHeld tracks served)
            visited

end Loop

/-! ## The report -/

/-- The reported ids are those of the entries that have quantity left. -/
structure ReportsUnmatched (book : OrderBook) (result : MatchingResult) : Prop where
  buys : ∀ orderId, orderId ∈ result.unmatchedBuyOrderIds ↔
    ∃ buy ∈ book.buys, buy.orderId = orderId ∧ 0 < residualBuyKwh result.trades buy
  sells : ∀ orderId, orderId ∈ result.unmatchedSellOrderIds ↔
    ∃ sell ∈ book.sells, sell.orderId = orderId ∧ 0 < residualSellKwh result.trades sell

private theorem mem_unmatchedIds {rem : Remaining} {entries : List OrderBookEntry}
    {residual : OrderBookEntry → ℚ}
    (same : ∀ entry ∈ entries, (rem entry.orderId).getD entry.remainingKwh = residual entry)
    (orderId : UUID) :
    orderId ∈ unmatchedIds rem entries ↔
      ∃ entry ∈ entries, entry.orderId = orderId ∧ 0 < residual entry := by
  unfold unmatchedIds
  rw [List.mem_map]
  constructor
  · rintro ⟨entry, kept, sameId⟩
    obtain ⟨member, left⟩ := List.mem_filter.mp kept
    have positive := of_decide_eq_true left
    rw [same entry member] at positive
    exact ⟨entry, member, sameId, positive⟩
  · rintro ⟨entry, member, sameId, positive⟩
    rw [← same entry member] at positive
    exact ⟨entry, List.mem_filter.mpr ⟨member, decide_eq_true positive⟩, sameId⟩

/-- An entry that never enters the loop keeps its quantity. -/
theorem residualBuy_of_untracked {book : OrderBook} (distinct : book.DistinctIds)
    {buy : OrderBookEntry} (member : buy ∈ book.buys) (untracked : buy ∉ sortedBuys book) :
    residualBuyKwh ((clearing book).fills.map tradeOf) buy = buy.remainingKwh := by
  rw [residualBuyKwh, boughtKwh_of_absent, sub_zero]
  intro trade tradeMember same
  obtain ⟨fill, _, rfl, buyMember, _, _⟩ := trade_pair tradeMember
  have equal := entry_eq_of_id distinct.buys (mem_sortedBuys.mp buyMember).1 member same
  exact untracked (equal ▸ buyMember)

private theorem residualSell_of_untracked {book : OrderBook} (distinct : book.DistinctIds)
    {sell : OrderBookEntry} (member : sell ∈ book.sells) (untracked : sell ∉ sortedSells book) :
    residualSellKwh ((clearing book).fills.map tradeOf) sell = sell.remainingKwh := by
  rw [residualSellKwh, soldKwh_of_absent, sub_zero]
  intro trade tradeMember same
  obtain ⟨fill, _, rfl, _, sellMember, _⟩ := trade_pair tradeMember
  have equal := entry_eq_of_id distinct.sells (mem_sortedSells.mp sellMember).1 member same
  exact untracked (equal ▸ sellMember)

/-- A residual as the report reads it: the tracked balance, or the quantity of an
entry that is not tracked. -/
theorem getD_of_tracked {rem : Remaining} {tracked entries : List OrderBookEntry}
    {residual : OrderBookEntry → ℚ}
    (holds : ∀ orderId, (rem orderId).isSome = true ↔
      orderId ∈ tracked.map OrderBookEntry.orderId)
    (distinct : (entries.map OrderBookEntry.orderId).Nodup) (fromBook : tracked ⊆ entries)
    (balance : ∀ entry ∈ tracked, residual entry = rem.get entry.orderId)
    (quantity : ∀ entry ∈ entries, entry ∉ tracked → residual entry = entry.remainingKwh)
    {entry : OrderBookEntry} (member : entry ∈ entries) :
    (rem entry.orderId).getD entry.remainingKwh = residual entry := by
  by_cases isTracked : entry ∈ tracked
  · obtain ⟨left, held⟩ := Option.isSome_iff_exists.mp
      ((holds entry.orderId).mpr (List.mem_map_of_mem isTracked))
    rw [balance entry isTracked, Remaining.get, held]
    rfl
  · have absent : rem entry.orderId = none := by
      rw [← Option.not_isSome_iff_eq_none, holds, List.mem_map]
      rintro ⟨other, otherTracked, same⟩
      have equal := entry_eq_of_id distinct (fromBook otherTracked) member same
      exact isTracked (equal ▸ otherTracked)
    rw [absent, quantity entry member isTracked]
    rfl

/-- The loop's report is of the entries that have quantity left. -/
theorem matchRequest_reports {engine : BaselineMatchingEngine} {request : MatchingRequest}
    (distinct : request.orderBook.DistinctIds) (bothSides : request.orderBook.isEmpty = false) :
    ∃ result, engine.matchRequest request = .ok result ∧
      ReportsUnmatched request.orderBook result := by
  have opened : Simulates (openingState request.orderBook) (opening request.orderBook) :=
    ⟨fun _ => rfl, fun _ => rfl, rfl⟩
  obtain ⟨state, stateEq, simulates⟩ :=
    visitBuys_refines opened (sortedBuys request.orderBook) (sortedSells request.orderBook)
  have tracks := visitBuys_tracks (sortedBuys request.orderBook) (sortedSells request.orderBook)
    (fun buy member => List.mem_map_of_mem member)
    (fun sell member => List.mem_map_of_mem member)
    (openingState_tracks request.orderBook) stateEq
  have trades : state.trades = (clearing request.orderBook).fills.map tradeOf := simulates.trades
  unfold BaselineMatchingEngine.matchRequest BaselineMatchingEngine.matchIn
  dsimp only
  rw [bothSides, if_neg Bool.false_ne_true, stateEq]
  refine ⟨_, rfl, ?_, ?_⟩
  · dsimp only
    rw [trades]
    refine mem_unmatchedIds fun buy member => getD_of_tracked tracks.buys distinct.buys
      (fun entry tracked => (mem_sortedBuys.mp tracked).1) ?_ ?_ member
    · intro entry tracked
      rw [simulates.demand]
      exact residualBuy_eq distinct tracked
    · exact fun entry => residualBuy_of_untracked distinct
  · dsimp only
    rw [trades]
    refine mem_unmatchedIds fun sell member => getD_of_tracked tracks.sells distinct.sells
      (fun entry tracked => (mem_sortedSells.mp tracked).1) ?_ ?_ member
    · intro entry tracked
      rw [simulates.supply]
      exact residualSell_eq distinct tracked
    · exact fun entry => residualSell_of_untracked distinct

/-! ## A side that is empty -/

/-- Without trades, what is left of an entry is its quantity. -/
theorem reportsUnmatched_of_untraded {book : OrderBook} {result : MatchingResult}
    (distinct : book.DistinctIds) (untraded : result.trades = [])
    (buysListed : result.unmatchedBuyOrderIds = book.buys.map OrderBookEntry.orderId)
    (sellsListed : result.unmatchedSellOrderIds = book.sells.map OrderBookEntry.orderId) :
    ReportsUnmatched book result ↔
      ∀ entry ∈ book.buys ++ book.sells, 0 < entry.remainingKwh := by
  have buyLeft : ∀ buy, residualBuyKwh result.trades buy = buy.remainingKwh := by
    intro buy
    rw [untraded]
    exact sub_zero _
  have sellLeft : ∀ sell, residualSellKwh result.trades sell = sell.remainingKwh := by
    intro sell
    rw [untraded]
    exact sub_zero _
  constructor
  · intro reports entry member
    rcases List.mem_append.mp member with isBuy | isSell
    · have listed : entry.orderId ∈ result.unmatchedBuyOrderIds := by
        rw [buysListed]
        exact List.mem_map_of_mem isBuy
      obtain ⟨buy, buyMember, same, positive⟩ := (reports.buys entry.orderId).mp listed
      rw [entry_eq_of_id distinct.buys buyMember isBuy same, buyLeft] at positive
      exact positive
    · have listed : entry.orderId ∈ result.unmatchedSellOrderIds := by
        rw [sellsListed]
        exact List.mem_map_of_mem isSell
      obtain ⟨sell, sellMember, same, positive⟩ := (reports.sells entry.orderId).mp listed
      rw [entry_eq_of_id distinct.sells sellMember isSell same, sellLeft] at positive
      exact positive
  · intro live
    constructor
    · intro orderId
      rw [buysListed, List.mem_map]
      constructor
      · rintro ⟨buy, member, same⟩
        refine ⟨buy, member, same, ?_⟩
        rw [buyLeft]
        exact live buy (List.mem_append_left _ member)
      · rintro ⟨buy, member, same, _⟩
        exact ⟨buy, member, same⟩
    · intro orderId
      rw [sellsListed, List.mem_map]
      constructor
      · rintro ⟨sell, member, same⟩
        refine ⟨sell, member, same, ?_⟩
        rw [sellLeft]
        exact live sell (List.mem_append_right _ member)
      · rintro ⟨sell, member, same, _⟩
        exact ⟨sell, member, same⟩

/-- The report is of the entries with quantity left exactly when the book has both
sides, or nothing in it is exhausted. -/
theorem matchRequest_reports_iff (engine : BaselineMatchingEngine) (request : MatchingRequest)
    (distinct : request.orderBook.DistinctIds) :
    ∃ result, engine.matchRequest request = .ok result ∧
      (ReportsUnmatched request.orderBook result ↔
        (request.orderBook.buys ≠ [] ∧ request.orderBook.sells ≠ []) ∨
          ∀ entry ∈ request.orderBook.buys ++ request.orderBook.sells,
            0 < entry.remainingKwh) := by
  have bothSides : (request.orderBook.buys ≠ [] ∧ request.orderBook.sells ≠ []) ↔
      request.orderBook.isEmpty = false := by
    rw [OrderBook.isEmpty, Bool.or_eq_false_iff, ← Bool.not_eq_true, ← Bool.not_eq_true,
      List.isEmpty_iff, List.isEmpty_iff]
  rw [bothSides]
  cases empty : request.orderBook.isEmpty with
  | false =>
      obtain ⟨result, returned, reports⟩ := @matchRequest_reports engine request distinct empty
      exact ⟨result, returned, iff_of_true reports (Or.inl rfl)⟩
  | true =>
      unfold BaselineMatchingEngine.matchRequest BaselineMatchingEngine.matchIn
      dsimp only
      rw [if_pos empty]
      refine ⟨_, rfl, ?_⟩
      rw [reportsUnmatched_of_untraded distinct rfl rfl rfl]
      exact ⟨Or.inr, fun condition => condition.resolve_left Bool.noConfusion⟩

theorem matchRequest_reports_sample :
    ∃ result, ({} : BaselineMatchingEngine).matchRequest sampleRequest = .ok result ∧
      (ReportsUnmatched sampleBook result ↔
        (sampleBook.buys ≠ [] ∧ sampleBook.sells ≠ []) ∨
          ∀ entry ∈ sampleBook.buys ++ sampleBook.sells, 0 < entry.remainingKwh) :=
  matchRequest_reports_iff {} sampleRequest (by decide +kernel)

/-- One buy, of which nothing is left. -/
def exhaustedBook : OrderBook where
  marketSessionId := 0
  marketDate := 0
  marketType := .dayAhead
  buys :=
    [ { orderId := 1, side := .buy, userId := 11, siteId := 21, remainingKwh := 0
        deliveryStart := 0, deliveryEnd := 900, createdAt := 5, maxPriceInrPerKwh := some 6 } ]

/-- A lone buy without quantity is reported as unmatched; beside a sell it would not
be. -/
theorem exhaustedBuy_reported :
    ∃ result, ({} : BaselineMatchingEngine).matchRequest ⟨exhaustedBook, 0⟩ = .ok result ∧
      exhaustedBook.DistinctIds ∧ result.unmatchedBuyOrderIds = [1] ∧
      ¬ ReportsUnmatched exhaustedBook result := by
  refine ⟨_, rfl, by decide, rfl, ?_⟩
  intro reports
  obtain ⟨buy, member, _, positive⟩ := (reports.buys 1).mp List.mem_cons_self
  obtain rfl := List.mem_singleton.mp member
  revert positive
  decide +kernel

end UrjaSetu.Domain.Policies.MatchingGuarantees
