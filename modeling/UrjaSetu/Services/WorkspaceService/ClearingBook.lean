import UrjaSetu.Domain.Policies.MatchingGuarantees
import UrjaSetu.Services.WorkspaceService.Clearing

/-!
The book that `clear_market` makes of the orders of one delivery start, and what
the matching engine may propose of it.

Owns: which orders a proposal pairs, and its quantity where one buy meets one
sell.
-/

namespace UrjaSetu.Services.WorkspaceService

open UrjaSetu.Domain UrjaSetu.Domain.Interfaces UrjaSetu.Db UrjaSetu.Db.Models UrjaSetu.Library
open UrjaSetu.Domain.Policies.MarketMatching UrjaSetu.Domain.Policies.MatchingGuarantees

/-- The energy of the order is a stored quantity. -/
structure OnQuantityGrid (order : Order) : Prop where
  energy : Rounding.OnGrid 4 order.energyKwh
  matched : Rounding.OnGrid 4 order.matchedKwh

private theorem OnQuantityGrid.matchable {order : Order} {quantityCap : Option ℚ}
    (onGrid : OnQuantityGrid order)
    (capOnGrid : ∀ cap, quantityCap = some cap → Rounding.OnGrid 4 cap) :
    Rounding.OnGrid 4 (matchableKwh quantityCap order) := by
  have remaining : Rounding.OnGrid 4 order.remainingKwh := onGrid.energy.sub onGrid.matched
  cases quantityCap with
  | none => exact remaining
  | some cap => exact remaining.min (capOnGrid cap rfl)

/-- A proposal that `group` can give: a buy and a sell of it, and a stored
quantity. -/
structure Proposable (group : List Order) (proposal : ProposedTrade) : Prop where
  buy : ∃ order ∈ group, order.id = proposal.buyOrderId ∧ order.side = .buy
  sell : ∃ order ∈ group, order.id = proposal.sellOrderId ∧ order.side = .sell
  onGrid : Rounding.OnGrid 4 proposal.quantityKwh

section Book

variable {quantityCap : Option ℚ} {start : Instant} {group : List Order}

private theorem mem_buys {entry : OrderBookEntry} :
    entry ∈ (clearingBook quantityCap start group).buys ↔
      ∃ order ∈ group, order.side = .buy ∧ bookEntry quantityCap order = entry := by
  simp only [clearingBook, List.mem_filter, List.mem_map, decide_eq_true_eq]
  constructor
  · rintro ⟨⟨order, member, rfl⟩, isBuy⟩
    exact ⟨order, member, isBuy, rfl⟩
  · rintro ⟨order, member, isBuy, rfl⟩
    exact ⟨⟨order, member, rfl⟩, isBuy⟩

private theorem mem_sells {entry : OrderBookEntry} :
    entry ∈ (clearingBook quantityCap start group).sells ↔
      ∃ order ∈ group, order.side = .sell ∧ bookEntry quantityCap order = entry := by
  simp only [clearingBook, List.mem_filter, List.mem_map, decide_eq_true_eq]
  constructor
  · rintro ⟨⟨order, member, rfl⟩, isSell⟩
    exact ⟨order, member, isSell, rfl⟩
  · rintro ⟨order, member, isSell, rfl⟩
    exact ⟨⟨order, member, rfl⟩, isSell⟩

/-- What the engine answers are the fills of the greedy run. -/
theorem matchBook_trades {engine : BaselineMatchingEngine} {book : OrderBook} {clock : Instant}
    {result : MatchingResult} (matched : matchBook engine book clock = .ok result) :
    result.trades = (clearing book).fills.map tradeOf := by
  obtain ⟨answer, returned, trades⟩ := matchRequest_refines engine ⟨book, clock⟩
  unfold matchBook at matched
  rw [returned] at matched
  cases matched
  exact trades

theorem proposable_of_trade (onGrid : ∀ order ∈ group, OnQuantityGrid order)
    (capOnGrid : ∀ cap, quantityCap = some cap → Rounding.OnGrid 4 cap) {proposal : ProposedTrade}
    (member : proposal ∈ (clearing (clearingBook quantityCap start group)).fills.map tradeOf) :
    Proposable group proposal := by
  have quantity := @trades_closed (clearingBook quantityCap start group) (Rounding.OnGrid 4)
    Rounding.OnGrid.zero (fun _ _ left right => left.sub right)
  obtain ⟨fill, _, same, buySorted, sellSorted, _⟩ := trade_pair member
  obtain ⟨buy, buyMember, isBuy, buyEntry⟩ := mem_buys.mp (mem_sortedBuys.mp buySorted).1
  obtain ⟨sell, sellMember, isSell, sellEntry⟩ := mem_sells.mp (mem_sortedSells.mp sellSorted).1
  refine ⟨⟨buy, buyMember, ?_, isBuy⟩, ⟨sell, sellMember, ?_, isSell⟩, ?_⟩
  · rw [same]
    exact congrArg OrderBookEntry.orderId buyEntry
  · rw [same]
    exact congrArg OrderBookEntry.orderId sellEntry
  · apply quantity _ _ proposal member
    · intro entry entryMember
      obtain ⟨order, orderMember, _, rfl⟩ := mem_buys.mp entryMember
      exact (onGrid order orderMember).matchable capOnGrid
    · intro entry entryMember
      obtain ⟨order, orderMember, _, rfl⟩ := mem_sells.mp entryMember
      exact (onGrid order orderMember).matchable capOnGrid

end Book

/-! ## One buy and one sell -/

private theorem sortedBuys_single {book : OrderBook} {buy : OrderBookEntry}
    (only : book.buys = [buy]) :
    sortedBuys book = [] ∨ sortedBuys book = [buy] := by
  unfold sortedBuys sortedBy validBuys
  rw [only, List.filter_singleton]
  cases decide (0 < buy.remainingKwh ∧ buy.maxPriceInrPerKwh.isSome) with
  | true => exact Or.inr rfl
  | false => exact Or.inl rfl

private theorem sortedSells_single {book : OrderBook} {sell : OrderBookEntry}
    (only : book.sells = [sell]) :
    sortedSells book = [] ∨ sortedSells book = [sell] := by
  unfold sortedSells sortedBy validSells
  rw [only, List.filter_singleton]
  cases decide (0 < sell.remainingKwh ∧ sell.minPriceInrPerKwh.isSome) with
  | true => exact Or.inr rfl
  | false => exact Or.inl rfl

/-- One buy and one sell trade the smaller of what both have, if anything. -/
theorem quantity_of_single {book : OrderBook} {buy sell : OrderBookEntry}
    (buys : book.buys = [buy]) (sells : book.sells = [sell]) :
    ∀ trade ∈ (clearing book).fills.map tradeOf,
      trade.quantityKwh = min buy.remainingKwh sell.remainingKwh := by
  intro trade member
  obtain ⟨fill, fillMember, rfl⟩ := List.mem_map.mp member
  have opened : (opening book).fills = [] := rfl
  have nothing : bookPairs book = [] → False := by
    intro none
    rw [clearing, none, GreedyFill.run_nil, opened] at fillMember
    cases fillMember
  rcases sortedBuys_single buys with noBuys | buySorted
  · exact (nothing (by simp [bookPairs, pairs, noBuys])).elim
  rcases sortedSells_single sells with noSells | sellSorted
  · exact (nothing (by simp [bookPairs, pairs, pairsOf, noSells])).elim
  by_cases compatible : Compatible buy sell
  · have pairs : bookPairs book = [(buy, sell)] := by
      simp [bookPairs, pairs, pairsOf, buySorted, sellSorted, compatible]
    have demand : (opening book).demand buy.orderId = buy.remainingKwh := by
      simp [opening, buySorted, remainingOf, Remaining.get]
    have supply : (opening book).supply sell.orderId = sell.remainingKwh := by
      simp [opening, sellSorted, remainingOf, Remaining.get]
    rw [clearing, pairs, GreedyFill.run_cons, GreedyFill.run_nil] at fillMember
    unfold GreedyFill.serve at fillMember
    split at fillMember
    · rw [GreedyFill.record, opened, List.nil_append, List.mem_singleton] at fillMember
      subst fillMember
      show GreedyFill.available orderAccounts (opening book) (buy, sell) = _
      rw [GreedyFill.available]
      show min ((opening book).demand buy.orderId) ((opening book).supply sell.orderId) = _
      rw [demand, supply]
    · rw [opened] at fillMember
      cases fillMember
  · exact (nothing (by simp [bookPairs, pairs, pairsOf, buySorted, sellSorted, compatible])).elim

private theorem eq_singleton_of_same {α β : Type} {key : α → β} {items : List α} {item : α}
    (distinct : (items.map key).Nodup) (member : item ∈ items)
    (same : ∀ other ∈ items, key other = key item) : items = [item] := by
  cases items with
  | nil => cases member
  | cons head rest =>
      cases rest with
      | nil => rw [List.mem_singleton.mp member]
      | cons next others =>
          have equal : key next = key head := by
            rw [same next (by simp), same head (by simp)]
          simp [equal] at distinct

/-- Of two orders of which each has the quantity left, a proposal is of the
quantity itself. -/
theorem quantity_of_pair {cap : ℚ} {start : Instant} {group : List Order} {proposal : ProposedTrade}
    (distinct : (group.map Order.id).Nodup) (enough : ∀ order ∈ group, cap ≤ order.remainingKwh)
    (opposite : ∀ left ∈ group, ∀ right ∈ group, left.side = right.side → left.id = right.id)
    (member : proposal ∈ (clearing (clearingBook (some cap) start group)).fills.map tradeOf) :
    proposal.quantityKwh = cap := by
  have ids : ∀ side, (((group.map (bookEntry (some cap))).filter fun entry =>
      entry.side = side).map OrderBookEntry.orderId).Nodup := by
    intro side
    have same : (group.map (bookEntry (some cap))).map OrderBookEntry.orderId =
        group.map Order.id := by
      rw [List.map_map]
      rfl
    rw [← same] at distinct
    exact distinct.sublist (List.filter_sublist.map _)
  obtain ⟨fill, _, _, buySorted, sellSorted, _⟩ := trade_pair member
  have buyMember := (mem_sortedBuys.mp buySorted).1
  have sellMember := (mem_sortedSells.mp sellSorted).1
  obtain ⟨buy, buyStored, isBuy, buyEntry⟩ := mem_buys.mp buyMember
  obtain ⟨sell, sellStored, isSell, sellEntry⟩ := mem_sells.mp sellMember
  have buys : (clearingBook (some cap) start group).buys = [fill.ticket.1] := by
    apply eq_singleton_of_same (ids .buy) buyMember
    intro entry entryMember
    obtain ⟨other, otherStored, isOther, rfl⟩ :=
      (@mem_buys (some cap) start group entry).mp entryMember
    rw [← buyEntry]
    exact opposite other otherStored buy buyStored (isOther.trans isBuy.symm)
  have sells : (clearingBook (some cap) start group).sells = [fill.ticket.2] := by
    apply eq_singleton_of_same (ids .sell) sellMember
    intro entry entryMember
    obtain ⟨other, otherStored, isOther, rfl⟩ :=
      (@mem_sells (some cap) start group entry).mp entryMember
    rw [← sellEntry]
    exact opposite other otherStored sell sellStored (isOther.trans isSell.symm)
  rw [quantity_of_single buys sells proposal member, ← buyEntry, ← sellEntry]
  show min (min buy.remainingKwh cap) (min sell.remainingKwh cap) = cap
  rw [min_eq_right (enough buy buyStored), min_eq_right (enough sell sellStored), min_self]

end UrjaSetu.Services.WorkspaceService
