import UrjaSetu.Domain.Policies.MatchingGuarantees

/-!
The baseline engine is deterministic: what it returns does not depend on how the
two sides of the book were listed.

Each sort key ends in the order id, so under distinct ids the sorted sides are
the same lists, and everything the loop reads comes from them. Only the lists of
unmatched ids follow the book's own order.
-/

namespace UrjaSetu.Domain.Policies.MatchingDeterminism

open UrjaSetu.Domain UrjaSetu.Domain.Interfaces
open UrjaSetu.Domain.Policies.MarketMatching UrjaSetu.Domain.Policies.MatchingGuarantees
open UrjaSetu.Library

/-- The same book with its sides listed in another order. -/
structure Relisted (book other : OrderBook) : Prop where
  buys : other.buys.Perm book.buys
  sells : other.sells.Perm book.sells

section

variable {book other : OrderBook}

/-- The id is the last component of both keys. -/
theorem keys_nodup {key : OrderBookEntry → SortKey} {entries : List OrderBookEntry}
    (ends : ∀ entry, (ofLex (ofLex (key entry)).2).2 = entry.orderId)
    (distinct : (entries.map OrderBookEntry.orderId).Nodup) : (entries.map key).Nodup := by
  apply List.Nodup.of_map fun sortKey : SortKey => (ofLex (ofLex sortKey).2).2
  rw [List.map_map]
  have ids : (fun sortKey : SortKey => (ofLex (ofLex sortKey).2).2) ∘ key =
      OrderBookEntry.orderId := funext ends
  rw [ids]
  exact distinct

private theorem sortedBuys_relisted (distinct : book.DistinctIds) (relisted : Relisted book other) :
    sortedBuys other = sortedBuys book := by
  have validPerm : (validBuys other).Perm (validBuys book) := relisted.buys.filter _
  have validIds : ((validBuys book).map OrderBookEntry.orderId).Nodup :=
    distinct.buys.sublist (List.filter_sublist.map _)
  have keys : ((validBuys book).map buyKey).Nodup := keys_nodup (fun _ => rfl) validIds
  exact (sortBy_eq_of_perm buyKey keys validPerm.symm).symm

private theorem sortedSells_relisted (distinct : book.DistinctIds)
    (relisted : Relisted book other) :
    sortedSells other = sortedSells book := by
  have validPerm : (validSells other).Perm (validSells book) := relisted.sells.filter _
  have validIds : ((validSells book).map OrderBookEntry.orderId).Nodup :=
    distinct.sells.sublist (List.filter_sublist.map _)
  have keys : ((validSells book).map sellKey).Nodup := keys_nodup (fun _ => rfl) validIds
  exact (sortBy_eq_of_perm sellKey keys validPerm.symm).symm

private theorem openingState_relisted (distinct : book.DistinctIds)
    (relisted : Relisted book other) :
    openingState other = openingState book := by
  unfold openingState
  rw [sortedBuys_relisted distinct relisted, sortedSells_relisted distinct relisted]

private theorem isEmpty_relisted (relisted : Relisted book other) :
    other.isEmpty = book.isEmpty := by
  rw [OrderBook.isEmpty, OrderBook.isEmpty, relisted.buys.isEmpty_eq, relisted.sells.isEmpty_eq]

private theorem unmatchedIds_perm (rem : Remaining) {entries relisted : List OrderBookEntry}
    (perm : relisted.Perm entries) : (unmatchedIds rem relisted).Perm (unmatchedIds rem entries) :=
  (perm.filter _).map _

end

/-- On a relisted book the engine returns the same trades in the same order, and
the same unmatched orders. -/
theorem matchRequest_deterministic (engine : BaselineMatchingEngine)
    (request relistedRequest : MatchingRequest) (distinct : request.orderBook.DistinctIds)
    (relisted : Relisted request.orderBook relistedRequest.orderBook) :
    ∃ result relistedResult, engine.matchRequest request = .ok result ∧
      engine.matchRequest relistedRequest = .ok relistedResult ∧
      relistedResult.trades = result.trades ∧
      relistedResult.unmatchedBuyOrderIds.Perm result.unmatchedBuyOrderIds ∧
      relistedResult.unmatchedSellOrderIds.Perm result.unmatchedSellOrderIds := by
  unfold BaselineMatchingEngine.matchRequest BaselineMatchingEngine.matchIn
  dsimp only
  rw [isEmpty_relisted relisted]
  by_cases empty : request.orderBook.isEmpty = true
  · rw [if_pos empty, if_pos empty]
    refine ⟨_, _, rfl, rfl, rfl, ?_, ?_⟩
    · exact relisted.buys.map _
    · exact relisted.sells.map _
  · have opened : Simulates (openingState request.orderBook) (opening request.orderBook) :=
      ⟨fun _ => rfl, fun _ => rfl, rfl⟩
    obtain ⟨state, returned, _⟩ :=
      visitBuys_refines opened (sortedBuys request.orderBook) (sortedSells request.orderBook)
    rw [sortedBuys_relisted distinct relisted, sortedSells_relisted distinct relisted,
      openingState_relisted distinct relisted, returned, if_neg empty, if_neg empty]
    refine ⟨_, _, rfl, rfl, rfl, ?_, ?_⟩
    · exact unmatchedIds_perm state.remBuys relisted.buys
    · exact unmatchedIds_perm state.remSells relisted.sells

def relistedSample : MatchingRequest :=
  { sampleRequest with
    orderBook := { sampleBook with
      buys := sampleBook.buys.reverse
      sells := sampleBook.sells.reverse } }

theorem matchRequest_deterministic_sample :
    ∃ result relistedResult, ({} : BaselineMatchingEngine).matchRequest sampleRequest = .ok result ∧
      ({} : BaselineMatchingEngine).matchRequest relistedSample = .ok relistedResult ∧
      relistedResult.trades = result.trades ∧
      relistedResult.unmatchedBuyOrderIds.Perm result.unmatchedBuyOrderIds ∧
      relistedResult.unmatchedSellOrderIds.Perm result.unmatchedSellOrderIds :=
  matchRequest_deterministic {} sampleRequest relistedSample (by decide +kernel)
    ⟨List.reverse_perm _, List.reverse_perm _⟩

end UrjaSetu.Domain.Policies.MatchingDeterminism
