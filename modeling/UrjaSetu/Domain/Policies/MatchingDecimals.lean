import UrjaSetu.Domain.Policies.MatchingGuarantees
import UrjaSetu.Library.DecimalContext

/-!
The baseline engine in the arithmetic of the decimal context.

Energy is stored in `NUMERIC(14, 4)` and prices in `NUMERIC(12, 4)`. The loop only
takes differences of residuals, each of the smaller from the larger, and halves
sums of two prices, so nothing it computes has more than the 28 digits the context
keeps.

Owns: that the residuals of a stored book stay values of their column, and that
rounding to the context changes no result.
-/

namespace UrjaSetu.Domain.Policies.MatchingGuarantees

open UrjaSetu.Domain UrjaSetu.Domain.Interfaces
open UrjaSetu.Domain.Policies.ClearingPrice UrjaSetu.Domain.Policies.MarketMatching
open UrjaSetu.Library.Rounding UrjaSetu.Library.DecimalContext

/-! ## Values of a column -/

private theorem contextRound_of_numeric {precision scale : ℕ} (few : scale ≤ 28)
    (narrow : precision ≤ 28)
    {value : ℚ} (column : Numeric precision scale value) : contextRound value = value := by
  apply contextRound_of_onGrid few column.onGrid
  exact column.width.trans_le (pow_le_pow_right₀ (by norm_num) (by omega))

/-- The midpoint of two prices needs one more decimal than they do. -/
theorem midpoint_exact {ceiling floor : ℚ} (ceilingStored : Numeric 12 4 ceiling)
    (floorStored : Numeric 12 4 floor) :
    contextRound (contextRound (ceiling + floor) / 2) = (ceiling + floor) / 2 := by
  have below := (abs_add_le ceiling floor).trans_lt
    (add_lt_add ceilingStored.width floorStored.width)
  have sum : Numeric 13 4 (ceiling + floor) := by
    refine ⟨ceilingStored.onGrid.add floorStored.onGrid, below.trans_le ?_⟩
    norm_num
  obtain ⟨units, whole⟩ := sum.onGrid
  have half : Numeric 13 5 ((ceiling + floor) / 2) := by
    refine ⟨⟨5 * units, ?_⟩, ?_⟩
    · push_cast
      rw [← whole]
      ring
    · rw [abs_div, abs_two]
      norm_num at below ⊢
      linarith
  rw [contextRound_of_numeric (by norm_num) (by norm_num) sum,
    contextRound_of_numeric (by norm_num) (by norm_num) half]

/-! ## Residuals -/

/-- No residual is negative, and each is a value of its column. -/
def HeldResiduals (rem : Remaining) : Prop :=
  ∀ orderId, 0 ≤ rem.get orderId ∧ Numeric 14 4 (rem.get orderId)

private theorem remainingOf_held {entries : List OrderBookEntry}
    (positive : ∀ entry ∈ entries, 0 < entry.remainingKwh)
    (stored : ∀ entry ∈ entries, entry.Stored) : HeldResiduals (remainingOf entries) := by
  apply @remainingOf_holds fun quantity => 0 ≤ quantity ∧ Numeric 14 4 quantity
  · exact ⟨le_rfl, OnGrid.zero, by norm_num⟩
  · intro entry member
    exact ⟨(positive entry member).le, (stored entry member).remaining⟩

/-- A residual is run down exactly, to a value of its column. -/
theorem HeldResiduals.subtract {rem : Remaining} (held : HeldResiduals rem) {orderId : UUID}
    {quantity : ℚ} (onGrid : OnGrid 4 quantity) (positive : 0 < quantity)
    (within : quantity ≤ rem.get orderId) :
    rem.subtract contextRound orderId quantity = rem.subtract id orderId quantity ∧
      HeldResiduals (rem.subtract id orderId quantity) := by
  obtain ⟨_, column⟩ := held orderId
  have left : 0 ≤ rem.get orderId - quantity := sub_nonneg.mpr within
  have difference : Numeric 14 4 (rem.get orderId - quantity) := by
    refine ⟨column.onGrid.sub onGrid, ?_⟩
    rw [abs_of_nonneg left]
    exact ((sub_le_self _ positive.le).trans (le_abs_self _)).trans_lt column.width
  constructor
  · unfold Remaining.subtract
    rw [contextRound_of_numeric (by norm_num) (by norm_num) difference, id_eq]
  · intro other
    rw [Remaining.get_subtract]
    by_cases own : other = orderId
    · rw [own, Function.update_self]
      exact ⟨left, difference⟩
    · rw [Function.update_of_ne own]
      exact held other

structure Held (state : MatchState) : Prop where
  buys : HeldResiduals state.remBuys
  sells : HeldResiduals state.remSells

section Loop

variable {state next : MatchState} {buy sell : OrderBookEntry}

private theorem proposeTrade_exact (buyStored : buy.Stored) (sellStored : sell.Stored) :
    proposeTrade contextRound state buy sell = proposeTrade id state buy sell := by
  unfold proposeTrade
  cases buyMax : buy.maxPriceInrPerKwh with
  | none => rfl
  | some ceiling =>
      cases sellMin : sell.minPriceInrPerKwh with
      | none => rfl
      | some floor =>
          simp only [midpointClearingPrice, id_eq,
            midpoint_exact (buyStored.maxPrice _ buyMax) (sellStored.minPrice _ sellMin)]

/-- A trade the loop proposes is recorded exactly. -/
theorem Held.record (held : Held state) {trade : ProposedTrade}
    (proposed : proposeTrade id state buy sell = .ok (some trade)) :
    state.record contextRound trade = state.record id trade ∧ Held (state.record id trade) := by
  obtain ⟨sameBuy, sameSell, positive, smaller⟩ := proposeTrade_eq_some proposed
  have onGrid : OnGrid 4 trade.quantityKwh := by
    rw [smaller]
    exact (held.buys buy.orderId).2.onGrid.min (held.sells sell.orderId).2.onGrid
  obtain ⟨sameBuys, buysHeld⟩ := held.buys.subtract onGrid positive
    (show trade.quantityKwh ≤ state.remBuys.get trade.buyOrderId by
      rw [smaller, sameBuy]
      exact min_le_left _ _)
  obtain ⟨sameSells, sellsHeld⟩ := held.sells.subtract onGrid positive
    (show trade.quantityKwh ≤ state.remSells.get trade.sellOrderId by
      rw [smaller, sameSell]
      exact min_le_right _ _)
  refine ⟨?_, buysHeld, sellsHeld⟩
  unfold MatchState.record
  rw [sameBuys, sameSells]

private theorem visitSells_exact (buyStored : buy.Stored) (sells : List OrderBookEntry)
    (sellsStored : ∀ sell ∈ sells, sell.Stored) (held : Held state) :
    visitSells contextRound buy sells state = visitSells id buy sells state ∧
      ∀ next, visitSells id buy sells state = .ok next → Held next := by
  induction sells generalizing state with
  | nil =>
      refine ⟨rfl, ?_⟩
      rintro next ⟨⟩
      exact held
  | cons sell rest inductionHypothesis =>
      have restStored : ∀ other ∈ rest, other.Stored := fun other member =>
        sellsStored other (List.mem_cons_of_mem _ member)
      simp only [visitSells, proposeTrade_exact buyStored (sellsStored sell List.mem_cons_self)]
      cases proposed : proposeTrade id state buy sell with
      | error error => exact ⟨rfl, fun next absurdity => by cases absurdity⟩
      | ok proposal =>
          cases proposal with
          | none => exact inductionHypothesis restStored held
          | some trade =>
              obtain ⟨same, recorded⟩ := held.record proposed
              dsimp only
              rw [same]
              split
              · refine ⟨rfl, ?_⟩
                rintro next ⟨⟩
                exact recorded
              · exact inductionHypothesis restStored recorded

private theorem visitBuys_exact (buys sells : List OrderBookEntry)
    (buysStored : ∀ buy ∈ buys, buy.Stored)
    (sellsStored : ∀ sell ∈ sells, sell.Stored) (held : Held state) :
    visitBuys contextRound sells buys state = visitBuys id sells buys state := by
  induction buys generalizing state with
  | nil => rfl
  | cons buy rest inductionHypothesis =>
      have restStored : ∀ other ∈ rest, other.Stored := fun other member =>
        buysStored other (List.mem_cons_of_mem _ member)
      obtain ⟨same, stays⟩ :=
        visitSells_exact (buysStored buy List.mem_cons_self) sells sellsStored held
      simp only [visitBuys, same]
      split
      · exact inductionHypothesis restStored held
      · cases visited : visitSells id buy sells state with
        | error error => rfl
        | ok inner => exact inductionHypothesis restStored (stays inner visited)

end Loop

/-- On a stored book the engine clears in the decimal context as it does exactly. -/
theorem matchIn_contextRound (engine : BaselineMatchingEngine) (request : MatchingRequest)
    (stored : request.orderBook.Stored) :
    engine.matchIn contextRound request = engine.matchRequest request := by
  have buysStored : ∀ buy ∈ sortedBuys request.orderBook, buy.Stored := fun buy member =>
    stored.buys buy (mem_sortedBuys.mp member).1
  have sellsStored : ∀ sell ∈ sortedSells request.orderBook, sell.Stored := fun sell member =>
    stored.sells sell (mem_sortedSells.mp member).1
  have opened : Held (openingState request.orderBook) := by
    constructor
    · exact remainingOf_held (fun buy member => (mem_sortedBuys.mp member).2.1) buysStored
    · exact remainingOf_held (fun sell member => (mem_sortedSells.mp member).2.1) sellsStored
  unfold BaselineMatchingEngine.matchRequest BaselineMatchingEngine.matchIn
  dsimp only
  rw [visitBuys_exact _ _ buysStored sellsStored opened]

end UrjaSetu.Domain.Policies.MatchingGuarantees
