import UrjaSetu.Domain.Policies.Settlement
import UrjaSetu.Library.Ties
import UrjaSetu.Services.WorkspaceService.AllocationConservation

/-!
The gross amount of a delivery against that of the standard calculator: the same
product, rounded to paise by the default context here and half up there.

Owns: the amounts on which the two settlement paths agree.
-/

namespace UrjaSetu.Services.WorkspaceService

open UrjaSetu.Domain UrjaSetu.Domain.Interfaces UrjaSetu.Db UrjaSetu.Db.Models UrjaSetu.Library
open UrjaSetu.Domain.Policies.CommunityEnergy UrjaSetu.Domain.Policies.Settlement
open UrjaSetu.Library.Rounding UrjaSetu.Library.DecimalContext

/-- The calculator's amount for what it settles. -/
theorem settle_grossAmountInr {calculator : StandardSettlementCalculator}
    {request : SettlementRequest} {result : SettlementResult}
    (measured : request.actual.quantityKwh.isSome = true)
    (returned : calculator.settle request = .ok result) :
    result.grossAmountInr = amountOf (contextRound
      (result.settledQuantityKwh * request.effectivePrice.priceInrPerKwh)) := by
  obtain ⟨quantity, isQuantity⟩ := Option.isSome_iff_exists.mp measured
  obtain ⟨figures, _, accounted⟩ := settle_measured isQuantity returned
  rw [accounted.gross, accounted.settled]

/-- The column keeps the amount a delivery was rounded to. -/
theorem asStored_grossAmountInr (delivery : Delivery) :
    delivery.settlement.asStored.grossAmountInr =
      grossInr delivery.kwh delivery.price.finalPrice :=
  quantize_of_onGrid halfUp (quantize_onGrid halfEven 2 _)

theorem asStored_settledKwh (delivery : Delivery) :
    delivery.settlement.asStored.settledKwh = delivery.kwh :=
  quantize_of_onGrid halfUp (quantize_onGrid down 4 _)

/-- What deliveries add to the settlements, of prices that were stored before. -/
theorem Deliveries.settlement_of_new {engines : Engines} {clock : Instant} {db next : Database}
    (deliveries : Deliveries engines clock db next) {row : Settlement}
    (stored : row ∈ next.settlements.rows) (new : row ∉ db.settlements.rows) :
    next.prices = db.prices ∧ ∃ delivery : Delivery, row = delivery.settlement.asStored ∧
      delivery.price ∈ db.prices.rows ∧ delivery.price.tradeId = row.tradeId ∧ 0 ≤ delivery.kwh := by
  have unchanged : ∀ later, Deliveries engines clock db later → later.prices = db.prices := by
    intro later reached
    induction reached with
    | refl => rfl
    | tail _ step inductionHypothesis =>
        obtain ⟨delivery, _, recorded⟩ := step
        rw [recorded.added.frame]
        exact inductionHypothesis
  refine ⟨unchanged next deliveries, ?_⟩
  induction deliveries with
  | refl => exact absurd stored new
  | @tail middle last reached step inductionHypothesis =>
      obtain ⟨delivery, _, recorded⟩ := step
      rw [recorded.added.settlements] at stored
      rcases List.mem_append.mp stored with earlier | isLast
      · exact inductionHypothesis earlier
      · have isDelivery := List.mem_singleton.mp isLast
        have found := Table.find?_mem recorded.read.price
        rw [unchanged middle reached] at found
        refine ⟨delivery, isDelivery, found.1, ?_, recorded.read.kwh_le.1⟩
        rw [isDelivery]
        exact of_decide_eq_true found.2

/-- On every settlement that `reconcile_due` records, the two paths agree exactly
where the product is no tie above an even number of paise. -/
theorem reconcileDue_gross_iff {engines : Engines} {sim : Simulation} {unit after : Session}
    (flushed : unit.pending = []) (manual : unit.autoflush = false)
    (ran : reconcileDue engines sim unit = (.ok (), after)) {row : Settlement}
    (stored : row ∈ after.working.settlements.rows) (new : row ∉ unit.working.settlements.rows) :
    ∃ price ∈ unit.working.prices.rows, price.tradeId = row.tradeId ∧
      ∀ (calculator : StandardSettlementCalculator) (request : SettlementRequest)
          (result : SettlementResult), request.actual.quantityKwh.isSome = true →
        calculator.settle request = .ok result → result.settledQuantityKwh = row.settledKwh →
        request.effectivePrice.priceInrPerKwh = price.finalPrice →
        (row.grossAmountInr = result.grossAmountInr ↔
          ¬ EvenTie (contextRound (row.settledKwh * price.finalPrice) * 100)) := by
  have deliveries := ((@reconcileDue_ensures unit.committed unit engines sim
    ⟨rfl, flushed, manual⟩).returned ran).2
  obtain ⟨_, delivery, rfl, priceStored, isPrice, kwhNonneg⟩ :=
    deliveries.settlement_of_new stored new
  refine ⟨delivery.price, priceStored, isPrice, ?_⟩
  intro calculator request result measured returned sameKwh samePrice
  have priceNonneg : 0 ≤ delivery.price.finalPrice := by
    have checked := unit.working.prices.checked delivery.price priceStored
    simp only [priceComponents, Bool.and_eq_true, decide_eq_true_eq] at checked
    exact checked.1.1.1.2
  rw [settle_grossAmountInr measured returned, sameKwh, samePrice, asStored_grossAmountInr,
    asStored_settledKwh]
  have product : 0 ≤ contextRound (delivery.kwh * delivery.price.finalPrice) :=
    contextRound_nonneg (mul_nonneg kwhNonneg priceNonneg)
  have parts := @quantize_halfEven_eq_halfUp_iff 2 _ product
  norm_num at parts
  exact parts

/-- Half a kilowatt-hour is due at a price. -/
def halfPriced (prices : Table priceComponents) : Database :=
  twoHouseholds quarterReadings
    ⟨[quarterTrade 41 1 (1 / 2)], by decide +kernel, by decide +kernel⟩ prices

/-- Half a kilowatt-hour at a paisa. -/
def halfPaisa : Database :=
  halfPriced ⟨[flatPrice 81 41 (1 / 100)], by decide +kernel, by decide +kernel⟩

/-- Half a kilowatt-hour at a rupee. -/
def halfRupee : Database :=
  halfPriced ⟨[flatPrice 81 41 1], by decide +kernel, by decide +kernel⟩

/-- The session of `reconcile_due`, and how it ends. -/
def dueEnd (due : Database) : Except Failure Unit × Session :=
  reconcileDue idleEngines due.simulation (Work.begin_ due (countingOutside 1000))

/-- The same trade, for the calculator. -/
def halfRequest (price : ℚ) : SettlementRequest where
  tradeId := 41
  buyerUserId := 12
  sellerUserId := 11
  committedQuantityKwh := 1 / 2
  effectivePrice := { priceInrPerKwh := price }
  deliveryStart := 0
  deliveryEnd := INTERVAL
  actual := { windowStart := 0, windowEnd := INTERVAL, quantityKwh := some (1 / 2), readingCount := 1 }

/-- Half a paisa is recorded as none, and the calculator makes it one. -/
theorem halfPaisa_gross :
    (dueEnd halfPaisa).2.working.settlements.rows.map
        (fun row => (row.settledKwh, row.grossAmountInr)) = [(1 / 2, 0)] ∧
      (({} : StandardSettlementCalculator).settle (halfRequest (1 / 100))).map
        (fun result => (result.settledQuantityKwh, result.grossAmountInr)) =
          .ok (1 / 2, 1 / 100) := by
  constructor
  · decide +kernel
  · decide +kernel

/-- At a paisa the two paths differ, at a rupee they agree. -/
theorem reconcileDue_gross_iff_sample :
    (∃ row ∈ (dueEnd halfPaisa).2.working.settlements.rows, ∃ result,
      ({} : StandardSettlementCalculator).settle (halfRequest (1 / 100)) = .ok result ∧
        row.grossAmountInr ≠ result.grossAmountInr) ∧
    ∃ row ∈ (dueEnd halfRupee).2.working.settlements.rows, ∃ result,
      ({} : StandardSettlementCalculator).settle (halfRequest 1) = .ok result ∧
        row.grossAmountInr = result.grossAmountInr := by
  constructor
  · obtain ⟨row, stored, half⟩ : ∃ row ∈ (dueEnd halfPaisa).2.working.settlements.rows,
        row.settledKwh = 1 / 2 := by decide +kernel
    obtain ⟨price, isPrice, _, agree⟩ := @reconcileDue_gross_iff idleEngines halfPaisa.simulation
      (Work.begin_ halfPaisa (countingOutside 1000)) (dueEnd halfPaisa).2 rfl rfl
      (Prod.ext (by decide +kernel) rfl) row stored List.not_mem_nil
    obtain ⟨result, returned, settled⟩ := map_eq_ok.mp
      (show (({} : StandardSettlementCalculator).settle (halfRequest (1 / 100))).map
        SettlementResult.settledQuantityKwh = .ok (1 / 2) by decide +kernel)
    rw [List.mem_singleton.mp isPrice] at agree
    refine ⟨row, stored, result, returned, ?_⟩
    rw [ne_eq, agree {} (halfRequest (1 / 100)) result rfl returned (settled.trans half.symm) rfl,
      half]
    decide +kernel
  · obtain ⟨row, stored, half⟩ : ∃ row ∈ (dueEnd halfRupee).2.working.settlements.rows,
        row.settledKwh = 1 / 2 := by decide +kernel
    obtain ⟨price, isPrice, _, agree⟩ := @reconcileDue_gross_iff idleEngines halfRupee.simulation
      (Work.begin_ halfRupee (countingOutside 1000)) (dueEnd halfRupee).2 rfl rfl
      (Prod.ext (by decide +kernel) rfl) row stored List.not_mem_nil
    obtain ⟨result, returned, settled⟩ := map_eq_ok.mp
      (show (({} : StandardSettlementCalculator).settle (halfRequest 1)).map
        SettlementResult.settledQuantityKwh = .ok (1 / 2) by decide +kernel)
    rw [List.mem_singleton.mp isPrice] at agree
    refine ⟨row, stored, result, returned, ?_⟩
    rw [agree {} (halfRequest 1) result rfl returned (settled.trans half.symm) rfl, half]
    decide +kernel

end UrjaSetu.Services.WorkspaceService
