import UrjaSetu.Services.SettlementService.Effects

/-!
The settlement of a trade whose delivery was not measured: a reconciliation is
committed, and the refusal is raised after it.

Owns: what such a commit leaves, and that one which nothing overtakes ends in it.
-/

namespace UrjaSetu.Services.SettlementService

open UrjaSetu.Core UrjaSetu.Domain UrjaSetu.Domain.Interfaces UrjaSetu.Db UrjaSetu.Db.Models
open UrjaSetu.Domain.Policies.AuditChain UrjaSetu.Domain.Policies.Settlement UrjaSetu.Library
open UrjaSetu.Library.Transaction UrjaSetu.Library.Rounding UrjaSetu.Library.DecimalContext
open UrjaSetu.Repositories.Settlement UrjaSetu.Repositories.Telemetry
open UrjaSetu.Services.AuditService

/-- What is measured of the delivery of a trade: nothing, where no valid reading of
the seller's site carries energy in its window. -/
def deliveredKwh (db : Database) (tradeId : UUID) : Option ℚ := do
  let trade ← db.trades.find? fun row => row.id = tradeId
  let sell ← db.orders.find? fun row => row.id = trade.sellOrderId
  measuredKwh db sell.siteId trade.deliveryStart trade.deliveryEnd

/-- The rows that a settlement of an unmeasured delivery leaves: a reconciliation of
the trade that awaits telemetry, and no settlement. -/
structure Unsettled (tradeId : UUID) (db next : Database) : Prop where
  reconciled : ∃ row, next.reconciliations.rows = db.reconciliations.rows ++ [row] ∧
    row.tradeId = tradeId ∧ row.reconciliationStatus.isComplete = false
  settlements : next.settlements = db.settlements

section

variable {calculator : StandardSettlementCalculator} {tradeId : UUID} {result : SettlementResult}
  {response : Response} {db next : Database}

/-- A settlement of an unmeasured delivery is one that is refused. -/
theorem Calculated.isComplete_iff {trade : Trade} {buy sell : Order} {price : PriceComponents}
    {actual : ActualEnergy}
    (calculated : Calculated calculator db tradeId result trade buy sell price actual) :
    result.reconciliation.status.isComplete = (deliveredKwh db tradeId).isSome := by
  have delivered : deliveredKwh db tradeId = actual.quantityKwh := by
    unfold deliveredKwh
    rw [calculated.tradeFound, Option.bind_eq_bind, Option.bind_some, calculated.sellFound,
      Option.bind_eq_bind, Option.bind_some, calculated.measured]
  rw [delivered]
  cases measured : actual.quantityKwh with
  | none =>
      rw [settle_unmeasured measured calculated.settled]
      rfl
  | some quantityKwh =>
      obtain ⟨figures, _, accounted⟩ := settle_measured measured calculated.settled
      rw [accounted.reconciliation]
      rfl

/-- An unmeasured delivery gets a reconciliation that awaits telemetry, and no
settlement. -/
theorem Effect.unmeasured {at_ : Option Instant}
    (effect : Effect (.settleTrade calculator tradeId at_) response db next)
    (unmeasured : deliveredKwh db tradeId = none) : Unsettled tradeId db next := by
  cases effect with
  | refused compared incomplete unsettled =>
      obtain ⟨id, createdAt, rows⟩ := compared.reconciliations
      exact ⟨⟨_, rows, rfl, incomplete⟩, unsettled⟩
  | settled compared complete _ =>
      obtain ⟨trade, buy, sell, price, actual, calculated⟩ := compared.calculated
      rw [calculated.isComplete_iff, unmeasured] at complete
      cases complete

end

/-! ## A settlement that nothing overtakes -/

/-- A trade that can be settled: its parties, their price and the seller's site are
found, and its quantity is one that the column holds. -/
structure Settleable (db : Database) (tradeId : UUID) (trade : Trade) (buy sell : Order)
    (price : PriceComponents) : Prop extends Parties db tradeId trade buy sell where
  priceFound : latestForTrade db trade.id = some price
  siteKnown : (db.community.sites.any fun site => site.id = sell.siteId) = true
  stored : OnGrid energyPlaces trade.quantityKwh
  small : trade.quantityKwh < 10 ^ 24

/-- The identifier is new to the rows that a comparison inserts. -/
structure Unused (db : Database) (supply : Supply) : Prop where
  reconciliation : ∀ row ∈ db.reconciliations.rows, row.id ≠ supply.identifier
  event : supply.identifier ∉ db.audit.rows.map AuditEventRecord.id

theorem Unused.of_empty {db : Database} (unreconciled : db.reconciliations.rows = [])
    (empty : db.audit.rows = []) (supply : Supply) : Unused db supply where
  reconciliation := by
    rw [unreconciled]
    exact fun _ absurdity => absurd absurdity List.not_mem_nil
  event := by
    rw [empty]
    exact List.not_mem_nil

section Unmeasured

variable {usable : Supply → Prop} {calculator : StandardSettlementCalculator} {db : Database}
  {tradeId : UUID} {trade : Trade} {buy sell : Order} {price : PriceComponents}

private theorem Settleable.positive (settleable : Settleable db tradeId trade buy sell price) :
    0 < trade.quantityKwh := by
  have check := db.trades.checked trade (Table.find?_mem settleable.tradeFound).1
  simp only [Models.trades, Bool.and_eq_true, decide_eq_true_eq] at check
  exact check.1.1.1

/-- Nothing measured of a quantity that the column holds makes a result that awaits
telemetry. -/
theorem ends_settle (settleable : Settleable db tradeId trade buy sell price)
    {effective : EffectivePrice} {actual : ActualEnergy} (unmeasured : actual.quantityKwh = none)
    {failure : DecimalSignal → Failure} {post : SettlementResult → Database → Prop}
    (each : ∀ result, result.reconciliation =
      awaitingTelemetry calculator.policy trade.quantityKwh → post result db) :
    Ends usable (lift ((calculator.settle (requestOf trade buy sell effective actual)).mapError
      failure)) db post := by
  have held : quantizeEnergy (requestOf trade buy sell effective actual).committedQuantityKwh =
      .ok trade.quantityKwh :=
    quantizeEnergy_stored settleable.stored
      ((abs_of_pos settleable.positive).trans_lt settleable.small)
  unfold StandardSettlementCalculator.settle reconcile
  rw [held, show (requestOf trade buy sell effective actual).actual.quantityKwh = none from
    unmeasured]
  exact (ends_lift rfl).mpr (each _ rfl)

/-- What is found of the trade and its delivery makes that result. -/
theorem ends_calculate (settleable : Settleable db tradeId trade buy sell price)
    (unmeasured : deliveredKwh db tradeId = none) {post : SettlementResult → Database → Prop}
    (each : ∀ result, result.reconciliation =
      awaitingTelemetry calculator.policy trade.quantityKwh → post result db) :
    Ends usable (calculate calculator tradeId) db post := by
  have delivered : measuredKwh db sell.siteId trade.deliveryStart trade.deliveryEnd = none := by
    rw [← unmeasured]
    unfold deliveredKwh
    rw [settleable.tradeFound, Option.bind_eq_bind, Option.bind_some, settleable.sellFound,
      Option.bind_eq_bind, Option.bind_some]
  unfold calculate buildRequest orderById effectivePriceFor measureActual
  simp only [ends_bind, ends_query, Txn.ends_orRaise settleable.tradeFound,
    Txn.ends_orRaise settleable.buyFound, Txn.ends_orRaise settleable.sellFound,
    Txn.ends_orRaise settleable.priceFound, Txn.ends_require settleable.siteKnown, ends_pure,
    totalOf_aggregate]
  apply ends_settle settleable _ each
  exact delivered

/-- A new reconciliation that awaits telemetry is inserted, and its event appended. -/
theorem ends_recordReconciliation {sha256 : String → String}
    (settleable : Settleable db tradeId trade buy sell price) (appendable : Appendable sha256 db)
    {result : SettlementResult} (awaiting : result.reconciliation =
      awaitingTelemetry calculator.policy trade.quantityKwh)
    (isStorable : storable calculator.policy.policyVersion = true)
    {post : MeterReconciliation → Database → Prop}
    (each : ∀ row next, (∃ stored, next.reconciliations.rows = db.reconciliations.rows ++ [stored] ∧
      stored.tradeId = tradeId ∧ stored.reconciliationStatus.isComplete = false) →
      next.settlements = db.settlements → post row next) :
    Ends (Unused db) (recordReconciliation sha256 tradeId result) db post := by
  unfold recordReconciliation
  rw [ends_bind, Txn.ends_utcNow]
  intro clock _
  rw [ends_bind, Txn.ends_uuid4]
  intro drawn unused
  have kept : numeric4 trade.quantityKwh = trade.quantityKwh :=
    quantize_of_onGrid halfUp settleable.stored
  have nothing : numeric4 0 = 0 := quantize_zero halfUp
  have check : meterReconciliations.check (reconciliationRow drawn.identifier clock.moment tradeId
      result.reconciliation).asStored = true := by
    simp [reconciliationRow, awaiting, awaitingTelemetry, meterReconciliations,
      MeterReconciliation.asStored, kept, nothing, settleable.positive]
  obtain ⟨table, inserted⟩ := @Table.insert_of_allowed _ _ db.reconciliations _ check
    fun other stored => decide_eq_false (unused.reconciliation other stored)
  dsimp only
  rw [ends_bind, ends_statement]
  refine ⟨{ db with reconciliations := table }, Relation.insert_of_some inserted, ?_⟩
  have appendableNow : Appendable sha256 { db with reconciliations := table } :=
    ⟨appendable.head, appendable.digest⟩
  rw [ends_bind, tradeReconciled]
  apply ends_buildEvent
  intro supply unusedEvent event named payload
  rw [ends_bind]
  apply ends_append appendableNow
  · unfold SupportedEvent
    rw [payload, Dict.ofItems_entries]
    · have decimals : ∀ value, supported (decimalValue value) = true := fun _ => rfl
      have identifiers : ∀ value, supported (.uuid value) = true := fun _ => rfl
      rw [awaiting]
      simp only [supportedEntries, supported_ofOption decimals, supported_ofOption identifiers,
        decimals, identifiers, Bool.and_true]
      simp only [supported, reconciliationRow, awaitingTelemetry, isStorable]
      decide
    · simp
  · rw [named]
    exact unusedEvent.event
  · intro sealed log
    rw [ends_pure]
    apply each
    · refine ⟨_, (Table.insert_eq_some inserted).1, rfl, ?_⟩
      show result.reconciliation.status.isComplete = false
      rw [awaiting]
      rfl
    · rfl

/-- A settlement of an unmeasured delivery is refused after its commit, not before. -/
theorem ends_settleTrade {sha256 : String → String} {at_ : Option Instant}
    (settleable : Settleable db tradeId trade buy sell price)
    (unmeasured : deliveredKwh db tradeId = none) (appendable : Appendable sha256 db)
    (isStorable : storable calculator.policy.policyVersion = true) :
    Ends (Unused db) (handle sha256 (.settleTrade calculator tradeId at_)) db
      fun _ next => Unsettled tradeId db next := by
  unfold handle settleTrade
  simp only [ends_bind]
  apply Txn.ends_momentOf
  intro moment
  apply ends_calculate settleable unmeasured
  intro result awaiting
  apply ends_recordReconciliation settleable appendable awaiting isStorable
  intro row next reconciled settlements
  rw [awaiting, show (awaitingTelemetry calculator.policy trade.quantityKwh).status.isComplete =
    false from rfl, if_neg Bool.false_ne_true, ends_pure, ends_pure]
  exact ⟨reconciled, settlements⟩

end Unmeasured

end UrjaSetu.Services.SettlementService
