import UrjaSetu.Services.SettlementService.Effects
import UrjaSetu.Services.WorkspaceService.AllocationConservation

/-!
The table of reconciliations, which two services write.

`settlement_service` and `workspace_service.reconcile_due` each compare a trade
with what was measured of it, by formulas of their own. Settlement requests are
transactions that overlap; an operation of the workspace holds its lock and reads
nothing that a settlement writes but the head of the audit log, so it is one
statement of a transaction here.

Owns: the law of the balancing column, and exactly when the rows of both services
keep it.
-/

namespace UrjaSetu.Services.Reconciliations

open UrjaSetu.Core UrjaSetu.Domain UrjaSetu.Domain.Interfaces UrjaSetu.Db UrjaSetu.Db.Models
open UrjaSetu.Domain.Policies.Settlement UrjaSetu.Library UrjaSetu.Library.Transaction
open UrjaSetu.Library.Rounding UrjaSetu.Services.SettlementService UrjaSetu.Services.WorkspaceService

/-- The law of `balancing_kwh`: what the grid had to supply, which is zero unless a
shortfall breached the tolerance. -/
def Balanced (row : MeterReconciliation) : Prop :=
  0 ≤ row.balancingKwh ∧ (row.withinTolerance = true → row.balancingKwh = 0)

private theorem Balanced.asStored {row : MeterReconciliation} (balanced : Balanced row) :
    Balanced row.asStored := by
  constructor
  · exact quantize_nonneg halfUp balanced.1
  · intro within
    have nothing : row.balancingKwh = 0 := balanced.2 within
    show numeric4 row.balancingKwh = 0
    rw [nothing]
    exact quantize_zero halfUp

/-! ## Settlement requests -/

/-- A settlement request compares by the policy, which keeps the law. -/
theorem settle_balanced {calculator : StandardSettlementCalculator} {request : SettlementRequest}
    {result : SettlementResult} (returned : calculator.settle request = .ok result)
    (id tradeId : UUID) (createdAt : Instant) :
    Balanced (reconciliationRow id createdAt tradeId result.reconciliation) := by
  cases measured : request.actual.quantityKwh with
  | none =>
      rw [settle_unmeasured measured returned]
      exact ⟨le_rfl, fun _ => rfl⟩
  | some quantityKwh =>
      obtain ⟨figures, compared, accounted⟩ := settle_measured measured returned
      rw [accounted.reconciliation]
      refine ⟨compared.balancing_nonneg, ?_⟩
      intro within
      exact compared.balancing.trans (if_pos within)

/-- One reconciliation was added, and nothing else but settlements and the log was
written. -/
structure Compared (row : MeterReconciliation) (db next : Database) : Prop where
  rows : next.reconciliations.rows = db.reconciliations.rows ++ [row]
  rest : next = { db with
    reconciliations := next.reconciliations
    settlements := next.settlements
    audit := next.audit }

/-- Executing `log` adds one reconciliation, which keeps the law. -/
def Compares (log : List (Database → Except Failure Database)) : Prop :=
  ∀ db next, replay log db = .ok next → ∃ row, Balanced row ∧ Compared row db next

private theorem Compares.concat {log : List (Database → Except Failure Database)}
    (compares : Compares log)
    {change : Database → Except Failure Database}
    (kept : ∀ db next, change db = .ok next →
      next = { db with settlements := next.settlements, audit := next.audit }) :
    Compares (log ++ [change]) := by
  intro db final executed
  obtain ⟨middle, before, changed⟩ := replay_concat_ok executed
  obtain ⟨row, balanced, compared⟩ := compares db middle before
  have same := kept middle final changed
  have reconciliations : final.reconciliations = middle.reconciliations := by rw [same]
  refine ⟨row, balanced, ?_, ?_⟩
  · rw [reconciliations]
    exact compared.rows
  · rw [reconciliations]
    exact same.trans (by rw [compared.rest])

section

variable {valid : Database → Prop} {rely : Database → Database → Prop}
  {known : Database → Prop} {log : List (Database → Except Failure Database)}
  {calculator : StandardSettlementCalculator} {tradeId : UUID} {sha256 : String → String}

/-- Whatever the others do, what is calculated is a result of the calculator. -/
theorem wp_calculate_result
    {post : SettlementResult → List (Database → Except Failure Database) →
      (Database → Prop) → Prop}
    (each : ∀ request result (laterKnown : Database → Prop),
      calculator.settle request = .ok result → post result log laterKnown) :
    Wp valid rely (calculate calculator tradeId) post log known := by
  unfold calculate buildRequest orderById effectivePriceFor measureActual
  simp only [wp_bind, wp_query, Txn.wp_orRaise, Txn.wp_require, wp_pure, wp_lift, mapError_eq_ok]
  intros
  apply each
  assumption

private theorem insertAudit_kept {row : AuditEventRecord} {db next : Database}
    (inserted : insertAudit row db = .ok next) :
    next = { db with settlements := next.settlements, audit := next.audit } := by
  obtain ⟨table, _, rfl⟩ := insertAudit_ok inserted
  rfl

private theorem wp_recordReconciliation_compares {result : SettlementResult}
    (balanced : ∀ id createdAt, Balanced (reconciliationRow id createdAt tradeId
      result.reconciliation))
    {post : MeterReconciliation → List (Database → Except Failure Database) →
      (Database → Prop) → Prop}
    (each : ∀ row log (laterKnown : Database → Prop), Compares log → post row log laterKnown) :
    Wp valid rely (recordReconciliation sha256 tradeId result) post [] known := by
  unfold recordReconciliation
  rw [wp_bind]
  apply Txn.wp_utcNow
  intro createdAt
  rw [wp_bind]
  apply Txn.wp_uuid4
  intro id
  dsimp only
  rw [wp_bind, wp_statement]
  intro _ _ _ _ _
  rw [wp_bind, AuditService.tradeReconciled]
  apply AuditService.wp_buildEvent
  intro event
  rw [wp_bind]
  apply AuditService.wp_append
  intro row read seen inserted _ _ _ _ _ _
  rw [wp_pure]
  apply each
  apply Compares.concat _ fun _ _ => insertAudit_kept
  intro db next executed
  obtain ⟨start, same, added⟩ := replay_concat_ok executed
  cases same
  obtain ⟨rest, rows⟩ := insertReconciliation_rows added
  exact ⟨_, (balanced id createdAt).asStored, rows, rest.trans (by rw [rest])⟩

private theorem wp_recordSettlement_compares {result : SettlementResult} {moment : Instant}
    (compares : Compares log)
    {post : Settlement → List (Database → Except Failure Database) → (Database → Prop) → Prop}
    (each : ∀ row log (laterKnown : Database → Prop), Compares log → post row log laterKnown) :
    Wp valid rely (recordSettlement sha256 calculator tradeId result moment) post log known := by
  unfold recordSettlement
  rw [wp_bind, wp_lift]
  intro _ _
  rw [wp_bind, wp_query]
  intro _ listed _ _ _
  rw [wp_bind]
  apply Txn.wp_uuid4
  intro id
  dsimp only
  rw [wp_bind, wp_statement]
  intro _ _ _ _ _
  rw [wp_bind, wp_statement]
  intro _ _ _ _ _
  rw [wp_bind, AuditService.tradeSettled]
  apply AuditService.wp_buildEvent
  intro event
  rw [wp_bind]
  apply AuditService.wp_append
  intro row read seen inserted _ _ _ _ _ _
  rw [wp_pure]
  apply each
  apply Compares.concat _ fun _ _ => insertAudit_kept
  apply Compares.concat
  · apply compares.concat
    intro db next superseded
    obtain ⟨table, _, rfl⟩ := Relation.modify_ok superseded
    rfl
  · intro db next inserted
    obtain ⟨table, _, rfl⟩ := Relation.insert_ok inserted
    rfl

private theorem handle_compares (request : Request) :
    Wp valid rely (handle sha256 request) (fun _ log _ => Compares log) [] known := by
  cases request with
  | reconcileTrade calculator tradeId =>
      unfold handle reconcileTrade
      simp only [wp_bind]
      apply wp_calculate_result
      intro settling result calculatedKnown returned
      apply wp_recordReconciliation_compares
        fun id createdAt => settle_balanced returned id tradeId createdAt
      intro row log laterKnown compares
      rw [wp_pure, wp_pure]
      exact compares
  | settleTrade calculator tradeId at_ =>
      unfold handle settleTrade
      simp only [wp_bind]
      apply Txn.wp_momentOf
      intro moment
      apply wp_calculate_result
      intro settling result calculatedKnown returned
      apply wp_recordReconciliation_compares
        fun id createdAt => settle_balanced returned id tradeId createdAt
      intro row log laterKnown compares
      split
      · rw [wp_bind]
        apply wp_recordSettlement_compares compares
        intro settlement later settledKnown still
        rw [wp_pure, wp_pure]
        exact still
      · rw [wp_pure, wp_pure]
        exact compares

end

/-! ## Workspace deliveries -/

/-- What the readings leave a trade short of: its quantity, less what both have left
for it in whole steps of 0.0001 kWh. -/
def shortfallKwh (delivery : Delivery) : ℚ :=
  delivery.trade.quantityKwh -
    quantize down 4 (min (min delivery.trade.quantityKwh delivery.seller.kwh) delivery.buyer.kwh)

/-- The readings cover the trade, or leave it short by more than 5% of its
quantity. -/
def Clear (delivery : Delivery) : Prop :=
  numeric4 (shortfallKwh delivery) = 0 ∨
    delivery.trade.quantityKwh * (5 / 100) < shortfallKwh delivery

private theorem shortfallKwh_nonneg (delivery : Delivery)
    (positive : 0 < delivery.trade.quantityKwh) (sellerNonneg : 0 ≤ delivery.seller.kwh)
    (buyerNonneg : 0 ≤ delivery.buyer.kwh) : 0 ≤ shortfallKwh delivery := by
  have taken : quantize down 4
      (min (min delivery.trade.quantityKwh delivery.seller.kwh) delivery.buyer.kwh) ≤
        min (min delivery.trade.quantityKwh delivery.seller.kwh) delivery.buyer.kwh :=
    quantize_down_le (le_min (le_min positive.le sellerNonneg) buyerNonneg)
  have within : min (min delivery.trade.quantityKwh delivery.seller.kwh) delivery.buyer.kwh ≤
      delivery.trade.quantityKwh := (min_le_left _ _).trans (min_le_left _ _)
  exact sub_nonneg.mpr (taken.trans within)

/-- On a stored quantity: what is left covers it, or does not cover 95% of it. -/
theorem clear_iff (delivery : Delivery) (stored : OnGrid 4 delivery.trade.quantityKwh)
    (sellerNonneg : 0 ≤ delivery.seller.kwh)
    (buyerNonneg : 0 ≤ delivery.buyer.kwh) :
    Clear delivery ↔ delivery.trade.quantityKwh ≤ min delivery.seller.kwh delivery.buyer.kwh ∨
      quantize down 4 (min delivery.seller.kwh delivery.buyer.kwh) <
        delivery.trade.quantityKwh * (95 / 100) := by
  let quantity := delivery.trade.quantityKwh
  let left := min delivery.seller.kwh delivery.buyer.kwh
  have leftNonneg : 0 ≤ left := le_min sellerNonneg buyerNonneg
  have taken : shortfallKwh delivery = quantity - quantize down 4 (min quantity left) := by
    unfold shortfallKwh
    rw [min_assoc]
  by_cases covered : quantity ≤ left
  · have nothing : shortfallKwh delivery = 0 := by
      rw [taken, min_eq_left covered, quantize_of_onGrid down stored, sub_self]
    constructor
    · exact fun _ => .inl covered
    · intro _
      apply Or.inl
      rw [nothing]
      exact quantize_zero halfUp
  · have short : shortfallKwh delivery = quantity - quantize down 4 left := by
      rw [taken, min_eq_right (not_le.mp covered).le]
    have floored : quantize down 4 left ≤ left := quantize_down_le leftNonneg
    have onGrid : numeric4 (shortfallKwh delivery) = shortfallKwh delivery := by
      rw [short]
      exact quantize_of_onGrid halfUp (stored.sub (quantize_onGrid down 4 left))
    unfold Clear
    rw [onGrid, short]
    constructor
    · rintro (nothing | large)
      · linarith [not_le.mp covered]
      · exact .inr (by linarith)
    · rintro (covers | large)
      · exact absurd covers covered
      · exact .inr (by linarith)

/-- A delivery keeps the law exactly where it is clear. -/
theorem delivery_balanced_iff (delivery : Delivery) (positive : 0 < delivery.trade.quantityKwh)
    (sellerNonneg : 0 ≤ delivery.seller.kwh) (buyerNonneg : 0 ≤ delivery.buyer.kwh) :
    Balanced delivery.reconciliation.asStored ↔ Clear delivery := by
  have short := shortfallKwh_nonneg delivery positive sellerNonneg buyerNonneg
  have balancing : delivery.reconciliation.asStored.balancingKwh =
      numeric4 (shortfallKwh delivery) := by
    show numeric4 (-(delivery.kwh - delivery.trade.quantityKwh)) = _
    rw [neg_sub]
    rfl
  have within : delivery.reconciliation.asStored.withinTolerance =
      decide (shortfallKwh delivery ≤ delivery.trade.quantityKwh * (5 / 100)) := by
    show decide (|delivery.kwh - delivery.trade.quantityKwh| ≤ _) = _
    rw [abs_sub_comm]
    show decide (|shortfallKwh delivery| ≤ _) = _
    rw [abs_of_nonneg short]
  unfold Balanced Clear
  rw [balancing, within, decide_eq_true_eq, ← not_le]
  constructor
  · rintro ⟨_, nothing⟩
    by_cases small : shortfallKwh delivery ≤ delivery.trade.quantityKwh * (5 / 100)
    · exact .inl (nothing small)
    · exact .inr small
  · rintro (nothing | large)
    · exact ⟨nothing.ge, fun _ => nothing⟩
    · exact ⟨quantize_nonneg halfUp short, fun small => absurd small large⟩

private theorem recorded_balanced_iff {engines : Engines} {delivery : Delivery} {db next : Database}
    (recorded : delivery.Recorded engines db next) :
    Balanced delivery.reconciliation.asStored ↔ Clear delivery := by
  have checked := db.trades.checked delivery.trade recorded.read.stored
  simp only [trades, Bool.and_eq_true, decide_eq_true_eq] at checked
  have measuredNonneg : ∀ {order channel fk taken},
      measured delivery.trade order channel fk db = some taken → 0 ≤ taken.kwh := by
    intro order channel fk taken isMeasured
    obtain ⟨_, total, _, left⟩ := measured_eq_some isMeasured
    rw [left]
    exact le_max_left 0 _
  exact delivery_balanced_iff delivery checked.1.1.1 (measuredNonneg recorded.read.seller)
    (measuredNonneg recorded.read.buyer)

/-! ## Runs -/

/-- A settlement request, or an operation of the workspace with what its session
draws. -/
inductive Activity where
  | settlement (request : Request)
  | workspace (operation : Operation) (outside : Outside)

def perform (engines : Engines) : Activity → Txn Unit
  | .settlement request => do
      let _ ← handle engines.sha256 request
      pure ()
  | .workspace operation outside =>
      statement fun db => .ok (Work.serve (WorkspaceService.perform engines operation) db outside).2.1

/-- The deliveries that were made on the way from one state to another, each of
them read in the state it was made in. -/
inductive Delivers (engines : Engines) (start : Database) : List Delivery → Database → Prop
  | nothing : Delivers engines start [] start
  | aside {deliveries : List Delivery} {db next : Database}
      (earlier : Delivers engines start deliveries db)
      (aside : Aside db next) : Delivers engines start deliveries next
  | compared {deliveries : List Delivery} {db next : Database} {row : MeterReconciliation}
      (earlier : Delivers engines start deliveries db) (balanced : Balanced row)
      (compared : Compared row db next) : Delivers engines start deliveries next
  | delivered {deliveries : List Delivery} {db next : Database} {delivery : Delivery}
      (earlier : Delivers engines start deliveries db)
      (recorded : delivery.Recorded engines db next) :
      Delivers engines start (deliveries ++ [delivery]) next

variable {engines : Engines} {start db next : Database} {deliveries : List Delivery}

/-- Every row keeps the law exactly where every delivery was clear. -/
theorem Delivers.balanced_iff (delivers : Delivers engines start deliveries db)
    (balanced : ∀ row ∈ start.reconciliations.rows, Balanced row) :
    (∀ row ∈ db.reconciliations.rows, Balanced row) ↔ ∀ delivery ∈ deliveries, Clear delivery := by
  induction delivers with
  | nothing =>
      constructor
      · intro _ delivery absurdity
        cases absurdity
      · exact fun _ => balanced
  | aside earlier aside inductionHypothesis =>
      rw [aside.reconciliations]
      exact inductionHypothesis
  | compared earlier rowBalanced compared inductionHypothesis =>
      rw [compared.rows, List.forall_mem_append, inductionHypothesis]
      constructor
      · exact And.left
      · exact fun clear => ⟨clear, List.forall_mem_singleton.mpr rowBalanced⟩
  | delivered earlier recorded inductionHypothesis =>
      rw [recorded.added.reconciliations, List.forall_mem_append, List.forall_mem_append,
        inductionHypothesis, List.forall_mem_singleton, List.forall_mem_singleton,
        recorded_balanced_iff recorded]

/-- The transitions of a workspace operation, as deliveries. -/
theorem Delivers.progress (delivers : Delivers engines start deliveries db)
    (progress : Progress engines db next) :
    ∃ further, Delivers engines start (deliveries ++ further) next := by
  induction progress with
  | refl => exact ⟨[], by rw [List.append_nil]; exact delivers⟩
  | tail _ step inductionHypothesis =>
      obtain ⟨further, reached⟩ := inductionHypothesis
      cases step with
      | aside aside => exact ⟨further, reached.aside aside⟩
      | delivery delivery recorded =>
          refine ⟨further ++ [delivery], ?_⟩
          rw [← List.append_assoc]
          exact reached.delivered recorded

/-- What a commit does: a settlement request adds one balanced row, a workspace
operation makes its deliveries. -/
def Committed (engines : Engines) : Activity → Unit → Database → Database → Prop
  | .settlement _, _, db, next => ∃ row, Balanced row ∧ Compared row db next
  | .workspace _ _, _, db, next => Progress engines db next

private theorem Delivers.committed {activity : Activity}
    (delivers : Delivers engines start deliveries db)
    (committed : Committed engines activity () db next) :
    ∃ further, Delivers engines start (deliveries ++ further) next := by
  cases activity with
  | settlement request =>
      obtain ⟨row, balanced, compared⟩ := committed
      refine ⟨[], ?_⟩
      rw [List.append_nil]
      exact delivers.compared balanced compared
  | workspace operation outside => exact delivers.progress committed

/-- No activity relies on the others. -/
def independent (engines : Engines) : Protocol Activity Database Unit where
  valid := fun _ => True
  rely := fun _ _ _ => True
  guarantee := Committed engines
  reflexive := fun _ _ => trivial
  transitive := fun _ _ _ _ _ _ => trivial

private theorem perform_kept (engines : Engines) :
    (independent engines).Kept (perform engines) (fun _ _ => true) fun _ _ _ => true where
  keeps := fun _ _ _ _ _ _ _ => trivial
  respects := fun _ _ _ _ _ _ _ _ _ => trivial
  meets := by
    intro activity
    cases activity with
    | settlement request =>
        unfold perform
        rw [wp_bind]
        apply (handle_compares request).mono
        intro response log known compares
        rw [wp_pure]
        exact fun db next _ _ _ executed => compares db next executed
    | workspace operation outside =>
        unfold perform
        rw [wp_statement]
        intro _ _ _ _ _ db next _ _ _ executed
        cases executed
        exact serve_progress engines operation db outside

/-- In every run of the two services, every stored reconciliation keeps the law of
its balancing column exactly where the deliveries made on the way were clear. -/
theorem run_balanced_iff (engines : Engines) {start : Database}
    (balanced : ∀ row ∈ start.reconciliations.rows, Balanced row)
    {actions : List (Action Activity Supply)} {final : System Activity Database Supply Failure Unit}
    (reached : run (perform engines) (fun _ _ => true) ⟨start, [], []⟩ actions = some final) :
    ∃ deliveries, Delivers engines start deliveries final.committed ∧
      ((∀ row ∈ final.committed.reconciliations.rows, Balanced row) ↔
        ∀ delivery ∈ deliveries, Clear delivery) := by
  rw [run_unconditional] at reached
  have sound := history_meets (perform_kept engines) trivial reached
  have made := sound.linked.preserves
    (fun _ db => ∃ deliveries, Delivers engines start deliveries db) ⟨[], .nothing⟩ ?_
  · obtain ⟨deliveries, delivers⟩ := made
    exact ⟨deliveries, delivers, delivers.balanced_iff balanced⟩
  · rintro _ commit member ⟨deliveries, delivers⟩
    obtain ⟨further, onward⟩ := delivers.committed (sound.history commit member).2.2
    exact ⟨deliveries ++ further, onward⟩

/-! ## A shortfall within the tolerance -/

/-- A trade of 1 kWh, of which 0.98 kWh were exported. -/
def nearlyDelivered : Database :=
  twoHouseholds
    ⟨[quarterReading 71 61 0 (392 / 100), quarterReading 72 62 8 0], by decide +kernel,
      by decide +kernel⟩
    quarterTrades quarterPrices

/-- A trade of 1 kWh, of which 0.5 kWh were exported. -/
def halfDelivered : Database :=
  twoHouseholds
    ⟨[quarterReading 71 61 0 2, quarterReading 72 62 8 0], by decide +kernel, by decide +kernel⟩
    quarterTrades quarterPrices

/-- One `reconcile_due`, begun, executed and committed. -/
def reconcileOnce : List (Action Activity Supply) :=
  [.opens (.workspace .reconcileDue (countingOutside 1000)), .steps 0 ⟨0, 0, 0⟩,
    .steps 0 ⟨0, 0, 0⟩]

private theorem nearlyDelivered_start :
    ∀ row ∈ nearlyDelivered.reconciliations.rows, Balanced row := by
  intro row absurdity
  cases absurdity

private theorem reconcileOnce_rows : ((run (perform idleEngines) (fun _ _ => true)
      ⟨nearlyDelivered, [], []⟩ reconcileOnce).map fun final =>
        final.committed.reconciliations.rows.map fun row =>
          (row.withinTolerance, row.balancingKwh)) = some [(true, 2 / 100)] := by
  decide +kernel

/-- It is within the tolerance, and balanced all the same. -/
theorem nearlyDelivered_unbalanced :
    (∀ row ∈ nearlyDelivered.reconciliations.rows, Balanced row) ∧
    ∃ final, run (perform idleEngines) (fun _ _ => true) ⟨nearlyDelivered, [], []⟩ reconcileOnce =
        some final ∧
      ∃ row ∈ final.committed.reconciliations.rows, ¬ Balanced row := by
  refine ⟨nearlyDelivered_start, ?_⟩
  obtain ⟨final, reached, rows⟩ := Option.map_eq_some_iff.mp reconcileOnce_rows
  obtain ⟨row, stored, figures⟩ : ∃ row ∈ final.committed.reconciliations.rows,
      (row.withinTolerance, row.balancingKwh) = (true, 2 / 100) := by
    rw [← List.mem_map, rows]
    exact List.mem_singleton_self _
  refine ⟨final, reached, row, stored, ?_⟩
  rintro ⟨_, nothing⟩
  obtain ⟨within, balancing⟩ := Prod.mk.inj figures
  have absurdity := nothing within
  rw [balancing] at absurdity
  norm_num at absurdity

/-- A shortfall that breaches the tolerance is balanced as the law has it, and the
delivery was clear. -/
theorem run_balanced_iff_sample :
    ∃ final, run (perform idleEngines) (fun _ _ => true) ⟨halfDelivered, [], []⟩ reconcileOnce =
        some final ∧
      (final.committed.reconciliations.rows.map fun row =>
        (row.withinTolerance, row.balancingKwh)) = [(false, 1 / 2)] ∧
      ∃ deliveries, Delivers idleEngines halfDelivered deliveries final.committed ∧
        (∀ row ∈ final.committed.reconciliations.rows, Balanced row) ∧
        ∀ delivery ∈ deliveries, Clear delivery := by
  have rows : ((run (perform idleEngines) (fun _ _ => true)
      ⟨halfDelivered, [], []⟩ reconcileOnce).map fun final =>
        final.committed.reconciliations.rows.map fun row =>
          (row.withinTolerance, row.balancingKwh)) = some [(false, 1 / 2)] := by
    decide +kernel
  obtain ⟨final, reached, figures⟩ := Option.map_eq_some_iff.mp rows
  have balanced : ∀ row ∈ final.committed.reconciliations.rows, Balanced row := by
    intro row stored
    have figure : (row.withinTolerance, row.balancingKwh) ∈
        final.committed.reconciliations.rows.map fun row =>
          (row.withinTolerance, row.balancingKwh) := List.mem_map_of_mem stored
    rw [figures, List.mem_singleton] at figure
    obtain ⟨within, balancing⟩ := Prod.mk.inj figure
    refine ⟨?_, ?_⟩
    · rw [balancing]
      norm_num
    · intro isWithin
      rw [within] at isWithin
      cases isWithin
  have none : ∀ row ∈ halfDelivered.reconciliations.rows, Balanced row := by
    intro row absurdity
    cases absurdity
  obtain ⟨deliveries, delivers, clear⟩ := run_balanced_iff idleEngines none reached
  exact ⟨final, reached, figures, deliveries, delivers, balanced, clear.mp balanced⟩

end UrjaSetu.Services.Reconciliations
