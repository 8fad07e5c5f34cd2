import UrjaSetu.Db.Transactions
import UrjaSetu.Services.WorkspaceService.Delivery

/-!
What the operations of `Services.WorkspaceService.Delivery` do to the database.

Owns: one delivery as a transition of the database, the transitions that leave
the delivery evidence aside, and that every operation is a sequence of these.
Does not own: what the sequences preserve.
-/

namespace UrjaSetu.Services.WorkspaceService

open UrjaSetu.Domain UrjaSetu.Domain.Interfaces UrjaSetu.Db UrjaSetu.Db.Models UrjaSetu.Library
open UrjaSetu.Domain.Policies.CommunityEnergy UrjaSetu.Library.Rounding

/-! ## One delivery -/

/-- A settled delivery: what was read for it, and what was drawn. -/
structure Delivery where
  clock : Instant
  trade : Trade
  buy : Order
  sell : Order
  seller : Measured
  buyer : Measured
  price : PriceComponents
  grid : GridValidationRun
  reconciliationId : UUID
  createdAt : Instant
  settlementId : UUID

namespace Delivery

variable (delivery : Delivery)

def kwh : ℚ := deliveredKwh delivery.trade delivery.seller delivery.buyer

def allocation : TradeAllocation :=
  allocationOf delivery.trade delivery.seller delivery.buyer delivery.kwh

def reconciliation : MeterReconciliation :=
  reconciliationOf delivery.reconciliationId delivery.createdAt delivery.trade delivery.kwh

def settlement : Settlement :=
  settlementOf delivery.settlementId delivery.trade delivery.buy delivery.sell delivery.kwh
    delivery.price.finalPrice delivery.clock

def receipt (engines : Engines) : Receipt :=
  receiptOf engines delivery.trade delivery.settlement delivery.price delivery.grid

/-- The trade was due, and the rest was found, in this state. -/
structure Read (db : Database) : Prop where
  stored : delivery.trade ∈ db.trades.rows
  due : isDue delivery.clock delivery.trade = true
  buy : db.orders.find? (fun order => order.id = delivery.trade.buyOrderId) = some delivery.buy
  sell : db.orders.find? (fun order => order.id = delivery.trade.sellOrderId) = some delivery.sell
  seller : sellerMeasured delivery.trade delivery.sell db = some delivery.seller
  buyer : buyerMeasured delivery.trade delivery.buy db = some delivery.buyer
  price : db.prices.find? (fun price => price.tradeId = delivery.trade.id) = some delivery.price
  grid : db.gridRuns.find? (fun run => delivery.trade.gridValidationId = some run.id) =
    some delivery.grid

end Delivery

/-- The rows one delivery adds, and the status of its trade. -/
structure RowsAdded (allocation : TradeAllocation) (reconciliation : MeterReconciliation)
    (settlement : Settlement) (debit credit : JournalEntry) (tradeId : UUID) (receipt : Receipt)
    (db next : Database) : Prop where
  allocations : next.allocations.rows = db.allocations.rows ++ [allocation]
  reconciliations : next.reconciliations.rows = db.reconciliations.rows ++ [reconciliation]
  settlements : next.settlements.rows = db.settlements.rows ++ [settlement]
  journal : next.journal.rows = db.journal.rows ++ [debit, credit]
  trades : next.trades.rows = db.trades.rows.map fun row =>
    if row.id = tradeId then { row with status := .settled } else row
  receipts : next.receipts.rows = db.receipts.rows ++ [receipt]
  frame : next = { db with
    allocations := next.allocations
    reconciliations := next.reconciliations
    settlements := next.settlements
    journal := next.journal
    trades := next.trades
    receipts := next.receipts
    audit := next.audit }

/-- A delivery as a transition: what it read before, and what it added. -/
structure Delivery.Recorded (delivery : Delivery) (engines : Engines) (db next : Database) :
    Prop where
  read : delivery.Read db
  added : RowsAdded delivery.allocation delivery.reconciliation.asStored
    delivery.settlement.asStored (buyerPosting delivery.settlement)
    (sellerPosting delivery.settlement) delivery.trade.id (delivery.receipt engines) db next

/-- What the loop has still to deliver: stored, due, and each trade once. -/
structure Awaiting (clock : Instant) (trades : List Trade) (db : Database) : Prop where
  stored : ∀ trade ∈ trades, trade ∈ db.trades.rows
  due : ∀ trade ∈ trades, isDue clock trade = true
  once : (trades.map Trade.id).Nodup

private theorem Awaiting.rest {clock : Instant} {trade : Trade} {trades : List Trade}
    {db : Database}
    (awaiting : Awaiting clock (trade :: trades) db) : Awaiting clock trades db where
  stored := fun other member => awaiting.stored other (List.mem_cons_of_mem _ member)
  due := fun other member => awaiting.due other (List.mem_cons_of_mem _ member)
  once := (List.nodup_cons.mp awaiting.once).2

/-- A delivery changes no other trade. -/
theorem Awaiting.recorded {engines : Engines} {delivery : Delivery} {trades : List Trade}
    {db next : Database} (awaiting : Awaiting delivery.clock (delivery.trade :: trades) db)
    (recorded : delivery.Recorded engines db next) : Awaiting delivery.clock trades next := by
  refine ⟨?_, awaiting.rest.due, awaiting.rest.once⟩
  intro other member
  have distinct : other.id ≠ delivery.trade.id := by
    intro same
    apply (List.nodup_cons.mp awaiting.once).1
    rw [← same]
    exact List.mem_map_of_mem member
  rw [recorded.added.trades]
  refine List.mem_map.mpr ⟨other, awaiting.rest.stored other member, ?_⟩
  rw [if_neg distinct]

/-! ## The loop -/

/-- The session of an operation that has published nothing yet, with nothing
pending; a query does not flush. -/
structure Between (published : Database) (unit : Session) : Prop where
  unpublished : unit.committed = published
  flushed : unit.pending = []
  manual : unit.autoflush = false

section Statements

variable {published : Database} {unit : Session} {raises : Failure → Session → Prop}

/-- An audit record changes the log only. -/
theorem recordStatement_audited {sha256 : String → String} {event : AuditEvent}
    {db next : Database} (executed : recordStatement sha256 event db = .ok next) :
    Audited db next := by
  unfold recordStatement at executed
  split at executed
  · rename_i table _
    cases executed
    exact ⟨table, rfl⟩
  · cases executed
  · cases executed

private theorem ensures_addAudit {engines : Engines} {kind : AuditEventType}
    {entity : AuditEntityType}
    {entityId : UUID} {payload : List (String × Value)} {actor : Option UUID}
    {returns : Unit → Session → Prop}
    (each : ∀ next outside, Audited unit.working next →
      returns () { unit with working := next, outside := outside })
    (refused : ∀ error outside, raises error { unit with outside := outside }) :
    Work.Ensures (addAudit engines kind entity entityId payload actor) unit returns raises := by
  simp only [addAudit, uuid4, utcNow, Work.ensures_bind, ensures_state, Work.ensures_draw,
    Work.ensures_execute]
  constructor
  · intro next executed
    exact each next _ (recordStatement_audited executed)
  · intro error _
    exact refused error _

/-- What the first flush of a delivery has done. -/
theorem evidence_of_statements {allocation : TradeAllocation} {reconciliation : MeterReconciliation}
    {settlement : Settlement} {db next : Database}
    (executed : [Relations.allocations.insert allocation,
        Relations.reconciliations.insert reconciliation,
        Relations.settlements.insert settlement].foldlM
      (fun db statement => statement db) db = .ok next) :
    ∃ allocations reconciliations settlements,
      next = { db with allocations, reconciliations, settlements } ∧
        allocations.rows = db.allocations.rows ++ [allocation] ∧
        reconciliations.rows = db.reconciliations.rows ++ [reconciliation] ∧
        settlements.rows = db.settlements.rows ++ [settlement] := by
  obtain ⟨_, allocated, rest⟩ := Work.executed_cons executed
  obtain ⟨_, reconciled, rest⟩ := Work.executed_cons rest
  obtain ⟨_, settled, rest⟩ := Work.executed_cons rest
  obtain ⟨allocations, allocationInserted, rfl⟩ := Relation.insert_ok allocated
  obtain ⟨reconciliations, reconciliationInserted, rfl⟩ := Relation.insert_ok reconciled
  obtain ⟨settlements, settlementInserted, rfl⟩ := Relation.insert_ok settled
  exact ⟨allocations, reconciliations, settlements, Work.executed_nil rest,
    (Table.insert_eq_some allocationInserted).1, (Table.insert_eq_some reconciliationInserted).1,
    (Table.insert_eq_some settlementInserted).1⟩

/-- What the second flush of a delivery has done. -/
theorem settlement_of_statements {debit credit : JournalEntry} {tradeId : UUID} {receipt : Receipt}
    {db next : Database}
    (executed : [Relations.journal.insert debit, Relations.journal.insert credit,
        Relations.trades.modify (fun row => row.id = tradeId)
          fun row => { row with status := .settled },
        Relations.receipts.insert receipt].foldlM
      (fun db statement => statement db) db = .ok next) :
    ∃ journal trades receipts,
      next = { db with journal, trades, receipts } ∧
        journal.rows = db.journal.rows ++ [debit, credit] ∧
        trades.rows = db.trades.rows.map (fun row =>
          if row.id = tradeId then { row with status := .settled } else row) ∧
        receipts.rows = db.receipts.rows ++ [receipt] := by
  obtain ⟨_, debited, rest⟩ := Work.executed_cons executed
  obtain ⟨_, credited, rest⟩ := Work.executed_cons rest
  obtain ⟨_, updated, rest⟩ := Work.executed_cons rest
  obtain ⟨_, receipted, rest⟩ := Work.executed_cons rest
  obtain ⟨debits, debitInserted, rfl⟩ := Relation.insert_ok debited
  obtain ⟨credits, creditInserted, rfl⟩ := Relation.insert_ok credited
  obtain ⟨trades, tradeUpdated, rfl⟩ := Relation.modify_ok updated
  obtain ⟨receipts, receiptInserted, rfl⟩ := Relation.insert_ok receipted
  have debitRows : debits.rows = db.journal.rows ++ [debit] :=
    (Table.insert_eq_some debitInserted).1
  have creditRows : credits.rows = debits.rows ++ [credit] :=
    (Table.insert_eq_some creditInserted).1
  refine ⟨credits, trades, receipts, Work.executed_nil rest, ?_, ?_,
    (Table.insert_eq_some receiptInserted).1⟩
  · rw [creditRows, debitRows, List.append_assoc]
    rfl
  · have change := Table.modify_eq_some tradeUpdated
    simp only [decide_eq_true_eq] at change
    exact change

/-- What the statements of a delivery have done: those of its first flush, those
of its second, and the audit record. -/
theorem rowsAdded_of_statements {allocation : TradeAllocation}
    {reconciliation : MeterReconciliation} {settlement : Settlement} {debit credit : JournalEntry}
    {tradeId : UUID} {receipt : Receipt} {db evidenced settled next : Database}
    (first : [Relations.allocations.insert allocation,
        Relations.reconciliations.insert reconciliation,
        Relations.settlements.insert settlement].foldlM
      (fun db statement => statement db) db = .ok evidenced)
    (second : [Relations.journal.insert debit, Relations.journal.insert credit,
        Relations.trades.modify (fun row => row.id = tradeId)
          fun row => { row with status := .settled },
        Relations.receipts.insert receipt].foldlM
      (fun db statement => statement db) evidenced = .ok settled)
    (audited : Audited settled next) :
    RowsAdded allocation reconciliation settlement debit credit tradeId receipt db next := by
  obtain ⟨allocations, reconciliations, settlements, rfl, allocationRows, reconciliationRows,
    settlementRows⟩ := evidence_of_statements first
  obtain ⟨journal, trades, receipts, rfl, journalRows, tradeRows, receiptRows⟩ :=
    settlement_of_statements second
  obtain ⟨log, rfl⟩ := audited
  exact
    { allocations := allocationRows
      reconciliations := reconciliationRows
      settlements := settlementRows
      journal := journalRows
      trades := tradeRows
      receipts := receiptRows
      frame := rfl }

/-- Either the trade was not measured and nothing was done, or it was delivered. -/
def Delivered (engines : Engines) (clock : Instant) (trade : Trade) (db next : Database) : Prop :=
  next = db ∨ ∃ delivery : Delivery, delivery.clock = clock ∧ delivery.trade = trade ∧
    delivery.Recorded engines db next

private theorem settleDelivery_ensures {engines : Engines} {sim : Simulation} {trade : Trade}
    {buy sell : Order} {seller buyer : Measured} (between : Between published unit)
    (stored : trade ∈ unit.working.trades.rows) (due : isDue sim.clock trade = true)
    (buyFound : unit.working.orders.find? (fun order => order.id = trade.buyOrderId) = some buy)
    (sellFound : unit.working.orders.find? (fun order => order.id = trade.sellOrderId) = some sell)
    (sellerRead : sellerMeasured trade sell unit.working = some seller)
    (buyerRead : buyerMeasured trade buy unit.working = some buyer) :
    Work.Ensures (settleDelivery engines sim trade buy sell seller buyer) unit
      (fun _ after => Between published after ∧
        Delivered engines sim.clock trade unit.working after.working)
      fun _ after => after.committed = published := by
  obtain ⟨committed, working, pending, autoflush, drawn⟩ := unit
  obtain ⟨unpublished, flushed, manual⟩ := between
  dsimp only at unpublished flushed manual stored buyFound sellFound sellerRead buyerRead
  subst unpublished
  subst flushed
  subst manual
  simp only [settleDelivery, uuid4, serverNow, Work.ensures_bind, Work.ensures_add,
    Work.ensures_draw]
  rw [Work.ensures_query_of_manual _ rfl, Work.ensures_query_of_manual _ rfl]
  cases priceFound : working.prices.find? fun price => price.tradeId = trade.id with
  | none => exact rfl
  | some price =>
      cases gridFound : working.gridRuns.find? fun run => trade.gridValidationId = some run.id with
      | none => exact rfl
      | some grid =>
          simp only [Work.ensures_bind, Work.ensures_add, Work.ensures_draw, Work.ensures_flush,
            postings, Work.forItems, Work.foldItems, Work.ensures_pure, List.nil_append,
            List.cons_append]
          refine ⟨?_, fun _ _ => trivial⟩
          intro evidenced first
          refine ⟨?_, fun _ _ => trivial⟩
          intro settled second
          apply ensures_addAudit
          · intro next outside audited
            refine ⟨⟨rfl, rfl, rfl⟩, Or.inr ⟨⟨sim.clock, trade, buy, sell, seller, buyer, price, grid,
              drawn.identifiers 0, drawn.transactionStart, drawn.afterIdentifier.identifiers 0⟩,
              rfl, rfl, ?_, ?_⟩⟩
            · exact ⟨stored, due, buyFound, sellFound, sellerRead, buyerRead, priceFound, gridFound⟩
            · exact rowsAdded_of_statements first second audited
          · exact fun _ _ => rfl

private theorem deliver_ensures {engines : Engines} {sim : Simulation} {trade : Trade}
    (between : Between published unit) (stored : trade ∈ unit.working.trades.rows)
    (due : isDue sim.clock trade = true) :
    Work.Ensures (deliver engines sim trade) unit
      (fun _ after => Between published after ∧
        Delivered engines sim.clock trade unit.working after.working)
      fun _ after => after.committed = published := by
  simp only [deliver, Work.ensures_bind]
  rw [Work.ensures_query_of_manual _ between.manual, Work.ensures_query_of_manual _ between.manual]
  cases buyFound : unit.working.orders.find? fun order => order.id = trade.buyOrderId with
  | none => exact between.unpublished
  | some buy =>
      cases sellFound : unit.working.orders.find? fun order => order.id = trade.sellOrderId with
      | none => exact between.unpublished
      | some sell =>
          simp only [Work.ensures_bind]
          rw [Work.ensures_query_of_manual _ between.manual,
            Work.ensures_query_of_manual _ between.manual]
          cases sellerRead : sellerMeasured trade sell unit.working with
          | none => exact ⟨between, Or.inl rfl⟩
          | some seller =>
              cases buyerRead : buyerMeasured trade buy unit.working with
              | none => exact ⟨between, Or.inl rfl⟩
              | some buyer =>
                  exact settleDelivery_ensures between stored due buyFound sellFound sellerRead
                    buyerRead

/-- Deliveries one after the other. -/
def Deliveries (engines : Engines) (clock : Instant) : Database → Database → Prop :=
  Relation.ReflTransGen fun db next =>
    ∃ delivery : Delivery, delivery.clock = clock ∧ delivery.Recorded engines db next

private theorem dueTrades_awaiting (clock : Instant) (db : Database) :
    Awaiting clock (sortBy deliveryOrder (dueTrades clock db)) db := by
  have sorted : (sortBy deliveryOrder (dueTrades clock db)).Perm (dueTrades clock db) :=
    sortBy_perm deliveryOrder _
  have ids : (db.trades.rows.map Trade.id).Nodup := by
    apply Table.nodup_column Trade.id
    intro earlier later same
    exact decide_eq_true (Or.inl same)
  refine ⟨?_, ?_, ?_⟩
  · intro trade member
    exact (Table.mem_where.mp (sorted.mem_iff.mp member)).1
  · intro trade member
    exact (Table.mem_where.mp (sorted.mem_iff.mp member)).2
  · rw [(sorted.map Trade.id).nodup_iff]
    exact ids.sublist (List.filter_sublist.map Trade.id)

theorem reconcileDue_ensures {engines : Engines} {sim : Simulation}
    (between : Between published unit) :
    Work.Ensures (reconcileDue engines sim) unit
      (fun _ after => Between published after ∧
        Deliveries engines sim.clock unit.working after.working)
      fun _ after => after.committed = published := by
  simp only [reconcileDue, Work.ensures_bind]
  rw [Work.ensures_query_of_manual _ between.manual]
  apply Work.Ensures.forItems fun rest after => Between published after ∧
    Deliveries engines sim.clock unit.working after.working ∧
      Awaiting sim.clock rest after.working
  · exact ⟨between, Relation.ReflTransGen.refl, dueTrades_awaiting sim.clock unit.working⟩
  · rintro trade rest before ⟨beforeBetween, reached, awaiting⟩
    have stored := awaiting.stored trade List.mem_cons_self
    have due := awaiting.due trade List.mem_cons_self
    apply (deliver_ensures beforeBetween stored due).mono
    · rintro _ after ⟨afterBetween, delivered⟩
      refine ⟨afterBetween, ?_⟩
      rcases delivered with unmeasured | ⟨delivery, clockIs, tradeIs, recorded⟩
      · rw [unmeasured]
        exact ⟨reached, awaiting.rest⟩
      · subst tradeIs
        refine ⟨reached.tail ⟨delivery, clockIs, recorded⟩, ?_⟩
        rw [← clockIs] at awaiting ⊢
        exact awaiting.recorded recorded
    · exact fun _ _ unpublished => unpublished
  · exact fun after invariant => ⟨invariant.1, invariant.2.1⟩

end Statements

/-! ## Aside from deliveries -/

/-- No negative energy crosses the boundary of the site. -/
def channelsNonneg (reading : TelemetryReading) : Bool :=
  nullOrNonneg reading.gridImportKwh && nullOrNonneg reading.gridExportKwh

/-- What an operation may do besides delivering: readings are added and never
changed, trades keep their quantity, and the delivery evidence is what it was. -/
structure Aside (db next : Database) : Prop where
  readings : ∃ added, next.readings.rows = db.readings.rows ++ added ∧
    ∀ reading ∈ added, channelsNonneg reading = true
  trades : ∀ trade ∈ db.trades.rows, ∃ later ∈ next.trades.rows,
    later.id = trade.id ∧ later.quantityKwh = trade.quantityKwh
  allocations : next.allocations = db.allocations
  reconciliations : next.reconciliations = db.reconciliations
  settlements : next.settlements = db.settlements
  journal : next.journal = db.journal
  receipts : next.receipts = db.receipts

theorem Aside.refl (db : Database) : Aside db db :=
  ⟨⟨[], by simp, by simp⟩, fun trade member => ⟨trade, member, rfl, rfl⟩, rfl, rfl, rfl, rfl, rfl⟩

theorem Aside.trans {db middle next : Database} (first : Aside db middle)
    (second : Aside middle next) : Aside db next := by
  refine ⟨?_, ?_, ?_, ?_, ?_, ?_, ?_⟩
  · obtain ⟨added, middleRows, addedNonneg⟩ := first.readings
    obtain ⟨further, rows, furtherNonneg⟩ := second.readings
    refine ⟨added ++ further, by rw [rows, middleRows, List.append_assoc], ?_⟩
    intro reading member
    exact (List.mem_append.mp member).elim (addedNonneg reading) (furtherNonneg reading)
  · intro trade member
    obtain ⟨middleTrade, middleMember, middleId, middleQuantity⟩ := first.trades trade member
    obtain ⟨later, laterMember, laterId, laterQuantity⟩ :=
      second.trades middleTrade middleMember
    exact ⟨later, laterMember, laterId.trans middleId, laterQuantity.trans middleQuantity⟩
  · rw [second.allocations, first.allocations]
  · rw [second.reconciliations, first.reconciliations]
  · rw [second.settlements, first.settlements]
  · rw [second.journal, first.journal]
  · rw [second.receipts, first.receipts]

/-- A change that reaches none of these tables. -/
theorem Aside.of_same {db next : Database} (readings : next.readings = db.readings)
    (trades : next.trades = db.trades) (allocations : next.allocations = db.allocations)
    (reconciliations : next.reconciliations = db.reconciliations)
    (settlements : next.settlements = db.settlements) (journal : next.journal = db.journal)
    (receipts : next.receipts = db.receipts) : Aside db next := by
  refine ⟨?_, ?_, allocations, reconciliations, settlements, journal, receipts⟩
  · exact ⟨[], by rw [readings, List.append_nil], by simp⟩
  · intro trade member
    rw [trades]
    exact ⟨trade, member, rfl, rfl⟩

theorem insertReading_aside {reading : TelemetryReading} {db next : Database}
    (nonneg : channelsNonneg reading = true)
    (executed : Relations.readings.insert reading db = .ok next) : Aside db next := by
  obtain ⟨table, inserted, rfl⟩ := Relation.insert_ok executed
  have rows : table.rows = db.readings.rows ++ [reading] := (Table.insert_eq_some inserted).1
  refine { Aside.refl db with readings := ⟨[reading], rows, ?_⟩ }
  intro other member
  rw [List.mem_singleton.mp member]
  exact nonneg

/-- A simulated interval has no negative energy, and neither has its stored row. -/
theorem simulatedReading_nonneg (engines : Engines) (id meterId : UUID) (moment : Instant)
    (cap : ℚ) (household : Option HouseholdProfile) (scenario : Scenario) :
    channelsNonneg (simulatedReading id meterId moment
      (readingProfile engines moment cap household scenario)).asStored = true := by
  have nonneg : 0 ≤ (readingProfile engines moment cap household scenario).gridImportKwh ∧
      0 ≤ (readingProfile engines moment cap household scenario).gridExportKwh := by
    cases household with
    | some household => exact interval_nonneg _ _ _
    | none => exact profile_nonneg _ _
  simp only [channelsNonneg, TelemetryReading.asStored, simulatedReading, Option.map_some,
    nullOrNonneg, Bool.and_eq_true, decide_eq_true_eq]
  exact ⟨quantize_nonneg halfUp nonneg.1, quantize_nonneg halfUp nonneg.2⟩

private theorem moveClock_aside (db : Database) (moved : Simulation) :
    Aside db { db with simulation := moved } :=
  Aside.of_same rfl rfl rfl rfl rfl rfl rfl

private theorem insertPoints_aside (points : List Models.ForecastPoint) (db next : Database)
    (executed : points.foldlM (fun db point => Relations.forecastPoints.insert point db) db =
      .ok next) : Aside db next := by
  induction points generalizing db with
  | nil =>
      cases executed
      exact Aside.refl _
  | cons point rest inductionHypothesis =>
      rw [List.foldlM_cons] at executed
      obtain ⟨first, inserted, remaining⟩ := bind_eq_ok.mp executed
      obtain ⟨table, _, rfl⟩ := Relation.insert_ok inserted
      have added : Aside db (Relations.forecastPoints.set db table) :=
        Aside.of_same rfl rfl rfl rfl rfl rfl rfl
      exact added.trans (inductionHypothesis _ remaining)

theorem insertForecast_aside {run : ForecastRun} {points : List Models.ForecastPoint}
    {db next : Database} (executed : insertForecast run points db = .ok next) : Aside db next := by
  obtain ⟨middle, pointsInserted, runInserted⟩ := bind_eq_ok.mp executed
  obtain ⟨table, _, rfl⟩ := Relation.insert_ok runInserted
  exact (insertPoints_aside points db middle pointsInserted).trans
    (Aside.of_same rfl rfl rfl rfl rfl rfl rfl)

/-! ## Operations -/

/-- The session of an operation that is adding rows aside from deliveries. -/
structure Loading (published start : Database) (unit : Session) : Prop where
  unpublished : unit.committed = published
  manual : unit.autoflush = false
  executed : Aside start unit.working
  pending : ∀ statement ∈ unit.pending, ∀ db next, statement db = .ok next → Aside db next

private theorem Between.loading {published : Database} {unit : Session}
    (between : Between published unit) :
    Loading published unit.working unit := by
  refine ⟨between.unpublished, between.manual, Aside.refl _, ?_⟩
  intro statement member
  rw [between.flushed] at member
  cases member

section Loading

variable {published start : Database} {unit : Session} {engines : Engines}

private theorem Loading.add (statement : Database → Except Failure Database)
    (loading : Loading published start unit)
    (aside : ∀ db next, statement db = .ok next → Aside db next) :
    Loading published start { unit with pending := unit.pending ++ [statement] } := by
  refine ⟨loading.unpublished, loading.manual, loading.executed, ?_⟩
  intro other member
  rcases List.mem_append.mp member with earlier | isLast
  · exact loading.pending other earlier
  · rw [List.mem_singleton.mp isLast]
    exact aside

private theorem Loading.drew (loading : Loading published start unit) (outside : Outside) :
    Loading published start { unit with outside := outside } :=
  ⟨loading.unpublished, loading.manual, loading.executed, loading.pending⟩

private theorem simulate_ensures {site : Site} {meter : Meter} {moment : Instant}
    {scenario : Scenario}
    (loading : Loading published start unit) :
    Work.Ensures (simulate engines site meter moment scenario) unit
      (fun _ after => Loading published start after) fun _ after => after.committed = published := by
  simp only [simulate, uuid4, Work.ensures_bind]
  rw [Work.ensures_query_of_manual _ loading.manual, Work.ensures_query_of_manual _ loading.manual]
  simp only [Work.ensures_draw, Work.ensures_add, Work.ensures_pure]
  exact (loading.drew unit.outside.afterIdentifier).add
    (Relations.readings.insert _) fun db next =>
      insertReading_aside (simulatedReading_nonneg engines _ _ _ _ _ _)

private theorem addReading_ensures {site : Site} {moment : Instant} {scenario : Scenario}
    (loading : Loading published start unit) :
    Work.Ensures (addReading engines site moment scenario) unit
      (fun _ after => Loading published start after) fun _ after => after.committed = published := by
  simp only [addReading, Work.ensures_bind]
  rw [Work.ensures_query_of_manual _ loading.manual, ensures_orHttp]
  refine ⟨?_, fun _ => loading.unpublished⟩
  intro meter _
  rw [Work.ensures_query_of_manual _ loading.manual]
  cases readingAt meter.id moment unit.working with
  | some previous => exact loading
  | none =>
      dsimp only
      split
      · exact loading
      · rw [Work.ensures_bind]
        apply (simulate_ensures loading).mono
        · exact fun reading after loaded => loaded
        · exact fun _ _ unpublished => unpublished

private theorem addReadings_ensures {site : Site} {moments : List Instant} {scenario : Scenario}
    (loading : Loading published start unit) :
    Work.Ensures (addReadings engines site moments scenario) unit
      (fun _ after => Loading published start after) fun _ after => after.committed = published := by
  unfold addReadings
  split
  · exact loading
  · simp only [Work.ensures_bind]
    rw [Work.ensures_query_of_manual _ loading.manual, ensures_orHttp]
    refine ⟨?_, fun _ => loading.unpublished⟩
    intro meter _
    rw [Work.ensures_query_of_manual _ loading.manual]
    apply Work.Ensures.forItems fun _ after => Loading published start after
    · exact loading
    · intro moment rest before loaded
      split
      · exact loaded
      · rw [Work.ensures_bind]
        apply (simulate_ensures loaded).mono
        · exact fun reading after further => further
        · exact fun _ _ unpublished => unpublished
    · exact fun after loaded => loaded

/-- After a flush everything added is executed. -/
theorem Loading.flush (loading : Loading published start unit) :
    Work.Ensures Work.flush unit
      (fun _ after => Between published after ∧ Aside start after.working)
      fun _ after => after.committed = published := by
  apply @Work.Ensures.flush _ _ _ unit _ _ Aside Aside.refl (fun _ _ _ => Aside.trans)
    loading.pending
  · intro next aside
    exact ⟨⟨loading.unpublished, rfl, loading.manual⟩, loading.executed.trans aside⟩
  · exact fun _ => loading.unpublished

private theorem forecast_ensures {site : Site} {sim : Simulation}
    (between : Between published unit) :
    Work.Ensures (forecast engines site sim) unit
      (fun _ after => Between published after ∧ Aside unit.working after.working)
      fun _ after => after.committed = published := by
  simp only [forecast, Work.ensures_bind]
  rw [Work.ensures_query_of_manual _ between.manual]
  split
  · exact ⟨between, Aside.refl _⟩
  · simp only [uuid4, serverNow, Work.ensures_bind]
    rw [Work.ensures_query_of_manual _ between.manual]
    simp only [Work.ensures_draw, Work.ensures_execute]
    constructor
    · intro next executed
      obtain ⟨middle, solar, load⟩ := bind_eq_ok.mp executed
      exact ⟨⟨between.unpublished, between.flushed, between.manual⟩,
        (insertForecast_aside solar).trans (insertForecast_aside load)⟩
    · exact fun _ _ => between.unpublished

end Loading

/-- One transition of the delivery evidence. -/
inductive Step (engines : Engines) (db next : Database) : Prop where
  | aside (aside : Aside db next)
  | delivery (delivery : Delivery) (recorded : delivery.Recorded engines db next)

/-- Transitions one after the other. -/
def Progress (engines : Engines) : Database → Database → Prop := Relation.ReflTransGen (Step engines)

theorem Aside.progress {engines : Engines} {db next : Database} (aside : Aside db next) :
    Progress engines db next :=
  Relation.ReflTransGen.single (.aside aside)

private theorem Deliveries.progress {engines : Engines} {clock : Instant} {db next : Database}
    (deliveries : Deliveries engines clock db next) : Progress engines db next := by
  have each : ∀ before after, (∃ delivery : Delivery, delivery.clock = clock ∧
      delivery.Recorded engines before after) → Step engines before after := by
    rintro before after ⟨delivery, _, recorded⟩
    exact .delivery delivery recorded
  exact Relation.ReflTransGen.mono each _ _ deliveries

/-- The operations that deliver; `reconcile_due` on a session of its own is
committed by its caller. -/
inductive Operation where
  | advance (intervals : ℕ) (deliver : Bool)
  | tick
  | reconcileDue
  | recoverMissing

def perform (engines : Engines) : Operation → Call Unit
  | .advance intervals deliver => do
      let _ ← advance engines intervals deliver
      pure ()
  | .tick => tick engines
  | .reconcileDue => do
      let sim ← state
      reconcileDue engines sim
      Work.commit
  | .recoverMissing => recoverMissing engines

section Operations

variable {published start : Database} {unit : Session} {engines : Engines}

/-- The revision at the end of an operation, and what follows it. -/
theorem bump_ensures {returns : Unit → Session → Prop} {raises : Failure → Session → Prop}
    (between : Between published unit) (reached : Progress engines start unit.working)
    (onward : ∀ after, Between published after → Progress engines start after.working →
      returns () after) : Work.Ensures bump unit returns raises := by
  apply (ensures_setSimulation _).mpr
  apply onward
  · exact ⟨between.unpublished, between.flushed, between.manual⟩
  · exact reached.tail (.aside (moveClock_aside _ _))

/-- The commit publishes what was reached. -/
theorem commit_ensures {returns : Unit → Session → Prop} {raises : Failure → Session → Prop}
    (between : Between published unit) (reached : Progress engines start unit.working)
    (onward : ∀ after, Progress engines start after.committed → returns () after) :
    Work.Ensures Work.commit unit returns raises := by
  rw [Work.ensures_commit_of_flushed between.flushed]
  exact onward _ reached

/-- The loop over the sites that adds readings. -/
theorem loadReadings_ensures {allSites : List Site} {moments : List Instant} {scenario : Scenario}
    (loading : Loading published start unit) :
    Work.Ensures (Work.forItems allSites fun site => addReadings engines site moments scenario) unit
      (fun _ after => Loading published start after) fun _ after => after.committed = published := by
  apply Work.Ensures.forItems fun _ after => Loading published start after
  · exact loading
  · exact fun site rest before loaded => addReadings_ensures loaded
  · exact fun after loaded => loaded

/-- The loop over the sites that forecasts. -/
theorem forecasts_ensures {allSites : List Site} {sim : Simulation}
    (between : Between published unit) :
    Work.Ensures (Work.forItems allSites fun site => forecast engines site sim) unit
      (fun _ after => Between published after ∧ Aside unit.working after.working)
      fun _ after => after.committed = published := by
  apply Work.Ensures.forItems fun _ after =>
    Between published after ∧ Aside unit.working after.working
  · exact ⟨between, Aside.refl _⟩
  · rintro site rest before ⟨beforeBetween, reached⟩
    apply (forecast_ensures beforeBetween).mono
    · exact fun _ after forecasted => ⟨forecasted.1, reached.trans forecasted.2⟩
    · exact fun _ _ unpublished => unpublished
  · exact fun after invariant => invariant

/-- The flush of what was added, then the deliveries, and what follows them. -/
theorem settle_ensures {returns : Unit → Session → Prop} {sim : Simulation}
    (loading : Loading published start unit)
    (onward : ∀ after, Between published after → Progress engines start after.working →
      returns () after) :
    Work.Ensures Work.flush unit
      (fun _ flushed => Work.Ensures (reconcileDue engines sim) flushed returns
        fun _ after => after.committed = published)
      fun _ after => after.committed = published := by
  apply loading.flush.mono _ fun _ _ unpublished => unpublished
  rintro _ flushed ⟨between, aside⟩
  apply (reconcileDue_ensures between).mono _ fun _ _ unpublished => unpublished
  rintro _ after ⟨afterBetween, deliveries⟩
  exact onward after afterBetween (aside.progress.trans deliveries.progress)

private theorem Loading.moved (loading : Loading published start unit) (moved : Simulation) :
    Loading published start { unit with pending :=
      unit.pending ++ [fun db => .ok { db with simulation := moved }] } := by
  apply loading.add
  intro db next executed
  cases executed
  exact moveClock_aside db moved

private theorem moveTo_ensures {sim : Simulation} {target : Instant}
    (between : Between published unit) :
    Work.Ensures (moveTo engines sim target) unit
      (fun _ after => Progress engines unit.working after.committed)
      fun _ after => after.committed = published := by
  simp only [moveTo, Work.ensures_bind, ensures_require]
  refine ⟨?_, fun _ => between.unpublished⟩
  intro _
  rw [Work.ensures_query_of_manual _ between.manual]
  apply (loadReadings_ensures between.loading).mono _ fun _ _ unpublished => unpublished
  intro _ loaded loading
  rw [Work.ensures_add]
  apply settle_ensures (loading.moved _)
  intro settled settledBetween reached
  apply (forecasts_ensures settledBetween).mono _ fun _ _ unpublished => unpublished
  rintro _ forecasted ⟨forecastedBetween, aside⟩
  apply bump_ensures forecastedBetween (reached.trans aside.progress)
  intro bumped bumpedBetween bumpedReached
  apply commit_ensures bumpedBetween bumpedReached
  intro after published
  exact published

private theorem advance_ensures {intervals : ℕ} {deliver : Bool}
    (between : Between published unit) :
    Work.Ensures (advance engines intervals deliver) unit
      (fun _ after => Progress engines unit.working after.committed)
      fun _ after => after.committed = published := by
  simp only [advance, Work.ensures_bind, ensures_state]
  cases deliver with
  | false => exact moveTo_ensures between
  | true =>
      simp only [if_true, Work.ensures_bind]
      rw [Work.ensures_query_of_manual _ between.manual, ensures_orHttp]
      refine ⟨?_, fun _ => between.unpublished⟩
      intro target _
      exact moveTo_ensures between

private theorem tick_ensures (between : Between published unit) :
    Work.Ensures (tick engines) unit
      (fun _ after => Progress engines unit.working after.committed)
      fun _ after => after.committed = published := by
  simp only [tick, utcNow, Work.ensures_bind, ensures_state, Work.ensures_draw]
  have drawn := between.loading.drew unit.outside.afterMoment
  rw [Work.ensures_query_of_manual _ drawn.manual]
  apply (loadReadings_ensures drawn).mono _ fun _ _ unpublished => unpublished
  intro _ loaded loading
  rw [Work.ensures_add]
  apply settle_ensures (loading.moved _)
  intro settled settledBetween reached
  have finish : ∀ after, Between published after → Aside settled.working after.working →
      Work.Ensures bump after (fun _ bumped => Work.Ensures Work.commit bumped
        (fun _ ended => Progress engines unit.working ended.committed)
          fun _ ended => ended.committed = published) fun _ ended => ended.committed = published := by
    intro after afterBetween aside
    apply bump_ensures afterBetween (reached.trans aside.progress)
    intro bumped bumpedBetween bumpedReached
    apply commit_ensures bumpedBetween bumpedReached
    exact fun _ published => published
  split
  · simp only [Work.ensures_bind]
    apply (forecasts_ensures settledBetween).mono _ fun _ _ unpublished => unpublished
    rintro _ forecasted ⟨forecastedBetween, aside⟩
    exact finish forecasted forecastedBetween aside
  · rw [Work.ensures_bind]
    exact finish settled settledBetween (Aside.refl _)

private theorem replayReading_ensures {moment : Instant} {orderId : UUID}
    (loading : Loading published start unit) :
    Work.Ensures (replayReading engines moment orderId) unit
      (fun _ after => Loading published start after) fun _ after => after.committed = published := by
  simp only [replayReading, Work.ensures_bind]
  rw [Work.ensures_query_of_manual _ loading.manual, Work.ensures_query_of_manual _ loading.manual]
  split
  · rw [Work.ensures_bind]
    apply (addReading_ensures loading).mono
    · exact fun _ after loaded => loaded
    · exact fun _ _ unpublished => unpublished
  · exact loading

private theorem recoverMissing_ensures (between : Between published unit) :
    Work.Ensures (recoverMissing engines) unit
      (fun _ after => Progress engines unit.working after.committed)
      fun _ after => after.committed = published := by
  simp only [recoverMissing, replayMissing, Work.ensures_bind, ensures_state]
  rw [Work.ensures_query_of_manual _ between.manual]
  apply Work.Ensures.forItems fun _ after => Loading published unit.working after
  · exact between.loading
  · intro trade rest before loading
    apply Work.Ensures.forItems fun _ after => Loading published unit.working after
    · exact loading
    · exact fun orderId rest before loading => replayReading_ensures loading
    · exact fun after loaded => loaded
  · intro loaded loading
    apply settle_ensures loading
    intro settled settledBetween reached
    apply bump_ensures settledBetween reached
    intro bumped bumpedBetween bumpedReached
    apply commit_ensures bumpedBetween bumpedReached
    exact fun _ published => published

private theorem perform_ensures (operation : Operation) (between : Between published unit) :
    Work.Ensures (perform engines operation) unit
      (fun _ after => Progress engines unit.working after.committed)
      fun _ after => after.committed = published := by
  cases operation with
  | advance intervals deliver =>
      simp only [perform, Work.ensures_bind, Work.ensures_pure]
      exact advance_ensures between
  | tick => exact tick_ensures between
  | reconcileDue =>
      simp only [perform, Work.ensures_bind, ensures_state]
      apply (reconcileDue_ensures between).mono _ fun _ _ unpublished => unpublished
      rintro _ after ⟨afterBetween, deliveries⟩
      apply commit_ensures afterBetween deliveries.progress
      exact fun _ published => published
  | recoverMissing => exact recoverMissing_ensures between

end Operations

/-- Every operation, served on its own session, is a sequence of transitions of
the committed database; one that raises leaves it as it was. -/
theorem serve_progress (engines : Engines) (operation : Operation) (db : Database)
    (outside : Outside) :
    Progress engines db (Work.serve (perform engines operation) db outside).2.1 := by
  have ensured := @perform_ensures db (Work.begin_ db outside) engines operation ⟨rfl, rfl, rfl⟩
  rcases ended : perform engines operation (Work.begin_ db outside) with ⟨outcome, after⟩
  rw [Work.serve_of_run ended]
  cases outcome with
  | ok value => exact ensured.returned ended
  | error error =>
      rw [show after.committed = db from ensured.raised ended]
      exact Relation.ReflTransGen.refl

end UrjaSetu.Services.WorkspaceService
