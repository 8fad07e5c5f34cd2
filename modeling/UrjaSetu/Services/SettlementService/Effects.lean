import UrjaSetu.Services.SettlementService.Operations

/-!
What the commit of `reconcile_trade` or `settle_trade` does, under others that
leave alone what a settlement is computed from.

Nothing locks the settlements of a trade. Each transaction appends to the audit
chain before it reads them, and the append names the head of the chain, so a
transaction that commits has been overtaken by no other.

Owns: the effects, and that argument, as the assumption `exclusive` on how the
others may change the database.
-/

namespace UrjaSetu.Services.SettlementService

open UrjaSetu.Core UrjaSetu.Domain UrjaSetu.Domain.Interfaces UrjaSetu.Db UrjaSetu.Db.Models
open UrjaSetu.Domain.Policies.Settlement UrjaSetu.Library UrjaSetu.Library.Transaction
open UrjaSetu.Repositories.Settlement UrjaSetu.Repositories.Telemetry
open UrjaSetu.Repositories.AuditEventRepository
open UrjaSetu.Services.AuditService

/-! ## Effects -/

/-- What a settlement is computed from is the same. -/
structure Undisturbed (db later : Database) : Prop where
  community : later.community = db.community
  readings : later.readings = db.readings
  trades : later.trades = db.trades
  orders : later.orders = db.orders
  prices : later.prices = db.prices

/-- The trade and its parties, as one state has them. -/
structure Parties (db : Database) (tradeId : UUID) (trade : Trade) (buy sell : Order) : Prop where
  tradeFound : db.trades.find? (fun row => row.id = tradeId) = some trade
  buyFound : db.orders.find? (fun row => row.id = trade.buyOrderId) = some buy
  sellFound : db.orders.find? (fun row => row.id = trade.sellOrderId) = some sell

/-- What the calculator made of one state. -/
structure Calculated (calculator : StandardSettlementCalculator) (db : Database) (tradeId : UUID)
    (result : SettlementResult) (trade : Trade) (buy sell : Order) (price : PriceComponents)
    (actual : ActualEnergy) : Prop extends Parties db tradeId trade buy sell where
  priceFound : latestForTrade db trade.id = some price
  measured : actual.quantityKwh = measuredKwh db sell.siteId trade.deliveryStart trade.deliveryEnd
  settled : calculator.settle (requestOf trade buy sell
    { priceInrPerKwh := price.finalPrice, sourceId := some price.id } actual) = .ok result

/-- The audit log has grown, and is still linked. -/
structure LogGrew (db next : Database) : Prop where
  grew : ∃ row rest, next.audit.rows = db.audit.rows ++ row :: rest
  linked : HashChain.Linked AuditEventRecord.previousHash AuditEventRecord.eventHash none
    next.audit.rows

/-- A comparison was recorded: a reconciliation, and the audit log. -/
structure Compared (calculator : StandardSettlementCalculator) (tradeId : UUID)
    (result : SettlementResult) (db next : Database) : Prop where
  calculated : ∃ trade buy sell price actual,
    Calculated calculator db tradeId result trade buy sell price actual
  reconciliations : ∃ id createdAt, next.reconciliations.rows = db.reconciliations.rows ++
    [(reconciliationRow id createdAt tradeId result.reconciliation).asStored]
  log : LogGrew db next
  rest : next = { db with
    reconciliations := next.reconciliations
    settlements := next.settlements
    audit := next.audit }

/-- A settlement of a trade after another one took its place. -/
def superseded (tradeId : UUID) (row : Settlement) : Settlement :=
  if row.tradeId = tradeId ∧ row.status = .settled then { row with status := .superseded } else row

/-- A settlement was recorded in the place of the one that stood. -/
structure SettledBy (calculator : StandardSettlementCalculator) (tradeId : UUID)
    (result : SettlementResult) (row : Settlement) (db next : Database) : Prop where
  accepted : validateResult result calculator.name = .ok ()
  made : ∃ id moment, row = (settlementRow id result moment).asStored
  settlements : next.settlements.rows = db.settlements.rows.map (superseded tradeId) ++ [row]

inductive Request where
  | reconcileTrade (calculator : StandardSettlementCalculator) (tradeId : UUID)
  | settleTrade (calculator : StandardSettlementCalculator) (tradeId : UUID) (at_ : Option Instant)

inductive Response where
  | reconciliation (row : MeterReconciliation)
  | settlement (outcome : Except UrjaSetuError Settlement)

def handle (sha256 : String → String) : Request → Txn Response
  | .reconcileTrade calculator tradeId => do
      let row ← reconcileTrade sha256 calculator tradeId
      pure (.reconciliation row)
  | .settleTrade calculator tradeId at_ => do
      let outcome ← settleTrade sha256 calculator tradeId at_
      pure (.settlement outcome)

/-- What each request has done once it is committed. -/
inductive Effect : Request → Response → Database → Database → Prop
  | compared {calculator : StandardSettlementCalculator} {tradeId : UUID}
      {result : SettlementResult} {row : MeterReconciliation} {db next : Database}
      (compared : Compared calculator tradeId result db next)
      (unsettled : next.settlements = db.settlements) :
      Effect (.reconcileTrade calculator tradeId) (.reconciliation row) db next
  | refused {calculator : StandardSettlementCalculator} {tradeId : UUID} {at_ : Option Instant}
      {result : SettlementResult} {error : UrjaSetuError} {db next : Database}
      (compared : Compared calculator tradeId result db next)
      (incomplete : result.reconciliation.status.isComplete = false)
      (unsettled : next.settlements = db.settlements) :
      Effect (.settleTrade calculator tradeId at_) (.settlement (.error error)) db next
  | settled {calculator : StandardSettlementCalculator} {tradeId : UUID} {at_ : Option Instant}
      {result : SettlementResult} {row : Settlement} {db next : Database}
      (compared : Compared calculator tradeId result db next)
      (complete : result.reconciliation.status.isComplete = true)
      (settled : SettledBy calculator tradeId result row db next) :
      Effect (.settleTrade calculator tradeId at_) (.settlement (.ok row)) db next

/-! ## Statements -/

/-- Superseding what stands is a change of the rows. -/
theorem supersede_rows {db middle : Database} {tradeId : UUID}
    (flushed : supersede ((listForTrade db tradeId).filter fun row => row.status = .settled) db =
      .ok middle) :
    middle = { db with settlements := middle.settlements } ∧
      middle.settlements.rows = db.settlements.rows.map (superseded tradeId) := by
  obtain ⟨table, updated, rfl⟩ := Relation.modify_ok flushed
  refine ⟨rfl, ?_⟩
  have rows := Table.modify_eq_some updated
  refine (show table.rows = _ from rows).trans ?_
  apply List.map_congr_left
  intro row stored
  unfold superseded
  by_cases stands : row.tradeId = tradeId ∧ row.status = .settled
  · have listed : (((listForTrade db tradeId).filter fun row => row.status = .settled).any
        fun loaded => loaded.id = row.id) = true := by
      apply List.any_eq_true.mpr
      exact ⟨row, List.mem_filter.mpr ⟨mem_listForTrade.mpr ⟨stored, stands.1⟩,
        decide_eq_true stands.2⟩, decide_eq_true rfl⟩
    rw [if_pos listed, if_pos stands]
  · rw [if_neg stands, if_neg]
    intro listed
    obtain ⟨loaded, isStanding, same⟩ := List.any_eq_true.mp listed
    obtain ⟨isLoaded, isSettled⟩ := List.mem_filter.mp isStanding
    obtain ⟨loadedStored, ofTrade⟩ := mem_listForTrade.mp isLoaded
    -- Two rows with one id are one row.
    have sameRow : loaded = row :=
      Table.eq_of_column Settlement.id (fun _ _ equal => decide_eq_true equal) loadedStored stored
        (of_decide_eq_true same)
    rw [sameRow] at ofTrade isSettled
    exact stands ⟨ofTrade, of_decide_eq_true isSettled⟩

theorem insertReconciliation_rows {row : MeterReconciliation} {db next : Database}
    (inserted : Relations.reconciliations.insert row db = .ok next) :
    next = { db with reconciliations := next.reconciliations } ∧
      next.reconciliations.rows = db.reconciliations.rows ++ [row] := by
  obtain ⟨table, accepted, rfl⟩ := Relation.insert_ok inserted
  exact ⟨rfl, (Table.insert_eq_some accepted).1⟩

private theorem insertSettlement_rows {row : Settlement} {db next : Database}
    (inserted : Relations.settlements.insert row db = .ok next) :
    next = { db with settlements := next.settlements } ∧
      next.settlements.rows = db.settlements.rows ++ [row] := by
  obtain ⟨table, accepted, rfl⟩ := Relation.insert_ok inserted
  exact ⟨rfl, (Table.insert_eq_some accepted).1⟩

private theorem insertAudit_rows {row : AuditEventRecord} {db next : Database}
    (inserted : insertAudit row db = .ok next) :
    next = { db with audit := next.audit } ∧ next.audit.rows = db.audit.rows ++ [row] ∧
      row.previousHash ∉ db.audit.rows.map AuditEventRecord.previousHash := by
  obtain ⟨table, accepted, rfl⟩ := insertAudit_ok inserted
  have rows := AuditEventTable.insert_ok accepted
  refine ⟨rfl, rows, ?_⟩
  have distinct := table.previousHashes
  rw [rows, List.map_append, List.nodup_append] at distinct
  intro taken
  exact distinct.2.2 _ taken _ (List.mem_singleton_self _) rfl

/-! ## The head of the chain -/

/-- The rows of the audit log are linked in the order they were inserted in. -/
def LogLinked (table : AuditEventTable) : Prop :=
  HashChain.Linked AuditEventRecord.previousHash AuditEventRecord.eventHash none table.rows

private theorem latest_eq_none {table : AuditEventTable} (none : latest table = none) :
    table.rows = [] := by
  unfold latest listChain at none
  exact List.Perm.eq_nil (List.getLast?_eq_none_iff.mp none ▸ (sortBy_perm _ _).symm)

/-- A row that names the head of a linked log and is not refused keeps it linked,
whatever the clocks said: an earlier head has been named already. -/
theorem LogLinked.insert {table : AuditEventTable} {row : AuditEventRecord}
    (linked : LogLinked table)
    (names : row.previousHash = (latest table).map AuditEventRecord.eventHash)
    (fresh : row.previousHash ∉ table.rows.map AuditEventRecord.previousHash) :
    HashChain.Linked AuditEventRecord.previousHash AuditEventRecord.eventHash none
      (table.rows ++ [row]) := by
  apply HashChain.linked_concat _ _ linked
  cases isLatest : latest table with
  | none =>
      rw [names, isLatest, latest_eq_none isLatest]
      rfl
  | some head =>
      rw [names, isLatest]
      obtain ⟨front, behind, split⟩ := List.append_of_mem (latest_mem isLatest)
      cases behind with
      | nil =>
          rw [split, HashChain.headHash_append]
          rfl
      | cons next rest =>
          exfalso
          apply fresh
          have whole : table.rows = (front ++ [head]) ++ next :: rest := by
            rw [split, List.append_assoc, List.singleton_append]
          rw [names, isLatest, whole]
          unfold LogLinked at linked
          rw [whole] at linked
          apply HashChain.head_taken _ _ linked
          · intro impossible
            cases impossible
          · intro found isFound
            cases isFound
            simp

/-- What was the head before the log grew is refused as a predecessor after. -/
theorem LogGrew.refuses {db next : Database} {row : AuditEventRecord} (log : LogGrew db next)
    (names : row.previousHash = (latest db.audit).map AuditEventRecord.eventHash) :
    row.previousHash ∈ next.audit.rows.map AuditEventRecord.previousHash := by
  obtain ⟨⟨first, rest, rows⟩, linked⟩ := log
  rw [rows] at linked ⊢
  rw [names]
  apply HashChain.head_taken _ _ linked
  · exact latest_eq_none
  · exact fun found isLatest => latest_mem isLatest

/-! ## What is established of the code -/

section

variable {valid : Database → Prop} {rely : Database → Database → Prop}
  {known : Database → Prop} {calculator : StandardSettlementCalculator} {tradeId : UUID}

/-- A query whose answer the others do not change. -/
theorem wp_view {β : Type} {view : Database → β}
    (undisturbed : ∀ db later, rely db later → Undisturbed db later)
    (stable : ∀ db later, Undisturbed db later → view later = view db)
    {post : β → List (Database → Except Failure Database) → (Database → Prop) → Prop}
    (each : ∀ value (laterKnown : Database → Prop),
      (∀ db, laterKnown db → known db ∧ view db = value) → post value [] laterKnown) :
    Wp valid rely (query view : Txn β) post [] known := by
  rw [wp_query]
  intro db seen _ holds same
  cases same
  apply each
  intro later learned
  exact ⟨learned.1, stable db later (undisturbed db later learned.2)⟩

private theorem wp_calculate (undisturbed : ∀ db later, rely db later → Undisturbed db later)
    {post : SettlementResult → List (Database → Except Failure Database) →
      (Database → Prop) → Prop}
    (each : ∀ result trade buy sell price actual (laterKnown : Database → Prop),
      (∀ db, laterKnown db →
        Calculated calculator db tradeId result trade buy sell price actual) →
      post result [] laterKnown) :
    Wp valid rely (calculate calculator tradeId) post [] known := by
  unfold calculate buildRequest orderById effectivePriceFor measureActual
  simp only [wp_bind]
  apply wp_view undisturbed (fun db later same => by rw [same.trades])
  intro foundTrade tradeKnown tradeLearned
  rw [Txn.wp_orRaise]
  intro trade isTrade
  subst isTrade
  apply wp_view undisturbed (fun db later same => by rw [same.orders])
  intro foundBuy buyKnown buyLearned
  apply wp_view undisturbed (fun db later same => by rw [same.orders])
  intro foundSell sellKnown sellLearned
  rw [Txn.wp_orRaise]
  intro buy isBuy
  subst isBuy
  rw [Txn.wp_orRaise]
  intro sell isSell
  subst isSell
  apply wp_view undisturbed (fun db later same => by rw [latestForTrade, latestForTrade, same.prices])
  intro foundPrice priceKnown priceLearned
  rw [Txn.wp_orRaise]
  intro price isPrice
  subst isPrice
  rw [wp_pure]
  apply wp_view undisturbed (fun db later same => by rw [same.community])
  intro siteKnown siteThen siteLearned
  rw [Txn.wp_require]
  intro _
  apply wp_view undisturbed (fun db later same => by rw [same.community, same.readings])
  intro buckets bucketsKnown bucketsLearned
  simp only [wp_pure]
  rw [wp_lift]
  intro result isResult
  apply each
  intro db learned
  obtain ⟨bucketsHold, isBuckets⟩ := bucketsLearned db learned
  obtain ⟨priceHolds, isPrice⟩ := priceLearned db (siteLearned db bucketsHold).1
  obtain ⟨sellHolds, isSell⟩ := sellLearned db priceHolds
  obtain ⟨buyHolds, isBuy⟩ := buyLearned db sellHolds
  obtain ⟨_, isTrade⟩ := tradeLearned db buyHolds
  exact
    { tradeFound := isTrade
      buyFound := isBuy
      sellFound := isSell
      priceFound := isPrice
      measured := by
        rw [← isBuckets]
        exact totalOf_aggregate _
      settled := mapError_eq_ok.mp isResult }

/-- What a recorded comparison has executed. -/
structure Recorded (tradeId : UUID) (result : SettlementResult) (db middle : Database) : Prop where
  reconciliations : ∃ id createdAt, middle.reconciliations.rows = db.reconciliations.rows ++
    [(reconciliationRow id createdAt tradeId result.reconciliation).asStored]
  audit : ∃ row, middle.audit.rows = db.audit.rows ++ [row]
  linked : LogLinked middle.audit
  rest : middle = { db with reconciliations := middle.reconciliations, audit := middle.audit }

/-- How the others may change the database: they leave the inputs of a settlement
alone, and an append to the chain is refused once they have committed. -/
structure Others (valid : Database → Prop) (rely : Database → Database → Prop) : Prop where
  undisturbed : ∀ db later, rely db later → Undisturbed db later
  exclusive : ∀ read db (row : AuditEventRecord), valid read → valid db → rely read db →
    row.previousHash = (latest read.audit).map AuditEventRecord.eventHash →
    row.previousHash ∉ db.audit.rows.map AuditEventRecord.previousHash → db = read
  linked : ∀ db, valid db → LogLinked db.audit

/-- Once the comparison is recorded, whoever replays the log is still at the moment
of its append. -/
theorem wp_recordReconciliation (sha256 : String → String) (others : Others valid rely)
    {result : SettlementResult}
    {post : MeterReconciliation → List (Database → Except Failure Database) →
      (Database → Prop) → Prop}
    (each : ∀ row log read (laterKnown : Database → Prop),
      (∀ db, laterKnown db → known db) →
      (∀ db final, valid db → laterKnown db → replay log db = .ok final →
        db = read ∧ Recorded tradeId result db final) → post row log laterKnown) :
    Wp valid rely (recordReconciliation sha256 tradeId result) post [] known := by
  unfold recordReconciliation
  rw [wp_bind]
  apply Txn.wp_utcNow
  intro createdAt
  rw [wp_bind]
  apply Txn.wp_uuid4
  intro id
  dsimp only
  rw [wp_bind, wp_statement]
  intro _ _ _ _ _
  rw [wp_bind, tradeReconciled]
  apply wp_buildEvent
  intro event
  rw [wp_bind]
  apply wp_append
  intro row read seen inserted readValid _ replayed names _ _
  rw [wp_pure]
  obtain ⟨start, same, seenInserted⟩ := replay_concat_ok replayed
  cases same
  have seenRows := insertReconciliation_rows seenInserted
  apply each _ _ read
  · exact fun db learned => learned.1.1.1
  · intro db final dbValid learned executed
    obtain ⟨middle, before, appended⟩ := replay_concat_ok executed
    obtain ⟨start, same, middleInserted⟩ := replay_concat_ok before
    cases same
    have middleRows := insertReconciliation_rows middleInserted
    have finalRows := insertAudit_rows appended
    have seenAudit : seen.audit = read.audit := by rw [seenRows.1]
    have middleAudit : middle.audit = db.audit := by rw [middleRows.1]
    rw [seenAudit] at names
    rw [middleAudit] at finalRows
    have still : db = read := others.exclusive read db row readValid dbValid learned.1.2 names
      finalRows.2.2
    have sameReconciliations : final.reconciliations = middle.reconciliations := by
      rw [finalRows.1]
    refine ⟨still, ⟨⟨id, createdAt, ?_⟩, ⟨row, finalRows.2.1⟩, ?_, ?_⟩⟩
    · rw [sameReconciliations]
      exact middleRows.2
    · unfold LogLinked
      rw [finalRows.2.1]
      apply (others.linked db dbValid).insert _ finalRows.2.2
      rw [names, still]
    · rw [sameReconciliations]
      exact finalRows.1.trans (by rw [middleRows.1])

/-- A comparison as an effect, where the rest left everything else alone. -/
theorem Recorded.compared {result : SettlementResult} {db next : Database}
    (recorded : Recorded tradeId result db next)
    (calculated : ∃ trade buy sell price actual,
      Calculated calculator db tradeId result trade buy sell price actual) :
    Compared calculator tradeId result db next ∧ next.settlements = db.settlements := by
  have settlements : next.settlements = db.settlements := by rw [recorded.rest]
  obtain ⟨row, rows⟩ := recorded.audit
  refine ⟨⟨calculated, recorded.reconciliations, ⟨⟨row, [], rows⟩, recorded.linked⟩, ?_⟩,
    settlements⟩
  rw [settlements]
  exact recorded.rest

private theorem wp_recordSettlement (sha256 : String → String) {result : SettlementResult}
    {moment : Instant} {read : Database} {log : List (Database → Except Failure Database)}
    (recorded : ∀ db final, valid db → known db → replay log db = .ok final →
      db = read ∧ Recorded tradeId result db final)
    (calculated : ∀ db, known db → ∃ trade buy sell price actual,
      Calculated calculator db tradeId result trade buy sell price actual)
    {post : Settlement → List (Database → Except Failure Database) →
      (Database → Prop) → Prop}
    (each : ∀ row later (laterKnown : Database → Prop),
      (∀ db next, valid db → laterKnown db → replay later db = .ok next →
        Compared calculator tradeId result db next ∧
          SettledBy calculator tradeId result row db next) → post row later laterKnown) :
    Wp valid rely (recordSettlement sha256 calculator tradeId result moment) post log known := by
  unfold recordSettlement
  rw [wp_bind, wp_lift]
  intro _ isAccepted
  have accepted : validateResult result calculator.name = .ok () := mapError_eq_ok.mp isAccepted
  rw [wp_bind, wp_query]
  intro listing listed listingValid listingKnown listingReplayed
  obtain ⟨isRead, listedRecorded⟩ := recorded listing listed listingValid listingKnown
    listingReplayed
  subst isRead
  rw [wp_bind]
  apply Txn.wp_uuid4
  intro id
  dsimp only
  rw [wp_bind, wp_statement]
  intro _ _ _ _ _
  rw [wp_bind, wp_statement]
  intro _ _ _ _ _
  rw [wp_bind, tradeSettled]
  apply wp_buildEvent
  intro event
  rw [wp_bind]
  apply wp_append
  intro row reading seen inserted readingValid readingLearned readingReplayed names _ _
  rw [wp_pure]
  -- The rows between the comparison and the second append.
  have between : ∀ db final, valid db → known db →
      replay ((log ++ [supersede ((listForTrade listed tradeId).filter fun row =>
        row.status = .settled)]) ++
          [Relations.settlements.insert (settlementRow id result moment).asStored]) db =
        .ok final →
      db = listing ∧ ∃ middle, Recorded tradeId result db middle ∧
        final = { middle with settlements := final.settlements } ∧
        final.settlements.rows = db.settlements.rows.map (superseded tradeId) ++
          [(settlementRow id result moment).asStored] := by
    intro db final dbValid dbKnown executed
    obtain ⟨flushed, before, settlementInserted⟩ := replay_concat_ok executed
    obtain ⟨middle, logged, supersededIs⟩ := replay_concat_ok before
    obtain ⟨still, middleRecorded⟩ := recorded db middle dbValid dbKnown logged
    have sameListed : listForTrade listed tradeId = listForTrade middle tradeId := by
      have listedSettlements : listed.settlements = listing.settlements := by
        rw [listedRecorded.rest]
      have middleSettlements : middle.settlements = db.settlements := by rw [middleRecorded.rest]
      unfold listForTrade
      rw [listedSettlements, middleSettlements, still]
    rw [sameListed] at supersededIs
    have flushedRows := supersede_rows supersededIs
    have finalRows := insertSettlement_rows settlementInserted
    refine ⟨still, middle, middleRecorded, ?_, ?_⟩
    · exact finalRows.1.trans (by rw [flushedRows.1])
    · rw [finalRows.2, flushedRows.2, middleRecorded.rest]
  apply each
  intro db next dbValid learned executed
  obtain ⟨final, before, appended⟩ := replay_concat_ok executed
  have dbKnown : known db := learned.1.1.1.1.1
  obtain ⟨still, middle, middleRecorded, finalIs, settlementRows⟩ :=
    between db final dbValid dbKnown before
  obtain ⟨readingStill, _⟩ := between reading seen readingValid readingLearned.1.1.1 readingReplayed
  -- The head was read after the same statements, on the same state.
  have sameSeen : seen = final := by
    rw [readingStill, ← still, before] at readingReplayed
    exact (Except.ok.inj readingReplayed).symm
  subst sameSeen
  have appendedRows := insertAudit_rows appended
  have sameAudit : seen.audit = middle.audit := by rw [finalIs]
  rw [sameAudit] at names appendedRows
  obtain ⟨first, firstRows⟩ := middleRecorded.audit
  have nextReconciliations : next.reconciliations = middle.reconciliations := by
    rw [appendedRows.1, finalIs]
  have nextSettlements : next.settlements = seen.settlements := by rw [appendedRows.1]
  refine ⟨⟨calculated db dbKnown, ?_, ⟨⟨first, [row], ?_⟩, ?_⟩, ?_⟩, accepted, ⟨id, moment, rfl⟩, ?_⟩
  · rw [nextReconciliations]
    exact middleRecorded.reconciliations
  · rw [appendedRows.2.1, firstRows, List.append_assoc]
    rfl
  · rw [appendedRows.2.1]
    exact middleRecorded.linked.insert names appendedRows.2.2
  · rw [nextReconciliations, nextSettlements]
    exact appendedRows.1.trans (by rw [finalIs, middleRecorded.rest])
  · rw [nextSettlements]
    exact settlementRows

private theorem wp_reconcileTrade (sha256 : String → String) (others : Others valid rely)
    {post : MeterReconciliation → List (Database → Except Failure Database) →
      (Database → Prop) → Prop}
    (each : ∀ row log (laterKnown : Database → Prop),
      (∀ db next, valid db → laterKnown db → replay log db = .ok next →
        ∃ result, Compared calculator tradeId result db next ∧
          next.settlements = db.settlements) → post row log laterKnown) :
    Wp valid rely (reconcileTrade sha256 calculator tradeId) post [] known := by
  unfold reconcileTrade
  simp only [wp_bind]
  apply wp_calculate others.undisturbed
  intro result trade buy sell price actual calculatedKnown calculated
  apply wp_recordReconciliation sha256 others
  intro row log read recordedKnown weaker recorded
  rw [wp_pure]
  apply each
  intro db next dbValid learned executed
  exact ⟨result, (recorded db next dbValid learned executed).2.compared
    ⟨trade, buy, sell, price, actual, calculated db (weaker db learned)⟩⟩

private theorem wp_settleTrade (sha256 : String → String) (others : Others valid rely)
    {at_ : Option Instant}
    {post : Except UrjaSetuError Settlement → List (Database → Except Failure Database) →
      (Database → Prop) → Prop}
    (each : ∀ outcome log (laterKnown : Database → Prop),
      (∀ db next, valid db → laterKnown db → replay log db = .ok next →
        Effect (.settleTrade calculator tradeId at_) (.settlement outcome) db next) →
      post outcome log laterKnown) :
    Wp valid rely (settleTrade sha256 calculator tradeId at_) post [] known := by
  unfold settleTrade
  simp only [wp_bind]
  apply Txn.wp_momentOf
  intro moment
  apply wp_calculate others.undisturbed
  intro result trade buy sell price actual calculatedKnown calculated
  apply wp_recordReconciliation sha256 others
  intro row log read recordedKnown weaker recorded
  have known_calculated : ∀ db, recordedKnown db → ∃ trade buy sell price actual,
      Calculated calculator db tradeId result trade buy sell price actual :=
    fun db learned => ⟨trade, buy, sell, price, actual, calculated db (weaker db learned)⟩
  cases complete : result.reconciliation.status.isComplete with
  | true =>
      rw [if_pos rfl, wp_bind]
      apply wp_recordSettlement sha256 recorded known_calculated
      intro settlement later settledKnown settled
      rw [wp_pure]
      apply each
      intro db next dbValid learned executed
      obtain ⟨compared, settledBy⟩ := settled db next dbValid learned executed
      exact .settled compared complete settledBy
  | false =>
      rw [if_neg Bool.false_ne_true, wp_pure]
      apply each
      intro db next dbValid learned executed
      obtain ⟨compared, unsettled⟩ :=
        (recorded db next dbValid learned executed).2.compared (known_calculated db learned)
      exact .refused compared complete unsettled

/-- What the commit of a request does. -/
theorem handle_wp (sha256 : String → String) (others : Others valid rely) (request : Request) :
    Wp valid rely (handle sha256 request) (fun response log known => ∀ db next, valid db →
      known db → replay log db = .ok next → Effect request response db next) [] known := by
  cases request with
  | reconcileTrade calculator tradeId =>
      unfold handle
      rw [wp_bind]
      apply wp_reconcileTrade sha256 others
      intro row log laterKnown compared
      rw [wp_pure]
      intro db next dbValid learned executed
      obtain ⟨result, compared, unsettled⟩ := compared db next dbValid learned executed
      exact .compared compared unsettled
  | settleTrade calculator tradeId at_ =>
      unfold handle
      rw [wp_bind]
      apply wp_settleTrade sha256 others
      intro outcome log laterKnown effect
      rw [wp_pure]
      exact effect

end

end UrjaSetu.Services.SettlementService
