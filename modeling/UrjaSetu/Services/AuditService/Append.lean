import UrjaSetu.Db.Transactions
import UrjaSetu.Domain.Interfaces.Grid
import UrjaSetu.Domain.Interfaces.Settlement
import UrjaSetu.Services.AuditService

/-!
Appends to the audit chain inside a caller's transaction, and the events the
market, the grid and the settlement record (`app/services/audit_service.py`).

The head is read, the event sealed against it and the row inserted, so between
the read and the insert another transaction may append: the two rows then name
the same predecessor, and the second of them to commit is refused.

Owns: `record` as a transaction, `build_event` and the event builders.
-/

namespace UrjaSetu.Services.AuditService

open UrjaSetu.Core UrjaSetu.Domain UrjaSetu.Domain.Interfaces UrjaSetu.Db UrjaSetu.Db.Models
open UrjaSetu.Domain.Policies.AuditChain UrjaSetu.Library UrjaSetu.Library.Transaction
open UrjaSetu.Repositories.AuditEventRepository

section

variable (sha256 : String → String)

/-- A digest that keeps the head of the text does not need the whole of it. -/
theorem eventFingerprint_head {count : ℕ}
    (isHead : ∀ text : String, sha256 text = String.ofList
      ((text.toByteArray.data.toList.take count).map fun byte => Char.ofNat byte.toNat)) :
    eventFingerprint sha256 = fun event previousHash =>
      (canonicalise (.mapping (material event previousHash))).map fun canonical =>
        String.ofList ((((canonical.orderKeys id).chars.flatMap String.utf8EncodeChar).take count).map
          fun byte => Char.ofNat byte.toNat) := by
  funext event previousHash
  unfold eventFingerprint canonicalJson
  cases canonicalise (.mapping (material event previousHash)) with
  | error error => rfl
  | ok canonical =>
      have bytes : (canonical.orderKeys id).dumps.toByteArray.data.toList =
          (canonical.orderKeys id).chars.flatMap String.utf8EncodeChar := by
        unfold Json.dumps
        rw [String.toByteArray_ofList]
        unfold List.utf8Encode
        rw [List.toList_data_toByteArray]
      rw [ok_bind, except_pure, ok_bind, isHead, bytes]
      rfl

/-- The row of an event sealed against `head`. -/
def sealedRow (event : AuditEvent) (head : Option AuditEventRecord) :
    Except Failure AuditEventRecord := do
  let sealed ← (sealEvent sha256 event (head.map AuditEventRecord.eventHash)).mapError .audit
  let payload ← (canonicalPayload event.withPayloadVersion).mapError .audit
  pure
    { id := event.eventId
      eventType := event.eventType
      entityType := event.entityType
      entityId := event.entityId
      eventTime := event.eventTime
      recordedAt := event.recordedAt
      actorUserId := event.actorUserId
      payloadJson := jsonb payload
      eventHash := sealed.eventHash
      previousHash := sealed.previousHash }

/-- Append one event to the chain, inside the caller's transaction. -/
def append (event : AuditEvent) : Txn AuditEventRecord := do
  let head ← query fun db => latest db.audit
  let row ← lift (sealedRow sha256 event head)
  statement (insertAudit row)
  pure row

/-- The row names the head it was sealed against. -/
theorem sealedRow_previousHash {event : AuditEvent} {head : Option AuditEventRecord}
    {row : AuditEventRecord} (built : sealedRow sha256 event head = .ok row) :
    row.previousHash = head.map AuditEventRecord.eventHash := by
  unfold sealedRow at built
  obtain ⟨sealed, sealedEq, onward⟩ := bind_eq_ok.mp built
  obtain ⟨payload, _, returned⟩ := bind_eq_ok.mp onward
  cases returned
  unfold sealEvent at sealedEq
  cases fingerprint : eventFingerprint sha256 event (head.map AuditEventRecord.eventHash) with
  | error error =>
      rw [fingerprint] at sealedEq
      cases sealedEq
  | ok hash =>
      rw [fingerprint] at sealedEq
      cases sealedEq
      rfl

/-- What `record` raises, as a failure of the operation. -/
def RecordError.failure : RecordError → Failure
  | .canonical error => .audit error
  | .integrity error => .database error

private theorem record_sealedRow (table : AuditEventTable) (event : AuditEvent) :
    (record sha256 table event).mapError RecordError.failure =
      (sealedRow sha256 event (latest table)).bind fun row =>
        (table.insert row).mapError .database := by
  unfold record sealedRow
  dsimp only
  cases sealEvent sha256 event ((latest table).map AuditEventRecord.eventHash) with
  | error error => rfl
  | ok sealed =>
      cases canonicalPayload event.withPayloadVersion with
      | error error => rfl
      | ok payload =>
          show ((table.insert _).mapError RecordError.integrity).mapError RecordError.failure =
            (table.insert _).mapError Failure.database
          cases table.insert _ with
          | error error => rfl
          | ok next => rfl

/-- Alone, an append is `record`. -/
theorem append_alone (event : AuditEvent) (inputs : ℕ → Supply) (db : Database) :
    ((append sha256 event).alone inputs db).map Prod.snd =
      ((record sha256 db.audit event).mapError RecordError.failure).map fun table =>
        { db with audit := table } := by
  rw [record_sealedRow]
  unfold append
  rw [alone_query_bind]
  cases sealedRow sha256 event (latest db.audit) with
  | error error =>
      rw [lift_error_bind]
      rfl
  | ok row =>
      rw [lift_ok_bind, alone_statement_bind]
      unfold insertAudit
      dsimp only [Except.bind]
      cases db.audit.insert row with
      | error error => rfl
      | ok table => rfl

end

/-! ## Events -/

/-- A decimal of a payload. -/
def decimalValue (value : ℚ) : Value := .decimal (Decimal.ofRat value)

/-- `build_event`. -/
def buildEvent (eventType : AuditEventType) (entityId : UUID) (occurredAt : Instant)
    (payload : List (String × Value)) (actorUserId : Option UUID := none) : Txn AuditEvent := do
  let eventId ← Txn.uuid4
  let recordedAt ← Txn.utcNow
  pure
    { eventId := eventId
      eventType := eventType
      entityType := eventType.subject
      entityId := entityId
      eventTime := occurredAt
      recordedAt := recordedAt
      actorUserId := actorUserId
      payload := Dict.ofItems Prod.fst Prod.snd payload }

/-- `order_placed`. -/
def orderPlaced (order : Order) (occurredAt : Instant) : Txn AuditEvent :=
  buildEvent .orderPlaced order.id occurredAt
    [("order_id", .uuid order.id), ("site_id", .uuid order.siteId),
      ("side", .str order.side.value), ("energy_kwh", decimalValue order.energyKwh),
      ("limit_price_inr_per_kwh", Value.ofOption decimalValue
        (if order.side = .buy then order.maxPriceInrPerKwh else order.minPriceInrPerKwh)),
      ("delivery_start", .datetime order.deliveryStart),
      ("delivery_end", .datetime order.deliveryEnd)] (some order.userId)

/-- `market_cleared`. -/
def marketCleared (session : MarketSession) (tradeCount : ℕ) (matchedKwh : ℚ)
    (matchingEngine matchingEngineVersion : String) (occurredAt : Instant) : Txn AuditEvent :=
  buildEvent .marketCleared session.id occurredAt
    [("market_session_id", .uuid session.id),
      ("market_date", .str (Calendar.dateText session.marketDate)), ("trade_count", .int tradeCount),
      ("matched_kwh", decimalValue matchedKwh), ("matching_engine", .str matchingEngine),
      ("matching_engine_version", .str matchingEngineVersion)]

/-- `trade_proposed`. -/
def tradeProposed (trade : Trade) (occurredAt : Instant) : Txn AuditEvent :=
  buildEvent .tradeProposed trade.id occurredAt
    [("trade_id", .uuid trade.id), ("buy_order_id", .uuid trade.buyOrderId),
      ("sell_order_id", .uuid trade.sellOrderId), ("quantity_kwh", decimalValue trade.quantityKwh),
      ("clearing_price_inr_per_kwh", decimalValue trade.clearingPriceInrPerKwh),
      ("delivery_start", .datetime trade.deliveryStart),
      ("delivery_end", .datetime trade.deliveryEnd)]

/-- `grid_validation_recorded`: the run before it is read back, so its metrics
are spelled as the engine spelled them. -/
def gridValidationRecorded (tradeId : UUID) (run : GridValidationRun)
    (metrics : Interfaces.Grid.GridMetrics) (occurredAt : Instant) : Txn AuditEvent :=
  buildEvent .gridValidationRecorded tradeId occurredAt
    [("trade_id", .uuid tradeId), ("grid_validation_id", .uuid run.id),
      ("grid_status", .str run.status.value), ("decision", .str run.decision.value),
      ("simulation_engine", .str run.simulationEngine),
      ("engine_version", Value.ofOption .str run.engineVersion),
      ("input_hash", .str run.inputHash),
      ("min_voltage_pu", Value.ofOption .decimal metrics.minVoltagePu),
      ("max_voltage_pu", Value.ofOption .decimal metrics.maxVoltagePu),
      ("max_line_loading_pct", Value.ofOption .decimal metrics.maxLineLoadingPct),
      ("max_transformer_loading_pct", Value.ofOption .decimal metrics.maxTransformerLoadingPct),
      ("reason", Value.ofOption .str run.reason)]

/-- `trade_reconciled`. -/
def tradeReconciled (row : MeterReconciliation) (policyVersion : String)
    (forecastBasisId : Option UUID) (occurredAt : Instant) : Txn AuditEvent :=
  buildEvent .tradeReconciled row.tradeId occurredAt
    [("trade_id", .uuid row.tradeId), ("reconciliation_id", .uuid row.id),
      ("committed_kwh", decimalValue row.committedKwh),
      ("actual_kwh", Value.ofOption decimalValue row.actualKwh),
      ("deviation_kwh", Value.ofOption decimalValue row.deviationKwh),
      ("within_tolerance", .bool row.withinTolerance),
      ("balancing_kwh", decimalValue row.balancingKwh),
      ("reconciliation_status", .str row.reconciliationStatus.value),
      ("policy_version", .str policyVersion),
      ("forecast_basis_id", Value.ofOption .uuid forecastBasisId)]

/-- `trade_settled`. -/
def tradeSettled (result : SettlementResult) (settlementId : UUID) (occurredAt : Instant) :
    Txn AuditEvent :=
  buildEvent .tradeSettled result.tradeId occurredAt
    [("trade_id", .uuid result.tradeId), ("settlement_id", .uuid settlementId),
      ("buyer_user_id", .uuid result.buyerUserId), ("seller_user_id", .uuid result.sellerUserId),
      ("settled_kwh", decimalValue result.settledQuantityKwh),
      ("gross_amount_inr", decimalValue result.grossAmountInr),
      ("platform_fee_inr", decimalValue result.platformFeeInr),
      ("balancing_charge_inr", decimalValue result.balancingChargeInr),
      ("buyer_debit_inr", decimalValue result.buyerDebitInr),
      ("seller_credit_inr", decimalValue result.sellerCreditInr),
      ("policy_version", .str result.policyVersion),
      ("price_components_id", Value.ofOption .uuid result.priceComponentsId),
      ("grid_validation_id", Value.ofOption .uuid result.gridValidationId),
      ("forecast_basis_id", Value.ofOption .uuid result.forecastBasisId)]

theorem supported_ofOption {α : Type} {wrap : α → Value}
    (supports : ∀ value, supported (wrap value) = true) (value : Option α) :
    supported (Value.ofOption wrap value) = true := by
  cases value with
  | none => rfl
  | some value => exact supports value

/-! ## What an append does when nothing overtakes it -/

/-- The chain can grow: no row names its head yet, and a new event has a new digest. -/
structure Appendable (sha256 : String → String) (db : Database) : Prop where
  head : (latest db.audit).map AuditEventRecord.eventHash ∉
    db.audit.rows.map AuditEventRecord.previousHash
  digest : ∀ (event : AuditEvent) (previousHash : Option String) (hash : String),
    event.eventId ∉ db.audit.rows.map AuditEventRecord.id →
    eventFingerprint sha256 event previousHash = .ok hash →
    hash ∉ db.audit.rows.map AuditEventRecord.eventHash

section

variable {sha256 : String → String} {usable : Supply → Prop} {db : Database} {event : AuditEvent}

private theorem sealedRow_supported (support : SupportedEvent event)
    (head : Option AuditEventRecord) :
    ∃ row, sealedRow sha256 event head = .ok row ∧ row.id = event.eventId ∧
      row.previousHash = head.map AuditEventRecord.eventHash ∧
      eventFingerprint sha256 event row.previousHash = .ok row.eventHash := by
  obtain ⟨payload, reduced, canonical, fingerprint⟩ := eventFingerprint_supported sha256
    (head.map AuditEventRecord.eventHash) support
  obtain ⟨stored, storedEq, _⟩ := canonicalPayload_eq reduced canonical
  unfold sealedRow sealEvent
  rw [fingerprint, storedEq]
  exact ⟨_, rfl, rfl, rfl, fingerprint⟩

private theorem Appendable.insert (appendable : Appendable sha256 db) {row : AuditEventRecord}
    (names : row.previousHash = (latest db.audit).map AuditEventRecord.eventHash)
    (fresh : row.id ∉ db.audit.rows.map AuditEventRecord.id)
    (hash : row.eventHash ∉ db.audit.rows.map AuditEventRecord.eventHash) :
    ∃ table, db.audit.insert row = .ok table := by
  have unnamed : row.previousHash ∉ db.audit.rows.map AuditEventRecord.previousHash := by
    rw [names]
    exact appendable.head
  have notItself : row.previousHash ≠ some row.eventHash := by
    intro itself
    rw [names] at itself
    obtain ⟨head, isHead, same⟩ := Option.map_eq_some_iff.mp itself
    exact hash (List.mem_map.mpr ⟨head, latest_mem isHead, same⟩)
  unfold AuditEventTable.insert
  rw [dif_neg fresh, dif_neg hash, dif_neg unnamed, dif_neg notItself]
  exact ⟨_, rfl⟩

theorem Appendable.of_empty (empty : db.audit.rows = []) : Appendable sha256 db where
  head := by
    rw [empty]
    exact List.not_mem_nil
  digest := by
    intro _ _ _ _ _
    rw [empty]
    exact List.not_mem_nil

/-- A supported event with a new identifier is appended. -/
theorem ends_append (appendable : Appendable sha256 db) (support : SupportedEvent event)
    (fresh : event.eventId ∉ db.audit.rows.map AuditEventRecord.id)
    {post : AuditEventRecord → Database → Prop}
    (each : ∀ row table, post row { db with audit := table }) :
    Ends usable (append sha256 event) db post := by
  obtain ⟨row, isRow, named, names, fingerprint⟩ :=
    @sealedRow_supported sha256 event support (latest db.audit)
  have freshRow : row.id ∉ db.audit.rows.map AuditEventRecord.id := by
    rw [named]
    exact fresh
  obtain ⟨table, inserted⟩ := appendable.insert names freshRow
    (appendable.digest event _ _ fresh fingerprint)
  unfold append
  rw [ends_bind, ends_query, ends_bind, ends_lift isRow, ends_bind, ends_statement]
  refine ⟨{ db with audit := table }, ?_, ?_⟩
  · unfold insertAudit
    rw [inserted]
  · rw [ends_pure]
    exact each row table

theorem ends_buildEvent {eventType : AuditEventType} {entityId : UUID} {occurredAt : Instant}
    {payload : List (String × Value)} {actorUserId : Option UUID}
    {post : AuditEvent → Database → Prop}
    (each : ∀ supply, usable supply → ∀ event : AuditEvent, event.eventId = supply.identifier →
      event.payload = Dict.ofItems Prod.fst Prod.snd payload → post event db) :
    Ends usable (buildEvent eventType entityId occurredAt payload actorUserId) db post := by
  unfold buildEvent
  rw [ends_bind, Txn.ends_uuid4]
  intro supply isUsable
  rw [ends_bind, Txn.ends_utcNow]
  intro _ _
  rw [ends_pure]
  exact each supply isUsable _ rfl rfl

end

/-! ## What is established of an append -/

section

variable {valid : Database → Prop} {rely : Database → Database → Prop}
  {log : List (Database → Except Failure Database)} {known : Database → Prop}

/-- Building an event only draws. -/
theorem wp_buildEvent {eventType : AuditEventType} {entityId : UUID} {occurredAt : Instant}
    {payload : List (String × Value)} {actorUserId : Option UUID}
    {post : AuditEvent → List (Database → Except Failure Database) → (Database → Prop) → Prop}
    (each : ∀ event, post event log known) :
    Wp valid rely (buildEvent eventType entityId occurredAt payload actorUserId) post log
      known := by
  unfold buildEvent
  rw [wp_bind]
  apply Txn.wp_uuid4
  intro identifier
  rw [wp_bind]
  apply Txn.wp_utcNow
  intro moment
  exact (wp_pure _).mpr (each _)

/-- The head an append names was the head at an earlier moment; the row is
inserted at a later one. -/
theorem wp_append (sha256 : String → String) (event : AuditEvent)
    {post : AuditEventRecord → List (Database → Except Failure Database) →
      (Database → Prop) → Prop}
    (each : ∀ row read seen inserted, valid read → known read → replay log read = .ok seen →
      row.previousHash = (latest seen.audit).map AuditEventRecord.eventHash →
      rely read inserted → (∃ view, replay (log ++ [insertAudit row]) inserted = .ok view) →
        post row (log ++ [insertAudit row])
          fun later => (known later ∧ rely read later) ∧ rely inserted later) :
    Wp valid rely (append sha256 event) post log known := by
  unfold append
  simp only [wp_bind, wp_query, wp_lift, wp_statement, wp_pure]
  intro read seen stored holds replayed row built inserted view _ learned again
  exact each row read seen inserted stored holds replayed (sealedRow_previousHash sha256 built)
    learned.2 ⟨view, again⟩

end

end UrjaSetu.Services.AuditService
