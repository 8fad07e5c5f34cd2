import UrjaSetu.Domain.Policies.AuditChain
import UrjaSetu.Repositories.Audit

/-!
Appending and verification of `app/services/audit_service.py`.

`record` links a new event to the row that is last in recorded order, while the
chain is a chain of hash links. The two orders agree as long as every event is
recorded after the ones before it, and an event that is not breaks the walk.

Owns: `record`, `verify`, and when a run of appends leaves an intact chain.
-/

namespace UrjaSetu.Services.AuditService

open UrjaSetu.Domain UrjaSetu.Domain.Interfaces UrjaSetu.Db.Models UrjaSetu.Library
open UrjaSetu.Domain.Policies.AuditChain UrjaSetu.Repositories.AuditEventRepository

/-- What an append raises: its payload has no canonical form, or the database
refuses the row. -/
inductive RecordError where
  | canonical (error : CanonicalError)
  | integrity (error : IntegrityError)
deriving DecidableEq, Repr

variable (sha256 : String → String)

/-- Append one event to the chain, sealed against the current head. -/
def record (table : AuditEventTable) (event : AuditEvent) : Except RecordError AuditEventTable := do
  let head := latest table
  let sealed ← (sealEvent sha256 event (head.map AuditEventRecord.eventHash)).mapError .canonical
  let payload ← (canonicalPayload event.withPayloadVersion).mapError .canonical
  let row : AuditEventRecord :=
    { id := event.eventId
      eventType := event.eventType
      entityType := event.entityType
      entityId := event.entityId
      eventTime := event.eventTime
      recordedAt := event.recordedAt
      actorUserId := event.actorUserId
      payloadJson := jsonb payload
      eventHash := sealed.eventHash
      previousHash := sealed.previousHash }
  (table.insert row).mapError .integrity

theorem ofMembers_keys (members : List (String × Json)) :
    (ofMembers members).map Prod.fst = members.map Prod.fst := by
  induction members with
  | nil => rfl
  | cons member members inductionHypothesis =>
      rw [ofMembers, List.map_cons, List.map_cons, inductionHypothesis]

/-- A stored payload as it is loaded. -/
def loadedPayload (payload : Dict String Json) : Dict String Value where
  entries := ofMembers payload.entries
  distinct := by
    rw [ofMembers_keys]
    exact payload.distinct

/-- Rebuild the sealed event a row represents. -/
def rehydrate (row : AuditEventRecord) : SealedAuditEvent where
  event :=
    { eventId := row.id
      eventType := row.eventType
      entityType := row.entityType
      entityId := row.entityId
      eventTime := row.eventTime
      recordedAt := row.recordedAt
      actorUserId := row.actorUserId
      payload := loadedPayload row.payloadJson }
  previousHash := row.previousHash
  eventHash := row.eventHash

/-- Walk the stored chain and report whether it is intact. -/
def verify (table : AuditEventTable) (limit : Option ℕ := none) :
    Except CanonicalError ChainVerification :=
  let rows := match limit with
    | none => listChain table
    | some count => (listChain table).take count
  verifyChain sha256 (rows.map rehydrate)

/-- A run of appends on an empty store. -/
def recordAll (events : List AuditEvent) : Except RecordError AuditEventTable :=
  events.foldlM (record sha256) AuditEventTable.empty

/-! ## One append -/

/-- A row that holds a supported event under the hash of its content. -/
structure Faithful (row : AuditEventRecord) : Prop where
  rehydrated : Sealed sha256 (rehydrate row)
  origin : ∃ event, SupportedEvent event ∧ event.eventId = row.id ∧
    eventFingerprint sha256 event row.previousHash = .ok row.eventHash

/-- Loading a payload that names its version adds nothing to it. -/
theorem withPayloadVersion_perm {event : AuditEvent}
    (named : payloadVersionKey ∈ event.payload.entries.map Prod.fst) :
    event.withPayloadVersion.entries.Perm event.payload.entries := by
  apply Dict.perm_of_get?_eq
  intro key
  rw [AuditEvent.withPayloadVersion, Dict.get?_update]
  cases own : event.payload.get? key with
  | some value => rfl
  | none =>
      rw [Option.none_or, Dict.get?_set]
      have different : key ≠ payloadVersionKey := by
        intro same
        obtain ⟨entry, member, keyEq⟩ := List.mem_map.mp named
        have found : event.payload.get? entry.1 = some entry.2 := Dict.mem_entries_iff.mp member
        rw [keyEq, ← same, own] at found
        cases found
      rw [if_neg different]
      rfl

theorem payloadVersionKey_mem (event : AuditEvent) :
    payloadVersionKey ∈ event.withPayloadVersion.entries.map Prod.fst := by
  have version : ∃ value, event.withPayloadVersion.get? payloadVersionKey = some value := by
    rw [AuditEvent.withPayloadVersion, Dict.get?_update, Dict.get?_set_self]
    cases event.payload.get? payloadVersionKey with
    | none => exact ⟨_, rfl⟩
    | some value => exact ⟨value, rfl⟩
  obtain ⟨value, found⟩ := version
  exact List.mem_map.mpr ⟨_, Dict.mem_entries_iff.mpr found, rfl⟩

/-- A payload that was stored and loaded has the canonical form it had before. -/
theorem loadedPayload_canonical {event : AuditEvent} {payload : Dict String Json}
    (reduced : canonicalise (.mapping event.withPayloadVersion.entries) = .ok (.obj payload.entries))
    (canonical : Canonical (.obj payload.entries)) :
    canonicalise (.mapping ({ event with payload := loadedPayload (jsonb payload) } : AuditEvent
      ).withPayloadVersion.entries) = canonicalise (.mapping event.withPayloadVersion.entries) := by
  have named : payloadVersionKey ∈ (loadedPayload (jsonb payload)).entries.map Prod.fst := by
    show payloadVersionKey ∈ (ofMembers (jsonbMembers payload.entries)).map Prod.fst
    rw [ofMembers_keys, (jsonbMembers_keys payload.entries).mem_iff,
      canonicalise_mapping_keys reduced]
    exact payloadVersionKey_mem event
  have loaded : canonicalise (.mapping (loadedPayload (jsonb payload)).entries) =
      .ok (((Json.obj payload.entries).orderKeys jsonbRank).orderKeys id) := by
    rw [← canonicalise_ofJson, Json.orderKeys, ofJson]
    rfl
  rw [canonicalise_mapping_perm (withPayloadVersion_perm named) (Dict.distinct _), loaded,
    Json.orderKeys_orderKeys Function.injective_id jsonbRank _ canonical.distinct,
    canonical.ordered, reduced]

section Append

variable {table next : AuditEventTable} {event : AuditEvent}

/-- Appending a supported event is inserting one faithful row that names the
current head. -/
theorem record_eq (table : AuditEventTable) (support : SupportedEvent event) :
    ∃ row, row.id = event.eventId ∧ row.recordedAt = event.recordedAt ∧
      row.previousHash = (latest table).map AuditEventRecord.eventHash ∧
      Faithful sha256 row ∧ record sha256 table event = (table.insert row).mapError .integrity := by
  obtain ⟨payload, reduced, canonical, fingerprint⟩ := eventFingerprint_supported sha256
    ((latest table).map AuditEventRecord.eventHash) support
  obtain ⟨stored, storedEq, storedEntries⟩ := canonicalPayload_eq reduced canonical
  let row : AuditEventRecord :=
    { id := event.eventId
      eventType := event.eventType
      entityType := event.entityType
      entityId := event.entityId
      eventTime := event.eventTime
      recordedAt := event.recordedAt
      actorUserId := event.actorUserId
      payloadJson := jsonb stored
      eventHash := sha256 (materialText event ((latest table).map AuditEventRecord.eventHash) payload)
      previousHash := (latest table).map AuditEventRecord.eventHash }
  have sealed : sealEvent sha256 event ((latest table).map AuditEventRecord.eventHash) =
      .ok ⟨event, row.previousHash, row.eventHash⟩ := by
    rw [sealEvent, fingerprint]
    rfl
  refine ⟨row, rfl, rfl, rfl, ⟨?_, event, support, rfl, fingerprint⟩, ?_⟩
  · rw [storedEntries] at reduced canonical
    have same := eventFingerprint_congr sha256 row.previousHash
      (loadedPayload_canonical reduced canonical)
    exact same.trans fingerprint
  · dsimp only [record]
    rw [sealed, storedEq]
    rfl

end Append

/-! ## Runs of appends -/

/-- Where an event is going to stand in recorded order. -/
def eventKey (event : AuditEvent) : Instant ×ₗ UUID := toLex (event.recordedAt, event.eventId)

/-- The table of a run in which every event was recorded after the ones before
it: its rows are linked in the order in which they were inserted. -/
structure InOrder (table : AuditEventTable) : Prop where
  faithful : ∀ row ∈ table.rows, Faithful sha256 row
  increasing : table.rows.Pairwise fun earlier later => recordedKey earlier < recordedKey later
  linked : HashChain.Linked AuditEventRecord.previousHash AuditEventRecord.eventHash none table.rows

section Runs

variable {sha256} {table next : AuditEventTable} {event : AuditEvent}

theorem InOrder.listChain (ordered : InOrder sha256 table) : listChain table = table.rows :=
  sortBy_of_pairwise recordedKey (ordered.increasing.imp le_of_lt)

private theorem InOrder.latest (ordered : InOrder sha256 table) :
    latest table = table.rows.getLast? := by
  rw [Repositories.AuditEventRepository.latest, ordered.listChain]

private theorem InOrder.headHash (ordered : InOrder sha256 table) :
    (Repositories.AuditEventRepository.latest table).map AuditEventRecord.eventHash =
      HashChain.headHash AuditEventRecord.eventHash none table.rows := by
  rw [ordered.latest, HashChain.headHash, Option.or_none]

/-- Two faithful rows with one hash have one id. -/
theorem Faithful.id_eq (injective : Function.Injective sha256) {row other : AuditEventRecord}
    (faithful : Faithful sha256 row) (otherFaithful : Faithful sha256 other)
    (same : row.eventHash = other.eventHash) : row.id = other.id := by
  obtain ⟨event, support, eventId, fingerprint⟩ := faithful.origin
  obtain ⟨otherEvent, otherSupport, otherId, otherFingerprint⟩ := otherFaithful.origin
  rw [← eventId, ← otherId]
  apply eventId_eq_of_fingerprint sha256 injective support otherSupport
  rw [fingerprint, otherFingerprint, same]

/-- Every append to an ordered table succeeds, whatever its clock says. -/
theorem InOrder.record_ok (injective : Function.Injective sha256) (ordered : InOrder sha256 table)
    (support : SupportedEvent event) (fresh : event.eventId ∉ table.rows.map AuditEventRecord.id) :
    ∃ next row, record sha256 table event = .ok next ∧ next.rows = table.rows ++ [row] ∧
      row.id = event.eventId ∧ row.recordedAt = event.recordedAt ∧ Faithful sha256 row ∧
      row.previousHash = (Repositories.AuditEventRepository.latest table).map
        AuditEventRecord.eventHash := by
  obtain ⟨row, rowId, recordedAt, previousHash, faithful, recordEq⟩ :=
    record_eq sha256 table support
  have idFresh : row.id ∉ table.rows.map AuditEventRecord.id := by
    rw [rowId]
    exact fresh
  have hashFresh : row.eventHash ∉ table.rows.map AuditEventRecord.eventHash := by
    intro taken
    obtain ⟨other, member, same⟩ := List.mem_map.mp taken
    have ids := (ordered.faithful other member).id_eq injective faithful same
    exact idFresh (ids ▸ List.mem_map_of_mem member)
  have previousFresh : row.previousHash ∉ table.rows.map AuditEventRecord.previousHash := by
    intro taken
    obtain ⟨other, member, same⟩ := List.mem_map.mp taken
    rw [previousHash, ordered.headHash] at same
    exact HashChain.previous_ne_headHash _ _ ordered.linked table.eventHashes member same
  have notItself : row.previousHash ≠ some row.eventHash := by
    intro itself
    rw [previousHash] at itself
    obtain ⟨head, isLatest, same⟩ := Option.map_eq_some_iff.mp itself
    exact hashFresh (same ▸ List.mem_map_of_mem (latest_mem isLatest))
  obtain ⟨next, inserted, rows⟩ :=
    AuditEventTable.insert_of_fresh idFresh hashFresh previousFresh notItself
  refine ⟨next, row, ?_, rows, rowId, recordedAt, faithful, previousHash⟩
  rw [recordEq, inserted]
  rfl

/-- Step: an event recorded after all others keeps the table in order. -/
theorem InOrder.record (injective : Function.Injective sha256) (ordered : InOrder sha256 table)
    (support : SupportedEvent event) (fresh : event.eventId ∉ table.rows.map AuditEventRecord.id)
    (later : ∀ row ∈ table.rows, recordedKey row < eventKey event) :
    ∃ next, AuditService.record sha256 table event = .ok next ∧ InOrder sha256 next ∧
      next.rows.map recordedKey = table.rows.map recordedKey ++ [eventKey event] := by
  obtain ⟨next, row, recorded, rows, rowId, recordedAt, faithful, previousHash⟩ :=
    ordered.record_ok injective support fresh
  have key : recordedKey row = eventKey event := by
    rw [recordedKey, eventKey, rowId, recordedAt]
  refine ⟨next, recorded, ⟨?_, ?_, ?_⟩, ?_⟩
  · intro other member
    rw [rows] at member
    rcases List.mem_append.mp member with stored | new
    · exact ordered.faithful other stored
    · rw [List.mem_singleton.mp new]
      exact faithful
  · rw [rows, List.pairwise_append]
    refine ⟨ordered.increasing, List.pairwise_singleton _ _, ?_⟩
    intro earlier member other otherMember
    rw [List.mem_singleton.mp otherMember, key]
    exact later earlier member
  · rw [rows]
    apply HashChain.linked_concat _ _ ordered.linked
    rw [previousHash, ordered.headHash]
  · rw [rows, List.map_append, List.map_singleton, key]

/-- The walk over any table of faithful rows reports whether its recorded order
is linked. -/
theorem verify_iff (faithful : ∀ row ∈ table.rows, Faithful sha256 row) :
    ∃ report, verify sha256 table = .ok report ∧
      (report.intact = true ↔ HashChain.Linked AuditEventRecord.previousHash
        AuditEventRecord.eventHash none (Repositories.AuditEventRepository.listChain table)) := by
  have sealed : ∀ event ∈ (Repositories.AuditEventRepository.listChain table).map rehydrate,
      Sealed sha256 event := by
    intro event member
    obtain ⟨row, rowMember, rfl⟩ := List.mem_map.mp member
    exact (faithful row ((mem_sortBy recordedKey).mp rowMember)).rehydrated
  obtain ⟨report, walked, intact⟩ :=
    verifyFrom_sealed sha256 0 none (fun _ => rfl) sealed
  refine ⟨report, walked, ?_⟩
  rw [intact]
  exact HashChain.linked_map SealedAuditEvent.previousHash SealedAuditEvent.eventHash rehydrate none _

/-- The walk over an ordered table succeeds. -/
theorem InOrder.verify (ordered : InOrder sha256 table) :
    ∃ report, AuditService.verify sha256 table = .ok report ∧ report.intact = true := by
  obtain ⟨report, walked, intact⟩ := verify_iff ordered.faithful
  refine ⟨report, walked, intact.mpr ?_⟩
  rw [ordered.listChain]
  exact ordered.linked

/-- What an event recorded before the head leaves behind: its row names the
head, which is still the last row in recorded order. -/
theorem InOrder.record_late (injective : Function.Injective sha256)
    (ordered : InOrder sha256 table) (support : SupportedEvent event)
    (fresh : event.eventId ∉ table.rows.map AuditEventRecord.id)
    (late : ∃ row ∈ table.rows, eventKey event < recordedKey row) :
    ∃ next row head, AuditService.record sha256 table event = .ok next ∧
      (∀ other ∈ next.rows, Faithful sha256 other) ∧ row ∈ next.rows ∧
      row.previousHash = some head.eventHash ∧ recordedKey row < recordedKey head ∧
      Repositories.AuditEventRepository.latest next = some head := by
  obtain ⟨next, row, recorded, rows, rowId, recordedAt, faithful, previousHash⟩ :=
    ordered.record_ok injective support fresh
  obtain ⟨other, otherMember, before⟩ := late
  obtain ⟨head, isLatest⟩ : ∃ head, Repositories.AuditEventRepository.latest table = some head := by
    rw [ordered.latest, ← Option.isSome_iff_exists, List.getLast?_isSome]
    exact List.ne_nil_of_mem otherMember
  have key : recordedKey row < recordedKey head := by
    have rowKey : recordedKey row = eventKey event := by
      rw [recordedKey, eventKey, rowId, recordedAt]
    rw [rowKey]
    exact before.trans_le (recordedKey_le_latest isLatest otherMember)
  have nextFaithful : ∀ other ∈ next.rows, Faithful sha256 other := by
    intro other member
    rw [rows] at member
    rcases List.mem_append.mp member with stored | new
    · exact ordered.faithful other stored
    · rw [List.mem_singleton.mp new]
      exact faithful
  have rowMember : row ∈ next.rows := by
    rw [rows]
    simp
  have headMember : head ∈ next.rows := by
    rw [rows]
    exact List.mem_append_left _ (latest_mem isLatest)
  refine ⟨next, row, head, recorded, nextFaithful, rowMember, ?_, key, ?_⟩
  · rw [previousHash, isLatest]
    rfl
  · cases nextLatest : Repositories.AuditEventRepository.latest next with
    | none =>
        have empty : Repositories.AuditEventRepository.listChain next = [] :=
          List.getLast?_eq_none_iff.mp nextLatest
        have inChain := (mem_sortBy recordedKey).mpr headMember
        rw [Repositories.AuditEventRepository.listChain] at empty
        rw [empty] at inChain
        cases inChain
    | some last =>
        have above := recordedKey_le_latest nextLatest headMember
        have lastMember := latest_mem nextLatest
        rw [rows] at lastMember
        rcases List.mem_append.mp lastMember with stored | new
        · have below := recordedKey_le_latest isLatest stored
          have same := List.inj_on_of_nodup_map (recordedKeys_nodup table) stored
            (latest_mem isLatest) (le_antisymm below above)
          rw [same]
        · rw [List.mem_singleton.mp new] at above
          exact absurd key above.not_gt

/-- An event recorded before the head is linked to it all the same, and stands
in front of it: the walk fails from then on. -/
theorem InOrder.verify_broken (injective : Function.Injective sha256)
    (ordered : InOrder sha256 table) (support : SupportedEvent event)
    (fresh : event.eventId ∉ table.rows.map AuditEventRecord.id)
    (late : ∃ row ∈ table.rows, eventKey event < recordedKey row) :
    ∃ next report, AuditService.record sha256 table event = .ok next ∧
      AuditService.verify sha256 next = .ok report ∧ report.intact = false := by
  obtain ⟨next, row, head, recorded, faithful, rowMember, names, key, isLatest⟩ :=
    ordered.record_late injective support fresh late
  obtain ⟨report, walked, intact⟩ := verify_iff faithful
  refine ⟨next, report, recorded, walked, ?_⟩
  rw [← Bool.not_eq_true, intact]
  obtain ⟨front, back, split⟩ := List.append_of_mem ((mem_sortBy recordedKey).mpr rowMember)
  have sorted : (front ++ row :: back).Pairwise fun left right =>
      recordedKey left ≤ recordedKey right := by
    rw [← split]
    exact sortBy_pairwise recordedKey next.rows
  have headAfter : head ∈ back := by
    have headInChain : head ∈ front ++ row :: back := by
      rw [← split]
      exact (mem_sortBy recordedKey).mpr (latest_mem isLatest)
    rcases List.mem_append.mp headInChain with early | here
    · have below := (List.pairwise_append.mp sorted).2.2 head early row (by simp)
      exact absurd key below.not_gt
    · rcases List.mem_cons.mp here with same | after
      · rw [same] at key
        exact absurd key (lt_irrefl _)
      · exact after
  rw [Repositories.AuditEventRepository.listChain, split]
  apply HashChain.not_linked_of_names_later _ _ _ headAfter names
  rw [← split]
  exact ((sortBy_perm recordedKey next.rows).map AuditEventRecord.eventHash).nodup_iff.mpr
    next.eventHashes

/-- From then on no event can be appended at all: whatever is recorded next
claims the predecessor the late event has taken. -/
theorem InOrder.blocked (injective : Function.Injective sha256)
    (ordered : InOrder sha256 table) (support : SupportedEvent event)
    (fresh : event.eventId ∉ table.rows.map AuditEventRecord.id)
    (late : ∃ row ∈ table.rows, eventKey event < recordedKey row) :
    ∃ next, AuditService.record sha256 table event = .ok next ∧
      ∀ later, SupportedEvent later → ∀ after, AuditService.record sha256 next later ≠ .ok after := by
  obtain ⟨next, row, head, recorded, _, rowMember, names, _, isLatest⟩ :=
    ordered.record_late injective support fresh late
  refine ⟨next, recorded, ?_⟩
  intro later laterSupport after accepted
  obtain ⟨laterRow, _, _, laterNames, _, recordEq⟩ := record_eq sha256 next laterSupport
  rw [isLatest] at laterNames
  rw [recordEq] at accepted
  cases inserted : next.insert laterRow with
  | error error =>
      rw [inserted] at accepted
      cases accepted
  | ok result =>
      have distinct := result.previousHashes
      rw [AuditEventTable.insert_ok inserted, List.map_append, List.nodup_append] at distinct
      have taken : laterRow.previousHash ∈ next.rows.map AuditEventRecord.previousHash := by
        rw [laterNames, Option.map_some, ← names]
        exact List.mem_map_of_mem rowMember
      exact distinct.2.2 _ taken laterRow.previousHash (by simp) rfl

private theorem recordAll_append (events : List AuditEvent) (last : AuditEvent) :
    recordAll sha256 (events ++ [last]) =
      (recordAll sha256 events >>= fun table => AuditService.record sha256 table last) := by
  simp only [recordAll, List.foldlM_append, List.foldlM_cons, List.foldlM_nil, bind_pure]

/-- The ids of a table whose recorded keys are those of `events`. -/
theorem ids_of_keys {events : List AuditEvent}
    (keys : table.rows.map recordedKey = events.map eventKey) :
    table.rows.map AuditEventRecord.id = events.map AuditEvent.eventId := by
  have seconds := congrArg (List.map fun key => (ofLex key).2) keys
  rw [List.map_map, List.map_map] at seconds
  exact seconds

/-- Run: appending supported events of distinct ids in recorded order. -/
theorem recordAll_inOrder (injective : Function.Injective sha256) {events : List AuditEvent}
    (distinct : (events.map AuditEvent.eventId).Nodup)
    (support : ∀ event ∈ events, SupportedEvent event)
    (increasing : events.Pairwise fun earlier later => eventKey earlier < eventKey later) :
    ∃ table, recordAll sha256 events = .ok table ∧ InOrder sha256 table ∧
      table.rows.map recordedKey = events.map eventKey := by
  induction events using List.reverseRecOn with
  | nil => exact ⟨_, rfl, ⟨by simp [AuditEventTable.empty], List.Pairwise.nil, trivial⟩, rfl⟩
  | append_singleton front last inductionHypothesis =>
      rw [List.map_append, List.nodup_append] at distinct
      obtain ⟨frontDistinct, _, apart⟩ := distinct
      obtain ⟨frontIncreasing, _, after⟩ := List.pairwise_append.mp increasing
      obtain ⟨table, recorded, ordered, keys⟩ := inductionHypothesis frontDistinct
        (fun event member => support event (List.mem_append_left _ member)) frontIncreasing
      have fresh : last.eventId ∉ table.rows.map AuditEventRecord.id := by
        intro taken
        rw [ids_of_keys keys] at taken
        exact apart _ taken last.eventId (by simp) rfl
      have later : ∀ row ∈ table.rows, recordedKey row < eventKey last := by
        intro row member
        have stored : recordedKey row ∈ front.map eventKey := keys ▸ List.mem_map_of_mem member
        obtain ⟨event, eventMember, same⟩ := List.mem_map.mp stored
        rw [← same]
        exact after event eventMember last (by simp)
      obtain ⟨next, nextRecorded, nextOrdered, nextKeys⟩ :=
        ordered.record injective (support last (by simp)) fresh later
      refine ⟨next, ?_, nextOrdered, ?_⟩
      · rw [recordAll_append, recorded, ok_bind, nextRecorded]
      · rw [nextKeys, keys, List.map_append, List.map_singleton]

/-- Every prefix of the run is recorded, and its chain verifies. -/
def IntactThroughout (sha256 : String → String) (events : List AuditEvent) : Prop :=
  ∀ count, ∃ table report, recordAll sha256 (events.take count) = .ok table ∧
    verify sha256 table = .ok report ∧ report.intact = true

private theorem increasing_of_intact (injective : Function.Injective sha256)
    {events : List AuditEvent}
    (distinct : (events.map AuditEvent.eventId).Nodup)
    (support : ∀ event ∈ events, SupportedEvent event)
    (accepted : IntactThroughout sha256 events) :
    events.Pairwise fun earlier later => eventKey earlier < eventKey later := by
  induction events using List.reverseRecOn with
  | nil => exact List.Pairwise.nil
  | append_singleton front last inductionHypothesis =>
      rw [List.map_append, List.nodup_append] at distinct
      obtain ⟨frontDistinct, _, apart⟩ := distinct
      have frontSupport : ∀ event ∈ front, SupportedEvent event :=
        fun event member => support event (List.mem_append_left _ member)
      have frontIncreasing := inductionHypothesis frontDistinct frontSupport (by
        intro count
        have shorter := accepted (min count front.length)
        rw [List.take_append_of_le_length (min_le_right _ _), ← List.take_eq_take_min] at shorter
        exact shorter)
      obtain ⟨table, recorded, ordered, keys⟩ :=
        recordAll_inOrder injective frontDistinct frontSupport frontIncreasing
      have fresh : last.eventId ∉ table.rows.map AuditEventRecord.id := by
        intro taken
        rw [ids_of_keys keys] at taken
        exact apart _ taken last.eventId (by simp) rfl
      rw [List.pairwise_append]
      refine ⟨frontIncreasing, List.pairwise_singleton _ _, ?_⟩
      intro event member other otherMember
      rw [List.mem_singleton.mp otherMember]
      by_contra notLater
      -- The event is not after this one, so the append below it breaks the walk.
      have late : ∃ row ∈ table.rows, eventKey last < recordedKey row := by
        have stored : eventKey event ∈ table.rows.map recordedKey :=
          keys ▸ List.mem_map_of_mem member
        obtain ⟨row, rowMember, same⟩ := List.mem_map.mp stored
        refine ⟨row, rowMember, lt_of_le_of_ne ?_ ?_⟩
        · rw [same]
          exact not_lt.mp notLater
        · intro equal
          have ids : last.eventId = row.id := (Prod.ext_iff.mp (toLex.injective equal)).2
          exact fresh (ids ▸ List.mem_map_of_mem rowMember)
      obtain ⟨next, report, nextRecorded, walked, broken⟩ :=
        ordered.verify_broken injective (support last (by simp)) fresh late
      obtain ⟨whole, wholeReport, wholeRecorded, wholeWalked, intact⟩ :=
        accepted (front ++ [last]).length
      rw [List.take_length, recordAll_append, recorded, ok_bind, nextRecorded] at wholeRecorded
      cases wholeRecorded
      rw [walked] at wholeWalked
      cases wholeWalked
      rw [broken] at intact
      cases intact

private theorem intact_of_increasing (injective : Function.Injective sha256)
    {events : List AuditEvent}
    (distinct : (events.map AuditEvent.eventId).Nodup)
    (support : ∀ event ∈ events, SupportedEvent event)
    (increasing : events.Pairwise fun earlier later => eventKey earlier < eventKey later) :
    IntactThroughout sha256 events := by
  intro count
  have within := List.take_sublist count events
  obtain ⟨table, recorded, ordered, _⟩ := recordAll_inOrder injective
    (distinct.sublist (within.map _)) (fun event member => support event (within.subset member))
    (increasing.sublist within)
  obtain ⟨report, walked, intact⟩ := ordered.verify
  exact ⟨table, report, recorded, walked, intact⟩

end Runs

/-- Exactly the runs that append in recorded order succeed throughout with an
intact chain after every append. -/
theorem record_run_iff (injective : Function.Injective sha256) (events : List AuditEvent)
    (distinct : (events.map AuditEvent.eventId).Nodup)
    (support : ∀ event ∈ events, SupportedEvent event) :
    IntactThroughout sha256 events ↔
      events.Pairwise fun earlier later => eventKey earlier < eventKey later :=
  ⟨increasing_of_intact injective distinct support, intact_of_increasing injective distinct support⟩

/-- An order of 1.50 kWh is cancelled at `recordedAt`. -/
def sampleEvent (eventId : UUID) (recordedAt : Instant) : AuditEvent where
  eventId := eventId
  eventType := .orderCancelled
  entityType := .order
  entityId := 7
  eventTime := 0
  recordedAt := recordedAt
  payload := Dict.empty.set "energy_kwh" (.decimal ⟨false, 150, -2⟩)

theorem record_run_iff_sample :
    IntactThroughout id [sampleEvent 2 10, sampleEvent 1 20] ↔
      [sampleEvent 2 10, sampleEvent 1 20].Pairwise fun earlier later =>
        eventKey earlier < eventKey later :=
  record_run_iff id Function.injective_id _ (by decide +kernel) (by decide +kernel)

/-- The clock steps back by five microseconds between two events. -/
def clockStepped : List AuditEvent := [sampleEvent 1 10, sampleEvent 2 5, sampleEvent 3 20]

/-- Distinct ids and supported payloads do not keep the chain intact. -/
theorem clockStepped_broken :
    (clockStepped.map AuditEvent.eventId).Nodup ∧ (∀ event ∈ clockStepped, SupportedEvent event) ∧
      ∀ sha256, Function.Injective sha256 → ¬ IntactThroughout sha256 clockStepped := by
  have distinct : (clockStepped.map AuditEvent.eventId).Nodup := by decide +kernel
  have support : ∀ event ∈ clockStepped, SupportedEvent event := by decide +kernel
  refine ⟨distinct, support, ?_⟩
  intro sha256 injective accepted
  have ordered := increasing_of_intact injective distinct support accepted
  have unordered : ¬ clockStepped.Pairwise fun earlier later =>
      eventKey earlier < eventKey later := by
    decide +kernel
  exact unordered ordered

end UrjaSetu.Services.AuditService
