import UrjaSetu.Domain.Policies.ChainCommitment
import UrjaSetu.Services.AuditService.Append

/-!
Audit rows read back from the database (`_rehydrate` of
`app/services/audit_service.py`).

A JSONB column gives the payload back with the members of its objects in an
order of its own, and `timestamptz` gives the instant back in the time zone of
the session. Neither reaches the fingerprint.

Owns: rows as a session loads them, and that an untouched row has the hash it
was sealed with.
-/

namespace UrjaSetu.Services.AuditService

open UrjaSetu.Domain UrjaSetu.Domain.Interfaces UrjaSetu.Db.Models UrjaSetu.Library
open UrjaSetu.Library.Calendar UrjaSetu.Domain.Policies.AuditChain

/-- A row of `audit_events` as a session loads it. -/
structure LoadedAuditEvent where
  id : UUID
  eventType : AuditEventType
  entityType : AuditEntityType
  entityId : UUID
  eventTime : AwareDatetime
  recordedAt : AwareDatetime
  actorUserId : Option UUID
  payloadJson : Dict String Json
  eventHash : String
  previousHash : Option String

/-- What a load may return for a stored row: the same JSON value and the same
instants. -/
structure LoadedFrom (row : AuditEventRecord) (loaded : LoadedAuditEvent) : Prop where
  id : loaded.id = row.id
  eventType : loaded.eventType = row.eventType
  entityType : loaded.entityType = row.entityType
  entityId : loaded.entityId = row.entityId
  eventTime : loaded.eventTime.instant = row.eventTime
  recordedAt : loaded.recordedAt.instant = row.recordedAt
  actorUserId : loaded.actorUserId = row.actorUserId
  payloadJson : (Json.obj row.payloadJson.entries).SameValue (.obj loaded.payloadJson.entries)
  eventHash : loaded.eventHash = row.eventHash
  previousHash : loaded.previousHash = row.previousHash

/-- Rebuild the sealed event a loaded row represents. An aware datetime takes
part in an event by its instant. -/
def LoadedAuditEvent.rehydrate (loaded : LoadedAuditEvent) : SealedAuditEvent where
  event :=
    { eventId := loaded.id
      eventType := loaded.eventType
      entityType := loaded.entityType
      entityId := loaded.entityId
      eventTime := loaded.eventTime.instant
      recordedAt := loaded.recordedAt.instant
      actorUserId := loaded.actorUserId
      payload := loadedPayload loaded.payloadJson }
  previousHash := loaded.previousHash
  eventHash := loaded.eventHash

section Rehydration

variable {sha256 : String → String} {event : AuditEvent}

/-- A payload that was stored and loaded in any order of members has the
canonical form it had before. -/
theorem loadedPayload_sameValue {payload loaded : Dict String Json}
    (reduced : canonicalise (.mapping event.withPayloadVersion.entries) = .ok (.obj payload.entries))
    (canonical : Canonical (.obj payload.entries))
    (same : (Json.obj payload.entries).orderKeys id = (Json.obj loaded.entries).orderKeys id)
    (keys : (loaded.entries.map Prod.fst).Perm (payload.entries.map Prod.fst)) :
    canonicalise (.mapping ({ event with payload := loadedPayload loaded } : AuditEvent
      ).withPayloadVersion.entries) = canonicalise (.mapping event.withPayloadVersion.entries) := by
  have named : payloadVersionKey ∈ (loadedPayload loaded).entries.map Prod.fst := by
    show payloadVersionKey ∈ (ofMembers loaded.entries).map Prod.fst
    rw [ofMembers_keys, keys.mem_iff, canonicalise_mapping_keys reduced]
    exact payloadVersionKey_mem event
  have loadedForm : canonicalise (.mapping (loadedPayload loaded).entries) =
      .ok ((Json.obj loaded.entries).orderKeys id) := by
    rw [← canonicalise_ofJson, ofJson]
    rfl
  rw [canonicalise_mapping_perm (withPayloadVersion_perm named) (Dict.distinct _), loadedForm,
    ← same, canonical.ordered, reduced]

/-- Loading the stored row of a sealed event leaves its canonical form. -/
theorem loadedFrom_canonical {row : AuditEventRecord} {loaded : LoadedAuditEvent}
    {payload : Dict String Json}
    (reduced : canonicalise (.mapping event.withPayloadVersion.entries) = .ok (.obj payload.entries))
    (canonical : Canonical (.obj payload.entries)) (stored : row.payloadJson = jsonb payload)
    (returned : LoadedFrom row loaded) :
    canonicalise (.mapping ({ event with payload := loadedPayload loaded.payloadJson } : AuditEvent
      ).withPayloadVersion.entries) = canonicalise (.mapping event.withPayloadVersion.entries) := by
  have storedForm : Json.obj row.payloadJson.entries =
      (Json.obj payload.entries).orderKeys jsonbRank := by
    rw [stored, Json.orderKeys]
    rfl
  have storedDistinct : (Json.obj row.payloadJson.entries).DistinctKeys :=
    storedForm ▸ Json.distinctKeys_orderKeys jsonbRank _ canonical.distinct
  obtain ⟨reordered, pointwise, perm⟩ := returned.payloadJson
  apply loadedPayload_sameValue reduced canonical
  · rw [← Json.SameValue.orderKeys_eq Function.injective_id storedDistinct returned.payloadJson,
      storedForm, Json.orderKeys_orderKeys Function.injective_id jsonbRank _ canonical.distinct]
  · rw [stored] at pointwise
    exact ((perm.map Prod.fst).symm.trans (List.Perm.of_eq pointwise.keys.symm)).trans
      (jsonbMembers_keys payload.entries)

/-- A row is built from the payload's canonical form and carries the hash of its
event. -/
theorem sealedRow_ok {head : Option AuditEventRecord} {row : AuditEventRecord}
    (built : sealedRow sha256 event head = .ok row) :
    ∃ payload eventHash, canonicalPayload event.withPayloadVersion = .ok payload ∧
      eventFingerprint sha256 event (head.map AuditEventRecord.eventHash) = .ok eventHash ∧
      row =
        { id := event.eventId
          eventType := event.eventType
          entityType := event.entityType
          entityId := event.entityId
          eventTime := event.eventTime
          recordedAt := event.recordedAt
          actorUserId := event.actorUserId
          payloadJson := jsonb payload
          eventHash := eventHash
          previousHash := head.map AuditEventRecord.eventHash } := by
  unfold sealedRow at built
  obtain ⟨sealed, sealedEq, onward⟩ := bind_eq_ok.mp built
  obtain ⟨payload, payloadEq, returned⟩ := bind_eq_ok.mp onward
  cases returned
  unfold sealEvent at sealedEq
  obtain ⟨hash, fingerprint, made⟩ := bind_eq_ok.mp (mapError_eq_ok.mp sealedEq)
  cases made
  exact ⟨payload, hash, mapError_eq_ok.mp payloadEq, fingerprint, rfl⟩

/-- Whatever a load returns for a sealed row has the hash the row was sealed
with. -/
theorem rehydrate_sealed (dictionaries : Dictionaries (.mapping event.payload.entries))
    {head : Option AuditEventRecord} {row : AuditEventRecord} {loaded : LoadedAuditEvent}
    (built : sealedRow sha256 event head = .ok row) (returned : LoadedFrom row loaded) :
    Sealed sha256 loaded.rehydrate := by
  obtain ⟨payload, hash, payloadEq, fingerprint, rowEq⟩ := sealedRow_ok built
  obtain ⟨canonical, reduced, _⟩ := eventFingerprint_ok fingerprint
  have isCanonical := canonicalise_canonical _ (withPayloadVersion_dictionaries dictionaries) reduced
  obtain ⟨stored, storedEq, storedEntries⟩ := canonicalPayload_eq reduced isCanonical
  rw [payloadEq] at storedEq
  cases storedEq
  rw [storedEntries] at reduced isCanonical
  have same := eventFingerprint_congr sha256 (head.map AuditEventRecord.eventHash)
    (loadedFrom_canonical reduced isCanonical (by rw [rowEq]) returned)
  have loadedEvent : loaded.rehydrate = ⟨{ event with payload := loadedPayload loaded.payloadJson },
      head.map AuditEventRecord.eventHash, hash⟩ := by
    rw [LoadedAuditEvent.rehydrate, returned.id, returned.eventType, returned.entityType,
      returned.entityId, returned.eventTime, returned.recordedAt, returned.actorUserId,
      returned.eventHash, returned.previousHash, rowEq]
  rw [Sealed, loadedEvent]
  exact same.trans fingerprint

/-- A stored row that `record` built from an event whose payload is made of
dictionaries. -/
def Recorded (sha256 : String → String) (row : AuditEventRecord) : Prop :=
  ∃ event head, Dictionaries (.mapping event.payload.entries) ∧
    sealedRow sha256 event head = .ok row

/-- In a store nobody touched, every row loads under the hash it was sealed with,
so a walk over it judges nothing but the links. -/
theorem verify_untouched {rows : List AuditEventRecord} {loaded : List LoadedAuditEvent}
    (recorded : ∀ row ∈ rows, Recorded sha256 row)
    (returned : List.Forall₂ LoadedFrom rows loaded) :
    (∀ row ∈ loaded, eventFingerprint sha256 row.rehydrate.event row.previousHash =
      .ok row.eventHash) ∧
    ∃ report, verifyChain sha256 (loaded.map LoadedAuditEvent.rehydrate) = .ok report ∧
      (report.intact = true ↔ LinkedFrom none (loaded.map LoadedAuditEvent.rehydrate)) := by
  have sealed : ∀ row ∈ loaded, Sealed sha256 row.rehydrate := by
    induction returned with
    | nil => simp
    | cons same _ inductionHypothesis =>
        intro row member
        rcases List.mem_cons.mp member with rfl | later
        · obtain ⟨event, head, dictionaries, built⟩ := recorded _ List.mem_cons_self
          exact rehydrate_sealed dictionaries built same
        · exact inductionHypothesis (fun stored storedMember =>
            recorded stored (List.mem_cons_of_mem _ storedMember)) row later
  refine ⟨sealed, verifyFrom_sealed sha256 0 none (fun _ => rfl) ?_⟩
  intro event member
  obtain ⟨row, rowMember, rfl⟩ := List.mem_map.mp member
  exact sealed row rowMember

end Rehydration

/-- The row of a cancelled order as a session in another time zone loads it, with
the members of its payload the other way round. -/
def sampleLoaded (row : AuditEventRecord) : LoadedAuditEvent where
  id := row.id
  eventType := row.eventType
  entityType := row.entityType
  entityId := row.entityId
  eventTime := ⟨row.eventTime + 19800000000, 19800000000⟩
  recordedAt := ⟨row.recordedAt + 19800000000, 19800000000⟩
  actorUserId := row.actorUserId
  payloadJson :=
    { entries := (Json.orderMembers id row.payloadJson.entries).reverse
      distinct := by
        rw [List.map_reverse, List.nodup_reverse, Json.orderMembers_keys]
        exact row.payloadJson.distinct }
  eventHash := row.eventHash
  previousHash := row.previousHash

private theorem sampleLoaded_loadedFrom (row : AuditEventRecord) :
    LoadedFrom row (sampleLoaded row) where
  id := rfl
  eventType := rfl
  entityType := rfl
  entityId := rfl
  eventTime := Int.add_sub_cancel _ _
  recordedAt := Int.add_sub_cancel _ _
  actorUserId := rfl
  payloadJson :=
    ⟨_, Json.sameMembers_orderMembers id row.payloadJson.entries, (List.reverse_perm _).symm⟩
  eventHash := rfl
  previousHash := rfl

theorem verify_untouched_sample : ∃ row, sealedRow id (sampleEvent 1 10) none = .ok row ∧
    ((∀ loaded ∈ [sampleLoaded row],
      eventFingerprint id loaded.rehydrate.event loaded.previousHash = .ok loaded.eventHash) ∧
    ∃ report, verifyChain id ([sampleLoaded row].map LoadedAuditEvent.rehydrate) = .ok report ∧
      (report.intact = true ↔
        LinkedFrom none ([sampleLoaded row].map LoadedAuditEvent.rehydrate))) := by
  have seals : (sealedRow id (sampleEvent 1 10) none).toOption.isSome = true := by decide +kernel
  cases built : sealedRow id (sampleEvent 1 10) none with
  | error failure =>
      rw [built] at seals
      cases seals
  | ok row =>
      have dictionaries : Dictionaries (.mapping (sampleEvent 1 10).payload.entries) :=
        ⟨(sampleEvent 1 10).payload.distinct, trivial, trivial⟩
      have recorded : ∀ stored ∈ [row], Recorded id stored := by
        intro stored member
        rw [List.mem_singleton.mp member]
        exact ⟨sampleEvent 1 10, none, dictionaries, built⟩
      exact ⟨row, rfl, verify_untouched recorded
        (List.Forall₂.cons (sampleLoaded_loadedFrom row) List.Forall₂.nil)⟩

end UrjaSetu.Services.AuditService
