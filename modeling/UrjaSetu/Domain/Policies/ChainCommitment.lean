import UrjaSetu.Domain.Policies.CanonicalPayload

/-!
What the last hash of a chain commits to, and which chains verify
(`app/domain/policies/audit_chain.py`).

A fingerprint covers the hash before it, so against a head that was noted down
the walk from the last event back to the genesis leaves no event to change.

Owns: acceptance by `verifyChain` as sealing and linkage, and the equality of
accepted chains with one head.
-/

namespace UrjaSetu.Domain.Policies.AuditChain

open UrjaSetu.Domain UrjaSetu.Domain.Interfaces UrjaSetu.Library
open UrjaSetu.Library.Json UrjaSetu.Library.Calendar

/-- Two events say the same: all fields agree, and the payloads they are stored
with have one canonical text. -/
structure SameEvent (left right : AuditEvent) : Prop where
  eventId : left.eventId = right.eventId
  eventType : left.eventType = right.eventType
  entityType : left.entityType = right.entityType
  entityId : left.entityId = right.entityId
  eventTime : left.eventTime = right.eventTime
  recordedAt : left.recordedAt = right.recordedAt
  actorUserId : left.actorUserId = right.actorUserId
  payload : canonicalJson (.mapping left.withPayloadVersion.entries) =
    canonicalJson (.mapping right.withPayloadVersion.entries)

/-- The same event in the same place of a chain. -/
structure SameSealed (left right : SealedAuditEvent) : Prop where
  event : SameEvent left.event right.event
  previousHash : left.previousHash = right.previousHash
  eventHash : left.eventHash = right.eventHash

section Commitment

variable {sha256 : String → String}

private theorem optionJson_injective {α : Type} {text : α → String}
    (injective : Function.Injective text) :
    Function.Injective (optionJson text) := by
  intro left right same
  cases left with
  | none =>
      cases right with
      | none => rfl
      | some value => cases same
  | some value =>
      cases right with
      | none => cases same
      | some other => rw [injective (Json.str.inj same)]

/-- One fingerprint is of one event in one place. -/
theorem sameEvent_of_fingerprint (injective : Function.Injective sha256)
    {event other : AuditEvent} {previousHash otherPrevious : Option String} {hash : String}
    (fingerprint : eventFingerprint sha256 event previousHash = .ok hash)
    (otherFingerprint : eventFingerprint sha256 other otherPrevious = .ok hash) :
    SameEvent event other ∧ previousHash = otherPrevious := by
  obtain ⟨payload, reduced, hashed⟩ := eventFingerprint_ok fingerprint
  obtain ⟨otherPayload, otherReduced, otherHashed⟩ := eventFingerprint_ok otherFingerprint
  have members := materialMembers_eq_of_text (injective (hashed.symm.trans otherHashed))
  simp only [materialMembers, List.cons.injEq, Prod.mk.injEq, Json.str.injEq, true_and,
    and_true] at members
  obtain ⟨eventId, eventType, entityType, entityId, eventTime, recordedAt, actor, payloads, link⟩ :=
    members
  refine ⟨⟨uuidText_injective eventId, AuditEventType.value_injective eventType,
    AuditEntityType.value_injective entityType, uuidText_injective entityId,
    isoText_injective eventTime, isoText_injective recordedAt,
    optionJson_injective uuidText_injective actor, ?_⟩,
    optionJson_injective Function.injective_id link⟩
  unfold canonicalJson
  rw [reduced, otherReduced, ok_bind, ok_bind, payloads]

/-! ## Acceptance -/

/-- `verify_chain` reports the list intact. -/
def Accepted (sha256 : String → String) (events : List SealedAuditEvent) : Prop :=
  ∃ report, verifyChain sha256 events = .ok report ∧ report.intact = true

private theorem verifyFrom_intact {events : List SealedAuditEvent} {index : ℕ}
    {expectedPrevious : Option String} {report : ChainVerification}
    (start : index = 0 → expectedPrevious = none)
    (walked : verifyFrom sha256 index expectedPrevious events = .ok report)
    (intact : report.intact = true) :
    (∀ event ∈ events, Sealed sha256 event) ∧ LinkedFrom expectedPrevious events := by
  induction events generalizing index expectedPrevious with
  | nil => exact ⟨by simp, trivial⟩
  | cons event rest inductionHypothesis =>
      rw [verifyFrom, bind_eq_ok] at walked
      obtain ⟨recomputed, fingerprint, onward⟩ := walked
      dsimp only at onward
      split at onward
      · cases onward
        cases intact
      · rename_i clean
        obtain ⟨hashed, link⟩ := (problemsOf_eq_nil_iff start).mp (not_not.mp clean)
        obtain ⟨sealed, linked⟩ := inductionHypothesis (by omega) onward
        refine ⟨?_, link, linked⟩
        intro other member
        rcases List.mem_cons.mp member with rfl | later
        · rw [Sealed, fingerprint, hashed]
        · exact sealed other later

/-- Exactly the chains whose events are sealed and linked from a genesis are
accepted. -/
theorem accepted_iff {events : List SealedAuditEvent} :
    Accepted sha256 events ↔
      (∀ event ∈ events, Sealed sha256 event) ∧ LinkedFrom none events := by
  constructor
  · rintro ⟨report, walked, intact⟩
    exact verifyFrom_intact (fun _ => rfl) walked intact
  · rintro ⟨sealed, linked⟩
    obtain ⟨report, walked, intact⟩ := verifyFrom_sealed sha256 0 none (fun _ => rfl) sealed
    exact ⟨report, walked, intact.mpr linked⟩

/-- The events sealed one after the other, each on the hash of the one before. -/
def sealAll (sha256 : String → String) (previousHash : Option String) :
    List AuditEvent → Except CanonicalError (List SealedAuditEvent)
  | [] => .ok []
  | event :: events => do
      let sealed ← sealEvent sha256 event previousHash
      let rest ← sealAll sha256 (some sealed.eventHash) events
      return sealed :: rest

private theorem sealAll_sealed {events : List AuditEvent} {previousHash : Option String}
    {sealed : List SealedAuditEvent} (built : sealAll sha256 previousHash events = .ok sealed) :
    sealed.map SealedAuditEvent.event = events ∧ (∀ event ∈ sealed, Sealed sha256 event) ∧
      LinkedFrom previousHash sealed := by
  induction events generalizing previousHash sealed with
  | nil =>
      cases built
      exact ⟨rfl, by simp, trivial⟩
  | cons event events inductionHypothesis =>
      rw [sealAll, bind_eq_ok] at built
      obtain ⟨first, firstEq, onward⟩ := built
      rw [bind_eq_ok] at onward
      obtain ⟨rest, restEq, result⟩ := onward
      cases result
      unfold sealEvent at firstEq
      obtain ⟨hash, fingerprint, made⟩ := bind_eq_ok.mp firstEq
      cases made
      obtain ⟨eventsEq, restSealed, restLinked⟩ := inductionHypothesis restEq
      refine ⟨by rw [List.map_cons, eventsEq], ?_, rfl, restLinked⟩
      intro other member
      rcases List.mem_cons.mp member with rfl | later
      · exact fingerprint
      · exact restSealed other later

/-- Accepted chains of one length with one last hash are equal event by event,
and every list sealed from a genesis on is accepted. -/
theorem verifyChain_commits (injective : Function.Injective sha256) :
    (∀ left right : List SealedAuditEvent, Accepted sha256 left → Accepted sha256 right →
      left.length = right.length →
      left.getLast?.map SealedAuditEvent.eventHash =
        right.getLast?.map SealedAuditEvent.eventHash →
      List.Forall₂ SameSealed left right) ∧
    ∀ (events : List AuditEvent) (sealed : List SealedAuditEvent),
      sealAll sha256 none events = .ok sealed → Accepted sha256 sealed := by
  constructor
  · intro left right leftAccepted rightAccepted lengths heads
    obtain ⟨leftSealed, leftLinked⟩ := accepted_iff.mp leftAccepted
    obtain ⟨rightSealed, rightLinked⟩ := accepted_iff.mp rightAccepted
    apply HashChain.forall₂_of_last_eq _ _ leftLinked rightLinked _ lengths heads
    intro item member other otherMember hashes
    have fingerprint : eventFingerprint sha256 item.event item.previousHash =
        .ok other.eventHash := hashes ▸ leftSealed item member
    obtain ⟨sameEvent, samePrevious⟩ := sameEvent_of_fingerprint injective fingerprint
      (rightSealed other otherMember)
    exact ⟨samePrevious, sameEvent, samePrevious, hashes⟩
  · intro events sealed built
    obtain ⟨_, isSealed, linked⟩ := sealAll_sealed built
    exact accepted_iff.mpr ⟨isSealed, linked⟩

def proposedEvent : AuditEvent where
  eventId := 81
  eventType := .tradeProposed
  entityType := .trade
  entityId := 41
  eventTime := 0
  recordedAt := 10

/-- The trade is settled; either key of the payload may be written first. -/
def settledEvent (noteFirst : Bool) : AuditEvent where
  eventId := 82
  eventType := .tradeSettled
  entityType := .trade
  entityId := 41
  eventTime := 0
  recordedAt := 20
  payload :=
    if noteFirst then (Dict.empty.set "note" (.str "late")).set "kwh" (.str "0.5")
    else (Dict.empty.set "kwh" (.str "0.5")).set "note" (.str "late")

private theorem settledEvent_fingerprint (previousHash : Option String) :
    ∃ hash, ∀ noteFirst,
      eventFingerprint id (settledEvent noteFirst) previousHash = .ok hash := by
  obtain ⟨payload, reduced, _, fingerprint⟩ := eventFingerprint_supported id previousHash
    (show SupportedEvent (settledEvent false) by decide +kernel)
  obtain ⟨other, otherReduced, _, otherFingerprint⟩ := eventFingerprint_supported id previousHash
    (show SupportedEvent (settledEvent true) by decide +kernel)
  have swapped : (settledEvent true).withPayloadVersion.entries.Perm
      (settledEvent false).withPayloadVersion.entries := (List.Perm.swap _ _ _).cons _
  rw [canonicalise_mapping_perm swapped (settledEvent true).withPayloadVersion.distinct,
    reduced] at otherReduced
  cases otherReduced
  refine ⟨materialText (settledEvent false) previousHash payload, ?_⟩
  rintro (_ | _)
  · exact fingerprint
  · exact otherFingerprint

/-- Two chains whose last payloads are written in different orders, and are the same
chain event by event. -/
theorem verifyChain_commits_sample :
    ∃ left right, sealAll id none [proposedEvent, settledEvent false] = .ok left ∧
      sealAll id none [proposedEvent, settledEvent true] = .ok right ∧
      Accepted id left ∧ Accepted id right ∧ List.Forall₂ SameSealed left right := by
  obtain ⟨commits, accepts⟩ := verifyChain_commits Function.injective_id
  obtain ⟨head, first⟩ : ∃ head, eventFingerprint id proposedEvent none = .ok head := by
    obtain ⟨_, _, _, fingerprint⟩ := eventFingerprint_supported id none
      (show SupportedEvent proposedEvent by decide +kernel)
    exact ⟨_, fingerprint⟩
  obtain ⟨hash, second⟩ := settledEvent_fingerprint (some head)
  have sealed : ∀ noteFirst, sealAll id none [proposedEvent, settledEvent noteFirst] =
      .ok [⟨proposedEvent, none, head⟩, ⟨settledEvent noteFirst, some head, hash⟩] := by
    intro noteFirst
    simp only [sealAll, sealEvent, first, ok_bind, second noteFirst, except_pure]
  have accepted := fun noteFirst => accepts _ _ (sealed noteFirst)
  exact ⟨_, _, sealed false, sealed true, accepted false, accepted true,
    commits _ _ (accepted false) (accepted true) rfl rfl⟩

end Commitment

end UrjaSetu.Domain.Policies.AuditChain
