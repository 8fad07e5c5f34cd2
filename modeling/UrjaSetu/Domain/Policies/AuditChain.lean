import UrjaSetu.Library.Json
import UrjaSetu.Library.Calendar
import UrjaSetu.Library.Exceptions
import UrjaSetu.Library.HashChain
import UrjaSetu.Domain.Interfaces.Audit

/-!
Canonical serialization, hashing and chain verification of
`app/domain/policies/audit_chain.py`.

`sha256` is the hexadecimal digest of a text's UTF-8 bytes. It is a parameter;
what the chain relies on is that it does not collide, so results that need it
assume it injective.

Owns: the canonical form and its laws, the fingerprint and what it commits to,
and when `verifyChain` accepts.
-/

namespace UrjaSetu.Domain.Policies.AuditChain

open UrjaSetu.Domain UrjaSetu.Domain.Interfaces UrjaSetu.Library
open UrjaSetu.Library.Json UrjaSetu.Library.Calendar

/-! ## The canonical form -/

/-- What canonicalisation raises. -/
inductive CanonicalError where
  | typeError (message : String)
  | valueError (message : String)
deriving DecidableEq, Repr

/-- The items of a comprehension, or what its first failing item raises. -/
def collect {κ ν ε : Type} : List (κ × Except ε ν) → Except ε (List (κ × ν))
  | [] => .ok []
  | (key, item) :: rest => do
      let value ← item
      let values ← collect rest
      return (key, value) :: values

mutual

/-- Reduce any supported value to its canonical JSON form. -/
def canonicalise : Value → Except CanonicalError Json
  | .none => .ok .null
  | .str value => .ok (.str value)
  | .bool value => .ok (.bool value)
  | .enum value => canonicalise value
  | .int value => .ok (.int value)
  | .decimal value => .ok (.str value.formatF)
  | .float =>
      .error (.typeError ("floats are not permitted in an audit payload; use Decimal so the " ++
        "hashed value is exactly the value the platform used"))
  | .naiveDatetime => .error (.valueError "audit timestamps must be timezone-aware")
  | .datetime instant => .ok (.str (isoText instant))
  | .uuid value => .ok (.str (uuidText value))
  | .mapping entries => do
      let members ← collect (sortMembers id (canonicaliseEntries entries))
      return .obj members
  | .sequence items => do
      let values ← canonicaliseItems items
      return .arr values
  | .other typeName =>
      .error (.typeError (typeName ++ " cannot appear in an audit payload"))

def canonicaliseItems : List Value → Except CanonicalError (List Json)
  | [] => .ok []
  | item :: items => do
      let value ← canonicalise item
      let values ← canonicaliseItems items
      return value :: values

/-- Each entry with what its value reduces to; the raising is left to
`collect`, which meets the entries in key order. -/
def canonicaliseEntries : List (String × Value) → List (String × Except CanonicalError Json)
  | [] => []
  | (key, value) :: entries => (key, canonicalise value) :: canonicaliseEntries entries

end

/-- A payload reduced to JSON-safe values, ready to store. -/
def canonicalPayload (payload : Dict String Value) : Except CanonicalError (Dict String Json) := do
  match ← canonicalise (.mapping payload.entries) with
  | .obj members => return Dict.ofItems Prod.fst Prod.snd members
  | _ => .error (.typeError "an audit payload must canonicalise to an object")

/-- The one serialization the audit layer hashes. -/
def canonicalJson (value : Value) : Except CanonicalError String := do
  let canonical ← canonicalise value
  return (canonical.orderKeys id).dumps

/-! ## Laws of the canonical form -/

/-- A text a JSONB column can hold. -/
def storable (text : String) : Bool := decide ('\x00' ∉ text.toList)

mutual

/-- The values an audit payload may carry: no floats, no naive timestamps,
storable texts, integers Python will print, and mappings with distinct keys. -/
def supported : Value → Bool
  | .none | .bool _ | .decimal _ | .datetime _ | .uuid _ => true
  | .str value => storable value
  | .int value => decide ((Nat.toDigits 10 value.natAbs).length ≤ 4300)
  | .enum value => supported value
  | .mapping entries => decide (entries.map Prod.fst).Nodup && supportedEntries entries
  | .sequence items => supportedItems items
  | .float | .naiveDatetime | .other _ => false

def supportedItems : List Value → Bool
  | [] => true
  | item :: items => supported item && supportedItems items

def supportedEntries : List (String × Value) → Bool
  | [] => true
  | (key, value) :: entries => storable key && supported value && supportedEntries entries

end

/-- A JSON value in canonical form: distinct keys, in order. -/
structure Canonical (value : Json) : Prop where
  distinct : value.DistinctKeys
  ordered : value.orderKeys id = value

/-- Rearranged entries with the same distinct keys are the same entries. -/
theorem eq_of_perm_of_keys {ν : Type} {left right : List (String × ν)} (perm : left.Perm right)
    (keys : left.map Prod.fst = right.map Prod.fst) (distinct : (left.map Prod.fst).Nodup) :
    left = right := by
  induction left generalizing right with
  | nil => exact perm.nil_eq
  | cons entry entries inductionHypothesis =>
      cases right with
      | nil => exact perm.eq_nil
      | cons other others =>
          rw [List.map_cons, List.map_cons, List.cons.injEq] at keys
          rw [List.map_cons, List.nodup_cons, keys.2] at distinct
          have same : entry = other := by
            rcases List.mem_cons.mp (perm.mem_iff.mp (List.mem_cons_self)) with here | later
            · exact here
            · exact absurd (List.mem_map_of_mem later) distinct.1
          subst same
          rw [inductionHypothesis perm.cons_inv keys.2 (keys.2 ▸ distinct.2)]

private theorem collect_ok {members : List (String × Json)} :
    collect (members.map (Prod.map id (Except.ok : Json → Except CanonicalError Json))) =
      .ok members := by
  induction members with
  | nil => rfl
  | cons member members inductionHypothesis =>
      rw [List.map_cons, Prod.map, collect, inductionHypothesis]
      rfl

theorem sortMembers_map {μ ν : Type} (onto : μ → ν) (members : List (String × μ)) :
    sortMembers id (members.map (Prod.map id onto)) =
      (sortMembers id members).map (Prod.map id onto) := by
  let rank := fun member : String × μ => id member.1
  exact sortBy_map rank (Prod.map id onto) (fun member => id member.1) (fun _ => rfl) members

/-- A mapping whose values reduce to `members` reduces to their sorted object. -/
theorem canonicalise_mapping {entries : List (String × Value)} {members : List (String × Json)}
    (reduced : canonicaliseEntries entries = members.map (Prod.map id Except.ok)) :
    canonicalise (.mapping entries) = .ok (.obj (sortMembers id members)) := by
  rw [canonicalise, reduced, sortMembers_map, collect_ok]
  rfl

theorem canonicaliseEntries_eq_map (entries : List (String × Value)) :
    canonicaliseEntries entries = entries.map (Prod.map id canonicalise) := by
  induction entries with
  | nil => rfl
  | cons entry entries inductionHypothesis =>
      rw [canonicaliseEntries, inductionHypothesis]
      rfl

private theorem collect_keys {items : List (String × Except CanonicalError Json)}
    {members : List (String × Json)} (collected : collect items = .ok members) :
    members.map Prod.fst = items.map Prod.fst := by
  induction items generalizing members with
  | nil =>
      cases collected
      rfl
  | cons item items inductionHypothesis =>
      rw [collect, bind_eq_ok] at collected
      obtain ⟨value, _, rest⟩ := collected
      rw [bind_eq_ok] at rest
      obtain ⟨values, restCollected, result⟩ := rest
      cases result
      rw [List.map_cons, List.map_cons, inductionHypothesis restCollected]

/-- An object has the keys of the mapping it came from. -/
theorem canonicalise_mapping_keys {entries : List (String × Value)} {members : List (String × Json)}
    (reduced : canonicalise (.mapping entries) = .ok (.obj members)) {key : String} :
    key ∈ members.map Prod.fst ↔ key ∈ entries.map Prod.fst := by
  rw [canonicalise, bind_eq_ok] at reduced
  obtain ⟨collected, collectedEq, result⟩ := reduced
  cases result
  have perm := sortBy_perm (fun item : String × Except CanonicalError Json => id item.1)
    (canonicaliseEntries entries)
  have keys : (canonicaliseEntries entries).map Prod.fst = entries.map Prod.fst := by
    rw [canonicaliseEntries_eq_map, List.map_map]
    rfl
  rw [collect_keys collectedEq, sortMembers, (perm.map Prod.fst).mem_iff, keys]

/-- The canonical form does not depend on the order of a mapping's entries. -/
theorem canonicalise_mapping_perm {left right : List (String × Value)} (perm : left.Perm right)
    (distinct : (left.map Prod.fst).Nodup) :
    canonicalise (.mapping left) = canonicalise (.mapping right) := by
  have keys : (canonicaliseEntries left).map (fun item => id item.1) = left.map Prod.fst := by
    rw [canonicaliseEntries_eq_map, List.map_map]
    rfl
  have reduced : (canonicaliseEntries left).Perm (canonicaliseEntries right) := by
    rw [canonicaliseEntries_eq_map, canonicaliseEntries_eq_map]
    exact perm.map _
  have sorted : sortMembers id (canonicaliseEntries left) =
      sortMembers id (canonicaliseEntries right) :=
    sortBy_eq_of_perm _ (by rw [keys]; exact distinct) reduced
  rw [canonicalise, canonicalise, sorted]

/-- Sorted members of canonical values make a canonical object. -/
theorem canonical_obj {members : List (String × Json)} (keys : (members.map Prod.fst).Nodup)
    (distinct : MembersDistinct members) (ordered : orderMembers id members = members) :
    Canonical (.obj (sortMembers id members)) where
  distinct := by
    have perm := sortBy_perm (fun member : String × Json => id member.1) members
    refine ⟨(perm.map Prod.fst).nodup_iff.mpr keys, ?_⟩
    rw [membersDistinct_iff] at distinct ⊢
    intro member inSorted
    exact distinct member (perm.mem_iff.mp inSorted)
  ordered := by
    rw [orderKeys, orderMembers_sortMembers, ordered, sortMembers_sortMembers Function.injective_id]
    exact keys

mutual

/-- A supported value has a canonical form. -/
theorem canonicalise_supported : ∀ value : Value, supported value = true →
    ∃ canonical, canonicalise value = .ok canonical ∧ Canonical canonical
  | .none, _ => ⟨.null, by rw [canonicalise], trivial, rfl⟩
  | .bool value, _ => ⟨.bool value, by rw [canonicalise], trivial, rfl⟩
  | .str value, _ => ⟨.str value, by rw [canonicalise], trivial, rfl⟩
  | .int value, _ => ⟨.int value, by rw [canonicalise], trivial, rfl⟩
  | .decimal value, _ => ⟨.str value.formatF, by rw [canonicalise], trivial, rfl⟩
  | .datetime instant, _ => ⟨.str (isoText instant), by rw [canonicalise], trivial, rfl⟩
  | .uuid value, _ => ⟨.str (uuidText value), by rw [canonicalise], trivial, rfl⟩
  | .enum value, support => by
      rw [supported] at support
      rw [canonicalise]
      exact canonicalise_supported value support
  | .mapping entries, support => by
      rw [supported, Bool.and_eq_true, decide_eq_true_iff] at support
      obtain ⟨members, reduced, keys, distinct, ordered⟩ :=
        canonicaliseEntries_supported entries support.2
      refine ⟨_, canonicalise_mapping reduced, canonical_obj ?_ distinct ordered⟩
      rw [keys]
      exact support.1
  | .sequence items, support => by
      rw [supported] at support
      obtain ⟨values, reduced, distinct, ordered⟩ := canonicaliseItems_supported items support
      refine ⟨.arr values, ?_, distinct, ?_⟩
      · rw [canonicalise, reduced]
        rfl
      · rw [orderKeys, ordered]
  | .float, support => by rw [supported] at support; cases support
  | .naiveDatetime, support => by rw [supported] at support; cases support
  | .other _, support => by rw [supported] at support; cases support

private theorem canonicaliseItems_supported : ∀ items : List Value, supportedItems items = true →
    ∃ values, canonicaliseItems items = .ok values ∧ ItemsDistinct values ∧
      orderItems id values = values
  | [], _ => ⟨[], rfl, trivial, rfl⟩
  | item :: items, support => by
      rw [supportedItems, Bool.and_eq_true] at support
      obtain ⟨value, valueEq, canonical⟩ := canonicalise_supported item support.1
      obtain ⟨values, valuesEq, distinct, ordered⟩ := canonicaliseItems_supported items support.2
      refine ⟨value :: values, ?_, ⟨canonical.distinct, distinct⟩, ?_⟩
      · rw [canonicaliseItems, valueEq, valuesEq]
        rfl
      · rw [orderItems, canonical.ordered, ordered]

private theorem canonicaliseEntries_supported : ∀ entries : List (String × Value),
    supportedEntries entries = true →
    ∃ members, canonicaliseEntries entries = members.map (Prod.map id Except.ok) ∧
      members.map Prod.fst = entries.map Prod.fst ∧ MembersDistinct members ∧
      orderMembers id members = members
  | [], _ => ⟨[], rfl, rfl, trivial, rfl⟩
  | (key, value) :: entries, support => by
      rw [supportedEntries, Bool.and_eq_true, Bool.and_eq_true] at support
      obtain ⟨canonicalValue, valueEq, canonical⟩ := canonicalise_supported value support.1.2
      obtain ⟨members, reduced, keys, distinct, ordered⟩ :=
        canonicaliseEntries_supported entries support.2
      refine ⟨(key, canonicalValue) :: members, ?_, ?_, ⟨canonical.distinct, distinct⟩, ?_⟩
      · rw [canonicaliseEntries, valueEq, reduced]
        rfl
      · rw [List.map_cons, List.map_cons, keys]
      · rw [orderMembers, canonical.ordered, ordered]

end

/-- The canonical payload is the canonical object, as a dictionary. -/
theorem canonicalPayload_eq {payload : Dict String Value} {canonical : Json}
    (reduced : canonicalise (.mapping payload.entries) = .ok canonical)
    (isCanonical : Canonical canonical) :
    ∃ stored, canonicalPayload payload = .ok stored ∧ canonical = .obj stored.entries := by
  have object : ∃ members, canonical = .obj members := by
    rw [canonicalise, bind_eq_ok] at reduced
    obtain ⟨members, _, result⟩ := reduced
    cases result
    exact ⟨members, rfl⟩
  obtain ⟨members, rfl⟩ := object
  refine ⟨Dict.ofItems Prod.fst Prod.snd members, ?_, ?_⟩
  · unfold canonicalPayload
    rw [reduced]
    rfl
  · rw [Dict.ofItems_entries isCanonical.distinct.1]

/-! ## Reading stored values back -/

mutual

/-- A stored JSON value as the Python object it is loaded as. -/
def ofJson : Json → Value
  | .null => .none
  | .bool value => .bool value
  | .int value => .int value
  | .str value => .str value
  | .arr items => .sequence (ofItems items)
  | .obj members => .mapping (ofMembers members)

def ofItems : List Json → List Value
  | [] => []
  | item :: items => ofJson item :: ofItems items

def ofMembers : List (String × Json) → List (String × Value)
  | [] => []
  | (key, value) :: members => (key, ofJson value) :: ofMembers members

end

mutual

/-- Canonicalising a loaded value only puts its keys in order. -/
theorem canonicalise_ofJson : ∀ value : Json,
    canonicalise (ofJson value) = .ok (value.orderKeys id)
  | .null => by rw [ofJson, canonicalise, orderKeys]
  | .bool _ => by rw [ofJson, canonicalise, orderKeys]
  | .int _ => by rw [ofJson, canonicalise, orderKeys]
  | .str _ => by rw [ofJson, canonicalise, orderKeys]
  | .arr items => by
      rw [ofJson, canonicalise, canonicaliseItems_ofItems items, orderKeys]
      rfl
  | .obj members => by
      rw [ofJson, canonicalise_mapping (canonicaliseEntries_ofMembers members), orderKeys]

private theorem canonicaliseItems_ofItems : ∀ items : List Json,
    canonicaliseItems (ofItems items) = .ok (orderItems id items)
  | [] => rfl
  | item :: items => by
      rw [ofItems, canonicaliseItems, canonicalise_ofJson item, canonicaliseItems_ofItems items,
        orderItems]
      rfl

private theorem canonicaliseEntries_ofMembers : ∀ members : List (String × Json),
    canonicaliseEntries (ofMembers members) =
      (orderMembers id members).map (Prod.map id Except.ok)
  | [] => rfl
  | (key, value) :: members => by
      rw [ofMembers, canonicaliseEntries, canonicalise_ofJson value,
        canonicaliseEntries_ofMembers members, orderMembers]
      rfl

end

/-! ## Sealing and verification -/

/-- Everything that says what happened, with the link to the predecessor. -/
def material (event : AuditEvent) (previousHash : Option String) : List (String × Value) :=
  [ ("event_id", .uuid event.eventId),
    ("event_type", .str event.eventType.value),
    ("entity_type", .str event.entityType.value),
    ("entity_id", .uuid event.entityId),
    ("event_time", .datetime event.eventTime),
    ("recorded_at", .datetime event.recordedAt),
    ("actor_user_id", Value.ofOption .uuid event.actorUserId),
    ("payload", .mapping event.withPayloadVersion.entries),
    ("previous_hash", Value.ofOption .str previousHash) ]

variable (sha256 : String → String)

/-- The hash of one event in its position in the chain. -/
def eventFingerprint (event : AuditEvent) (previousHash : Option String) :
    Except CanonicalError String := do
  let text ← canonicalJson (.mapping (material event previousHash))
  return sha256 text

/-- Fix an event's place in the chain. -/
def sealEvent (event : AuditEvent) (previousHash : Option String) :
    Except CanonicalError SealedAuditEvent := do
  let eventHash ← eventFingerprint sha256 event previousHash
  return { event, previousHash, eventHash }

def short : Option String → String
  | none => "genesis"
  | some digest => String.ofList (digest.toList.take 12)

/-- What is wrong with the event at `index`. -/
def problemsOf (index : ℕ) (expectedPrevious : Option String) (recomputed : String)
    (sealed : SealedAuditEvent) : List String :=
  let event := uuidText sealed.event.eventId
  (if sealed.eventHash ≠ recomputed then
    ["event " ++ event ++ " does not match its stored hash: " ++
      "its content or timestamps were altered after recording"]
  else []) ++
  (if sealed.previousHash ≠ expectedPrevious then
    ["event " ++ event ++ " claims predecessor " ++ short sealed.previousHash ++ " but follows " ++
      short expectedPrevious ++ ": an event was removed, reordered or inserted"]
  else []) ++
  (if index = 0 ∧ sealed.previousHash ≠ none then
    ["the chain begins at event " ++ event ++ ", which is not a genesis " ++
      "event: earlier events are missing"]
  else [])

/-- The loop of `verifyChain` from the event at `index` on; every event before
it was checked without a problem. -/
def verifyFrom (index : ℕ) (expectedPrevious : Option String) :
    List SealedAuditEvent → Except CanonicalError ChainVerification
  | [] => .ok { intact := true, eventsChecked := index }
  | sealed :: rest => do
      let recomputed ← eventFingerprint sha256 sealed.event sealed.previousHash
      let problems := problemsOf index expectedPrevious recomputed sealed
      if problems ≠ [] then
        return { intact := false, eventsChecked := index,
                 brokenAtEventId := some sealed.event.eventId, problems }
      else verifyFrom (index + 1) (some sealed.eventHash) rest

/-- Walk a chain in order and report the first break. -/
def verifyChain (events : List SealedAuditEvent) : Except CanonicalError ChainVerification :=
  verifyFrom sha256 0 none events

/-! ## What a fingerprint commits to -/

/-- The events the chain can hold: payload values of the supported kinds. -/
def SupportedEvent (event : AuditEvent) : Prop := supportedEntries event.payload.entries = true

instance (event : AuditEvent) : Decidable (SupportedEvent event) := by
  unfold SupportedEvent
  infer_instance

private theorem supportedEntries_iff {entries : List (String × Value)} :
    supportedEntries entries = true ↔
      ∀ key value, (key, value) ∈ entries → storable key = true ∧ supported value = true := by
  induction entries with
  | nil => simp [supportedEntries]
  | cons entry entries inductionHypothesis =>
      rw [supportedEntries, Bool.and_eq_true, Bool.and_eq_true, inductionHypothesis]
      constructor
      · rintro ⟨head, tail⟩ key value member
        rcases List.mem_cons.mp member with here | later
        · cases here
          exact head
        · exact tail key value later
      · intro every
        exact ⟨every _ _ (by simp), fun key value later => every key value (by simp [later])⟩

/-- The version the payload carries is itself supported. -/
theorem withPayloadVersion_supported {event : AuditEvent} (support : SupportedEvent event) :
    supported (.mapping event.withPayloadVersion.entries) = true := by
  rw [supported, Bool.and_eq_true, decide_eq_true_iff]
  refine ⟨event.withPayloadVersion.distinct, supportedEntries_iff.mpr ?_⟩
  intro key value member
  rw [Dict.mem_entries_iff, AuditEvent.withPayloadVersion, Dict.get?_update] at member
  cases own : event.payload.get? key with
  | some ownValue =>
      rw [own, Option.some_or, Option.some_inj] at member
      rw [← member]
      exact supportedEntries_iff.mp support key ownValue (Dict.mem_entries_iff.mpr own)
  | none =>
      rw [own, Option.none_or, Dict.get?_set] at member
      split at member
      · rename_i named
        rw [Option.some_inj] at member
        rw [named, ← member]
        decide +kernel
      · cases member

/-- The canonical form of an optional column. -/
def optionJson {α : Type} (text : α → String) : Option α → Json
  | none => .null
  | some value => .str (text value)

/-- The members of the sealed material, each in canonical form. -/
def materialMembers (event : AuditEvent) (previousHash : Option String) (payload : Json) :
    List (String × Json) :=
  [ ("event_id", .str (uuidText event.eventId)),
    ("event_type", .str event.eventType.value),
    ("entity_type", .str event.entityType.value),
    ("entity_id", .str (uuidText event.entityId)),
    ("event_time", .str (isoText event.eventTime)),
    ("recorded_at", .str (isoText event.recordedAt)),
    ("actor_user_id", optionJson uuidText event.actorUserId),
    ("payload", payload),
    ("previous_hash", optionJson id previousHash) ]

private theorem canonicalise_ofOption {α : Type} (wrap : α → Value) (text : α → String)
    (reduces : ∀ value, canonicalise (wrap value) = .ok (.str (text value))) (value : Option α) :
    canonicalise (Value.ofOption wrap value) = .ok (optionJson text value) := by
  cases value with
  | none => rw [Value.ofOption, canonicalise, optionJson]
  | some value => rw [Value.ofOption, reduces, optionJson]

private theorem materialMembers_keys (event : AuditEvent) (previousHash : Option String)
    (payload : Json) :
    (materialMembers event previousHash payload).map Prod.fst =
      ["event_id", "event_type", "entity_type", "entity_id", "event_time", "recorded_at",
        "actor_user_id", "payload", "previous_hash"] := rfl

theorem materialMembers_distinct (event : AuditEvent) (previousHash : Option String)
    (payload : Json) : ((materialMembers event previousHash payload).map Prod.fst).Nodup := by
  rw [materialMembers_keys]
  decide

/-- The text that is hashed, for the canonical form of the payload. -/
def materialText (event : AuditEvent) (previousHash : Option String) (payload : Json) : String :=
  (Json.obj (sortMembers id (materialMembers event previousHash payload))).dumps

section Fingerprint

variable {event other : AuditEvent} {previousHash otherPrevious : Option String}
  {payload otherPayload : Json}

theorem canonicalise_material
    (reduced : canonicalise (.mapping event.withPayloadVersion.entries) = .ok payload) :
    canonicalise (.mapping (material event previousHash)) =
      .ok (.obj (sortMembers id (materialMembers event previousHash payload))) := by
  apply canonicalise_mapping
  have actor : canonicalise (Value.ofOption .uuid event.actorUserId) =
      .ok (optionJson uuidText event.actorUserId) :=
    canonicalise_ofOption .uuid uuidText (fun _ => by rw [canonicalise]) event.actorUserId
  have link : canonicalise (Value.ofOption .str previousHash) = .ok (optionJson id previousHash) :=
    canonicalise_ofOption .str id (fun _ => by rw [canonicalise]; rfl) previousHash
  have uuid : ∀ value, canonicalise (.uuid value) = .ok (.str (uuidText value)) :=
    fun _ => by rw [canonicalise]
  have text : ∀ value, canonicalise (.str value) = .ok (.str value) :=
    fun _ => by rw [canonicalise]
  have instant : ∀ value, canonicalise (.datetime value) = .ok (.str (isoText value)) :=
    fun _ => by rw [canonicalise]
  simp only [material, canonicaliseEntries, reduced, actor, link, uuid, text, instant]
  rfl

theorem optionJson_canonical {α : Type} (text : α → String) (value : Option α) :
    Canonical (optionJson text value) := by
  cases value with
  | none => exact ⟨trivial, rfl⟩
  | some value => exact ⟨trivial, rfl⟩

/-- The fingerprint of an event whose payload has a canonical form. -/
theorem eventFingerprint_eq
    (reduced : canonicalise (.mapping event.withPayloadVersion.entries) = .ok payload)
    (canonical : Canonical payload) :
    eventFingerprint sha256 event previousHash =
      .ok (sha256 (materialText event previousHash payload)) := by
  have whole : Canonical (.obj (sortMembers id (materialMembers event previousHash payload))) := by
    apply canonical_obj (materialMembers_distinct event previousHash payload)
    · exact ⟨trivial, trivial, trivial, trivial, trivial, trivial,
        (optionJson_canonical _ _).distinct, canonical.distinct,
        (optionJson_canonical _ _).distinct, trivial⟩
    · simp only [materialMembers, orderMembers, canonical.ordered,
        (optionJson_canonical _ _).ordered, orderKeys]
  unfold eventFingerprint canonicalJson
  rw [canonicalise_material reduced, ok_bind, except_pure, ok_bind, except_pure, whole.ordered]
  rfl

theorem eventFingerprint_supported (previousHash : Option String) (support : SupportedEvent event) :
    ∃ payload, canonicalise (.mapping event.withPayloadVersion.entries) = .ok payload ∧
      Canonical payload ∧
      eventFingerprint sha256 event previousHash =
        .ok (sha256 (materialText event previousHash payload)) := by
  obtain ⟨payload, reduced, canonical⟩ :=
    canonicalise_supported _ (withPayloadVersion_supported support)
  exact ⟨payload, reduced, canonical, eventFingerprint_eq sha256 reduced canonical⟩

/-- Equal texts come from equal members: the keys are distinct and fixed. -/
theorem materialMembers_eq_of_text
    (same : materialText event previousHash payload =
      materialText other otherPrevious otherPayload) :
    materialMembers event previousHash payload = materialMembers other otherPrevious otherPayload := by
  have objects := Json.obj.inj (dumps_injective same)
  let rank := fun member : String × Json => id member.1
  have perm : (materialMembers event previousHash payload).Perm
      (materialMembers other otherPrevious otherPayload) := by
    have sorted := sortBy_perm rank (materialMembers event previousHash payload)
    have otherSorted := sortBy_perm rank (materialMembers other otherPrevious otherPayload)
    exact sorted.symm.trans ((List.Perm.of_eq objects).trans otherSorted)
  have keys : (materialMembers event previousHash payload).map Prod.fst =
      (materialMembers other otherPrevious otherPayload).map Prod.fst := by
    rw [materialMembers_keys, materialMembers_keys]
  exact eq_of_perm_of_keys perm keys (materialMembers_distinct event previousHash payload)

/-- Events with one fingerprint have one id. -/
theorem eventId_eq_of_fingerprint (injective : Function.Injective sha256)
    (support : SupportedEvent event) (otherSupport : SupportedEvent other)
    (same : eventFingerprint sha256 event previousHash =
      eventFingerprint sha256 other otherPrevious) : event.eventId = other.eventId := by
  obtain ⟨payload, _, _, fingerprint⟩ :=
    eventFingerprint_supported sha256 previousHash support
  obtain ⟨otherPayload, _, _, otherFingerprint⟩ :=
    eventFingerprint_supported sha256 otherPrevious otherSupport
  rw [fingerprint, otherFingerprint] at same
  have members := materialMembers_eq_of_text (injective (Except.ok.inj same))
  have ids := (Prod.ext_iff.mp (List.cons.inj members).1).2
  exact uuidText_injective (Json.str.inj ids)

/-- Events that differ only in how their payload is spelled have one
fingerprint. -/
theorem eventFingerprint_congr (previousHash : Option String) {payloads : Dict String Value}
    (canonically : canonicalise (.mapping ({ event with payload := payloads } : AuditEvent
      ).withPayloadVersion.entries) = canonicalise (.mapping event.withPayloadVersion.entries)) :
    eventFingerprint sha256 { event with payload := payloads } previousHash =
      eventFingerprint sha256 event previousHash := by
  have entries : canonicaliseEntries (material { event with payload := payloads } previousHash) =
      canonicaliseEntries (material event previousHash) := by
    simp only [material, canonicaliseEntries, canonically]
  unfold eventFingerprint canonicalJson
  rw [canonicalise, canonicalise, entries]

end Fingerprint

/-! ## When a chain verifies -/

theorem problemsOf_eq_nil_iff {index : ℕ} {expectedPrevious : Option String} {recomputed : String}
    {sealed : SealedAuditEvent} (start : index = 0 → expectedPrevious = none) :
    problemsOf index expectedPrevious recomputed sealed = [] ↔
      sealed.eventHash = recomputed ∧ sealed.previousHash = expectedPrevious := by
  unfold problemsOf
  by_cases hashes : sealed.eventHash = recomputed
  · by_cases links : sealed.previousHash = expectedPrevious
    · simpa [hashes, links] using start
    · simp [hashes, links]
  · simp [hashes]

/-- The event's stored hash is the one its content has. -/
def Sealed (sealed : SealedAuditEvent) : Prop :=
  eventFingerprint sha256 sealed.event sealed.previousHash = .ok sealed.eventHash

abbrev LinkedFrom (expectedPrevious : Option String) (events : List SealedAuditEvent) : Prop :=
  HashChain.Linked SealedAuditEvent.previousHash SealedAuditEvent.eventHash expectedPrevious events

/-- A walk over properly sealed events reports exactly whether they are linked. -/
theorem verifyFrom_sealed {events : List SealedAuditEvent} (index : ℕ)
    (expectedPrevious : Option String) (start : index = 0 → expectedPrevious = none)
    (sealed : ∀ event ∈ events, Sealed sha256 event) :
    ∃ report, verifyFrom sha256 index expectedPrevious events = .ok report ∧
      (report.intact = true ↔ LinkedFrom expectedPrevious events) := by
  induction events generalizing index expectedPrevious with
  | nil => exact ⟨_, rfl, by simp [HashChain.Linked]⟩
  | cons event rest inductionHypothesis =>
      have recomputed : eventFingerprint sha256 event.event event.previousHash =
          .ok event.eventHash := sealed event (by simp)
      rw [verifyFrom, recomputed, ok_bind]
      by_cases clean : problemsOf index expectedPrevious event.eventHash event = []
      · obtain ⟨_, link⟩ := (problemsOf_eq_nil_iff start).mp clean
        obtain ⟨report, reportEq, intact⟩ := inductionHypothesis (index + 1)
          (some event.eventHash) (by omega)
          (fun other member => sealed other (by simp [member]))
        refine ⟨report, ?_, ?_⟩
        · rw [if_neg (not_not.mpr clean)]
          exact reportEq
        · rw [intact]
          exact (and_iff_right link).symm
      · refine ⟨_, by rw [if_pos clean]; rfl, ?_⟩
        apply iff_of_false Bool.false_ne_true
        intro linked
        exact clean ((problemsOf_eq_nil_iff start).mpr ⟨rfl, linked.1⟩)

end UrjaSetu.Domain.Policies.AuditChain
