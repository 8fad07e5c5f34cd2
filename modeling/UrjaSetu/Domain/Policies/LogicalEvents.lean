import UrjaSetu.Domain.Policies.CanonicalPayload

/-!
Events that are logically the same, and their fingerprints
(`app/domain/policies/audit_chain.py`).

A canonical form fixes the order of keys and the offset of an instant, but writes
a decimal with the places it has.

Owns: payloads equal as values, and exactly when two such payloads are hashed
alike.
-/

namespace UrjaSetu.Domain.Policies.AuditChain

open UrjaSetu.Domain UrjaSetu.Domain.Interfaces UrjaSetu.Library
open UrjaSetu.Library.Json UrjaSetu.Library.Calendar

/-! ## Values related leaf by leaf -/

section Relation

variable (decimals : Decimal → Decimal → Prop)

mutual

/-- The same value, up to `decimals` at every decimal and the order of every
mapping. -/
def Related : Value → Value → Prop
  | .decimal left, other => ∃ right, other = .decimal right ∧ decimals left right
  | .enum value, other => ∃ right, other = .enum right ∧ Related value right
  | .mapping entries, other => ∃ right arranged, other = .mapping right ∧ arranged.Perm right ∧
      RelatedEntries entries arranged
  | .sequence items, other => ∃ right, other = .sequence right ∧ RelatedItems items right
  | .none, other => other = .none
  | .bool value, other => other = .bool value
  | .str value, other => other = .str value
  | .int value, other => other = .int value
  | .float, other => other = .float
  | .datetime instant, other => other = .datetime instant
  | .naiveDatetime, other => other = .naiveDatetime
  | .uuid value, other => other = .uuid value
  | .other typeName, other => other = .other typeName

def RelatedItems : List Value → List Value → Prop
  | [], others => others = []
  | item :: items, others => ∃ other rest, others = other :: rest ∧ Related item other ∧
      RelatedItems items rest

/-- Entry by entry, with the same keys. -/
def RelatedEntries : List (String × Value) → List (String × Value) → Prop
  | [], others => others = []
  | (key, value) :: entries, others => ∃ other rest, others = (key, other) :: rest ∧
      Related value other ∧ RelatedEntries entries rest

end

variable {decimals}

private theorem RelatedEntries.keys {entries others : List (String × Value)}
    (related : RelatedEntries decimals entries others) :
    others.map Prod.fst = entries.map Prod.fst := by
  induction entries generalizing others with
  | nil =>
      rw [RelatedEntries] at related
      rw [related]
  | cons entry entries inductionHypothesis =>
      obtain ⟨key, value⟩ := entry
      rw [RelatedEntries] at related
      obtain ⟨other, rest, rfl, _, restRelated⟩ := related
      rw [List.map_cons, List.map_cons, inductionHypothesis restRelated]

/-- Entries in the same order make related mappings. -/
theorem RelatedEntries.mapping {entries others : List (String × Value)}
    (related : RelatedEntries decimals entries others) :
    Related decimals (.mapping entries) (.mapping others) := by
  rw [Related]
  exact ⟨others, others, rfl, List.Perm.refl others, related⟩

/-- What is found under a key of related entries is related. -/
theorem RelatedEntries.found {entries others : List (String × Value)}
    (related : RelatedEntries decimals entries others) (key : String) :
    Option.Rel (Related decimals) (findEntry key entries) (findEntry key others) := by
  induction entries generalizing others with
  | nil =>
      rw [RelatedEntries] at related
      rw [related]
      exact .none
  | cons entry entries inductionHypothesis =>
      obtain ⟨own, value⟩ := entry
      rw [RelatedEntries] at related
      obtain ⟨other, rest, rfl, head, restRelated⟩ := related
      rw [findEntry, findEntry]
      split
      · exact .some head
      · exact inductionHypothesis restRelated

private theorem findEntry_perm {left right : List (String × Value)} (perm : left.Perm right)
    (distinct : (left.map Prod.fst).Nodup) (key : String) :
    findEntry key left = findEntry key right := by
  apply Option.ext
  intro value
  rw [findEntry_eq_some_iff distinct,
    findEntry_eq_some_iff ((perm.map Prod.fst).nodup_iff.mp distinct), perm.mem_iff]

/-- Related entries, arranged as a list of lookups says. -/
theorem relatedEntries_of_found {entries : List (String × Value)} {value : String → Value}
    (related : ∀ entry ∈ entries, Related decimals entry.2 (value entry.1)) :
    RelatedEntries decimals entries (entries.map fun entry => (entry.1, value entry.1)) := by
  induction entries with
  | nil =>
      rw [RelatedEntries]
      rfl
  | cons entry entries inductionHypothesis =>
      obtain ⟨key, own⟩ := entry
      rw [RelatedEntries]
      exact ⟨_, _, rfl, related (key, own) List.mem_cons_self,
        inductionHypothesis fun other later => related other (List.mem_cons_of_mem _ later)⟩

/-- Dictionaries are related where what they answer is. -/
theorem related_mapping_iff (left right : Dict String Value) :
    Related decimals (.mapping left.entries) (.mapping right.entries) ↔
      ∀ key, Option.Rel (Related decimals) (left.get? key) (right.get? key) := by
  constructor
  · intro related key
    rw [Related] at related
    obtain ⟨entries, arranged, same, perm, aligned⟩ := related
    cases same
    have distinct : (arranged.map Prod.fst).Nodup := by
      rw [aligned.keys]
      exact left.distinct
    show Option.Rel _ (findEntry key left.entries) (findEntry key right.entries)
    rw [← findEntry_perm perm distinct]
    exact aligned.found key
  · intro related
    rw [Related]
    let value : String → Value := fun key => (right.get? key).getD .none
    have answered : ∀ entry ∈ left.entries, ∃ other, right.get? entry.1 = some other ∧
        Related decimals entry.2 other := by
      intro entry member
      have both := related entry.1
      rw [Dict.mem_entries_iff.mp member] at both
      cases isRight : right.get? entry.1 with
      | none =>
          rw [isRight] at both
          cases both
      | some other =>
          rw [isRight] at both
          cases both with
          | some own => exact ⟨other, rfl, own⟩
    refine ⟨right.entries, left.entries.map fun entry => (entry.1, value entry.1), rfl, ?_, ?_⟩
    · have keys : (left.entries.map fun entry => (entry.1, value entry.1)).map Prod.fst =
          left.entries.map Prod.fst := by
        rw [List.map_map]
        rfl
      apply (List.perm_ext_iff_of_nodup (List.Nodup.of_map Prod.fst (keys ▸ left.distinct))
        right.distinct.of_map).mpr
      rintro ⟨key, held⟩
      rw [Dict.mem_entries_iff, List.mem_map]
      constructor
      · rintro ⟨entry, member, same⟩
        obtain ⟨other, isRight, _⟩ := answered entry member
        cases same
        show right.get? entry.1 = some ((right.get? entry.1).getD .none)
        rw [isRight, Option.getD_some]
      · intro isRight
        have both := related key
        rw [isRight] at both
        cases isLeft : left.get? key with
        | none =>
            rw [isLeft] at both
            cases both
        | some own =>
            refine ⟨(key, own), Dict.mem_entries_iff.mpr isLeft, ?_⟩
            show (key, (right.get? key).getD .none) = (key, held)
            rw [isRight, Option.getD_some]
    · apply relatedEntries_of_found
      intro entry member
      obtain ⟨other, isRight, own⟩ := answered entry member
      show Related decimals entry.2 ((right.get? entry.1).getD .none)
      rw [isRight, Option.getD_some]
      exact own

end Relation

/-! ## Canonical forms of related values -/

/-- The two numerals are written with the same text. -/
def SameText (left right : Decimal) : Prop := left.formatF = right.formatF

/-- The two numerals denote the same number. -/
def SameNumber (left right : Decimal) : Prop := left.toRat = right.toRat

mutual

/-- Where decimals are written alike, the canonical form is the same. -/
theorem canonicalise_sameText : ∀ (value : Value) {other : Value}, Dictionaries value →
    Related SameText value other → canonicalise value = canonicalise other
  | .decimal left, other, _, related => by
      rw [Related] at related
      obtain ⟨right, rfl, same⟩ := related
      rw [canonicalise, canonicalise, show left.formatF = right.formatF from same]
  | .enum value, other, dictionaries, related => by
      rw [Related] at related
      obtain ⟨right, rfl, inner⟩ := related
      rw [canonicalise, canonicalise]
      exact canonicalise_sameText value dictionaries inner
  | .mapping entries, other, dictionaries, related => by
      rw [Related] at related
      obtain ⟨right, arranged, rfl, perm, aligned⟩ := related
      have distinct : (arranged.map Prod.fst).Nodup := by
        rw [aligned.keys]
        exact dictionaries.1
      rw [← canonicalise_mapping_perm perm distinct, canonicalise, canonicalise,
        canonicaliseEntries_sameText entries dictionaries.2 aligned]
  | .sequence items, other, dictionaries, related => by
      rw [Related] at related
      obtain ⟨right, rfl, inner⟩ := related
      rw [canonicalise, canonicalise, canonicaliseItems_sameText items dictionaries inner]
  | .none, _, _, related | .bool _, _, _, related | .str _, _, _, related
  | .int _, _, _, related | .float, _, _, related | .datetime _, _, _, related
  | .naiveDatetime, _, _, related | .uuid _, _, _, related | .other _, _, _, related => by
      rw [Related] at related
      rw [related]

private theorem canonicaliseItems_sameText : ∀ (items : List Value) {others : List Value},
    DictionaryItems items → RelatedItems SameText items others →
      canonicaliseItems items = canonicaliseItems others
  | [], others, _, related => by
      rw [RelatedItems] at related
      rw [related]
  | item :: items, others, dictionaries, related => by
      rw [RelatedItems] at related
      obtain ⟨other, rest, rfl, head, tail⟩ := related
      rw [canonicaliseItems, canonicaliseItems, canonicalise_sameText item dictionaries.1 head,
        canonicaliseItems_sameText items dictionaries.2 tail]

private theorem canonicaliseEntries_sameText : ∀ (entries : List (String × Value))
    {others : List (String × Value)}, DictionaryEntries entries →
      RelatedEntries SameText entries others →
        canonicaliseEntries entries = canonicaliseEntries others
  | [], others, _, related => by
      rw [RelatedEntries] at related
      rw [related]
  | (key, value) :: entries, others, dictionaries, related => by
      rw [RelatedEntries] at related
      obtain ⟨other, rest, rfl, head, tail⟩ := related
      rw [canonicaliseEntries, canonicaliseEntries, canonicalise_sameText value dictionaries.1 head,
        canonicaliseEntries_sameText entries dictionaries.2 tail]

end

/-- Whether a computation returns, and what it raises. -/
def outcome {ε α : Type} (action : Except ε α) : Except ε Unit := action.map fun _ => ()

private theorem collect_outcome {κ ν ε : Type} (items : List (κ × Except ε ν)) :
    outcome (collect items) = outcome (collect (items.map (Prod.map id outcome))) := by
  induction items with
  | nil => rfl
  | cons item items inductionHypothesis =>
      obtain ⟨key, item⟩ := item
      cases item with
      | error error => rfl
      | ok value =>
          show outcome (collect items >>= fun values => .ok ((key, value) :: values)) =
            outcome (collect (items.map (Prod.map id outcome)) >>= fun values =>
              .ok ((key, ()) :: values))
          cases left : collect items <;>
            cases right : collect (items.map (Prod.map id outcome)) <;>
              rw [left, right] at inductionHypothesis
          · exact inductionHypothesis
          · cases inductionHypothesis
          · cases inductionHypothesis
          · rfl

/-- Whether a mapping is reduced depends on its entries only through whether they
are. -/
theorem canonicalise_mapping_outcome {entries others : List (String × Value)}
    (same : (canonicaliseEntries entries).map (Prod.map id outcome) =
      (canonicaliseEntries others).map (Prod.map id outcome)) :
    outcome (canonicalise (.mapping entries)) = outcome (canonicalise (.mapping others)) := by
  have whole : ∀ entries : List (String × Value), outcome (canonicalise (.mapping entries)) =
      outcome (collect (sortMembers id ((canonicaliseEntries entries).map
        (Prod.map id outcome)))) := by
    intro entries
    rw [sortMembers_map, ← collect_outcome, canonicalise]
    cases collect (sortMembers id (canonicaliseEntries entries)) with
    | error error => rfl
    | ok members => rfl
  rw [whole, whole, same]

mutual

/-- Related values are reduced alike: what a value raises is no matter of its
decimals. -/
theorem canonicalise_outcome {decimals : Decimal → Decimal → Prop} :
    ∀ (value : Value) {other : Value}, Dictionaries value → Related decimals value other →
      outcome (canonicalise value) = outcome (canonicalise other)
  | .decimal left, other, _, related => by
      rw [Related] at related
      obtain ⟨right, rfl, _⟩ := related
      rw [canonicalise, canonicalise]
      rfl
  | .enum value, other, dictionaries, related => by
      rw [Related] at related
      obtain ⟨right, rfl, inner⟩ := related
      rw [canonicalise, canonicalise]
      exact canonicalise_outcome value dictionaries inner
  | .mapping entries, other, dictionaries, related => by
      rw [Related] at related
      obtain ⟨right, arranged, rfl, perm, aligned⟩ := related
      have distinct : (arranged.map Prod.fst).Nodup := by
        rw [aligned.keys]
        exact dictionaries.1
      rw [← canonicalise_mapping_perm perm distinct]
      exact canonicalise_mapping_outcome
        (canonicaliseEntries_outcome entries dictionaries.2 aligned)
  | .sequence items, other, dictionaries, related => by
      rw [Related] at related
      obtain ⟨right, rfl, inner⟩ := related
      have same := canonicaliseItems_outcome items dictionaries inner
      rw [canonicalise, canonicalise]
      cases left : canonicaliseItems items <;> cases other : canonicaliseItems right <;>
        rw [left, other] at same
      · exact same
      · cases same
      · cases same
      · rfl
  | .none, _, _, related | .bool _, _, _, related | .str _, _, _, related
  | .int _, _, _, related | .float, _, _, related | .datetime _, _, _, related
  | .naiveDatetime, _, _, related | .uuid _, _, _, related | .other _, _, _, related => by
      rw [Related] at related
      rw [related]

private theorem canonicaliseItems_outcome {decimals : Decimal → Decimal → Prop} :
    ∀ (items : List Value) {others : List Value}, DictionaryItems items →
      RelatedItems decimals items others →
        outcome (canonicaliseItems items) = outcome (canonicaliseItems others)
  | [], others, _, related => by
      rw [RelatedItems] at related
      rw [related]
  | item :: items, others, dictionaries, related => by
      rw [RelatedItems] at related
      obtain ⟨other, rest, rfl, head, tail⟩ := related
      have first := canonicalise_outcome item dictionaries.1 head
      have later := canonicaliseItems_outcome items dictionaries.2 tail
      rw [canonicaliseItems, canonicaliseItems]
      cases left : canonicalise item <;> cases right : canonicalise other <;>
        rw [left, right] at first
      · exact first
      · cases first
      · cases first
      · rw [ok_bind, ok_bind]
        cases leftRest : canonicaliseItems items <;> cases rightRest : canonicaliseItems rest <;>
          rw [leftRest, rightRest] at later
        · exact later
        · cases later
        · cases later
        · rfl

private theorem canonicaliseEntries_outcome {decimals : Decimal → Decimal → Prop} :
    ∀ (entries : List (String × Value)) {others : List (String × Value)},
      DictionaryEntries entries → RelatedEntries decimals entries others →
        (canonicaliseEntries entries).map (Prod.map id outcome) =
          (canonicaliseEntries others).map (Prod.map id outcome)
  | [], others, _, related => by
      rw [RelatedEntries] at related
      rw [related]
  | (key, value) :: entries, others, dictionaries, related => by
      rw [RelatedEntries] at related
      obtain ⟨other, rest, rfl, head, tail⟩ := related
      rw [canonicaliseEntries, canonicaliseEntries, List.map_cons, List.map_cons,
        canonicaliseEntries_outcome entries dictionaries.2 tail]
      show (key, outcome (canonicalise value)) :: _ = (key, outcome (canonicalise other)) :: _
      rw [canonicalise_outcome value dictionaries.1 head]

end

mutual

/-- Related values with one canonical form have their decimals written alike. -/
theorem sameText_of_canonicalise {decimals : Decimal → Decimal → Prop} :
    ∀ (value : Value) {other : Value} {canonical : Json}, Dictionaries value →
      Related decimals value other → canonicalise value = .ok canonical →
        canonicalise other = .ok canonical → Related SameText value other
  | .decimal left, other, _, _, related, reduced, otherReduced => by
      rw [Related] at related ⊢
      obtain ⟨right, rfl, _⟩ := related
      rw [canonicalise] at reduced otherReduced
      refine ⟨right, rfl, ?_⟩
      exact Json.str.inj (Except.ok.inj (reduced.trans otherReduced.symm))
  | .enum value, other, _, dictionaries, related, reduced, otherReduced => by
      rw [Related] at related ⊢
      obtain ⟨right, rfl, inner⟩ := related
      rw [canonicalise] at reduced otherReduced
      exact ⟨right, rfl, sameText_of_canonicalise value dictionaries inner reduced otherReduced⟩
  | .mapping entries, other, _, dictionaries, related, reduced, otherReduced => by
      rw [Related] at related ⊢
      obtain ⟨right, arranged, rfl, perm, aligned⟩ := related
      have keys := aligned.keys
      have distinct : (arranged.map Prod.fst).Nodup := by
        rw [keys]
        exact dictionaries.1
      rw [← canonicalise_mapping_perm perm distinct] at otherReduced
      obtain ⟨members, isObject, sorted⟩ := canonicalise_mapping_ok reduced
      obtain ⟨otherMembers, otherObject, otherSorted⟩ := canonicalise_mapping_ok otherReduced
      have sameMembers : members = otherMembers := Json.obj.inj (isObject.symm.trans otherObject)
      have arrangedKeys : ∀ list : List (String × Value),
          (canonicaliseEntries list).map Prod.fst = list.map Prod.fst := by
        intro list
        rw [canonicaliseEntries_eq_map, List.map_map]
        rfl
      -- The same entries in two orders, with the keys in one order.
      have sameEntries : canonicaliseEntries entries = canonicaliseEntries arranged := by
        apply eq_of_perm_of_keys
        · have left := sortBy_perm (fun item : String × Except CanonicalError Json => id item.1)
            (canonicaliseEntries entries)
          have right := sortBy_perm (fun item : String × Except CanonicalError Json => id item.1)
            (canonicaliseEntries arranged)
          apply left.symm.trans
          refine List.Perm.trans (List.Perm.of_eq ?_) right
          show sortMembers id (canonicaliseEntries entries) =
            sortMembers id (canonicaliseEntries arranged)
          rw [sorted, otherSorted, sameMembers]
        · rw [arrangedKeys, arrangedKeys, keys]
        · rw [arrangedKeys]
          exact dictionaries.1
      refine ⟨right, arranged, rfl, perm, ?_⟩
      exact sameText_of_canonicaliseEntries entries dictionaries.2 aligned
        (fun key value member => canonicalise_entry_ok reduced member) sameEntries
  | .sequence items, other, _, dictionaries, related, reduced, otherReduced => by
      rw [Related] at related ⊢
      obtain ⟨right, rfl, inner⟩ := related
      rw [canonicalise, bind_eq_ok] at reduced otherReduced
      obtain ⟨values, itemsReduced, isArray⟩ := reduced
      obtain ⟨others, othersReduced, otherArray⟩ := otherReduced
      have same : values = others :=
        Json.arr.inj (Except.ok.inj (isArray.trans otherArray.symm))
      rw [← same] at othersReduced
      exact ⟨right, rfl,
        sameText_of_canonicaliseItems items dictionaries inner itemsReduced othersReduced⟩
  | .none, _, _, _, related, _, _ | .bool _, _, _, _, related, _, _
  | .str _, _, _, _, related, _, _ | .int _, _, _, _, related, _, _
  | .float, _, _, _, related, _, _ | .datetime _, _, _, _, related, _, _
  | .naiveDatetime, _, _, _, related, _, _ | .uuid _, _, _, _, related, _, _
  | .other _, _, _, _, related, _, _ => by
      rw [Related] at related ⊢
      exact related

private theorem sameText_of_canonicaliseItems {decimals : Decimal → Decimal → Prop} :
    ∀ (items : List Value) {others : List Value} {values : List Json}, DictionaryItems items →
      RelatedItems decimals items others → canonicaliseItems items = .ok values →
        canonicaliseItems others = .ok values → RelatedItems SameText items others
  | [], _, _, _, related, _, _ => by
      rw [RelatedItems] at related ⊢
      exact related
  | item :: items, others, _, dictionaries, related, reduced, otherReduced => by
      rw [RelatedItems] at related ⊢
      obtain ⟨other, rest, rfl, head, tail⟩ := related
      rw [canonicaliseItems, bind_eq_ok] at reduced otherReduced
      obtain ⟨value, itemReduced, reduced⟩ := reduced
      obtain ⟨otherValue, otherItemReduced, otherReduced⟩ := otherReduced
      rw [bind_eq_ok] at reduced otherReduced
      obtain ⟨values, itemsReduced, isValues⟩ := reduced
      obtain ⟨otherValues, otherItemsReduced, isOthers⟩ := otherReduced
      obtain ⟨sameHead, sameTail⟩ :=
        List.cons.inj (Except.ok.inj (isValues.trans isOthers.symm))
      rw [← sameHead] at otherItemReduced
      rw [← sameTail] at otherItemsReduced
      exact ⟨other, rest, rfl,
        sameText_of_canonicalise item dictionaries.1 head itemReduced otherItemReduced,
        sameText_of_canonicaliseItems items dictionaries.2 tail itemsReduced otherItemsReduced⟩

private theorem sameText_of_canonicaliseEntries {decimals : Decimal → Decimal → Prop} :
    ∀ (entries : List (String × Value)) {others : List (String × Value)},
      DictionaryEntries entries → RelatedEntries decimals entries others →
        (∀ key value, (key, value) ∈ entries → ∃ canonical, canonicalise value = .ok canonical) →
          canonicaliseEntries entries = canonicaliseEntries others →
            RelatedEntries SameText entries others
  | [], _, _, related, _, _ => by
      rw [RelatedEntries] at related ⊢
      exact related
  | (key, value) :: entries, others, dictionaries, related, reduced, same => by
      rw [RelatedEntries] at related ⊢
      obtain ⟨other, rest, rfl, head, tail⟩ := related
      rw [canonicaliseEntries, canonicaliseEntries] at same
      obtain ⟨sameHead, sameTail⟩ := List.cons.inj same
      obtain ⟨canonical, isCanonical⟩ := reduced key value List.mem_cons_self
      have otherCanonical : canonicalise other = .ok canonical :=
        (Prod.ext_iff.mp sameHead).2.symm.trans isCanonical
      refine ⟨other, rest, rfl,
        sameText_of_canonicalise value dictionaries.1 head isCanonical otherCanonical, ?_⟩
      exact sameText_of_canonicaliseEntries entries dictionaries.2 tail
        (fun key value member => reduced key value (List.mem_cons_of_mem _ member)) sameTail

end

/-! ## The same logical event -/

/-- Two records of one event: every field is the same, and the payloads are equal
as values. -/
structure SameLogicalEvent (event other : AuditEvent) : Prop where
  eventId : event.eventId = other.eventId
  eventType : event.eventType = other.eventType
  entityType : event.entityType = other.entityType
  entityId : event.entityId = other.entityId
  eventTime : event.eventTime = other.eventTime
  recordedAt : event.recordedAt = other.recordedAt
  actorUserId : event.actorUserId = other.actorUserId
  payload : Related SameNumber (.mapping event.payload.entries) (.mapping other.payload.entries)

/-- A payload holds a value that an audit event may not carry. -/
def Unsupported (payload : Dict String Value) : Prop :=
  ∃ key value error, payload.get? key = some value ∧ canonicalise value = .error error

section Events

variable {decimals : Decimal → Decimal → Prop} {sha256 : String → String} {event other : AuditEvent}
  {previousHash : Option String}

private theorem get?_withPayloadVersion (event : AuditEvent) (key : String) :
    event.withPayloadVersion.get? key = (event.payload.get? key).or
      (if key = payloadVersionKey then some (.str payloadVersion) else none) := by
  rw [AuditEvent.withPayloadVersion, Dict.get?_update, Dict.get?_set, Dict.get?_empty]

/-- The version that is put into both payloads is the same. -/
theorem related_withPayloadVersion
    (related : Related decimals (.mapping event.payload.entries) (.mapping other.payload.entries)) :
    Related decimals (.mapping event.withPayloadVersion.entries)
      (.mapping other.withPayloadVersion.entries) := by
  rw [related_mapping_iff] at related ⊢
  intro key
  rw [get?_withPayloadVersion, get?_withPayloadVersion]
  have own := related key
  cases left : event.payload.get? key with
  | some value =>
      cases right : other.payload.get? key with
      | some otherValue =>
          rw [left, right] at own
          exact own
      | none =>
          rw [left, right] at own
          cases own
  | none =>
      cases right : other.payload.get? key with
      | some otherValue =>
          rw [left, right] at own
          cases own
      | none =>
          rw [Option.none_or]
          split
          · exact .some (by rw [Related])
          · exact .none

/-- What holds of the payloads with their version holds of the payloads. -/
theorem related_of_withPayloadVersion {weaker : Decimal → Decimal → Prop}
    (related : Related weaker (.mapping event.payload.entries) (.mapping other.payload.entries))
    (versioned : Related decimals (.mapping event.withPayloadVersion.entries)
      (.mapping other.withPayloadVersion.entries)) :
    Related decimals (.mapping event.payload.entries) (.mapping other.payload.entries) := by
  rw [related_mapping_iff] at related versioned ⊢
  intro key
  have own := related key
  have stored := versioned key
  rw [get?_withPayloadVersion, get?_withPayloadVersion] at stored
  cases left : event.payload.get? key with
  | some value =>
      cases right : other.payload.get? key with
      | some otherValue =>
          rw [left, right] at stored
          exact stored
      | none =>
          rw [left, right] at own
          cases own
  | none =>
      cases right : other.payload.get? key with
      | some otherValue =>
          rw [left, right] at own
          cases own
      | none => exact .none

/-- A mapping is reduced where all its values are. -/
theorem canonicalise_mapping_of_values {entries : List (String × Value)}
    (reduced : ∀ key value, (key, value) ∈ entries → ∃ item, canonicalise value = .ok item) :
    ∃ canonical, canonicalise (.mapping entries) = .ok canonical := by
  have each : ∃ members : List (String × Json),
      canonicaliseEntries entries = members.map (Prod.map id Except.ok) := by
    induction entries with
    | nil => exact ⟨[], rfl⟩
    | cons entry entries inductionHypothesis =>
        obtain ⟨key, value⟩ := entry
        obtain ⟨item, isItem⟩ := reduced key value List.mem_cons_self
        obtain ⟨members, isMembers⟩ := inductionHypothesis fun key value later =>
          reduced key value (List.mem_cons_of_mem _ later)
        refine ⟨(key, item) :: members, ?_⟩
        rw [canonicaliseEntries, isItem, isMembers]
        rfl
  obtain ⟨members, isMembers⟩ := each
  exact ⟨_, canonicalise_mapping isMembers⟩

/-- A payload is reduced exactly where it holds nothing unsupported. -/
theorem canonicalise_payload_iff (event : AuditEvent) :
    (∃ canonical, canonicalise (.mapping event.withPayloadVersion.entries) = .ok canonical) ↔
      ¬ Unsupported event.payload := by
  constructor
  · rintro ⟨canonical, reduced⟩ ⟨key, value, error, held, raised⟩
    have member : (key, value) ∈ event.withPayloadVersion.entries := by
      rw [Dict.mem_entries_iff, get?_withPayloadVersion, held, Option.some_or]
    obtain ⟨item, isItem⟩ := canonicalise_entry_ok reduced member
    rw [raised] at isItem
    cases isItem
  · intro allSupported
    apply canonicalise_mapping_of_values
    intro key value member
    rw [Dict.mem_entries_iff, get?_withPayloadVersion] at member
    cases held : event.payload.get? key with
    | some own =>
        rw [held, Option.some_or, Option.some_inj] at member
        cases reduced : canonicalise own with
        | ok item => exact ⟨item, member ▸ reduced⟩
        | error error => exact absurd ⟨key, own, error, held, reduced⟩ allSupported
    | none =>
        rw [held, Option.none_or] at member
        split at member
        · cases member
          exact ⟨_, by rw [canonicalise]⟩
        · cases member

private theorem related_ofOption {α : Type} {wrap : α → Value}
    (leaf : ∀ value, Related decimals (wrap value) (wrap value)) (value : Option α) :
    Related decimals (Value.ofOption wrap value) (Value.ofOption wrap value) := by
  cases value with
  | none =>
      show Related decimals .none .none
      rw [Related]
  | some value => exact leaf value

/-- What is hashed of the two events differs in the payload only. -/
theorem related_material (same : SameLogicalEvent event other) :
    RelatedEntries SameNumber (material event previousHash) (material other previousHash) := by
  have actor := @related_ofOption SameNumber _ Value.uuid (fun value => by rw [Related])
    event.actorUserId
  have link := @related_ofOption SameNumber _ Value.str (fun value => by rw [Related]) previousHash
  unfold material
  rw [← same.eventId, ← same.eventType, ← same.entityType, ← same.entityId, ← same.eventTime,
    ← same.recordedAt, ← same.actorUserId]
  simp only [RelatedEntries]
  exact ⟨_, _, rfl, by rw [Related], _, _, rfl, by rw [Related], _, _, rfl, by rw [Related],
    _, _, rfl, by rw [Related], _, _, rfl, by rw [Related], _, _, rfl, by rw [Related],
    _, _, rfl, actor, _, _, rfl, related_withPayloadVersion same.payload, _, _, rfl, link, rfl⟩

private theorem material_dictionaries (previousHash : Option String)
    (dictionaries : Dictionaries (.mapping event.payload.entries)) :
    Dictionaries (.mapping (material event previousHash)) := by
  have option : ∀ {α : Type} {wrap : α → Value} (value : Option α),
      (∀ value, Dictionaries (wrap value)) → Dictionaries (Value.ofOption wrap value) := by
    intro α wrap value leaf
    cases value with
    | none => trivial
    | some value => exact leaf value
  have keys : (material event previousHash).map Prod.fst =
      ["event_id", "event_type", "entity_type", "entity_id", "event_time", "recorded_at",
        "actor_user_id", "payload", "previous_hash"] := rfl
  refine ⟨by rw [keys]; decide, trivial, trivial, trivial, trivial, trivial, trivial,
    option event.actorUserId fun _ => trivial, withPayloadVersion_dictionaries dictionaries,
    option previousHash fun _ => trivial, trivial⟩

/-- Two records of one event have one fingerprint exactly where corresponding
decimals are written alike, or where neither has a fingerprint at all. -/
theorem eventFingerprint_sameLogical_iff (injective : Function.Injective sha256)
    (dictionaries : Dictionaries (.mapping event.payload.entries))
    (otherDictionaries : Dictionaries (.mapping other.payload.entries))
    (same : SameLogicalEvent event other) (previousHash : Option String) :
    eventFingerprint sha256 event previousHash = eventFingerprint sha256 other previousHash ↔
      Unsupported event.payload ∨
        Related SameText (.mapping event.payload.entries) (.mapping other.payload.entries) := by
  have versioned := related_withPayloadVersion same.payload
  have versionedDictionaries := withPayloadVersion_dictionaries dictionaries
  by_cases unsupported : Unsupported event.payload
  · refine iff_of_true ?_ (.inl unsupported)
    have raised : ∀ canonical,
        canonicalise (.mapping (material event previousHash)) ≠ .ok canonical := by
      intro canonical reduced
      apply (canonicalise_payload_iff event).mp _ unsupported
      exact canonicalise_entry_ok reduced (show ("payload", _) ∈ material event previousHash by
        simp [material])
    have outcomes := canonicalise_outcome (.mapping (material event previousHash))
      (material_dictionaries previousHash dictionaries) (related_material same).mapping
    unfold eventFingerprint canonicalJson
    cases left : canonicalise (.mapping (material event previousHash)) with
    | ok canonical => exact absurd left (raised canonical)
    | error error =>
        cases right : canonicalise (.mapping (material other previousHash)) with
        | ok canonical =>
            rw [left, right] at outcomes
            cases outcomes
        | error otherError =>
            rw [left, right] at outcomes
            cases outcomes
            rfl
  · obtain ⟨payload, reduced⟩ := (canonicalise_payload_iff event).mpr unsupported
    have outcomes := canonicalise_outcome _ versionedDictionaries versioned
    obtain ⟨otherPayload, otherReduced⟩ : ∃ otherPayload,
        canonicalise (.mapping other.withPayloadVersion.entries) = .ok otherPayload := by
      cases right : canonicalise (.mapping other.withPayloadVersion.entries) with
      | ok otherPayload => exact ⟨otherPayload, rfl⟩
      | error error =>
          rw [reduced, right] at outcomes
          cases outcomes
    have canonical := canonicalise_canonical _ versionedDictionaries reduced
    have otherCanonical := canonicalise_canonical _
      (withPayloadVersion_dictionaries otherDictionaries) otherReduced
    rw [eventFingerprint_eq sha256 reduced canonical,
      eventFingerprint_eq sha256 otherReduced otherCanonical]
    constructor
    · intro hashes
      have members := materialMembers_eq_of_text (injective (Except.ok.inj hashes))
      simp only [materialMembers, List.cons.injEq, Prod.mk.injEq, true_and, and_true] at members
      have samePayload : payload = otherPayload := members.2.2.2.2.2.2.2
      rw [← samePayload] at otherReduced
      exact .inr (related_of_withPayloadVersion same.payload
        (sameText_of_canonicalise _ versionedDictionaries versioned reduced otherReduced))
    · rintro (isUnsupported | sameText)
      · exact absurd isUnsupported unsupported
      · have forms := canonicalise_sameText _ versionedDictionaries
          (related_withPayloadVersion sameText)
        rw [reduced, otherReduced] at forms
        cases forms
        unfold materialText materialMembers
        rw [same.eventId, same.eventType, same.entityType, same.entityId, same.eventTime,
          same.recordedAt, same.actorUserId]

end Events

/-! ## One price with one and with two places -/

/-- A price of one rupee, with `places` places. -/
def pricedEvent (places : ℕ) : AuditEvent where
  eventId := 1
  eventType := .orderPlaced
  entityType := .order
  entityId := 2
  eventTime := 0
  recordedAt := 0
  payload := Dict.empty.set "price" (.decimal (Decimal.mk false (10 ^ places) (-(places : ℤ))))

private theorem pricedEvent_same (places otherPlaces : ℕ) :
    SameLogicalEvent (pricedEvent places) (pricedEvent otherPlaces) := by
  have one : ∀ places : ℕ, (Decimal.mk false (10 ^ places) (-(places : ℤ))).toRat = 1 := by
    intro places
    unfold Decimal.toRat
    simp only [Bool.false_eq_true, if_false, one_mul, zpow_neg, zpow_natCast]
    push_cast
    exact mul_inv_cancel₀ (by positivity)
  refine ⟨rfl, rfl, rfl, rfl, rfl, rfl, rfl, ?_⟩
  apply RelatedEntries.mapping
  show RelatedEntries SameNumber [("price", .decimal _)] [("price", .decimal _)]
  simp only [RelatedEntries, Related]
  exact ⟨_, _, rfl, ⟨_, rfl, (one places).trans (one otherPlaces).symm⟩, rfl⟩

/-- `1.0` and `1.00` are one price, and are hashed as two. -/
theorem pricedEvent_fingerprints :
    SameLogicalEvent (pricedEvent 1) (pricedEvent 2) ∧
      eventFingerprint id (pricedEvent 1) none ≠ eventFingerprint id (pricedEvent 2) none := by
  refine ⟨pricedEvent_same 1 2, ?_⟩
  obtain ⟨payload, reduced, _, fingerprint⟩ := eventFingerprint_supported id none
    (show SupportedEvent (pricedEvent 1) by decide +kernel)
  obtain ⟨other, otherReduced, _, otherFingerprint⟩ := eventFingerprint_supported id none
    (show SupportedEvent (pricedEvent 2) by decide +kernel)
  intro same
  rw [fingerprint, otherFingerprint] at same
  have members := materialMembers_eq_of_text (Except.ok.inj same)
  simp only [materialMembers, List.cons.injEq, Prod.mk.injEq, true_and, and_true] at members
  have samePayload : payload = other := members.2.2.2.2.2.2.2
  have sameText : (canonicalise (.mapping (pricedEvent 1).withPayloadVersion.entries)).map dumps =
      (canonicalise (.mapping (pricedEvent 2).withPayloadVersion.entries)).map dumps := by
    rw [reduced, otherReduced, samePayload]
  revert sameText
  decide +kernel

/-- A price and a note, in either order. -/
def notedEvent (noteFirst : Bool) : AuditEvent :=
  let price : Value := .decimal ⟨false, 100, -2⟩
  { pricedEvent 2 with payload :=
      if noteFirst then (Dict.empty.set "note" (.str "cash")).set "price" price
      else (Dict.empty.set "price" price).set "note" (.str "cash") }

private theorem notedEvent_related {decimals : Decimal → Decimal → Prop}
    (refl : ∀ number, decimals number number) :
    Related decimals (.mapping (notedEvent true).payload.entries)
      (.mapping (notedEvent false).payload.entries) := by
  rw [related_mapping_iff]
  intro key
  have price : Related decimals (.decimal ⟨false, 100, -2⟩) (.decimal ⟨false, 100, -2⟩) := by
    rw [Related]
    exact ⟨_, rfl, refl _⟩
  have note : Related decimals (.str "cash") (.str "cash") := by rw [Related]
  let one : Value := .decimal ⟨false, 100, -2⟩
  show Option.Rel _ (((Dict.empty.set "note" (Value.str "cash")).set "price" one).get? key)
    (((Dict.empty.set "price" one).set "note" (Value.str "cash")).get? key)
  simp only [Dict.get?_set, Dict.get?_empty]
  by_cases isPrice : key = "price"
  · rw [isPrice]
    exact .some price
  · by_cases isNote : key = "note"
    · rw [isNote]
      exact .some note
    · rw [if_neg isPrice, if_neg isNote, if_neg isNote, if_neg isPrice]
      exact .none

private theorem notedEvent_dictionaries (noteFirst : Bool) :
    Dictionaries (.mapping (notedEvent noteFirst).payload.entries) := by
  refine ⟨(notedEvent noteFirst).payload.distinct, ?_⟩
  cases noteFirst
  · exact ⟨trivial, trivial, trivial⟩
  · exact ⟨trivial, trivial, trivial⟩

theorem eventFingerprint_sameLogical_sample :
    eventFingerprint id (notedEvent true) none = eventFingerprint id (notedEvent false) none :=
  (eventFingerprint_sameLogical_iff Function.injective_id (notedEvent_dictionaries true)
    (notedEvent_dictionaries false)
    ⟨rfl, rfl, rfl, rfl, rfl, rfl, rfl, notedEvent_related fun _ => rfl⟩ none).mpr
      (.inr (notedEvent_related fun _ => rfl))

end UrjaSetu.Domain.Policies.AuditChain
