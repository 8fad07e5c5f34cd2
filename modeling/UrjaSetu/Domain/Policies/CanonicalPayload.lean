import UrjaSetu.Domain.Policies.AuditChain

/-!
What canonicalising leaves of a payload (`app/domain/policies/audit_chain.py`).

Owns: that whatever canonicalises is canonical, that every entry of a mapping
that canonicalises does, and which text a fingerprint hashes.
-/

namespace UrjaSetu.Domain.Policies.AuditChain

open UrjaSetu.Domain UrjaSetu.Domain.Interfaces UrjaSetu.Library
open UrjaSetu.Library.Json UrjaSetu.Library.Calendar

/-! ## Payloads made of dictionaries -/

mutual

/-- Every mapping in the value is a dictionary: no key of it occurs twice. -/
def Dictionaries : Value → Prop
  | .enum value => Dictionaries value
  | .mapping entries => (entries.map Prod.fst).Nodup ∧ DictionaryEntries entries
  | .sequence items => DictionaryItems items
  | _ => True

def DictionaryItems : List Value → Prop
  | [] => True
  | item :: items => Dictionaries item ∧ DictionaryItems items

def DictionaryEntries : List (String × Value) → Prop
  | [] => True
  | (_, value) :: entries => Dictionaries value ∧ DictionaryEntries entries

end

private theorem dictionaryEntries_iff {entries : List (String × Value)} :
    DictionaryEntries entries ↔ ∀ key value, (key, value) ∈ entries → Dictionaries value := by
  induction entries with
  | nil => simp [DictionaryEntries]
  | cons entry entries inductionHypothesis =>
      rw [DictionaryEntries, inductionHypothesis]
      constructor
      · rintro ⟨head, tail⟩ key value member
        rcases List.mem_cons.mp member with here | later
        · cases here
          exact head
        · exact tail key value later
      · intro every
        exact ⟨every entry.1 entry.2 List.mem_cons_self,
          fun key value later => every key value (List.mem_cons_of_mem _ later)⟩

/-- Only items that all succeed are collected. -/
theorem collect_eq_ok {items : List (String × Except CanonicalError Json)}
    {members : List (String × Json)} (collected : collect items = .ok members) :
    items = members.map (Prod.map id Except.ok) := by
  induction items generalizing members with
  | nil =>
      cases collected
      rfl
  | cons item items inductionHypothesis =>
      obtain ⟨key, item⟩ := item
      rw [collect, bind_eq_ok] at collected
      obtain ⟨value, itemEq, rest⟩ := collected
      rw [bind_eq_ok] at rest
      obtain ⟨values, restCollected, result⟩ := rest
      cases result
      rw [List.map_cons, ← inductionHypothesis restCollected, itemEq]
      rfl

/-- A mapping that canonicalises is the sorted object of what its entries
canonicalise to. -/
theorem canonicalise_mapping_ok {entries : List (String × Value)} {canonical : Json}
    (reduced : canonicalise (.mapping entries) = .ok canonical) :
    ∃ members, canonical = .obj members ∧
      sortMembers id (canonicaliseEntries entries) = members.map (Prod.map id Except.ok) := by
  rw [canonicalise, bind_eq_ok] at reduced
  obtain ⟨members, collected, result⟩ := reduced
  cases result
  exact ⟨members, rfl, collect_eq_ok collected⟩

theorem canonicalise_entry_ok {entries : List (String × Value)} {canonical : Json}
    (reduced : canonicalise (.mapping entries) = .ok canonical) {key : String} {value : Value}
    (member : (key, value) ∈ entries) : ∃ item, canonicalise value = .ok item := by
  obtain ⟨members, _, sorted⟩ := canonicalise_mapping_ok reduced
  have inEntries : (key, canonicalise value) ∈ canonicaliseEntries entries := by
    rw [canonicaliseEntries_eq_map]
    exact List.mem_map.mpr ⟨_, member, rfl⟩
  have inSorted : (key, canonicalise value) ∈ members.map (Prod.map id Except.ok) := by
    rw [← sorted, sortMembers, mem_sortBy]
    exact inEntries
  obtain ⟨item, _, same⟩ := List.mem_map.mp inSorted
  exact ⟨item.2, (Prod.ext_iff.mp same).2.symm⟩

/-- The members of a collected mapping, canonical each, make a canonical
object. -/
theorem canonical_of_members {entries : List (String × Value)} {members : List (String × Json)}
    (distinct : (entries.map Prod.fst).Nodup)
    (sorted : sortMembers id (canonicaliseEntries entries) = members.map (Prod.map id Except.ok))
    (canonical : ∀ key value, (key, .ok value) ∈ canonicaliseEntries entries → Canonical value) :
    Canonical (.obj members) := by
  have perm := sortBy_perm (fun item : String × Except CanonicalError Json => id item.1)
    (canonicaliseEntries entries)
  have inEntries : ∀ member ∈ members, (member.1, .ok member.2) ∈ canonicaliseEntries entries := by
    intro member inMembers
    rw [← perm.mem_iff]
    show _ ∈ sortMembers id (canonicaliseEntries entries)
    rw [sorted]
    exact List.mem_map.mpr ⟨member, inMembers, rfl⟩
  have keys : (members.map Prod.fst).Nodup := by
    have entryKeys : (canonicaliseEntries entries).map Prod.fst = entries.map Prod.fst := by
      rw [canonicaliseEntries_eq_map, List.map_map]
      rfl
    have sortedKeys : (sortMembers id (canonicaliseEntries entries)).map Prod.fst =
        members.map Prod.fst := by
      rw [sorted, List.map_map]
      rfl
    rw [← sortedKeys]
    exact (perm.map Prod.fst).nodup_iff.mpr (entryKeys ▸ distinct)
  have inside : orderMembers id members = members := by
    rw [orderMembers_eq_map]
    conv_rhs => rw [← List.map_id members]
    apply List.map_congr_left
    intro member inMembers
    exact Prod.ext rfl (canonical _ _ (inEntries member inMembers)).ordered
  have inOrder : sortMembers id members = members := by
    have ordered := sortBy_pairwise (fun item : String × Except CanonicalError Json => id item.1)
      (canonicaliseEntries entries)
    change (sortMembers id (canonicaliseEntries entries)).Pairwise _ at ordered
    rw [sorted, List.pairwise_map] at ordered
    exact sortBy_of_pairwise _ ordered
  refine ⟨⟨keys, ?_⟩, ?_⟩
  · rw [membersDistinct_iff]
    intro member inMembers
    exact (canonical _ _ (inEntries member inMembers)).distinct
  · rw [orderKeys, inside, inOrder]

mutual

/-- Whatever canonicalises is canonical. -/
theorem canonicalise_canonical : ∀ (value : Value) {canonical : Json}, Dictionaries value →
    canonicalise value = .ok canonical → Canonical canonical
  | .none, _, _, reduced => by
      rw [canonicalise] at reduced
      cases reduced
      exact ⟨trivial, rfl⟩
  | .bool _, _, _, reduced => by
      rw [canonicalise] at reduced
      cases reduced
      exact ⟨trivial, rfl⟩
  | .str _, _, _, reduced => by
      rw [canonicalise] at reduced
      cases reduced
      exact ⟨trivial, rfl⟩
  | .int _, _, _, reduced => by
      rw [canonicalise] at reduced
      cases reduced
      exact ⟨trivial, rfl⟩
  | .decimal _, _, _, reduced => by
      rw [canonicalise] at reduced
      cases reduced
      exact ⟨trivial, rfl⟩
  | .datetime _, _, _, reduced => by
      rw [canonicalise] at reduced
      cases reduced
      exact ⟨trivial, rfl⟩
  | .uuid _, _, _, reduced => by
      rw [canonicalise] at reduced
      cases reduced
      exact ⟨trivial, rfl⟩
  | .float, _, _, reduced => by rw [canonicalise] at reduced; cases reduced
  | .naiveDatetime, _, _, reduced => by rw [canonicalise] at reduced; cases reduced
  | .other _, _, _, reduced => by rw [canonicalise] at reduced; cases reduced
  | .enum value, _, dictionaries, reduced => by
      rw [canonicalise] at reduced
      exact canonicalise_canonical value dictionaries reduced
  | .mapping entries, _, dictionaries, reduced => by
      obtain ⟨members, rfl, sorted⟩ := canonicalise_mapping_ok reduced
      exact canonical_of_members dictionaries.1 sorted
        (canonicaliseEntries_canonical entries dictionaries.2)
  | .sequence items, _, dictionaries, reduced => by
      rw [canonicalise, bind_eq_ok] at reduced
      obtain ⟨values, itemsEq, result⟩ := reduced
      cases result
      obtain ⟨distinct, ordered⟩ := canonicaliseItems_canonical items dictionaries itemsEq
      exact ⟨distinct, by rw [orderKeys, ordered]⟩

private theorem canonicaliseItems_canonical : ∀ (items : List Value) {values : List Json},
    DictionaryItems items → canonicaliseItems items = .ok values →
      ItemsDistinct values ∧ orderItems id values = values
  | [], _, _, reduced => by
      cases reduced
      exact ⟨trivial, rfl⟩
  | item :: items, _, dictionaries, reduced => by
      rw [canonicaliseItems, bind_eq_ok] at reduced
      obtain ⟨value, valueEq, rest⟩ := reduced
      rw [bind_eq_ok] at rest
      obtain ⟨values, valuesEq, result⟩ := rest
      cases result
      have head := canonicalise_canonical item dictionaries.1 valueEq
      obtain ⟨distinct, ordered⟩ := canonicaliseItems_canonical items dictionaries.2 valuesEq
      exact ⟨⟨head.distinct, distinct⟩, by rw [orderItems, head.ordered, ordered]⟩

private theorem canonicaliseEntries_canonical : ∀ entries : List (String × Value),
    DictionaryEntries entries → ∀ key value, (key, .ok value) ∈ canonicaliseEntries entries →
      Canonical value
  | [], _, _, _, member => by cases member
  | (_, value) :: entries, dictionaries, key, canonical, member => by
      rw [canonicaliseEntries] at member
      rcases List.mem_cons.mp member with here | later
      · exact canonicalise_canonical value dictionaries.1 (Prod.ext_iff.mp here).2.symm
      · exact canonicaliseEntries_canonical entries dictionaries.2 key canonical later

end

/-! ## What a fingerprint hashes -/

section Fingerprint

variable {sha256 : String → String} {event : AuditEvent} {previousHash : Option String}

/-- The version put into a payload keeps it one of dictionaries. -/
theorem withPayloadVersion_dictionaries
    (dictionaries : Dictionaries (.mapping event.payload.entries)) :
    Dictionaries (.mapping event.withPayloadVersion.entries) := by
  refine ⟨event.withPayloadVersion.distinct, dictionaryEntries_iff.mpr ?_⟩
  intro key value member
  rw [Dict.mem_entries_iff, AuditEvent.withPayloadVersion, Dict.get?_update] at member
  cases own : event.payload.get? key with
  | some ownValue =>
      rw [own, Option.some_or, Option.some_inj] at member
      rw [← member]
      exact dictionaryEntries_iff.mp dictionaries.2 key ownValue (Dict.mem_entries_iff.mpr own)
  | none =>
      rw [own, Option.none_or, Dict.get?_set] at member
      split at member
      · rw [Option.some_inj] at member
        rw [← member]
        trivial
      · cases member

/-- An event has a fingerprint when its payload has a canonical form, and the
text that is hashed holds that form with its keys in order. -/
theorem eventFingerprint_ok {hash : String}
    (fingerprint : eventFingerprint sha256 event previousHash = .ok hash) :
    ∃ payload, canonicalise (.mapping event.withPayloadVersion.entries) = .ok payload ∧
      hash = sha256 (materialText event previousHash (payload.orderKeys id)) := by
  unfold eventFingerprint at fingerprint
  obtain ⟨text, textEq, hashed⟩ := bind_eq_ok.mp fingerprint
  cases hashed
  unfold canonicalJson at textEq
  obtain ⟨canonical, reduced, dumped⟩ := bind_eq_ok.mp textEq
  cases dumped
  obtain ⟨payload, payloadEq⟩ := canonicalise_entry_ok reduced
    (show ("payload", .mapping event.withPayloadVersion.entries) ∈ material event previousHash by
      simp [material])
  rw [canonicalise_material payloadEq] at reduced
  cases reduced
  refine ⟨payload, payloadEq, ?_⟩
  have inside : orderMembers id (materialMembers event previousHash payload) =
      materialMembers event previousHash (payload.orderKeys id) := by
    simp only [materialMembers, orderMembers, orderKeys, (optionJson_canonical _ _).ordered]
  rw [orderKeys, orderMembers_sortMembers, inside,
    sortMembers_sortMembers Function.injective_id _ (materialMembers_distinct _ _ _)]
  rfl

end Fingerprint

end UrjaSetu.Domain.Policies.AuditChain
