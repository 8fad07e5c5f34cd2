import Mathlib

/-!
Dictionaries in insertion order.

An assignment to a key that is present keeps the key's place, and one to a new
key goes to the end. Distinctness of the keys is part of the type, so an entry
of the dictionary and a lookup are the same fact.
-/

namespace UrjaSetu.Library

variable {κ ν : Type*} [DecidableEq κ]

/-- Overwrite the entry of `key`, or append one. -/
def putEntry (key : κ) (value : ν) : List (κ × ν) → List (κ × ν)
  | [] => [(key, value)]
  | (other, held) :: rest =>
      if key = other then (key, value) :: rest else (other, held) :: putEntry key value rest

def findEntry (key : κ) : List (κ × ν) → Option ν
  | [] => none
  | (other, held) :: rest => if key = other then some held else findEntry key rest

theorem putEntry_keys (key : κ) (value : ν) (entries : List (κ × ν)) :
    (putEntry key value entries).map Prod.fst =
      if key ∈ entries.map Prod.fst then entries.map Prod.fst
      else entries.map Prod.fst ++ [key] := by
  induction entries with
  | nil => simp [putEntry]
  | cons entry rest inductionHypothesis =>
      obtain ⟨other, held⟩ := entry
      by_cases same : key = other
      · simp [putEntry, same]
      · rw [putEntry, if_neg same, List.map_cons, inductionHypothesis]
        by_cases present : key ∈ rest.map Prod.fst <;> simp [present, same]

theorem findEntry_putEntry (key other : κ) (value : ν) (entries : List (κ × ν)) :
    findEntry other (putEntry key value entries) =
      if other = key then some value else findEntry other entries := by
  induction entries with
  | nil => rfl
  | cons entry rest inductionHypothesis =>
      obtain ⟨head, held⟩ := entry
      by_cases same : key = head
      · subst same
        by_cases asked : other = key <;> simp [putEntry, findEntry, asked]
      · simp only [putEntry, if_neg same, findEntry, inductionHypothesis]
        by_cases asked : other = head
        · have apart : other ≠ key := fun equal => same (equal.symm.trans asked)
          rw [if_pos asked, if_pos asked, if_neg apart]
        · rw [if_neg asked, if_neg asked]

theorem findEntry_eq_some_iff {key : κ} {value : ν} {entries : List (κ × ν)}
    (distinct : (entries.map Prod.fst).Nodup) :
    findEntry key entries = some value ↔ (key, value) ∈ entries := by
  induction entries with
  | nil => simp [findEntry]
  | cons entry rest inductionHypothesis =>
      obtain ⟨other, held⟩ := entry
      obtain ⟨fresh, restDistinct⟩ := List.nodup_cons.mp distinct
      by_cases same : key = other
      · subst same
        have absent : (key, value) ∉ rest := by
          intro member
          have held : key ∈ rest.map Prod.fst := List.mem_map.mpr ⟨_, member, rfl⟩
          exact fresh held
        simp [findEntry, absent, eq_comm]
      · simp [findEntry, same, inductionHypothesis restDistinct]

theorem putEntry_of_absent {key : κ} {value : ν} {entries : List (κ × ν)}
    (absent : key ∉ entries.map Prod.fst) : putEntry key value entries = entries ++ [(key, value)] := by
  induction entries with
  | nil => rfl
  | cons entry rest inductionHypothesis =>
      rw [List.map_cons, List.mem_cons, not_or] at absent
      rw [putEntry, if_neg absent.1, inductionHypothesis absent.2]
      rfl

/-- A dictionary with keys of type `κ`, in insertion order. -/
structure Dict (κ ν : Type*) where
  entries : List (κ × ν)
  distinct : (entries.map Prod.fst).Nodup

namespace Dict

def empty : Dict κ ν := ⟨[], List.nodup_nil⟩

/-- `dict.get(key)`. -/
def get? (dict : Dict κ ν) (key : κ) : Option ν := findEntry key dict.entries

/-- `dict[key] = value`. -/
def set (dict : Dict κ ν) (key : κ) (value : ν) : Dict κ ν where
  entries := putEntry key value dict.entries
  distinct := by
    rw [putEntry_keys]
    split
    · exact dict.distinct
    · rename_i absent
      exact List.nodup_append'.mpr
        ⟨dict.distinct, List.nodup_singleton key, List.disjoint_singleton.mpr absent⟩

@[simp] theorem get?_empty (key : κ) : (empty : Dict κ ν).get? key = none := rfl

theorem get?_set (dict : Dict κ ν) (key other : κ) (value : ν) :
    (dict.set key value).get? other = if other = key then some value else dict.get? other :=
  findEntry_putEntry key other value dict.entries

@[simp] theorem get?_set_self (dict : Dict κ ν) (key : κ) (value : ν) :
    (dict.set key value).get? key = some value := by
  rw [get?_set, if_pos rfl]

theorem mem_entries_iff {dict : Dict κ ν} {key : κ} {value : ν} :
    (key, value) ∈ dict.entries ↔ dict.get? key = some value :=
  (findEntry_eq_some_iff dict.distinct).symm

/-- `dict.pop(key, None)`. -/
def pop (dict : Dict κ ν) (key : κ) : Dict κ ν where
  entries := dict.entries.filter fun entry => entry.1 ≠ key
  distinct := dict.distinct.sublist (List.filter_sublist.map _)

theorem mem_pop_iff {dict : Dict κ ν} {key : κ} {entry : κ × ν} :
    entry ∈ (dict.pop key).entries ↔ entry ∈ dict.entries ∧ entry.1 ≠ key := by
  simp [pop]

/-- A new key goes to the end. -/
theorem set_entries_of_absent {dict : Dict κ ν} {key : κ} {value : ν}
    (absent : key ∉ dict.entries.map Prod.fst) :
    (dict.set key value).entries = dict.entries ++ [(key, value)] :=
  putEntry_of_absent absent

/-- A comprehension `{key(item): value(item) for item in items}`: a later item
overwrites an earlier one of the same key. -/
def ofItems {ι : Type*} (key : ι → κ) (value : ι → ν) (items : List ι) : Dict κ ν :=
  items.foldl (fun dict item => dict.set (key item) (value item)) empty

theorem ofItems_append {ι : Type*} (key : ι → κ) (value : ι → ν) (items : List ι) (last : ι) :
    ofItems key value (items ++ [last]) = (ofItems key value items).set (key last) (value last) := by
  simp [ofItems]

/-- When the items' keys are distinct, each item is found under its key. -/
theorem get?_ofItems {ι : Type*} {key : ι → κ} {value : ι → ν} {items : List ι}
    (distinct : (items.map key).Nodup) {item : ι} (member : item ∈ items) :
    (ofItems key value items).get? (key item) = some (value item) := by
  induction items using List.reverseRecOn with
  | nil => cases member
  | append_singleton front last inductionHypothesis =>
      rw [List.map_append, List.nodup_append] at distinct
      obtain ⟨frontDistinct, _, apart⟩ := distinct
      rw [ofItems_append, get?_set]
      rcases List.mem_append.mp member with early | final
      · have different : key item ≠ key last := apart _ (List.mem_map_of_mem early) _ (by simp)
        rw [if_neg different]
        exact inductionHypothesis frontDistinct early
      · rw [List.mem_singleton.mp final, if_pos rfl]

/-- Items with distinct keys become the entries in their order. -/
theorem ofItems_entries {items : List (κ × ν)} (distinct : (items.map Prod.fst).Nodup) :
    (ofItems Prod.fst Prod.snd items).entries = items := by
  induction items using List.reverseRecOn with
  | nil => rfl
  | append_singleton front last inductionHypothesis =>
      rw [List.map_append, List.nodup_append] at distinct
      obtain ⟨frontDistinct, _, apart⟩ := distinct
      have frontEntries := inductionHypothesis frontDistinct
      have absent : last.1 ∉ (ofItems Prod.fst Prod.snd front).entries.map Prod.fst := by
        rw [frontEntries]
        intro member
        exact apart _ member last.1 (by simp) rfl
      rw [ofItems_append]
      show putEntry last.1 last.2 (ofItems Prod.fst Prod.snd front).entries = front ++ [last]
      rw [putEntry_of_absent absent, frontEntries]

/-- `{**dict, **other}`. -/
def update (dict other : Dict κ ν) : Dict κ ν :=
  other.entries.foldl (fun merged entry => merged.set entry.1 entry.2) dict

theorem get?_update (dict other : Dict κ ν) (key : κ) :
    (dict.update other).get? key = (other.get? key).or (dict.get? key) := by
  obtain ⟨entries, distinct⟩ := other
  show (entries.foldl (fun merged entry => merged.set entry.1 entry.2) dict).get? key =
    (findEntry key entries).or (dict.get? key)
  induction entries generalizing dict with
  | nil => rfl
  | cons entry rest inductionHypothesis =>
      obtain ⟨fresh, restDistinct⟩ := List.nodup_cons.mp distinct
      rw [List.foldl_cons, inductionHypothesis (dict.set entry.1 entry.2) restDistinct, get?_set]
      by_cases same : key = entry.1
      · have absent : findEntry key rest = none := by
          cases found : findEntry key rest with
          | none => rfl
          | some value =>
              have member := (findEntry_eq_some_iff restDistinct).mp found
              exact absurd (List.mem_map.mpr ⟨_, member, same⟩) fresh
        rw [if_pos same, absent, findEntry, if_pos same]
        rfl
      · rw [if_neg same, findEntry, if_neg same]

/-- Dictionaries that answer alike have the same entries, up to their order. -/
theorem perm_of_get?_eq {left right : Dict κ ν} (alike : ∀ key, left.get? key = right.get? key) :
    left.entries.Perm right.entries := by
  apply (List.perm_ext_iff_of_nodup left.distinct.of_map right.distinct.of_map).mpr
  rintro ⟨key, value⟩
  rw [mem_entries_iff, mem_entries_iff, alike]

/-- What a dictionary built from items holds comes from one of them. -/
theorem exists_of_get?_ofItems {ι : Type*} {key : ι → κ} {value : ι → ν} {items : List ι}
    {asked : κ} {found : ν} (held : (ofItems key value items).get? asked = some found) :
    ∃ item ∈ items, key item = asked ∧ value item = found := by
  induction items using List.reverseRecOn with
  | nil => cases held
  | append_singleton front last inductionHypothesis =>
      rw [ofItems_append, get?_set] at held
      by_cases same : asked = key last
      · rw [if_pos same, Option.some_inj] at held
        exact ⟨last, by simp, same.symm, held⟩
      · rw [if_neg same] at held
        obtain ⟨item, member, keyEq, valueEq⟩ := inductionHypothesis held
        exact ⟨item, List.mem_append_left _ member, keyEq, valueEq⟩

/-- Something is found under the key of every item. -/
theorem isSome_get?_ofItems {ι : Type*} {key : ι → κ} {value : ι → ν} {items : List ι} {item : ι}
    (member : item ∈ items) : ((ofItems key value items).get? (key item)).isSome = true := by
  induction items using List.reverseRecOn with
  | nil => cases member
  | append_singleton front last inductionHypothesis =>
      rw [ofItems_append, get?_set]
      by_cases same : key item = key last
      · rw [if_pos same]
        rfl
      · rw [if_neg same]
        rcases List.mem_append.mp member with early | final
        · exact inductionHypothesis early
        · exact absurd (by rw [List.mem_singleton.mp final]) same

/-- When items of one key have one value, each item is found under its key. -/
theorem get?_ofItems_of_agree {ι : Type*} {key : ι → κ} {value : ι → ν} {items : List ι} {item : ι}
    (agree : ∀ other ∈ items, key other = key item → value other = value item)
    (member : item ∈ items) : (ofItems key value items).get? (key item) = some (value item) := by
  obtain ⟨found, held⟩ := Option.isSome_iff_exists.mp (@isSome_get?_ofItems κ ν _ ι key value items item member)
  obtain ⟨other, present, keyEq, valueEq⟩ := exists_of_get?_ofItems held
  rw [held, ← valueEq, agree other present keyEq]

/-- A dictionary built from items holds only those items, each under its key. -/
theorem mem_of_get?_ofItems {ι : Type*} {key : ι → κ} {items : List ι} {asked : κ} {found : ι}
    (held : (ofItems key id items).get? asked = some found) : found ∈ items ∧ key found = asked := by
  obtain ⟨item, member, keyEq, same⟩ := exists_of_get?_ofItems held
  cases same
  exact ⟨member, keyEq⟩

/-- The last item of a key is what is found under it. -/
theorem get?_ofItems_getLast? {ι : Type*} (key : ι → κ) (value : ι → ν) (items : List ι) (asked : κ) :
    (ofItems key value items).get? asked =
      ((items.filter fun item => key item = asked).getLast?).map value := by
  induction items using List.reverseRecOn with
  | nil => rfl
  | append_singleton front last inductionHypothesis =>
      rw [ofItems_append, get?_set, List.filter_append, List.filter_cons, List.filter_nil]
      by_cases same : asked = key last
      · rw [if_pos same, if_pos (by simpa using same.symm), List.getLast?_concat, Option.map_some]
      · rw [if_neg same, if_neg (by simpa using fun eq => same eq.symm), List.append_nil,
          inductionHypothesis]

end Dict

end UrjaSetu.Library
