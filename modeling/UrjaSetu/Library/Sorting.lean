import Mathlib

/-!
Stable sorting of items by a key.

Owns: that the result is the same items in key order, that distinct keys make
it independent of the order of the input, and the item with the largest key.
-/

namespace UrjaSetu.Library

variable {α β κ : Type*} [LinearOrder κ]

/-- `sorted(items, key=key)`. -/
def sortBy (key : α → κ) (items : List α) : List α :=
  items.insertionSort fun left right => key left ≤ key right

section Laws

variable (key : α → κ)

theorem sortBy_perm (items : List α) : (sortBy key items).Perm items :=
  List.perm_insertionSort _ items

@[simp] theorem mem_sortBy {items : List α} {item : α} : item ∈ sortBy key items ↔ item ∈ items :=
  (sortBy_perm key items).mem_iff

theorem sortBy_pairwise (items : List α) :
    (sortBy key items).Pairwise fun left right => key left ≤ key right := by
  let order := fun left right : α => key left ≤ key right
  have total : Std.Total order := ⟨fun left right => le_total (key left) (key right)⟩
  have transitive : IsTrans α order := ⟨fun _ _ _ => le_trans⟩
  exact List.pairwise_insertionSort order items

theorem sortBy_map (onto : α → β) (itemKey : β → κ) (same : ∀ item, itemKey (onto item) = key item)
    (items : List α) : sortBy itemKey (items.map onto) = (sortBy key items).map onto := by
  apply Eq.symm
  apply List.map_insertionSort
  intro left _ right _
  rw [same, same]

/-- A list in key order is already sorted. -/
theorem sortBy_of_pairwise {items : List α}
    (ordered : items.Pairwise fun left right => key left ≤ key right) :
    sortBy key items = items :=
  ordered.insertionSort_eq

/-- With distinct keys, the sorted list does not depend on how the items were
listed. -/
theorem sortBy_eq_of_perm {left right : List α} (distinct : (left.map key).Nodup)
    (perm : left.Perm right) : sortBy key left = sortBy key right := by
  have sorted : (sortBy key left).Perm (sortBy key right) :=
    (sortBy_perm key left).trans (perm.trans (sortBy_perm key right).symm)
  apply sorted.eq_of_pairwise _ (sortBy_pairwise key left) (sortBy_pairwise key right)
  intro first second firstMember secondMember below above
  have firstIn : first ∈ left := (mem_sortBy key).mp firstMember
  have secondIn : second ∈ left := perm.mem_iff.mpr ((mem_sortBy key).mp secondMember)
  exact List.inj_on_of_nodup_map distinct firstIn secondIn (le_antisymm below above)

/-- An item that no other goes before is inserted in front. -/
theorem orderedInsert_of_forall_le {item : α} {items : List α}
    (first : ∀ other ∈ items, key item ≤ key other) :
    items.orderedInsert (fun left right => key left ≤ key right) item = item :: items := by
  cases items with
  | nil => rfl
  | cons head rest => exact List.orderedInsert_cons_of_le _ rest (first head (by simp))

theorem orderedInsert_filter (wanted : α → Bool) (item : α) {items : List α}
    (ordered : items.Pairwise fun left right => key left ≤ key right) :
    (items.orderedInsert (fun left right => key left ≤ key right) item).filter wanted =
      if wanted item then
        (items.filter wanted).orderedInsert (fun left right => key left ≤ key right) item
      else items.filter wanted := by
  induction items with
  | nil =>
      rw [List.orderedInsert_nil, List.filter_cons, List.filter_nil, List.orderedInsert_nil]
  | cons head rest inductionHypothesis =>
      obtain ⟨headFirst, restOrdered⟩ := List.pairwise_cons.mp ordered
      rw [List.orderedInsert_cons]
      by_cases first : key item ≤ key head
      · rw [if_pos first, List.filter_cons]
        split
        · rw [orderedInsert_of_forall_le]
          intro other member
          rcases List.mem_cons.mp (List.mem_of_mem_filter member) with isHead | later
          · rw [isHead]
            exact first
          · exact first.trans (headFirst other later)
        · rfl
      · rw [if_neg first, List.filter_cons, inductionHypothesis restOrdered, List.filter_cons]
        by_cases keepsHead : wanted head = true
        · rw [if_pos keepsHead, if_pos keepsHead]
          split
          · rw [List.orderedInsert_cons, if_neg first]
          · rfl
        · rw [if_neg keepsHead, if_neg keepsHead]

/-- The items that are kept stay in the order they are sorted in. -/
theorem sortBy_filter (wanted : α → Bool) (items : List α) :
    (sortBy key items).filter wanted = sortBy key (items.filter wanted) := by
  induction items with
  | nil => rfl
  | cons item rest inductionHypothesis =>
      have inserted := orderedInsert_filter key wanted item (sortBy_pairwise key rest)
      rw [inductionHypothesis] at inserted
      rw [List.filter_cons]
      refine inserted.trans ?_
      split
      · rfl
      · rfl

/-- Only the order of the keys matters. -/
theorem sortBy_congr {κ' : Type*} [LinearOrder κ'] {otherKey : α → κ'} {items : List α}
    (same : ∀ left ∈ items, ∀ right ∈ items, key left ≤ key right ↔ otherKey left ≤ otherKey right) :
    sortBy key items = sortBy otherKey items := by
  have mapped := List.map_insertionSort (fun left right => key left ≤ key right)
    (fun left right => otherKey left ≤ otherKey right) id items same
  rwa [List.map_id, List.map_id] at mapped

end Laws

/-! ## Extremes -/

/-- `max(items, key=key, default=None)`: the first of the items with the largest
key. -/
def largest (key : α → κ) : List α → Option α
  | [] => none
  | item :: items =>
      some (items.foldl (fun best next => if key best < key next then next else best) item)

section Largest

variable {key : α → κ} {items : List α}

theorem foldl_largest (key : α → κ) (items : List α) (start : α) :
    let best := items.foldl (fun best next => if key best < key next then next else best) start
    (best = start ∨ best ∈ items) ∧ key start ≤ key best ∧ ∀ item ∈ items, key item ≤ key best := by
  induction items generalizing start with
  | nil => exact ⟨Or.inl rfl, le_rfl, by simp⟩
  | cons item items inductionHypothesis =>
      rw [List.foldl_cons]
      by_cases exceeds : key start < key item
      · rw [if_pos exceeds]
        obtain ⟨origin, least, every⟩ := inductionHypothesis item
        refine ⟨Or.inr ?_, exceeds.le.trans least, ?_⟩
        · rcases origin with same | later
          · rw [same]
            exact List.mem_cons_self
          · exact List.mem_cons_of_mem _ later
        · intro other member
          rcases List.mem_cons.mp member with rfl | later
          · exact least
          · exact every other later
      · rw [if_neg exceeds]
        obtain ⟨origin, least, every⟩ := inductionHypothesis start
        refine ⟨origin.imp id (List.mem_cons_of_mem _), least, ?_⟩
        intro other member
        rcases List.mem_cons.mp member with rfl | later
        · exact (not_lt.mp exceeds).trans least
        · exact every other later

theorem largest_mem {best : α} (found : largest key items = some best) : best ∈ items := by
  cases items with
  | nil => cases found
  | cons item items =>
      cases found
      rcases (foldl_largest key items item).1 with same | later
      · rw [same]
        exact List.mem_cons_self
      · exact List.mem_cons_of_mem _ later

theorem le_largest {best item : α} (found : largest key items = some best)
    (member : item ∈ items) : key item ≤ key best := by
  cases items with
  | nil => cases found
  | cons first items =>
      cases found
      obtain ⟨_, least, every⟩ := foldl_largest key items first
      rcases List.mem_cons.mp member with rfl | later
      · exact least
      · exact every item later

/-- A bound on the largest key, where there is one, bounds every key. -/
theorem largest_bound_iff {bounded : α → Prop} (downward : ∀ lower upper, key lower ≤ key upper →
    bounded upper → bounded lower) :
    (∀ best, largest key items = some best → bounded best) ↔ ∀ item ∈ items, bounded item := by
  constructor
  · intro bound item member
    cases found : largest key items with
    | none =>
        cases items with
        | nil => cases member
        | cons first items => cases found
    | some best => exact downward item best (le_largest found member) (bound best found)
  · intro every best found
    exact every best (largest_mem found)

end Largest

end UrjaSetu.Library
