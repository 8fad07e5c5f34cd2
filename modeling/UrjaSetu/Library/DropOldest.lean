import Mathlib

/-!
A queue of a bounded depth that loses its oldest item to make room.

Owns: what is taken from it and what still waits, against everything that was
put into it.
-/

namespace UrjaSetu.Library.DropOldest

variable {α : Type*} {depth : ℕ} {offered taken waiting : List α} {item : α}

/-- The item goes behind the others; a full queue loses its first. -/
def put (depth : ℕ) (waiting : List α) (item : α) : List α :=
  (if depth ≤ waiting.length then waiting.tail else waiting) ++ [item]

theorem put_of_room (room : waiting.length < depth) : put depth waiting item = waiting ++ [item] := by
  rw [put, if_neg (by omega)]

/-- The last `count` items. -/
def latest (count : ℕ) (items : List α) : List α := items.drop (items.length - count)

theorem latest_of_suffix {part items : List α} (suffix : part <:+ items) :
    latest part.length items = part :=
  (List.suffix_iff_eq_drop.mp suffix).symm

/-- Of a longer list the last items are among the last and the new one. -/
theorem latest_concat_suffix (count : ℕ) (items : List α) (item : α) :
    latest count (items ++ [item]) <:+ latest count items ++ [item] := by
  unfold latest
  rw [List.length_append, List.length_singleton]
  rcases Nat.le_total count items.length with long | short
  · rw [← List.drop_append_of_le_length (Nat.sub_le _ _)]
    exact List.drop_suffix_drop_left _ (by omega)
  · rw [Nat.sub_eq_zero_of_le short]
    exact List.drop_suffix _ _

theorem latest_map {β : Type*} (f : α → β) (count : ℕ) (items : List α) :
    latest count (items.map f) = (latest count items).map f := by
  rw [latest, latest, List.length_map, List.map_drop]

/-- What is kept of the images of items is the image of what is kept of the
items. -/
theorem exists_map_eq {β : Type*} {f : α → β} {items : List α} {kept : List β} {count : ℕ}
    (newest : latest count (items.map f) <:+ kept) (ordered : kept.Sublist (items.map f)) :
    ∃ part, kept = part.map f ∧ part.Sublist items ∧ latest count items <:+ part := by
  obtain ⟨front, rfl⟩ := newest
  have parts : items.take (items.length - count) ++ latest count items = items :=
    List.take_append_drop _ _
  rw [latest_map] at ordered ⊢
  have before : front.Sublist ((items.take (items.length - count)).map f) := by
    have mapped := congrArg (List.map f) parts
    rw [List.map_append] at mapped
    rw [← mapped] at ordered
    exact (List.append_sublist_append_right _).mp ordered
  obtain ⟨early, part, rfl⟩ := List.sublist_map_iff.mp before
  refine ⟨early ++ latest count items, List.map_append.symm, ?_, List.suffix_append _ _⟩
  have whole := part.append_right (latest count items)
  rw [parts] at whole
  exact whole

/-- What was put in, what was taken out and what still waits. -/
structure Kept (depth : ℕ) (offered taken waiting : List α) : Prop where
  bounded : waiting.length ≤ depth
  recent : waiting <:+ offered
  ordered : (taken ++ waiting).Sublist offered
  newest : latest depth offered <:+ taken ++ waiting

theorem Kept.start (depth : ℕ) : Kept depth ([] : List α) [] [] where
  bounded := Nat.zero_le _
  recent := List.suffix_refl _
  ordered := List.Sublist.refl _
  newest := List.drop_suffix _ _

/-- An item that is put in is kept, and the newest of the others with it. -/
theorem Kept.put (kept : Kept depth offered taken waiting) (positive : 0 < depth) (item : α) :
    Kept depth (offered ++ [item]) taken (put depth waiting item) := by
  by_cases full : depth ≤ waiting.length
  · have exact_ : waiting.length = depth := Nat.le_antisymm kept.bounded full
    have rest : waiting.tail <:+ offered := (List.tail_suffix _).trans kept.recent
    have last : waiting.tail ++ [item] <:+ offered ++ [item] := by
      obtain ⟨front, rfl⟩ := rest
      exact ⟨front, by simp⟩
    have length : (waiting.tail ++ [item]).length = depth := by
      rw [List.length_append, List.length_tail, List.length_singleton]
      omega
    rw [DropOldest.put, if_pos full]
    refine ⟨length.le, last, ?_, ?_⟩
    · rw [← List.append_assoc]
      apply List.Sublist.append_right
      exact (List.Sublist.append_left (List.tail_sublist _) _).trans kept.ordered
    · rw [← length, latest_of_suffix last]
      exact List.suffix_append _ _
  · rw [put_of_room (by omega)]
    refine ⟨?_, ?_, ?_, ?_⟩
    · rw [List.length_append, List.length_singleton]
      omega
    · obtain ⟨front, rfl⟩ := kept.recent
      exact ⟨front, by simp⟩
    · rw [← List.append_assoc]
      exact kept.ordered.append_right _
    · apply (latest_concat_suffix depth offered item).trans
      obtain ⟨front, same⟩ := kept.newest
      exact ⟨front, by rw [← List.append_assoc, same, List.append_assoc]⟩

theorem Kept.take (kept : Kept depth offered taken (item :: waiting)) :
    Kept depth offered (taken ++ [item]) waiting := by
  have same : taken ++ [item] ++ waiting = taken ++ item :: waiting := by simp
  refine ⟨(Nat.le_succ _).trans kept.bounded, (List.suffix_cons _ _).trans kept.recent, ?_, ?_⟩
  · rw [same]
    exact kept.ordered
  · rw [same]
    exact kept.newest

end UrjaSetu.Library.DropOldest
