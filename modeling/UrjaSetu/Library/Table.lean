import Mathlib

/-!
Relational tables: rows in insertion order that satisfy the checks of a schema
and of which no two conflict in a key. A list of rows that breaks a constraint
is no table.

Owns: inserting and updating rows, and what a statement that succeeds has done.
-/

namespace UrjaSetu.Library

/-- The constraints of a table: what every row satisfies, and which two rows a
key or a unique constraint keeps apart. -/
structure Schema (Row : Type) where
  check : Row → Bool := fun _ => true
  conflict : Row → Row → Bool

structure Table {Row : Type} (schema : Schema Row) where
  rows : List Row
  checked : ∀ row ∈ rows, schema.check row = true
  apart : rows.Pairwise fun earlier later => schema.conflict earlier later = false

namespace Table

variable {Row : Type} {schema : Schema Row}

def empty : Table schema := ⟨[], by simp, List.Pairwise.nil⟩

/-- INSERT of one row; `none` when a constraint refuses it. -/
def insert (table : Table schema) (row : Row) : Option (Table schema) :=
  if accepted : schema.check row = true ∧
      ∀ other ∈ table.rows, schema.conflict other row = false then
    some
      { rows := table.rows ++ [row]
        checked := by
          intro member present
          rcases List.mem_append.mp present with stored | inserted
          · exact table.checked member stored
          · rw [List.mem_singleton.mp inserted]
            exact accepted.1
        apart := by
          rw [List.pairwise_append]
          refine ⟨table.apart, List.pairwise_singleton _ _, ?_⟩
          intro other stored inserted isRow
          rw [List.mem_singleton.mp isRow]
          exact accepted.2 other stored }
  else none

/-- UPDATE of the selected rows; `none` when a constraint refuses the result. -/
def modify (table : Table schema) (selected : Row → Bool) (change : Row → Row) :
    Option (Table schema) :=
  let rows := table.rows.map fun row => if selected row then change row else row
  if accepted : (∀ row ∈ rows, schema.check row = true) ∧
      rows.Pairwise fun earlier later => schema.conflict earlier later = false then
    some ⟨rows, accepted.1, accepted.2⟩
  else none

/-- DELETE of the selected rows. -/
def delete (table : Table schema) (selected : Row → Bool) : Table schema where
  rows := table.rows.filter fun row => !selected row
  checked := fun row member => table.checked row (List.mem_of_mem_filter member)
  apart := table.apart.filter _

/-- A query by one column value, of which the first row is taken. -/
def find? (table : Table schema) (wanted : Row → Bool) : Option Row :=
  table.rows.find? wanted

def where_ (table : Table schema) (wanted : Row → Bool) : List Row :=
  table.rows.filter wanted

variable {table next : Table schema}

theorem insert_eq_some {row : Row} (inserted : table.insert row = some next) :
    next.rows = table.rows ++ [row] ∧ schema.check row = true ∧
      ∀ other ∈ table.rows, schema.conflict other row = false := by
  unfold insert at inserted
  split at inserted
  · rename_i accepted
    cases inserted
    exact ⟨rfl, accepted⟩
  · cases inserted

/-- A row is refused exactly where a constraint fails. -/
theorem insert_of_allowed {row : Row} (check : schema.check row = true)
    (apart : ∀ other ∈ table.rows, schema.conflict other row = false) :
    ∃ next, table.insert row = some next := by
  unfold insert
  rw [dif_pos ⟨check, apart⟩]
  exact ⟨_, rfl⟩

theorem insert_of_refused {row : Row}
    (refused : ¬ (schema.check row = true ∧
      ∀ other ∈ table.rows, schema.conflict other row = false)) : table.insert row = none := by
  unfold insert
  rw [dif_neg refused]

theorem modify_eq_some {selected : Row → Bool} {change : Row → Row}
    (updated : table.modify selected change = some next) :
    next.rows = table.rows.map fun row => if selected row then change row else row := by
  dsimp only [modify] at updated
  split at updated
  · cases updated
    rfl
  · cases updated

/-- An UPDATE of columns that no constraint reads is never refused. -/
theorem modify_of_unconstrained (table : Table schema) {selected : Row → Bool} {change : Row → Row}
    (sameCheck : ∀ row, schema.check (change row) = schema.check row)
    (sameConflict : ∀ earlier later, schema.conflict (change earlier) later =
      schema.conflict earlier later)
    (sameConflictLater : ∀ earlier later, schema.conflict earlier (change later) =
      schema.conflict earlier later) :
    ∃ next, table.modify selected change = some next := by
  have updated : ∀ row, schema.check (if selected row then change row else row) =
      schema.check row := by
    intro row
    split
    · exact sameCheck row
    · rfl
  have kept : ∀ earlier later, schema.conflict (if selected earlier then change earlier else earlier)
      (if selected later then change later else later) = schema.conflict earlier later := by
    intro earlier later
    split
    · split
      · rw [sameConflict, sameConflictLater]
      · exact sameConflict earlier later
    · split
      · exact sameConflictLater earlier later
      · rfl
  unfold modify
  rw [dif_pos]
  · exact ⟨_, rfl⟩
  · constructor
    · intro row member
      obtain ⟨stored, present, rfl⟩ := List.mem_map.mp member
      rw [updated]
      exact table.checked stored present
    · rw [List.pairwise_map]
      apply table.apart.imp
      intro earlier later apart
      rw [kept]
      exact apart

theorem find?_mem {wanted : Row → Bool} {row : Row} (found : table.find? wanted = some row) :
    row ∈ table.rows ∧ wanted row = true :=
  ⟨List.mem_of_find?_eq_some found, List.find?_some found⟩

/-- The only row that is wanted is the one that is found. -/
theorem find?_of_only {wanted : Row → Bool} {row : Row} (stored : row ∈ table.rows)
    (isWanted : wanted row = true) (only : ∀ other ∈ table.rows, wanted other = true → other = row) :
    table.find? wanted = some row := by
  have some_ : (table.find? wanted).isSome := by
    unfold find?
    rw [List.find?_isSome]
    exact ⟨row, stored, isWanted⟩
  obtain ⟨other, found⟩ := Option.isSome_iff_exists.mp some_
  obtain ⟨otherStored, otherWanted⟩ := find?_mem found
  rw [found, only other otherStored otherWanted]

theorem mem_where {wanted : Row → Bool} {row : Row} :
    row ∈ table.where_ wanted ↔ row ∈ table.rows ∧ wanted row = true :=
  List.mem_filter

/-- Where a constraint keeps the values of a column apart, they are distinct. -/
theorem nodup_column {Value : Type} (column : Row → Value)
    (separates : ∀ earlier later, column earlier = column later →
      schema.conflict earlier later = true) : (table.rows.map column).Nodup := by
  rw [List.Nodup, List.pairwise_map]
  apply table.apart.imp
  intro earlier later kept same
  rw [separates earlier later same] at kept
  cases kept

/-- Two rows with the same value of such a column are one row. -/
theorem eq_of_column {Value : Type} (column : Row → Value)
    (separates : ∀ earlier later, column earlier = column later →
      schema.conflict earlier later = true)
    {left right : Row} (leftStored : left ∈ table.rows) (rightStored : right ∈ table.rows)
    (same : column left = column right) : left = right :=
  List.inj_on_of_nodup_map (nodup_column column separates) leftStored rightStored same

end Table

end UrjaSetu.Library
