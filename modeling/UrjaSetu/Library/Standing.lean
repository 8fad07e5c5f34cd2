import Mathlib

/-!
The rows that stand after a log whose entries add some and strike others.

Owns: what stands, and that it is what was added and never struck since.
-/

namespace UrjaSetu.Library

variable {Entry Row : Type*} {adds : Entry → List Row} {keeps : Entry → Row → Bool}

/-- An entry first strikes the rows it does not keep. -/
def standing (adds : Entry → List Row) (keeps : Entry → Row → Bool) (log : List Entry) : List Row :=
  log.foldl (fun rows entry => rows.filter (keeps entry) ++ adds entry) []

theorem standing_concat (log : List Entry) (entry : Entry) :
    standing adds keeps (log ++ [entry]) =
      (standing adds keeps log).filter (keeps entry) ++ adds entry := by
  simp [standing]

theorem mem_standing_iff {log : List Entry} {row : Row} :
    row ∈ standing adds keeps log ↔ ∃ earlier entry later,
      log = earlier ++ entry :: later ∧ row ∈ adds entry ∧ ∀ after ∈ later, keeps after row = true := by
  induction log using List.reverseRecOn with
  | nil => simp [standing]
  | append_singleton log last inductionHypothesis =>
      rw [standing_concat, List.mem_append, List.mem_filter, inductionHypothesis]
      constructor
      · rintro (⟨⟨earlier, entry, later, rfl, added, kept⟩, keptLast⟩ | new)
        · refine ⟨earlier, entry, later ++ [last], by simp, added, ?_⟩
          exact List.forall_mem_append.mpr ⟨kept, by simpa using keptLast⟩
        · exact ⟨log, last, [], rfl, new, by simp⟩
      · rintro ⟨earlier, entry, later, split, added, kept⟩
        -- the last entry is the one that added the row, or comes after it
        rcases List.eq_nil_or_concat later with rfl | ⟨between, final, rfl⟩
        · obtain ⟨rfl, same⟩ := List.append_inj' split rfl
          exact Or.inr (List.singleton_inj.mp same ▸ added)
        · have moved : log ++ [last] = (earlier ++ entry :: between) ++ [final] := by
            rw [split]
            simp
          obtain ⟨same, lastSame⟩ := List.append_inj' moved rfl
          rw [List.singleton_inj.mp lastSame]
          refine Or.inl ⟨⟨earlier, entry, between, same, added, ?_⟩, ?_⟩
          · exact fun after member => kept after (by simp [member])
          · exact kept final (by simp)

end UrjaSetu.Library
