import UrjaSetu.Domain.Policies.ChainCommitment
import UrjaSetu.Services.AuditService

/-!
Events taken out of a stored chain (`verify` of `app/services/audit_service.py`).

A surviving event that stood behind a removed one names a hash that is gone, or
is no genesis. When no event stood behind the removed ones, nothing names them:
the chain that is left is a shorter one that was intact when it was recorded.

Owns: the rows that survive a removal, and which removals the walk reports.
-/

namespace UrjaSetu.Services.AuditService

open UrjaSetu.Domain UrjaSetu.Domain.Interfaces UrjaSetu.Db.Models UrjaSetu.Library
open UrjaSetu.Domain.Policies.AuditChain UrjaSetu.Repositories.AuditEventRepository

/-! ## Removing positions of a list -/

/-- What is left of a list without the positions of `removed`. -/
def survivors {α : Type} (removed : ℕ → Bool) : List α → List α
  | [] => []
  | item :: items =>
      if removed 0 then survivors (fun position => removed (position + 1)) items
      else item :: survivors (fun position => removed (position + 1)) items

section Survivors

variable {α : Type} {removed : ℕ → Bool} {items : List α}

private theorem survivors_sublist : (survivors removed items).Sublist items := by
  induction items generalizing removed with
  | nil => exact List.Sublist.refl _
  | cons item items inductionHypothesis =>
      rw [survivors]
      split
      · exact inductionHypothesis.cons _
      · exact inductionHypothesis.cons_cons _

private theorem survivors_eq_nil_iff :
    survivors removed items = [] ↔ ∀ position < items.length, removed position = true := by
  induction items generalizing removed with
  | nil => simp [survivors]
  | cons item items inductionHypothesis =>
      rw [survivors]
      split
      · rename_i first
        rw [inductionHypothesis]
        constructor
        · intro later position within
          cases position with
          | zero => exact first
          | succ position => exact later position (Nat.lt_of_succ_lt_succ within)
        · intro every position within
          exact every (position + 1) (Nat.succ_lt_succ within)
      · rename_i first
        apply iff_of_false (List.cons_ne_nil _ _)
        intro every
        exact first (every 0 (Nat.zero_lt_succ _))

/-- The survivors are a prefix exactly when none of them stood behind a removed
item. -/
theorem survivors_prefix_iff (distinct : items.Nodup) :
    survivors removed items <+: items ↔
      ¬ ∃ gap kept, gap < kept ∧ kept < items.length ∧ removed gap = true ∧
        removed kept = false := by
  induction items generalizing removed with
  | nil => simp [survivors]
  | cons item items inductionHypothesis =>
      rw [List.nodup_cons] at distinct
      rw [survivors]
      split
      · rename_i first
        constructor
        · rintro ⟨rest, whole⟩ ⟨gap, kept, behind, within, _, survives⟩
          have nothing : survivors (fun position => removed (position + 1)) items = [] := by
            cases left : survivors (fun position => removed (position + 1)) items with
            | nil => rfl
            | cons next others =>
                rw [left, List.cons_append, List.cons.injEq] at whole
                have nextMember : next ∈ items :=
                  survivors_sublist.subset (left ▸ List.mem_cons_self)
                exact absurd (whole.1 ▸ nextMember) distinct.1
          obtain ⟨position, rfl⟩ := Nat.exists_eq_add_of_lt behind
          have gone := survivors_eq_nil_iff.mp nothing (gap + position) (by
            rw [List.length_cons] at within
            omega)
          rw [gone] at survives
          cases survives
        · intro none
          have nothing : survivors (fun position => removed (position + 1)) items = [] := by
            rw [survivors_eq_nil_iff]
            intro position within
            by_contra survives
            exact none ⟨0, position + 1, Nat.zero_lt_succ _, Nat.succ_lt_succ within, first,
              Bool.eq_false_of_not_eq_true survives⟩
          rw [nothing]
          exact List.nil_prefix
      · rename_i first
        rw [List.prefix_cons_inj, inductionHypothesis distinct.2, not_iff_not]
        constructor
        · rintro ⟨gap, kept, behind, within, gone, survives⟩
          exact ⟨gap + 1, kept + 1, Nat.succ_lt_succ behind, Nat.succ_lt_succ within, gone, survives⟩
        · rintro ⟨gap, kept, behind, within, gone, survives⟩
          cases gap with
          | zero => exact absurd gone first
          | succ gap =>
              cases kept with
              | zero => omega
              | succ kept =>
                  exact ⟨gap, kept, Nat.lt_of_succ_lt_succ behind, Nat.lt_of_succ_lt_succ within,
                    gone, survives⟩

end Survivors

/-! ## Removing rows of the store -/

/-- The store without the rows at these positions of its chain. -/
def removeAt (removed : ℕ → Bool) (table : AuditEventTable) : AuditEventTable where
  rows := survivors removed (listChain table)
  primaryKey := (survivors_sublist.map _).nodup
    (((sortBy_perm recordedKey table.rows).map _).nodup_iff.mpr table.primaryKey)
  eventHashes := (survivors_sublist.map _).nodup
    (((sortBy_perm recordedKey table.rows).map _).nodup_iff.mpr table.eventHashes)
  previousHashes := (survivors_sublist.map _).nodup
    (((sortBy_perm recordedKey table.rows).map _).nodup_iff.mpr table.previousHashes)
  notItself := fun row member =>
    table.notItself row ((mem_sortBy recordedKey).mp (survivors_sublist.subset member))

/-- `verify` reports the store intact. -/
def Intact (sha256 : String → String) (table : AuditEventTable) : Prop :=
  ∃ report, verify sha256 table = .ok report ∧ report.intact = true

/-- `verify` reports a break. -/
def Broken (sha256 : String → String) (table : AuditEventTable) : Prop :=
  ∃ report, verify sha256 table = .ok report ∧ report.intact = false

section Removal

variable {sha256 : String → String} {table : AuditEventTable}

private theorem listChain_removeAt (removed : ℕ → Bool) :
    listChain (removeAt removed table) = survivors removed (listChain table) :=
  sortBy_of_pairwise recordedKey
    ((sortBy_pairwise recordedKey table.rows).sublist survivors_sublist)

/-- What the walk says of an intact store after a removal. -/
theorem verify_removeAt (intact : Intact sha256 table) (removed : ℕ → Bool) :
    ∃ report, verify sha256 (removeAt removed table) = .ok report ∧
      (report.intact = true ↔ survivors removed (listChain table) <+: listChain table) := by
  obtain ⟨sealed, linked⟩ := accepted_iff.mp intact
  have rowsSealed : ∀ event ∈ (survivors removed (listChain table)).map rehydrate,
      Sealed sha256 event := fun event member =>
    sealed event ((survivors_sublist.map rehydrate).subset member)
  obtain ⟨report, walked, verdict⟩ := verifyFrom_sealed sha256 0 none (fun _ => rfl) rowsSealed
  refine ⟨report, ?_, verdict.trans ?_⟩
  · unfold verify
    dsimp only
    rw [listChain_removeAt]
    exact walked
  · have hashes : ((listChain table).map AuditEventRecord.eventHash).Nodup :=
      ((sortBy_perm recordedKey table.rows).map _).nodup_iff.mpr table.eventHashes
    rw [LinkedFrom, HashChain.linked_map] at linked ⊢
    exact HashChain.linked_sublist_iff_prefix _ _ linked hashes survivors_sublist

/-- A removal from an intact store is reported exactly when an event that stood
behind a removed one is still there. -/
theorem verify_removed_iff (intact : Intact sha256 table) (removed : ℕ → Bool) :
    Broken sha256 (removeAt removed table) ↔
      ∃ gap kept, gap < kept ∧ kept < (listChain table).length ∧ removed gap = true ∧
        removed kept = false := by
  obtain ⟨report, walked, verdict⟩ := verify_removeAt intact removed
  have distinct : (listChain table).Nodup :=
    ((sortBy_perm recordedKey table.rows).nodup_iff).mpr table.primaryKey.of_map
  rw [survivors_prefix_iff distinct] at verdict
  constructor
  · rintro ⟨found, foundWalked, broken⟩
    rw [walked] at foundWalked
    cases foundWalked
    by_contra none
    rw [verdict.mpr none] at broken
    cases broken
  · intro witness
    refine ⟨report, walked, Bool.eq_false_of_not_eq_true fun intact => ?_⟩
    exact verdict.mp intact witness

end Removal

/-- Two cancellations, recorded one after the other. -/
def sampleChain : List AuditEvent := [sampleEvent 1 10, sampleEvent 2 20]

private theorem sampleChain_intact :
    ∃ table, recordAll id sampleChain = .ok table ∧ Intact id table ∧
    (listChain table).length = 2 := by
  obtain ⟨table, recorded, ordered, keys⟩ := recordAll_inOrder Function.injective_id
    (show (sampleChain.map AuditEvent.eventId).Nodup by decide +kernel)
    (show ∀ event ∈ sampleChain, SupportedEvent event by decide +kernel)
    (show sampleChain.Pairwise fun earlier later => eventKey earlier < eventKey later by
      decide +kernel)
  refine ⟨table, recorded, ordered.verify, ?_⟩
  have length := congrArg List.length keys
  rw [List.length_map, List.length_map] at length
  rw [ordered.listChain, length]
  rfl

/-- The last event can be taken out unseen. -/
theorem verify_removed_last : ∃ table removed, Intact id table ∧
    (∃ position < (listChain table).length, removed position = true) ∧
    ¬ Broken id (removeAt removed table) := by
  obtain ⟨table, _, intact, length⟩ := sampleChain_intact
  refine ⟨table, fun position => position = 1, intact, ⟨1, by omega, rfl⟩, ?_⟩
  rintro ⟨report, walked, broken⟩
  obtain ⟨found, foundWalked, verdict⟩ := verify_removeAt intact fun position => position = 1
  rw [walked] at foundWalked
  cases foundWalked
  have distinct : (listChain table).Nodup :=
    ((sortBy_perm recordedKey table.rows).nodup_iff).mpr table.primaryKey.of_map
  rw [broken, survivors_prefix_iff distinct] at verdict
  apply Bool.false_ne_true
  apply verdict.mpr
  rintro ⟨gap, kept, behind, within, gone, survives⟩
  rw [decide_eq_true_iff] at gone
  omega

theorem verify_removed_iff_sample : ∃ table, Intact id table ∧
    (Broken id (removeAt (fun position => position = 0) table) ↔
      ∃ gap kept, gap < kept ∧ kept < (listChain table).length ∧ decide (gap = 0) = true ∧
        decide (kept = 0) = false) := by
  obtain ⟨table, _, intact, _⟩ := sampleChain_intact
  exact ⟨table, intact, verify_removed_iff intact fun position => position = 0⟩

end UrjaSetu.Services.AuditService
