import UrjaSetu.Library.Sorting

/-!
Aggregates of a query: GROUP BY, and SUM with its rule for NULLs.

Owns: that grouping loses no row, and that a sum of sums is the sum.
-/

namespace UrjaSetu.Library

/-- One more value of a SUM: NULLs are ignored, and nothing added is NULL. -/
def addPresent : Option ℚ → Option ℚ → Option ℚ
  | total, none => total
  | none, some value => some value
  | some total, some value => some (total + value)

/-- `SUM(column)`. -/
def sumPresent (values : List (Option ℚ)) : Option ℚ := values.foldl addPresent none

/-- The groups of `GROUP BY key ORDER BY key`. -/
def groupKeys {α κ : Type} [LinearOrder κ] (key : α → κ) (items : List α) : List κ :=
  sortBy id (items.map key).dedup

section Sums

variable {values later : List (Option ℚ)}

theorem addPresent_none (total : Option ℚ) : addPresent none total = total := by
  cases total <;> rfl

theorem addPresent_assoc (first second third : Option ℚ) :
    addPresent (addPresent first second) third = addPresent first (addPresent second third) := by
  cases first <;> cases second <;> cases third <;> simp [addPresent, add_assoc]

theorem addPresent_comm (first second : Option ℚ) :
    addPresent first second = addPresent second first := by
  cases first <;> cases second <;> simp [addPresent, add_comm]

theorem foldl_addPresent (start : Option ℚ) :
    values.foldl addPresent start = addPresent start (sumPresent values) := by
  induction values generalizing start with
  | nil => cases start <;> rfl
  | cons value rest inductionHypothesis =>
      show rest.foldl addPresent (addPresent start value) =
        addPresent start (rest.foldl addPresent (addPresent none value))
      rw [inductionHypothesis, inductionHypothesis (addPresent none value), addPresent_none,
        addPresent_assoc]

theorem sumPresent_cons (value : Option ℚ) :
    sumPresent (value :: values) = addPresent value (sumPresent values) := by
  show values.foldl addPresent (addPresent none value) = _
  rw [foldl_addPresent, addPresent_none]

theorem sumPresent_append :
    sumPresent (values ++ later) = addPresent (sumPresent values) (sumPresent later) := by
  show (values ++ later).foldl addPresent none = _
  rw [List.foldl_append, foldl_addPresent]
  rfl

theorem sumPresent_perm (perm : values.Perm later) : sumPresent values = sumPresent later := by
  induction perm with
  | nil => rfl
  | cons value _ inductionHypothesis => rw [sumPresent_cons, sumPresent_cons, inductionHypothesis]
  | swap first second rest =>
      simp only [sumPresent_cons]
      rw [← addPresent_assoc, addPresent_comm second first, addPresent_assoc]
  | trans _ _ first second => exact first.trans second

/-- The sum of the groups' sums is the sum of all. -/
theorem sumPresent_flatMap {κ : Type} (group : κ → List (Option ℚ)) (keys : List κ) :
    sumPresent (keys.map fun key => sumPresent (group key)) = sumPresent (keys.flatMap group) := by
  induction keys with
  | nil => rfl
  | cons key rest inductionHypothesis =>
      rw [List.map_cons, List.flatMap_cons, sumPresent_cons, sumPresent_append,
        inductionHypothesis]

/-- A NULL counts as nothing in the total. -/
theorem sumPresent_getD : (sumPresent values).getD 0 = (values.map fun value => value.getD 0).sum := by
  induction values with
  | nil => rfl
  | cons value rest inductionHypothesis =>
      rw [sumPresent_cons, List.map_cons, List.sum_cons, ← inductionHypothesis]
      cases value <;> cases sumPresent rest <;> simp [addPresent]

theorem sumPresent_isSome_iff :
    (sumPresent values).isSome = true ↔ ∃ value ∈ values, value.isSome = true := by
  induction values with
  | nil => simp [sumPresent]
  | cons value rest inductionHypothesis =>
      rw [sumPresent_cons, List.exists_mem_cons_iff, ← inductionHypothesis]
      cases value <;> cases sumPresent rest <;> simp [addPresent]

end Sums

/-- Two pairs of conditions that select each row equally often select the same
total. -/
theorem sum_filter_balance {α : Type} (weight : α → ℚ) {first second third fourth : α → Bool}
    {items : List α} (balance : ∀ item ∈ items, (first item).toNat + (second item).toNat =
      (third item).toNat + (fourth item).toNat) :
    ((items.filter first).map weight).sum + ((items.filter second).map weight).sum =
      ((items.filter third).map weight).sum + ((items.filter fourth).map weight).sum := by
  induction items with
  | nil => rfl
  | cons item rest inductionHypothesis =>
      have restBalance := inductionHypothesis fun other member =>
        balance other (List.mem_cons_of_mem _ member)
      have own := balance item List.mem_cons_self
      simp only [List.filter_cons]
      cases inFirst : first item <;> cases inSecond : second item <;>
        cases inThird : third item <;> cases inFourth : fourth item <;>
        simp [inFirst, inSecond, inThird, inFourth] at own ⊢ <;> linarith

/-- The totals of the rows of each key add up to the total of the rows whose key
is listed. -/
theorem sum_of_keys {α κ : Type} [DecidableEq κ] (key : α → κ) (weight : α → ℚ) {keys : List κ}
    (distinct : keys.Nodup) (items : List α) :
    (keys.map fun wanted => ((items.filter fun item => key item = wanted).map weight).sum).sum =
      ((items.filter fun item => key item ∈ keys).map weight).sum := by
  induction items with
  | nil => simp
  | cons item rest inductionHypothesis =>
      have split : ∀ wanted, (((item :: rest).filter fun item => key item = wanted).map weight).sum =
          (if key item = wanted then weight item else 0) +
            ((rest.filter fun item => key item = wanted).map weight).sum := by
        intro wanted
        by_cases own : key item = wanted <;> simp [own]
      have own : (keys.map fun wanted => if key item = wanted then weight item else 0).sum =
          if key item ∈ keys then weight item else 0 := by
        by_cases listed : key item ∈ keys
        · rw [if_pos listed, List.sum_map_eq_nsmul_single (key item), List.count_eq_one_of_mem
            distinct listed, one_smul, if_pos rfl]
          intro wanted other _
          exact if_neg (Ne.symm other)
        · rw [if_neg listed]
          apply List.sum_eq_zero
          intro value member
          obtain ⟨wanted, wantedListed, rfl⟩ := List.mem_map.mp member
          have apart : key item ≠ wanted := by
            intro same
            rw [same] at listed
            exact listed wantedListed
          exact if_neg apart
      simp only [split, List.sum_map_add, own, inductionHypothesis]
      by_cases listed : key item ∈ keys <;> simp [listed]

/-- Every row is in exactly one group. -/
theorem flatMap_groups_perm {α κ : Type} [DecidableEq α] [LinearOrder κ] (key : α → κ)
    (items : List α) :
    ((groupKeys key items).flatMap fun group => items.filter fun item => key item = group).Perm
      items := by
  have distinct : (groupKeys key items).Nodup :=
    (sortBy_perm id _).nodup_iff.mpr (List.nodup_dedup _)
  rw [List.perm_iff_count]
  intro item
  rw [List.count_flatMap]
  have elsewhere : ∀ group, group ≠ key item → group ∈ groupKeys key items →
      (List.count item ∘ fun group => items.filter fun other => key other = group) group = 0 := by
    intro group other _
    apply List.count_eq_zero.mpr
    intro member
    exact other (of_decide_eq_true (List.mem_filter.mp member).2).symm
  rw [List.sum_map_eq_nsmul_single (key item) _ elsewhere]
  have own : (List.count item ∘ fun group => items.filter fun other => key other = group)
      (key item) = items.count item := List.count_filter (decide_eq_true rfl)
  rw [own]
  by_cases member : item ∈ items
  · have listed : key item ∈ groupKeys key items := by
      rw [groupKeys, mem_sortBy, List.mem_dedup]
      exact List.mem_map_of_mem member
    rw [List.count_eq_one_of_mem distinct listed, one_smul]
  · rw [List.count_eq_zero_of_not_mem member, smul_zero]

end UrjaSetu.Library
