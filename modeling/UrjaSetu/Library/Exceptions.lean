import Mathlib

/-!
Sequencing of computations that may raise.

Owns: how a `do` block over `Except` returns, and the run rules for the loops
`foldlM` and `forM` and for the traversal `mapM`.
-/

namespace UrjaSetu.Library

universe u v

variable {ε : Type u} {α β : Type v}

@[simp] theorem ok_bind (value : α) (next : α → Except ε β) :
    (Except.ok value >>= next) = next value := rfl

@[simp] theorem error_bind (error : ε) (next : α → Except ε β) :
    ((Except.error error : Except ε α) >>= next) = Except.error error := rfl

@[simp] theorem except_pure (value : α) : (pure value : Except ε α) = .ok value := rfl

theorem error_ne_ok {error : ε} {value : α} : (Except.error error : Except ε α) ≠ .ok value := nofun

/-- A sequence returns exactly when its first part does and the rest does on
its value. -/
theorem bind_eq_ok {action : Except ε α} {next : α → Except ε β} {result : β} :
    action >>= next = .ok result ↔ ∃ value, action = .ok value ∧ next value = .ok result := by
  cases action with
  | error error => simp
  | ok value => simp

theorem map_eq_ok {view : α → β} {action : Except ε α} {value : β} :
    action.map view = .ok value ↔ ∃ result, action = .ok result ∧ view result = value := by
  cases action with
  | error error => exact iff_of_false nofun fun ⟨_, absurdity, _⟩ => nomatch absurdity
  | ok result => simp [Except.map]

theorem mapError_eq_ok {ε' : Type u} {onError : ε → ε'} {action : Except ε α} {value : α} :
    action.mapError onError = .ok value ↔ action = .ok value := by
  cases action with
  | error error => simp [Except.mapError]
  | ok value => simp [Except.mapError]

/-- A loop over `items` preserves what its body preserves, and returns when the
body does. The property may speak of the items already visited. -/
theorem foldlM_ok {ι : Type v} {body : α → ι → Except ε α} (Holds : List ι → α → Prop)
    {items : List ι} {start : α} (initial : Holds [] start)
    (step : ∀ visited item accumulated, item ∈ items → Holds visited accumulated →
      ∃ next, body accumulated item = .ok next ∧ Holds (visited ++ [item]) next) :
    ∃ final, items.foldlM body start = .ok final ∧ Holds items final := by
  suffices general : ∀ visited remaining accumulated, remaining ⊆ items →
      Holds visited accumulated →
      ∃ final, remaining.foldlM body accumulated = .ok final ∧ Holds (visited ++ remaining) final by
    exact general [] items start (fun _ member => member) initial
  intro visited remaining
  induction remaining generalizing visited with
  | nil =>
      intro accumulated _ holds
      exact ⟨accumulated, rfl, by rwa [List.append_nil]⟩
  | cons item rest inductionHypothesis =>
      intro accumulated within holds
      obtain ⟨next, nextEq, nextHolds⟩ := step visited item accumulated (within (by simp)) holds
      have restWithin : rest ⊆ items := fun _ member => within (List.mem_cons_of_mem _ member)
      obtain ⟨final, finalEq, finalHolds⟩ :=
        inductionHypothesis (visited ++ [item]) next restWithin nextHolds
      refine ⟨final, ?_, ?_⟩
      · rw [List.foldlM_cons, nextEq, ok_bind, finalEq]
      · rwa [List.append_assoc] at finalHolds

/-- A loop of checks passes when every check does. -/
theorem forM_ok {ι : Type v} {check : ι → Except ε PUnit} {items : List ι}
    (passes : ∀ item ∈ items, check item = .ok ⟨⟩) : forM items check = .ok ⟨⟩ := by
  induction items with
  | nil => rfl
  | cons item rest inductionHypothesis =>
      rw [List.forM_cons, passes item (by simp), ok_bind]
      exact inductionHypothesis fun other member => passes other (List.mem_cons_of_mem _ member)

/-- A loop of checks that passes has passed them all. -/
theorem passed_of_forM {ι : Type v} {check : ι → Except ε PUnit} {items : List ι}
    (passed : forM items check = .ok ⟨⟩) : ∀ item ∈ items, check item = .ok ⟨⟩ := by
  induction items with
  | nil =>
      intro item absurdity
      cases absurdity
  | cons first rest inductionHypothesis =>
      rw [List.forM_cons] at passed
      obtain ⟨_, firstPassed, restPassed⟩ := bind_eq_ok.mp passed
      exact List.forall_mem_cons.mpr ⟨firstPassed, inductionHypothesis restPassed⟩

/-- What each round of a loop keeps, a loop that returned has kept. The property
may speak of the items already visited. -/
theorem holds_of_foldlM {ι : Type v} {body : α → ι → Except ε α} (Holds : List ι → α → Prop)
    {items : List ι} {start final : α} (initial : Holds [] start)
    (step : ∀ visited item accumulated next, Holds visited accumulated →
      body accumulated item = .ok next → Holds (visited ++ [item]) next)
    (returned : items.foldlM body start = .ok final) : Holds items final := by
  suffices general : ∀ visited accumulated, Holds visited accumulated →
      items.foldlM body accumulated = .ok final → Holds (visited ++ items) final by
    exact general [] start initial returned
  clear initial returned
  induction items with
  | nil =>
      intro visited accumulated holds same
      cases same
      rwa [List.append_nil]
  | cons item rest inductionHypothesis =>
      intro visited accumulated holds reached
      rw [List.foldlM_cons] at reached
      obtain ⟨next, first, remaining⟩ := bind_eq_ok.mp reached
      have kept := inductionHypothesis (visited ++ [item]) next
        (step visited item accumulated next holds first) remaining
      rwa [List.append_assoc] at kept

/-- A traversal that returns has returned for every item. -/
theorem mapM_ok {ι : Type v} {body : ι → Except ε α} {items : List ι} {results : List α}
    (returned : items.mapM body = .ok results) :
    List.Forall₂ (fun item result => body item = .ok result) items results := by
  induction items generalizing results with
  | nil =>
      cases returned
      exact .nil
  | cons item rest inductionHypothesis =>
      rw [List.mapM_cons] at returned
      obtain ⟨result, ran, returned⟩ := bind_eq_ok.mp returned
      obtain ⟨others, remaining, returned⟩ := bind_eq_ok.mp returned
      cases returned
      exact .cons ran (inductionHypothesis remaining)

/-- Every result of a traversal is of one of its items. -/
theorem exists_of_mem_mapM {ι : Type v} {body : ι → Except ε α} {items : List ι} {results : List α}
    (returned : items.mapM body = .ok results) {result : α} (member : result ∈ results) :
    ∃ item ∈ items, body item = .ok result := by
  have paired := mapM_ok returned
  clear returned
  induction paired with
  | nil => cases member
  | cons ran _ inductionHypothesis =>
      rcases List.mem_cons.mp member with rfl | later
      · exact ⟨_, List.mem_cons_self, ran⟩
      · obtain ⟨item, listed, itemRan⟩ := inductionHypothesis later
        exact ⟨item, List.mem_cons_of_mem _ listed, itemRan⟩

/-- A traversal raises what the body raises for an item. -/
theorem mapM_error {ι : Type v} {body : ι → Except ε α} {items : List ι} {error : ε}
    (raised : items.mapM body = .error error) : ∃ item ∈ items, body item = .error error := by
  induction items with
  | nil => cases raised
  | cons item rest inductionHypothesis =>
      rw [List.mapM_cons] at raised
      cases ran : body item with
      | error other =>
          rw [ran] at raised
          cases raised
          exact ⟨item, List.mem_cons_self, ran⟩
      | ok result =>
          rw [ran] at raised
          cases remaining : rest.mapM body with
          | error other =>
              have same : other = error := by
                rw [remaining] at raised
                cases raised
                rfl
              obtain ⟨later, member, raisedThere⟩ := inductionHypothesis (same ▸ remaining)
              exact ⟨later, List.mem_cons_of_mem _ member, raisedThere⟩
          | ok results =>
              rw [remaining] at raised
              cases raised

end UrjaSetu.Library
