import Mathlib

/-!
A limit on how many stamps may be recent at a time.

What counts as recent is a relation between a moment and a stamp that only fades:
a stamp that is recent at a moment was so at every earlier one. The clock is read
once for each stored stamp, and then for the new one.

Owns: the limiter, and what it accepts against everything it has accepted before.
-/

namespace UrjaSetu.Library.SlidingWindow

variable {T : Type*} {recent : T → T → Bool} {limit : ℕ} {clock : ℕ → T} {stored accepted kept : List T}
  {last now : T}

/-- The stored stamps that are recent, each at the moment it is looked at. -/
def counting (recent : T → T → Bool) : (ℕ → T) → List T → List T
  | _, [] => []
  | clock, stamp :: rest =>
      let further := counting recent (fun index => clock (index + 1)) rest
      if recent (clock 0) stamp then stamp :: further else further

/-- One attempt: it is stored where fewer than `limit` are recent. -/
def offer (recent : T → T → Bool) (limit : ℕ) (clock : ℕ → T) (stored : List T) :
    Option (List T) :=
  let current := counting recent clock stored
  if limit ≤ current.length then none else some (current ++ [clock stored.length])

theorem counting_sublist (recent : T → T → Bool) (clock : ℕ → T) (stored : List T) :
    (counting recent clock stored).Sublist stored := by
  induction stored generalizing clock with
  | nil => exact List.Sublist.refl _
  | cons stamp rest inductionHypothesis =>
      rw [counting]
      split
      · exact (inductionHypothesis _).cons_cons stamp
      · exact (inductionHypothesis _).cons stamp

variable [LinearOrder T]

/-- What is recent fades as time goes on. -/
def Fades (recent : T → T → Bool) : Prop :=
  ∀ earlier later stamp : T, earlier ≤ later → recent later stamp = true →
    recent earlier stamp = true

/-- What is recent after the last look was counted. -/
theorem filter_counting (fades : Fades recent) (looked : ∀ index < stored.length, clock index ≤ now) :
    (stored.filter (recent now)).Sublist (counting recent clock stored) := by
  induction stored generalizing clock with
  | nil => exact List.Sublist.refl _
  | cons stamp rest inductionHypothesis =>
      have further := @inductionHypothesis (fun index => clock (index + 1))
        fun index within => looked (index + 1) (Nat.succ_lt_succ within)
      have first : clock 0 ≤ now := looked 0 (Nat.succ_pos _)
      rw [counting]
      by_cases isRecent : recent now stamp = true
      · rw [List.filter_cons_of_pos isRecent, if_pos (fades _ _ _ first isRecent)]
        exact further.cons_cons stamp
      · rw [List.filter_cons_of_neg isRecent]
        split
        · exact further.cons stamp
        · exact further

/-- What was counted was recent at the first look. -/
theorem counting_filter (fades : Fades recent) (looks : ∀ index, now ≤ clock index) :
    (counting recent clock stored).Sublist (stored.filter (recent now)) := by
  induction stored generalizing clock with
  | nil => exact List.Sublist.refl _
  | cons stamp rest inductionHypothesis =>
      have further := @inductionHypothesis (fun index => clock (index + 1))
        fun index => looks (index + 1)
      rw [counting]
      split
      · rename_i isRecent
        rw [List.filter_cons_of_pos (fades _ _ _ (looks 0) isRecent)]
        exact further.cons_cons stamp
      · exact further.trans ((List.sublist_cons_self stamp rest).filter _)

/-- The stored stamps hold all of the accepted ones that are still recent, and no
others; and no more than `limit` ever were at a time. -/
structure Holds (recent : T → T → Bool) (limit : ℕ) (last : T) (accepted stored : List T) : Prop where
  within : stored.Sublist accepted
  whole : ∀ now, last ≤ now → (accepted.filter (recent now)).Sublist stored
  past : ∀ stamp ∈ accepted, stamp ≤ last
  bounded : ∀ now, (accepted.filter fun stamp => stamp ≤ now && recent now stamp).length ≤ limit

theorem Holds.start (recent : T → T → Bool) (limit : ℕ) (last : T) : Holds recent limit last [] [] where
  within := List.Sublist.refl _
  whole := fun _ _ => List.Sublist.refl _
  past := by simp
  bounded := by simp

theorem Holds.later (holds : Holds recent limit last accepted stored) (onward : last ≤ now) :
    Holds recent limit now accepted stored :=
  { holds with
    whole := fun beyond after => holds.whole beyond (onward.trans after)
    past := fun stamp member => (holds.past stamp member).trans onward }

/-- One acceptance. -/
theorem Holds.accept (holds : Holds recent limit last accepted stored) (fades : Fades recent)
    (monotone : Monotone clock) (onward : last ≤ clock 0)
    (accepts : offer recent limit clock stored = some kept) :
    Holds recent limit (clock stored.length) (accepted ++ [clock stored.length]) kept := by
  dsimp only [offer] at accepts
  split at accepts
  · cases accepts
  · rename_i few
    rw [← Option.some.inj accepts]
    have start : last ≤ clock stored.length := onward.trans (monotone (Nat.zero_le _))
    have counted : ∀ now, clock stored.length ≤ now →
        (accepted.filter (recent now)).Sublist (counting recent clock stored) := by
      intro now beyond
      have again : (accepted.filter (recent now)).filter (recent now) =
          accepted.filter (recent now) := by simp [List.filter_filter]
      rw [← again]
      refine ((holds.whole now (start.trans beyond)).filter _).trans (filter_counting fades ?_)
      exact fun index within => (monotone within.le).trans beyond
    refine ⟨?_, ?_, ?_, ?_⟩
    · exact ((counting_sublist recent clock stored).trans holds.within).append_right _
    · intro now beyond
      rw [List.filter_append]
      exact (counted now beyond).append List.filter_sublist
    · intro stamp member
      rcases List.mem_append.mp member with before | new
      · exact (holds.past stamp before).trans start
      · rw [List.mem_singleton.mp new]
    · intro now
      rw [List.filter_append, List.length_append]
      by_cases beyond : clock stored.length ≤ now
      · have old : (accepted.filter fun stamp => stamp ≤ now && recent now stamp).length ≤
            (counting recent clock stored).length := by
          refine (List.Sublist.length_le ?_).trans (counted now beyond).length_le
          exact List.monotone_filter_right _ fun stamp both => (Bool.and_eq_true_iff.mp both).2
        have new : ([clock stored.length].filter fun stamp =>
            stamp ≤ now && recent now stamp).length ≤ 1 := List.length_filter_le _ _
        omega
      · have new : [clock stored.length].filter (fun stamp => stamp ≤ now && recent now stamp) = [] := by
          simp [beyond]
        rw [new]
        exact holds.bounded now

/-- One refusal: as many as `limit` of the accepted ones were recent at the first
look. -/
theorem Holds.refused (holds : Holds recent limit last accepted stored) (fades : Fades recent)
    (monotone : Monotone clock) (refuses : offer recent limit clock stored = none) :
    limit ≤ (accepted.filter (recent (clock 0))).length := by
  dsimp only [offer] at refuses
  split at refuses
  · rename_i many
    have counted := @counting_filter _ _ _ stored (clock 0) _ fades
      fun index => monotone (Nat.zero_le index)
    exact many.trans (counted.trans (holds.within.filter _)).length_le
  · cases refuses

end UrjaSetu.Library.SlidingWindow
