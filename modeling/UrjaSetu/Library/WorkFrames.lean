import UrjaSetu.Library.UnitOfWork

/-!
What a whole program leaves alone, read off its statements.

A relation that every statement of a program respects, one at a time, relates
the state before the program to the state after it. `Keeps` says so of a program
that publishes nothing; its rules follow the structure of the program, so that
of each program only its statements have to be looked at.

Owns: `Respects`, `Within` and `Keeps`, and the rules for the primitives.
-/

namespace UrjaSetu.Library.Work

variable {Db Outside Error α β ι : Type} {related : Db → Db → Prop}

/-- Where the statement succeeds, it goes where `related` leads. -/
def Respects (related : Db → Db → Prop) (statement : Db → Except Error Db) : Prop :=
  ∀ db next, statement db = .ok next → related db next

/-- A unit of work that began at `start` and has published nothing: what it has
executed, and what is pending, goes where `related` leads. -/
structure Within (related : Db → Db → Prop) (published start : Db)
    (unit : UnitOfWork Db Outside Error) : Prop where
  unpublished : unit.committed = published
  manual : unit.autoflush = false
  reached : related start unit.working
  pending : ∀ statement ∈ unit.pending, Respects related statement

/-- The program stays where `related` leads, whether it returns or raises, and
publishes nothing. -/
def Keeps (related : Db → Db → Prop) (call : Work Db Outside Error α) : Prop :=
  ∀ published start unit, Within related published start unit →
    Ensures call unit (fun _ after => Within related published start after)
      fun _ after => after.committed = published

section Rules

variable {published start : Db} {unit : UnitOfWork Db Outside Error}

theorem keeps_pure (value : α) : Keeps related (pure value : Work Db Outside Error α) :=
  fun _ _ _ within => within

theorem keeps_raise (error : Error) : Keeps related (raise error : Work Db Outside Error α) :=
  fun _ _ _ within => within.unpublished

theorem keeps_draw (source : Outside → α × Outside) :
    Keeps related (draw source : Work Db Outside Error α) :=
  fun _ _ _ within => ⟨within.unpublished, within.manual, within.reached, within.pending⟩

/-- Without autoflush a query changes nothing. -/
theorem keeps_query (view : Db → α) : Keeps related (query view : Work Db Outside Error α) := by
  intro published start unit within
  rw [ensures_query_of_manual _ within.manual]
  exact within

theorem keeps_execute [IsTrans Db related] {statement : Db → Except Error Db}
    (respects : Respects related statement) :
    Keeps related (execute statement : Work Db Outside Error Unit) := by
  intro published start unit within
  rw [ensures_execute]
  constructor
  · intro next executed
    exact ⟨within.unpublished, within.manual,
      trans_of related within.reached (respects _ _ executed), within.pending⟩
  · exact fun _ _ => within.unpublished

theorem keeps_add {statement : Db → Except Error Db} (respects : Respects related statement) :
    Keeps related (add statement : Work Db Outside Error Unit) := by
  intro published start unit within
  rw [ensures_add]
  refine ⟨within.unpublished, within.manual, within.reached, ?_⟩
  intro other member
  rcases List.mem_append.mp member with earlier | isLast
  · exact within.pending other earlier
  · rw [List.mem_singleton.mp isLast]
    exact respects

theorem Keeps.bind {call : Work Db Outside Error β} {next : β → Work Db Outside Error α}
    (first : Keeps related call) (rest : ∀ value, Keeps related (next value)) :
    Keeps related (call >>= next) := by
  intro published start unit within
  rw [ensures_bind]
  apply (first published start unit within).mono
  · intro value after reached
    exact rest value published start after reached
  · exact fun _ _ unpublished => unpublished

theorem Keeps.forItems {body : ι → Work Db Outside Error Unit}
    (each : ∀ item, Keeps related (body item)) (items : List ι) :
    Keeps related (forItems items body) := by
  intro published start unit within
  apply Ensures.forItems fun _ after => Within related published start after
  · exact within
  · exact fun item _ before reached => each item published start before reached
  · exact fun after reached => reached

theorem Keeps.ite {condition : Prop} [Decidable condition] {yes no : Work Db Outside Error α}
    (onYes : Keeps related yes) (onNo : Keeps related no) :
    Keeps related (if condition then yes else no) := by
  split
  · exact onYes
  · exact onNo

/-- After a flush nothing is pending. -/
theorem Within.flush [Std.Refl related] [IsTrans Db related]
    (within : Within related published start unit) :
    Ensures Work.flush unit
      (fun _ after => Within related published start after ∧ after.pending = [])
      fun _ after => after.committed = published := by
  apply @Ensures.flush _ _ _ unit _ _ related (refl_of related)
    (fun _ _ _ => trans_of related)
    within.pending
  · intro next reached
    refine ⟨⟨within.unpublished, within.manual, trans_of related within.reached reached, ?_⟩, rfl⟩
    intro statement member
    cases member
  · exact fun _ => within.unpublished

/-- A commit publishes what was reached. -/
theorem Within.commit [Std.Refl related] [IsTrans Db related]
    (within : Within related published start unit) :
    Ensures Work.commit unit
      (fun _ after => after.committed = after.working ∧ related start after.working)
      fun _ after => after.committed = published := by
  have flushed := within.flush
  unfold Ensures Work.commit at *
  rcases outcome : Work.flush unit with ⟨result, after⟩
  rw [outcome] at flushed
  cases result with
  | ok value => exact ⟨rfl, flushed.1.reached⟩
  | error error => exact flushed

end Rules

end UrjaSetu.Library.Work
