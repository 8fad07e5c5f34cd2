import Mathlib

/-!
Programs over a unit of work: a transaction on a database with rows added but
not yet flushed, and what they have been given from outside.

A program returns or raises, and either way leaves a unit of work. `Ensures` is
the weakest precondition for both outcomes; its rules follow the structure of a
program, and `Ensures.foldItems` is the rule for a loop, with an invariant that
speaks of the items still to come.

Owns: the primitives, and one rule for each.
-/

namespace UrjaSetu.Library

/-- `committed` is what other transactions see, `working` what this one has
executed, and `pending` the statements added to the session but not flushed.
With `autoflush` a query flushes them first. -/
structure UnitOfWork (Db Outside Error : Type) where
  committed : Db
  working : Db
  pending : List (Db → Except Error Db)
  autoflush : Bool
  outside : Outside

def Work (Db Outside Error α : Type) : Type :=
  UnitOfWork Db Outside Error → Except Error α × UnitOfWork Db Outside Error

namespace Work

variable {Db Outside Error α β ι : Type}

instance : Monad (Work Db Outside Error) where
  pure value := fun unit => (.ok value, unit)
  bind call next := fun unit =>
    match call unit with
    | (.ok value, after) => next value after
    | (.error error, after) => (.error error, after)

def raise (error : Error) : Work Db Outside Error α := fun unit => (.error error, unit)

/-- A computation on values that may raise. -/
def lift (outcome : Except Error α) : Work Db Outside Error α := fun unit => (outcome, unit)

/-- A query on the executed state. -/
def read (view : Db → α) : Work Db Outside Error α := fun unit => (.ok (view unit.working), unit)

/-- A statement executed at once. -/
def execute (statement : Db → Except Error Db) : Work Db Outside Error Unit := fun unit =>
  match statement unit.working with
  | .ok next => (.ok (), { unit with working := next })
  | .error error => (.error error, unit)

/-- `session.add`: the statement waits for the next flush. -/
def add (statement : Db → Except Error Db) : Work Db Outside Error Unit := fun unit =>
  (.ok (), { unit with pending := unit.pending ++ [statement] })

/-- Execute what is pending, in order. -/
def flush : Work Db Outside Error Unit := fun unit =>
  match unit.pending.foldlM (fun db statement => statement db) unit.working with
  | .ok next => (.ok (), { unit with working := next, pending := [] })
  | .error error => (.error error, unit)

/-- A query where rows may be pending. -/
def query (view : Db → α) : Work Db Outside Error α := fun unit =>
  if unit.autoflush then (flush >>= fun _ => read view) unit else read view unit

/-- Flush, and publish the executed state. -/
def commit : Work Db Outside Error Unit := fun unit =>
  match flush unit with
  | (.ok (), after) => (.ok (), { after with committed := after.working })
  | (.error error, after) => (.error error, after)

/-- Take a value from outside. -/
def draw (next : Outside → α × Outside) : Work Db Outside Error α := fun unit =>
  (.ok (next unit.outside).1, { unit with outside := (next unit.outside).2 })

/-- A loop with an accumulator. -/
def foldItems (body : β → ι → Work Db Outside Error β) : β → List ι → Work Db Outside Error β
  | accumulated, [] => pure accumulated
  | accumulated, item :: rest => body accumulated item >>= fun next => foldItems body next rest

/-- A loop without one. -/
def forItems (items : List ι) (body : ι → Work Db Outside Error Unit) : Work Db Outside Error Unit :=
  foldItems (fun _ item => body item) () items

/-- A transaction that has executed nothing yet, without autoflush. -/
def begin_ (db : Db) (outside : Outside) : UnitOfWork Db Outside Error where
  committed := db
  working := db
  pending := []
  autoflush := false
  outside := outside

/-- One request on its own session, rolled back where it does not commit: the
outcome, the committed state it leaves, and what is left outside. -/
def serve (call : Work Db Outside Error α) (db : Db) (outside : Outside) :
    Except Error α × Db × Outside :=
  let (outcome, after) := call (begin_ db outside)
  (outcome, after.committed, after.outside)

/-! ## Runs -/

theorem bind_of_ok {call : Work Db Outside Error β} {next : β → Work Db Outside Error α}
    {unit after : UnitOfWork Db Outside Error} {value : β}
    (returned : call unit = (.ok value, after)) : (call >>= next) unit = next value after := by
  show (match call unit with
    | (.ok value, after) => next value after
    | (.error error, after) => (.error error, after)) = _
  rw [returned]

theorem bind_of_error {call : Work Db Outside Error β} {next : β → Work Db Outside Error α}
    {unit after : UnitOfWork Db Outside Error} {error : Error}
    (raised : call unit = (.error error, after)) : (call >>= next) unit = (.error error, after) := by
  show (match call unit with
    | (.ok value, after) => next value after
    | (.error error, after) => (.error error, after)) = _
  rw [raised]

theorem serve_of_run {call : Work Db Outside Error α} {db : Db} {outside : Outside}
    {after : UnitOfWork Db Outside Error} {outcome : Except Error α}
    (ended : call (begin_ db outside) = (outcome, after)) :
    serve call db outside = (outcome, after.committed, after.outside) := by
  unfold serve
  rw [ended]

theorem execute_of_ok {statement : Db → Except Error Db} {unit : UnitOfWork Db Outside Error}
    {next : Db} (executed : statement unit.working = .ok next) :
    execute statement unit = (.ok (), { unit with working := next }) := by
  unfold execute
  rw [executed]

theorem execute_of_error {statement : Db → Except Error Db} {unit : UnitOfWork Db Outside Error}
    {error : Error} (refused : statement unit.working = .error error) :
    execute statement unit = (.error error, unit) := by
  unfold execute
  rw [refused]

/-- What the first of several statements has done. -/
theorem executed_cons {statement : Db → Except Error Db} {rest : List (Db → Except Error Db)}
    {db final : Db}
    (executed : (statement :: rest).foldlM (fun db statement => statement db) db = .ok final) :
    ∃ middle, statement db = .ok middle ∧
      rest.foldlM (fun db statement => statement db) middle = .ok final := by
  rw [List.foldlM_cons] at executed
  cases first : statement db with
  | error error =>
      rw [first] at executed
      cases executed
  | ok middle =>
      rw [first] at executed
      exact ⟨middle, rfl, executed⟩

theorem executed_nil {db final : Db}
    (executed : ([] : List (Db → Except Error Db)).foldlM (fun db statement => statement db) db =
      .ok final) : final = db := by
  cases executed
  rfl

/-- Statements executed one after the other: a transaction on their composition,
of which a failure leaves a part executed and nothing committed. -/
theorem forItems_execute (statement : ι → Db → Except Error Db) (items : List ι)
    (unit : UnitOfWork Db Outside Error) :
    (∀ next, items.foldlM (fun db item => statement item db) unit.working = .ok next →
      forItems items (fun item => execute (statement item)) unit =
        (.ok (), { unit with working := next })) ∧
    ∀ error, items.foldlM (fun db item => statement item db) unit.working = .error error →
      ∃ executed, forItems items (fun item => execute (statement item)) unit =
        (.error error, { unit with working := executed }) := by
  induction items generalizing unit with
  | nil =>
      constructor
      · intro next same
        cases same
        rfl
      · intro error impossible
        cases impossible
  | cons item rest inductionHypothesis =>
      have unfolded : forItems (item :: rest) (fun item => execute (statement item)) =
          (execute (statement item) >>= fun _ : Unit =>
            (forItems rest (fun item => execute (statement item)) :
              Work Db Outside Error Unit)) := rfl
      rw [unfolded, List.foldlM_cons]
      cases executed : statement item unit.working with
      | ok middle =>
          rw [bind_of_ok (execute_of_ok executed)]
          exact inductionHypothesis { unit with working := middle }
      | error error =>
          rw [bind_of_error (execute_of_error executed)]
          constructor
          · intro next impossible
            cases impossible
          · intro raised same
            cases same
            exact ⟨unit.working, rfl⟩

/-! ## What is published -/

/-- The call publishes nothing, however it ends. -/
def Quiet (call : Work Db Outside Error α) : Prop := ∀ unit, (call unit).2.committed = unit.committed

/-- A call that raises has published nothing. -/
def Atomic (call : Work Db Outside Error α) : Prop :=
  ∀ unit error after, call unit = (.error error, after) → after.committed = unit.committed

section Published

variable {call : Work Db Outside Error β} {next : β → Work Db Outside Error α}

theorem quiet_pure (value : α) : Quiet (pure value : Work Db Outside Error α) := fun _ => rfl

theorem quiet_raise (error : Error) : Quiet (raise error : Work Db Outside Error α) := fun _ => rfl

theorem quiet_read (view : Db → α) : Quiet (read view : Work Db Outside Error α) := fun _ => rfl

theorem quiet_draw (source : Outside → α × Outside) :
    Quiet (draw source : Work Db Outside Error α) := fun _ => rfl

theorem quiet_execute (statement : Db → Except Error Db) :
    Quiet (execute statement : Work Db Outside Error Unit) := by
  intro unit
  unfold execute
  split <;> rfl

theorem quiet_flush : Quiet (flush : Work Db Outside Error Unit) := by
  intro unit
  unfold flush
  split <;> rfl

theorem Quiet.bind (first : Quiet call) (rest : ∀ value, Quiet (next value)) :
    Quiet (call >>= next) := by
  intro unit
  have unchanged := first unit
  rcases outcome : call unit with ⟨result, after⟩
  rw [outcome] at unchanged
  cases result with
  | ok value =>
      rw [bind_of_ok outcome, rest value after]
      exact unchanged
  | error error =>
      rw [bind_of_error outcome]
      exact unchanged

theorem Quiet.foldItems {body : β → ι → Work Db Outside Error β}
    (each : ∀ accumulated item, Quiet (body accumulated item)) (start : β) (items : List ι) :
    Quiet (foldItems body start items) := by
  induction items generalizing start with
  | nil => exact quiet_pure start
  | cons item rest inductionHypothesis =>
      exact (each start item).bind fun next => inductionHypothesis next

theorem Quiet.forItems {body : ι → Work Db Outside Error Unit} (each : ∀ item, Quiet (body item))
    (items : List ι) : Quiet (forItems items body) :=
  Quiet.foldItems (fun _ item => each item) () items

theorem atomic_commit : Atomic (commit : Work Db Outside Error Unit) := by
  intro unit error after raised
  unfold commit at raised
  have unchanged := quiet_flush unit
  split at raised
  · cases raised
  · rename_i refused
    rw [refused] at unchanged
    cases raised
    exact unchanged

/-- Only the last step of a call may publish. -/
theorem Quiet.bind_atomic (first : Quiet call) (rest : ∀ value, Atomic (next value)) :
    Atomic (call >>= next) := by
  intro unit error after raised
  have unchanged := first unit
  rcases outcome : call unit with ⟨result, middle⟩
  rw [outcome] at unchanged
  cases result with
  | ok value =>
      rw [bind_of_ok outcome] at raised
      rw [rest value middle error after raised]
      exact unchanged
  | error refused =>
      rw [bind_of_error outcome] at raised
      cases raised
      exact unchanged

theorem Atomic.bind_pure (last : Atomic call) (value : β → α) :
    Atomic (call >>= fun result => pure (value result)) := by
  intro unit error after raised
  rcases outcome : call unit with ⟨result, middle⟩
  cases result with
  | ok returned =>
      rw [bind_of_ok outcome] at raised
      cases raised
  | error refused =>
      rw [bind_of_error outcome] at raised
      cases raised
      exact last unit error after outcome

end Published

/-! ## Preconditions -/

/-- What holds after `call`, whether it returns or raises. -/
def Ensures (call : Work Db Outside Error α) (unit : UnitOfWork Db Outside Error)
    (returns : α → UnitOfWork Db Outside Error → Prop)
    (raises : Error → UnitOfWork Db Outside Error → Prop) : Prop :=
  match call unit with
  | (.ok value, after) => returns value after
  | (.error error, after) => raises error after

variable {unit : UnitOfWork Db Outside Error}
  {returns : α → UnitOfWork Db Outside Error → Prop}
  {raises : Error → UnitOfWork Db Outside Error → Prop}

@[simp] theorem ensures_pure (value : α) :
    Ensures (pure value) unit returns raises ↔ returns value unit := Iff.rfl

@[simp] theorem ensures_bind (call : Work Db Outside Error β) (next : β → Work Db Outside Error α) :
    Ensures (call >>= next) unit returns raises ↔
      Ensures call unit (fun value after => Ensures (next value) after returns raises) raises := by
  show Ensures (fun unit => match call unit with
    | (.ok value, after) => next value after
    | (.error error, after) => (.error error, after)) unit returns raises ↔ _
  unfold Ensures
  rcases outcome : call unit with ⟨result, after⟩
  cases result with
  | ok value => simp only [outcome]
  | error error => simp only [outcome]

@[simp] theorem ensures_raise (error : Error) :
    Ensures (raise error : Work Db Outside Error α) unit returns raises ↔ raises error unit := Iff.rfl

theorem ensures_lift (outcome : Except Error α) :
    Ensures (lift outcome) unit returns raises ↔
      (∀ value, outcome = .ok value → returns value unit) ∧
        ∀ error, outcome = .error error → raises error unit := by
  cases outcome with
  | ok value => simp [lift, Ensures]
  | error error => simp [lift, Ensures]

@[simp] theorem ensures_read (view : Db → α) :
    Ensures (read view) unit returns raises ↔ returns (view unit.working) unit := Iff.rfl

theorem ensures_execute {returns : Unit → UnitOfWork Db Outside Error → Prop}
    (statement : Db → Except Error Db) :
    Ensures (execute statement) unit returns raises ↔
      (∀ next, statement unit.working = .ok next → returns () { unit with working := next }) ∧
        ∀ error, statement unit.working = .error error → raises error unit := by
  unfold Ensures execute
  cases statement unit.working with
  | ok next => simp
  | error error => simp

@[simp] theorem ensures_add {returns : Unit → UnitOfWork Db Outside Error → Prop}
    (statement : Db → Except Error Db) :
    Ensures (add statement) unit returns raises ↔
      returns () { unit with pending := unit.pending ++ [statement] } := Iff.rfl

@[simp] theorem ensures_draw (next : Outside → α × Outside) :
    Ensures (draw next) unit returns raises ↔
      returns (next unit.outside).1 { unit with outside := (next unit.outside).2 } := Iff.rfl

/-- What a precondition says of a run that returned. -/
theorem Ensures.returned {call : Work Db Outside Error α} {value : α}
    {after : UnitOfWork Db Outside Error} (ensures : Ensures call unit returns raises)
    (run : call unit = (.ok value, after)) : returns value after := by
  unfold Ensures at ensures
  rw [run] at ensures
  exact ensures

/-- What a precondition says of a run that raised. -/
theorem Ensures.raised {call : Work Db Outside Error α} {error : Error}
    {after : UnitOfWork Db Outside Error} (ensures : Ensures call unit returns raises)
    (run : call unit = (.error error, after)) : raises error after := by
  unfold Ensures at ensures
  rw [run] at ensures
  exact ensures

theorem Ensures.mono {call : Work Db Outside Error α}
    {weakerReturns : α → UnitOfWork Db Outside Error → Prop}
    {weakerRaises : Error → UnitOfWork Db Outside Error → Prop}
    (ensures : Ensures call unit returns raises)
    (onReturn : ∀ value after, returns value after → weakerReturns value after)
    (onRaise : ∀ error after, raises error after → weakerRaises error after) :
    Ensures call unit weakerReturns weakerRaises := by
  unfold Ensures at ensures ⊢
  rcases outcome : call unit with ⟨result, after⟩
  rw [outcome] at ensures
  cases result with
  | ok value => exact onReturn value after ensures
  | error error => exact onRaise error after ensures

/-- A loop preserves an invariant that speaks of the items still to come. -/
theorem Ensures.foldItems {body : β → ι → Work Db Outside Error β}
    (invariant : List ι → β → UnitOfWork Db Outside Error → Prop)
    {returns : β → UnitOfWork Db Outside Error → Prop} {items : List ι} {start : β}
    (initially : invariant items start unit)
    (step : ∀ item rest accumulated before, invariant (item :: rest) accumulated before →
      Ensures (body accumulated item) before (fun next after => invariant rest next after) raises)
    (finally_ : ∀ accumulated after, invariant [] accumulated after → returns accumulated after) :
    Ensures (foldItems body start items) unit returns raises := by
  induction items generalizing start unit with
  | nil => exact finally_ start unit initially
  | cons item rest inductionHypothesis =>
      simp only [Work.foldItems, ensures_bind]
      apply (step item rest start unit initially).mono
      · intro next after kept
        exact inductionHypothesis kept
      · intro error after raised
        exact raised

/-- What each pending statement does to the executed state, a flush does. -/
theorem Ensures.flush {returns : Unit → UnitOfWork Db Outside Error → Prop}
    {related : Db → Db → Prop} (reflexive : ∀ db, related db db)
    (transitive : ∀ a b c, related a b → related b c → related a c)
    (each : ∀ statement ∈ unit.pending, ∀ db next, statement db = .ok next → related db next)
    (onReturn : ∀ next, related unit.working next →
      returns () { unit with working := next, pending := [] })
    (onRaise : ∀ error, raises error unit) : Ensures Work.flush unit returns raises := by
  have run : ∀ statements : List (Db → Except Error Db), (∀ statement ∈ statements,
      ∀ db next, statement db = .ok next → related db next) → ∀ db final,
        statements.foldlM (fun db statement => statement db) db = .ok final → related db final := by
    intro statements
    induction statements with
    | nil =>
        intro _ db final same
        cases same
        exact reflexive db
    | cons statement rest inductionHypothesis =>
        intro all db final reached
        rw [List.foldlM_cons] at reached
        cases executed : statement db with
        | error error =>
            rw [executed] at reached
            cases reached
        | ok middle =>
            rw [executed] at reached
            apply transitive db middle final (all statement (by simp) db middle executed)
            exact inductionHypothesis (fun later member => all later (by simp [member])) middle final
              reached
  unfold Ensures Work.flush
  cases reached : unit.pending.foldlM (fun db statement => statement db) unit.working with
  | ok next => exact onReturn next (run unit.pending each unit.working next reached)
  | error error => exact onRaise error

/-- With nothing pending a query reads the executed state. -/
theorem ensures_query_of_flushed (view : Db → α) (flushed : unit.pending = []) :
    Ensures (query view) unit returns raises ↔ returns (view unit.working) unit := by
  rcases unit with ⟨committed, working, pending, autoflush, outside⟩
  cases flushed
  cases autoflush with
  | false => rfl
  | true => rfl

/-- Without autoflush a query does not see what is pending. -/
theorem ensures_query_of_manual (view : Db → α) (manual : unit.autoflush = false) :
    Ensures (query view) unit returns raises ↔ returns (view unit.working) unit := by
  rcases unit with ⟨committed, working, pending, autoflush, outside⟩
  cases manual
  rfl

theorem ensures_flush {returns : Unit → UnitOfWork Db Outside Error → Prop} :
    Ensures flush unit returns raises ↔
      (∀ next, unit.pending.foldlM (fun db statement => statement db) unit.working = .ok next →
        returns () { unit with working := next, pending := [] }) ∧
      ∀ error, unit.pending.foldlM (fun db statement => statement db) unit.working =
        .error error → raises error unit := by
  unfold Ensures flush
  cases unit.pending.foldlM (fun db statement => statement db) unit.working with
  | ok next => simp
  | error error => simp

/-- A loop without an accumulator, whose invariant speaks of the items still to
come. -/
theorem Ensures.forItems {body : ι → Work Db Outside Error Unit}
    (invariant : List ι → UnitOfWork Db Outside Error → Prop)
    {returns : Unit → UnitOfWork Db Outside Error → Prop} {items : List ι}
    (initially : invariant items unit)
    (step : ∀ item rest before, invariant (item :: rest) before →
      Ensures (body item) before (fun _ after => invariant rest after) raises)
    (finally_ : ∀ after, invariant [] after → returns () after) :
    Ensures (forItems items body) unit returns raises :=
  Ensures.foldItems (fun rest _ before => invariant rest before) initially
    (fun item rest _ before => step item rest before) fun _ after => finally_ after

theorem ensures_commit_of_flushed {returns : Unit → UnitOfWork Db Outside Error → Prop}
    (flushed : unit.pending = []) :
    Ensures commit unit returns raises ↔ returns () { unit with committed := unit.working } := by
  rcases unit with ⟨committed, working, pending, autoflush, outside⟩
  cases flushed
  rfl

end Work

end UrjaSetu.Library
