import Mathlib

/-!
One database row shared by concurrent sessions under READ COMMITTED, each
session with an object-relational identity map.

A session runs a `Program`. A locking read waits for the row lock; neither kind
of read refreshes an instance the session already holds; a flush writes the
attributes the session has changed since it loaded or last flushed them; a
commit flushes, publishes the holder's version and releases the lock.

Owns: the systems such sessions make up, what a run of one may do
(`Program.Meets`, a verification condition on one program), and the rule that a
run whose locking reads are fresh commits only what the conditions allow
(`history_meets`).

Does not own: which programs there are, or what a row is.
-/

namespace UrjaSetu.Library.RowLock

/-! ## Programs -/

/-- A transaction program. `ask` receives a value from outside, such as the wall
clock; `commit` carries a label for the history. -/
inductive Program (Row Input Label : Type) where
  | finished
  | raise
  | get (next : Program Row Input Label)
  | selectForUpdate (next : Program Row Input Label)
  | inspect (next : Row → Program Row Input Label)
  | ask (next : Input → Program Row Input Label)
  | assign (change : Row → Row) (next : Program Row Input Label)
  | flush (next : Program Row Input Label)
  | commit (label : Label) (next : Program Row Input Label)

/-- The row as an identity map holds it: the values last exchanged with the
database, and the attributes as the program has left them. -/
structure Instance (Row : Type) where
  loaded : Row
  current : Row

/-- A session. `onError` is the code an exception runs on its way out of the
session (a `finally` block). -/
structure Session (Row Input Label : Type) where
  program : Program Row Input Label
  onError : Program Row Input Label
  identity : Option (Instance Row)
  expireOnCommit : Bool

/-- A held row lock, with the version of the row its holder has written. -/
structure HeldLock (Name Row : Type) where
  holder : Name
  version : Row

/-- A commit made under the row lock. -/
structure Event (Name Row Label : Type) where
  session : Name
  label : Label
  before : Row
  after : Row
deriving DecidableEq, Repr

structure System (Name Row Input Label : Type) where
  committed : Row
  lock : Option (HeldLock Name Row)
  sessions : Name → Option (Session Row Input Label)
  history : List (Event Name Row Label)

variable {Name Kind Row Input Label : Type} [DecidableEq Name] [DecidableEq Row]

namespace System

def initial (row : Row) : System Name Row Input Label := ⟨row, none, fun _ => none, []⟩

def put (system : System Name Row Input Label) (name : Name)
    (session : Session Row Input Label) : System Name Row Input Label :=
  { system with sessions := Function.update system.sessions name (some session) }

/-- Whether `name` holds the row lock. -/
def holds (system : System Name Row Input Label) (name : Name) : Bool :=
  match system.lock with
  | some held => held.holder = name
  | none => false

/-- The version of the row a statement of `name` sees. -/
def visible (system : System Name Row Input Label) (name : Name) : Row :=
  match system.lock with
  | some held => if held.holder = name then held.version else system.committed
  | none => system.committed

/-- Whether a statement of `name` that needs the row lock has to wait. -/
def blocked (system : System Name Row Input Label) (name : Name) : Bool :=
  match system.lock with
  | some held => held.holder ≠ name
  | none => false

/-- What `name` finds in its identity map after a read. -/
def read (system : System Name Row Input Label) (name : Name)
    (session : Session Row Input Label) : Instance Row :=
  session.identity.getD ⟨system.visible name, system.visible name⟩

/-- The end of a session: what it has not committed is rolled back. -/
def close (system : System Name Row Input Label) (name : Name) :
    System Name Row Input Label :=
  { system with
    lock := if system.blocked name then system.lock else none
    sessions := Function.update system.sessions name none }

/-- Write the changed attributes of `row`; with none changed there is no
statement. `write loaded current stored` is the stored row with those attributes
replaced. -/
def flush (write : Row → Row → Row → Row) (system : System Name Row Input Label) (name : Name)
    (row : Instance Row) : Option (System Name Row Input Label) :=
  if row.current = row.loaded then some system
  else if system.blocked name then none
  else some { system with
    lock := some ⟨name, write row.loaded row.current (system.visible name)⟩ }

/-- Publish what `name` has written and release its lock. -/
def publish (system : System Name Row Input Label) (name : Name) (label : Label) :
    System Name Row Input Label :=
  match system.lock with
  | some held =>
      if held.holder = name then
        { system with
          committed := held.version
          lock := none
          history := system.history ++ [⟨name, label, system.committed, held.version⟩] }
      else system
  | none => system

/-- One step of the program of `name`; `none` while it waits. -/
def step (write : Row → Row → Row → Row) (system : System Name Row Input Label) (name : Name)
    (input : Input) : Option (System Name Row Input Label) :=
  match system.sessions name with
  | none => none
  | some session =>
      match session.program with
      | .finished => some (system.close name)
      | .raise =>
          some (system.put name { session with program := session.onError, onError := .finished })
      | .get next =>
          some (system.put name
            { session with program := next, identity := some (system.read name session) })
      | .selectForUpdate next =>
          if system.blocked name then none
          else some ({ system with lock := some ⟨name, system.visible name⟩ }.put name
            { session with program := next, identity := some (system.read name session) })
      | .inspect next =>
          session.identity.map fun row => system.put name { session with program := next row.current }
      | .ask next => some (system.put name { session with program := next input })
      | .assign change next =>
          session.identity.map fun row => system.put name
            { session with program := next, identity := some ⟨row.loaded, change row.current⟩ }
      | .flush next =>
          match session.identity with
          | none => some (system.put name { session with program := next })
          | some row =>
              (system.flush write name row).map fun flushed => flushed.put name
                { session with program := next, identity := some ⟨row.current, row.current⟩ }
      | .commit label next =>
          match session.identity with
          | none => some ((system.publish name label).put name { session with program := next })
          | some row =>
              (system.flush write name row).map fun flushed => (flushed.publish name label).put name
                { session with
                  program := next
                  identity := if session.expireOnCommit then none
                    else some ⟨row.current, row.current⟩ }

end System

/-- What the environment does: a session of some kind opens, takes its next step,
raises, or is cut off with its transaction rolled back. -/
inductive Action (Name Kind Input : Type) where
  | opens (name : Name) (kind : Kind)
  | steps (name : Name) (input : Input)
  | raises (name : Name)
  | aborts (name : Name)

/-- The sessions there are: how a row is written, and the code of each kind of
session. -/
structure Setting (Kind Row Input Label : Type) where
  write : Row → Row → Row → Row
  code : Kind → Session Row Input Label

def System.perform (setting : Setting Kind Row Input Label)
    (system : System Name Row Input Label) :
    Action Name Kind Input → Option (System Name Row Input Label)
  | .opens name kind =>
      match system.sessions name with
      | none => some (system.put name { setting.code kind with identity := none })
      | some _ => none
  | .steps name input => system.step setting.write name input
  | .raises name =>
      (system.sessions name).map fun session =>
        system.put name { session with program := session.onError, onError := .finished }
  | .aborts name => some (system.close name)

/-- The system after `actions`, when each could be taken and met `condition` in
the state it was taken in. -/
def run (setting : Setting Kind Row Input Label)
    (condition : System Name Row Input Label → Action Name Kind Input → Bool) :
    System Name Row Input Label → List (Action Name Kind Input) →
      Option (System Name Row Input Label)
  | system, [] => some system
  | system, action :: rest =>
      if condition system action then
        (system.perform setting action).bind fun next => run setting condition next rest
      else none

/-- A run under one condition is a run under any condition it implies. -/
theorem run_weaken {setting : Setting Kind Row Input Label}
    {condition : System Name Row Input Label → Action Name Kind Input → Bool}
    (weaker : System Name Row Input Label → Action Name Kind Input → Bool)
    (implied : ∀ system action, condition system action = true → weaker system action = true)
    {system final : System Name Row Input Label} {actions : List (Action Name Kind Input)}
    (reached : run setting condition system actions = some final) :
    run setting weaker system actions = some final := by
  induction actions generalizing system with
  | nil => exact reached
  | cons action rest inductionHypothesis =>
      unfold run at reached ⊢
      split at reached
      · rename_i permitted
        rw [if_pos (implied system action permitted)]
        obtain ⟨next, taken, onward⟩ := Option.bind_eq_some_iff.mp reached
        exact Option.bind_eq_some_iff.mpr ⟨next, taken, inductionHypothesis onward⟩
      · cases reached

/-- What every permitted action preserves holds at the end of a run. -/
theorem run_preserves {setting : Setting Kind Row Input Label}
    {condition : System Name Row Input Label → Action Name Kind Input → Bool}
    (invariant : System Name Row Input Label → Prop)
    (preserved : ∀ system next action, invariant system → condition system action = true →
      system.perform setting action = some next → invariant next)
    {system final : System Name Row Input Label} {actions : List (Action Name Kind Input)}
    (initially : invariant system) (reached : run setting condition system actions = some final) :
    invariant final := by
  induction actions generalizing system with
  | nil =>
      cases reached
      exact initially
  | cons action rest inductionHypothesis =>
      unfold run at reached
      split at reached
      · rename_i permitted
        obtain ⟨next, taken, onward⟩ := Option.bind_eq_some_iff.mp reached
        exact inductionHypothesis (preserved _ _ _ initially permitted taken) onward
      · cases reached

/-! ## The conditions a run may meet -/

/-- A session that takes the row lock with an instance already in its identity
map holds the committed row there. -/
def freshLock (system : System Name Row Input Label) : Action Name Kind Input → Bool
  | .steps name _ =>
      match system.sessions name with
      | none => true
      | some session =>
          match session.program, session.identity with
          | .selectForUpdate _, some row => system.holds name || row.loaded = system.committed
          | _, _ => true
  | _ => true

/-- A holder of the row lock that an exception strikes has nothing left to run. -/
def quietFailure (system : System Name Row Input Label) : Action Name Kind Input → Bool
  | .raises name => quiet name
  | .steps name _ =>
      match (system.sessions name).map Session.program with
      | some .raise => quiet name
      | _ => true
  | _ => true
where
  quiet (name : Name) : Bool :=
    match (system.sessions name).map Session.onError with
    | some .finished => true
    | _ => !system.holds name

/-- A holder of the row lock receives only inputs `allowed` for the committed
row. -/
def allowedInput (allowed : Row → Input → Bool) (system : System Name Row Input Label) :
    Action Name Kind Input → Bool
  | .steps name input =>
      match (system.sessions name).map Session.program with
      | some (.ask _) => !system.holds name || allowed system.committed input
      | _ => true
  | _ => true

/-! ## What one program may commit -/

/-- Where a program stands: without the row lock, or holding it with the
committed row and its own attributes. -/
inductive Phase (Row : Type) where
  | reading
  | holding (base current : Row)

/-- Run alone, from a fresh locking read to the commit, `program` commits only
what `guarantee` relates to the row it started from, and changes the row only
under the lock. -/
def Program.Meets (guarantee : Label → Row → Row → Prop) (allowed : Row → Input → Bool) :
    Program Row Input Label → Phase Row → Prop
  | .finished, _ => True
  | .raise, _ => True
  | .get next, phase => next.Meets guarantee allowed phase
  | .selectForUpdate next, .reading => ∀ row, next.Meets guarantee allowed (.holding row row)
  | .selectForUpdate next, .holding base current =>
      next.Meets guarantee allowed (.holding base current)
  | .inspect next, .reading => ∀ row, (next row).Meets guarantee allowed .reading
  | .inspect next, .holding base current =>
      (next current).Meets guarantee allowed (.holding base current)
  | .ask next, .reading => ∀ input, (next input).Meets guarantee allowed .reading
  | .ask next, .holding base current =>
      ∀ input, allowed base input → (next input).Meets guarantee allowed (.holding base current)
  | .assign _ _, .reading => False
  | .assign change next, .holding base current =>
      next.Meets guarantee allowed (.holding base (change current))
  | .flush next, phase => next.Meets guarantee allowed phase
  | .commit _ next, .reading => next.Meets guarantee allowed .reading
  | .commit label next, .holding base current =>
      guarantee label base current ∧ next.Meets guarantee allowed .reading

/-! ## The invariant -/

section Invariant

variable (guarantee : Label → Row → Row → Prop) (allowed : Row → Input → Bool)

/-- A session is where its program may be: under the lock its instance is the
version it has written, and elsewhere its instance is unchanged. -/
structure SessionSound (system : System Name Row Input Label) (name : Name)
    (session : Session Row Input Label) : Prop where
  holding : ∀ version, system.lock = some ⟨name, version⟩ →
    ∃ row, session.identity = some row ∧ row.loaded = version ∧
      session.program.Meets guarantee allowed (.holding system.committed row.current)
  reading : (∀ version, system.lock ≠ some ⟨name, version⟩) →
    session.program.Meets guarantee allowed .reading ∧
      ∀ row, session.identity = some row → row.current = row.loaded
  onError : session.onError.Meets guarantee allowed .reading

structure Sound (system : System Name Row Input Label) : Prop where
  sessions : ∀ name session, system.sessions name = some session →
    SessionSound guarantee allowed system name session
  owner : ∀ name version, system.lock = some ⟨name, version⟩ → system.sessions name ≠ none
  history : ∀ event ∈ system.history, guarantee event.label event.before event.after

end Invariant

/-- Nothing of another session depends on what changed: its lock, and the
committed row while it holds that lock, are the same. -/
def Frame (system next : System Name Row Input Label) (name : Name) : Prop :=
  ∀ other ≠ name, ∀ version,
    (next.lock = some ⟨other, version⟩ ↔ system.lock = some ⟨other, version⟩) ∧
      (system.lock = some ⟨other, version⟩ → next.committed = system.committed)

omit [DecidableEq Name] [DecidableEq Row] in
theorem Frame.refl (system : System Name Row Input Label) (name : Name) :
    Frame system system name :=
  fun _ _ _ => ⟨Iff.rfl, fun _ => rfl⟩

omit [DecidableEq Row] in
/-- A session that does not have to wait may take or replace the lock. -/
theorem Frame.relock {system : System Name Row Input Label} {name : Name}
    (free : system.blocked name = false) (version : Row) :
    Frame system { system with lock := some ⟨name, version⟩ } name := by
  intro other distinct held
  have notHeld : system.lock ≠ some ⟨other, held⟩ := by
    intro lock
    simp [System.blocked, lock] at free
    exact distinct free
  simp [notHeld, Ne.symm distinct]

/-! ## What each part of a step does -/

section Parts

variable {system : System Name Row Input Label} {name : Name}

omit [DecidableEq Row] in
theorem System.blocked_eq_false_of_holds {version : Row}
    (lock : system.lock = some ⟨name, version⟩) : system.blocked name = false := by
  simp [System.blocked, lock]

omit [DecidableEq Row] in
theorem System.holds_eq_true {version : Row} (lock : system.lock = some ⟨name, version⟩) :
    system.holds name = true := by
  simp [System.holds, lock]

omit [DecidableEq Row] in
theorem System.holds_eq_false (free : ∀ version, system.lock ≠ some ⟨name, version⟩) :
    system.holds name = false := by
  unfold System.holds
  cases lock : system.lock with
  | none => rfl
  | some held =>
      have other : held.holder ≠ name := by
        intro same
        exact free held.version (by rw [lock, ← same])
      simp [other]

omit [DecidableEq Row] in
theorem System.visible_of_holds {version : Row}
    (lock : system.lock = some ⟨name, version⟩) : system.visible name = version := by
  simp [System.visible, lock]

omit [DecidableEq Row] in
theorem System.visible_of_not_holds (free : ∀ version, system.lock ≠ some ⟨name, version⟩) :
    system.visible name = system.committed := by
  unfold System.visible
  cases lock : system.lock with
  | none => rfl
  | some held =>
      have other : held.holder ≠ name := by
        intro same
        exact free held.version (by rw [lock, ← same])
      simp [other]

theorem System.flush_unchanged (write : Row → Row → Row → Row) {row : Instance Row}
    (unchanged : row.current = row.loaded) : system.flush write name row = some system := by
  simp [System.flush, unchanged]

/-- Under the lock a flush leaves the holder's attributes as the new version. -/
theorem System.flush_holding {write : Row → Row → Row → Row}
    (writes : ∀ loaded current, write loaded current loaded = current) {row : Instance Row}
    (lock : system.lock = some ⟨name, row.loaded⟩) :
    system.flush write name row = some { system with lock := some ⟨name, row.current⟩ } := by
  unfold System.flush
  by_cases unchanged : row.current = row.loaded
  · rw [if_pos unchanged, unchanged, ← lock]
  · rw [if_neg unchanged, system.blocked_eq_false_of_holds lock, system.visible_of_holds lock, writes]
    rfl

omit [DecidableEq Row] in
theorem System.publish_holding (version : Row) (label : Label)
    (lock : system.lock = some ⟨name, version⟩) :
    system.publish name label = { system with
      committed := version
      lock := none
      history := system.history ++ [⟨name, label, system.committed, version⟩] } := by
  simp [System.publish, lock]

omit [DecidableEq Row] in
theorem System.publish_not_holding (label : Label)
    (free : ∀ version, system.lock ≠ some ⟨name, version⟩) :
    system.publish name label = system := by
  unfold System.publish
  cases lock : system.lock with
  | none => rfl
  | some held =>
      have other : held.holder ≠ name := by
        intro same
        exact free held.version (by rw [lock, ← same])
      simp [other]

omit [DecidableEq Name] [DecidableEq Row] in
/-- Ending a session, or committing, releases at most its own lock. -/
theorem Frame.release {next : System Name Row Input Label} {version : Row}
    (lock : system.lock = some ⟨name, version⟩) (released : next.lock = none) :
    Frame system next name := by
  intro other distinct held
  simp [lock, released, Ne.symm distinct]

omit [DecidableEq Row] in
theorem Frame.close (system : System Name Row Input Label) (name : Name) :
    Frame system (system.close name) name := by
  intro other distinct version
  constructor
  · cases lock : system.lock with
    | none => simp [System.close, System.blocked, lock]
    | some held =>
        by_cases same : held.holder = name
        · have elsewhere : held.holder ≠ other := by
            rw [same]
            exact Ne.symm distinct
          have different : held ≠ ⟨other, version⟩ := by
            intro equal
            exact elsewhere (by rw [equal])
          simp [System.close, System.blocked, lock, same, different]
        · simp [System.close, System.blocked, lock, same]
  · intro _
    rfl

end Parts

/-! ## Every action keeps the invariant -/

section Preservation

variable {guarantee : Label → Row → Row → Prop} {allowed : Row → Input → Bool}
  {write : Row → Row → Row → Row} {system middle next : System Name Row Input Label}
  {name : Name} {session : Session Row Input Label}

omit [DecidableEq Name] [DecidableEq Row] in
theorem SessionSound.of_holding (row : Instance Row)
    (lock : system.lock = some ⟨name, row.loaded⟩) (identity : session.identity = some row)
    (program : session.program.Meets guarantee allowed (.holding system.committed row.current))
    (onError : session.onError.Meets guarantee allowed .reading) :
    SessionSound guarantee allowed system name session where
  holding := by
    intro version held
    rw [lock] at held
    cases held
    exact ⟨row, identity, rfl, program⟩
  reading := fun free => absurd lock (free row.loaded)
  onError := onError

omit [DecidableEq Name] [DecidableEq Row] in
theorem SessionSound.of_reading (free : ∀ version, system.lock ≠ some ⟨name, version⟩)
    (program : session.program.Meets guarantee allowed .reading)
    (unchanged : ∀ row, session.identity = some row → row.current = row.loaded)
    (onError : session.onError.Meets guarantee allowed .reading) :
    SessionSound guarantee allowed system name session where
  holding := fun version held => absurd held (free version)
  reading := fun _ => ⟨program, unchanged⟩
  onError := onError

omit [DecidableEq Name] [DecidableEq Row] in
/-- Only the lock and the committed row matter to another session. -/
theorem SessionSound.frame {other : Name} (distinct : other ≠ name)
    (frame : Frame system next name) (sound : SessionSound guarantee allowed system other session) :
    SessionSound guarantee allowed next other session where
  holding := by
    intro version held
    have before := (frame other distinct version).1.mp held
    rw [(frame other distinct version).2 before]
    exact sound.holding version before
  reading := by
    intro free
    apply sound.reading
    intro version held
    exact free version ((frame other distinct version).1.mpr held)
  onError := sound.onError

omit [DecidableEq Row] in
theorem Sound.put (sound : Sound guarantee allowed system) (frame : Frame system middle name)
    (sameSessions : middle.sessions = system.sessions)
    (history : ∀ event ∈ middle.history, guarantee event.label event.before event.after)
    (own : SessionSound guarantee allowed middle name session) :
    Sound guarantee allowed (middle.put name session) where
  sessions := by
    intro other found present
    by_cases same : other = name
    · subst same
      simp only [System.put, Function.update_self, Option.some.injEq] at present
      subst present
      exact ⟨own.holding, own.reading, own.onError⟩
    · simp only [System.put, sameSessions, Function.update_of_ne same] at present
      have framed := (sound.sessions other found present).frame same frame
      exact ⟨framed.holding, framed.reading, framed.onError⟩
  owner := by
    intro other version held
    by_cases same : other = name
    · simp [System.put, same]
    · simp only [System.put, sameSessions, Function.update_of_ne same]
      exact sound.owner other version ((frame other same version).1.mp held)
  history := history

omit [DecidableEq Row] in
theorem Sound.close (sound : Sound guarantee allowed system) (name : Name) :
    Sound guarantee allowed (system.close name) where
  sessions := by
    intro other found present
    by_cases same : other = name
    · simp [System.close, same] at present
    · simp only [System.close, Function.update_of_ne same] at present
      have framed := (sound.sessions other found present).frame same (Frame.close system name)
      exact framed
  owner := by
    intro other version held
    by_cases same : other = name
    · subst same
      simp only [System.close] at held
      split at held
      · rename_i waits
        rw [system.blocked_eq_false_of_holds held] at waits
        cases waits
      · cases held
    · simp only [System.close, Function.update_of_ne same]
      exact sound.owner other version ((Frame.close system name other same version).1.mp held)
  history := sound.history

omit [DecidableEq Row] in
theorem onError_of_quiet (found : system.sessions name = some session)
    (holds : system.holds name = true) (quiet : quietFailure.quiet system name = true) :
    session.onError = .finished := by
  simp only [quietFailure.quiet, found, Option.map_some, holds] at quiet
  split at quiet
  · rename_i silent
    exact Option.some.inj silent
  · cases quiet

omit [DecidableEq Row] in
/-- A session without the lock that goes on with its instance unchanged. -/
theorem Sound.put_reading (sound : Sound guarantee allowed system)
    (free : ∀ version, system.lock ≠ some ⟨name, version⟩)
    (program : session.program.Meets guarantee allowed .reading)
    (unchanged : ∀ row, session.identity = some row → row.current = row.loaded)
    (onError : session.onError.Meets guarantee allowed .reading) :
    Sound guarantee allowed (system.put name session) :=
  sound.put (Frame.refl _ _) rfl sound.history (.of_reading free program unchanged onError)

omit [DecidableEq Name] [DecidableEq Row] in
/-- After a commit a session holds its own values, or nothing. -/
theorem unchanged_of_committed (expire : Bool) (current : Row) (row : Instance Row)
    (kept : (if expire then none else some (⟨current, current⟩ : Instance Row)) = some row) :
    row.current = row.loaded := by
  cases expire with
  | true => cases kept
  | false =>
      cases kept
      rfl

/-- A holder's step: its instance is the version it has written, so each part of
the program acts as the verification condition describes. -/
theorem Sound.step_holding (writes : ∀ loaded current, write loaded current loaded = current)
    (sound : Sound guarantee allowed system) (found : system.sessions name = some session)
    {version : Row} (lock : system.lock = some ⟨name, version⟩) {input : Input}
    (inputs : allowedInput allowed system (.steps name input : Action Name Kind Input) = true)
    (quiet : quietFailure system (.steps name input : Action Name Kind Input) = true)
    (taken : system.step write name input = some next) :
    Sound guarantee allowed next := by
  have own := sound.sessions name session found
  obtain ⟨row, identity, loaded, meets⟩ := own.holding version lock
  subst loaded
  have holds := system.holds_eq_true lock
  simp only [System.step, found] at taken
  cases program : session.program with
  | finished =>
      simp only [program, Option.some.injEq] at taken
      subst taken
      exact sound.close name
  | raise =>
      simp only [program, Option.some.injEq] at taken
      subst taken
      have silent : session.onError = .finished := by
        simp only [quietFailure, found, Option.map_some, program] at quiet
        exact onError_of_quiet found holds quiet
      refine sound.put (Frame.refl _ _) rfl sound.history (.of_holding row lock identity ?_ trivial)
      rw [silent]
      trivial
  | get rest =>
      simp only [program, Option.some.injEq] at taken
      subst taken
      rw [program] at meets
      refine sound.put (Frame.refl _ _) rfl sound.history (.of_holding row lock ?_ meets
        own.onError)
      simp [System.read, identity]
  | selectForUpdate rest =>
      simp only [program, system.blocked_eq_false_of_holds lock, Bool.false_eq_true, if_false,
        Option.some.injEq, system.visible_of_holds lock] at taken
      subst taken
      rw [program] at meets
      refine sound.put (Frame.relock (system.blocked_eq_false_of_holds lock) _) rfl sound.history
        (.of_holding row rfl ?_ meets own.onError)
      simp [System.read, identity]
  | inspect rest =>
      simp only [program, identity, Option.map_some, Option.some.injEq] at taken
      subst taken
      rw [program] at meets
      exact sound.put (Frame.refl _ _) rfl sound.history (.of_holding row lock rfl meets own.onError)
  | ask rest =>
      simp only [program, Option.some.injEq] at taken
      subst taken
      rw [program] at meets
      have answered := meets input (by simpa [allowedInput, found, program, holds] using inputs)
      exact sound.put (Frame.refl _ _) rfl sound.history
        (.of_holding row lock identity answered own.onError)
  | assign change rest =>
      simp only [program, identity, Option.map_some, Option.some.injEq] at taken
      subst taken
      rw [program] at meets
      exact sound.put (Frame.refl _ _) rfl sound.history
        (.of_holding ⟨row.loaded, change row.current⟩ lock rfl meets own.onError)
  | flush rest =>
      simp only [program, identity, System.flush_holding writes lock, Option.map_some,
        Option.some.injEq] at taken
      subst taken
      rw [program] at meets
      exact sound.put (Frame.relock (system.blocked_eq_false_of_holds lock) _) rfl sound.history
        (.of_holding ⟨row.current, row.current⟩ rfl rfl meets own.onError)
  | commit label rest =>
      simp only [program, identity, System.flush_holding writes lock, Option.map_some,
        Option.some.injEq] at taken
      subst taken
      rw [program] at meets
      rw [System.publish_holding row.current label rfl]
      refine sound.put (Frame.release lock rfl) rfl ?_ (.of_reading (by simp) meets.2
        (unchanged_of_committed _ _) own.onError)
      intro event member
      rcases List.mem_append.mp member with earlier | latest
      · exact sound.history event earlier
      · rw [List.mem_singleton.mp latest]
        exact meets.1

omit [DecidableEq Row] in
/-- What a session without the lock reads, it holds unchanged. -/
theorem read_unchanged
    (unchanged : ∀ row, session.identity = some row → row.current = row.loaded) :
    (system.read name session).current = (system.read name session).loaded := by
  cases identity : session.identity with
  | none => simp [System.read, identity]
  | some row => simp [System.read, identity, unchanged row identity]

/-- A session that takes the free lock on the committed row. -/
theorem Sound.locks (sound : Sound guarantee allowed system)
    (found : system.sessions name = some session)
    (free : ∀ version, system.lock ≠ some ⟨name, version⟩)
    (open_ : system.blocked name = false) {rest : Program Row Input Label}
    (program : session.program = .selectForUpdate rest)
    (meets : ∀ row, rest.Meets guarantee allowed (.holding row row))
    (unchanged : ∀ row, session.identity = some row → row.current = row.loaded)
    (onError : session.onError.Meets guarantee allowed .reading) {input : Input}
    (fresh : freshLock system (.steps name input : Action Name Kind Input) = true) :
    Sound guarantee allowed ({ system with lock := some ⟨name, system.committed⟩ }.put name
      { session with program := rest, identity := some (system.read name session) }) := by
  have loaded : (system.read name session).loaded = system.committed := by
    cases identity : session.identity with
    | none => simp [System.read, identity, system.visible_of_not_holds free]
    | some row =>
        simp only [System.read, identity, Option.getD_some]
        simpa [freshLock, found, program, identity, system.holds_eq_false free] using fresh
  refine sound.put (Frame.relock open_ _) rfl sound.history
    (.of_holding (system.read name session) ?_ rfl ?_ onError)
  · simp [loaded]
  · simp only [read_unchanged unchanged, loaded]
    exact meets system.committed

/-- A step of a session without the lock: it can only take the lock, and then on
the committed row. -/
theorem Sound.step_reading (sound : Sound guarantee allowed system)
    (found : system.sessions name = some session)
    (free : ∀ version, system.lock ≠ some ⟨name, version⟩) {input : Input}
    (fresh : freshLock system (.steps name input : Action Name Kind Input) = true)
    (taken : system.step write name input = some next) :
    Sound guarantee allowed next := by
  have own := sound.sessions name session found
  have ⟨meets, unchanged⟩ := own.reading free
  have onError := own.onError
  simp only [System.step, found] at taken
  cases program : session.program with
  | finished =>
      simp only [program, Option.some.injEq] at taken
      subst taken
      exact sound.close name
  | raise =>
      simp only [program, Option.some.injEq] at taken
      subst taken
      exact sound.put_reading free onError unchanged trivial
  | get rest =>
      simp only [program, Option.some.injEq] at taken
      subst taken
      rw [program] at meets
      refine sound.put_reading free meets ?_ onError
      intro row present
      cases present
      exact read_unchanged unchanged
  | selectForUpdate rest =>
      simp only [program] at taken
      rw [program] at meets
      split at taken
      · cases taken
      · rename_i notBlocked
        simp only [Option.some.injEq, system.visible_of_not_holds free] at taken
        subst taken
        exact sound.locks found free (Bool.eq_false_iff.mpr notBlocked) program meets unchanged
          onError fresh
  | inspect rest =>
      simp only [program] at taken
      rw [program] at meets
      obtain ⟨row, identity, stepped⟩ := Option.map_eq_some_iff.mp taken
      subst stepped
      exact sound.put_reading free (meets row.current) unchanged onError
  | ask rest =>
      simp only [program, Option.some.injEq] at taken
      subst taken
      rw [program] at meets
      exact sound.put_reading free (meets input) unchanged onError
  | assign change rest =>
      rw [program] at meets
      exact absurd meets id
  | flush rest =>
      simp only [program] at taken
      rw [program] at meets
      cases identity : session.identity with
      | none =>
          simp only [identity, Option.some.injEq] at taken
          subst taken
          exact sound.put_reading free meets (by simp) onError
      | some row =>
          simp only [identity, System.flush_unchanged write (unchanged row identity),
            Option.map_some, Option.some.injEq] at taken
          subst taken
          exact sound.put_reading free meets (by simp) onError
  | commit label rest =>
      simp only [program] at taken
      rw [program] at meets
      cases identity : session.identity with
      | none =>
          simp only [identity, Option.some.injEq, system.publish_not_holding label free] at taken
          subst taken
          exact sound.put_reading free meets (by simp) onError
      | some row =>
          simp only [identity, System.flush_unchanged write (unchanged row identity),
            Option.map_some, Option.some.injEq, system.publish_not_holding label free] at taken
          subst taken
          exact sound.put_reading free meets (unchanged_of_committed _ _) onError

/-- The admitted programs are those that meet their condition from the start. -/
def Meeting (guarantee : Label → Row → Row → Prop) (allowed : Row → Input → Bool)
    (session : Session Row Input Label) : Prop :=
  session.program.Meets guarantee allowed .reading ∧
    session.onError.Meets guarantee allowed .reading

omit [DecidableEq Row] in
theorem Sound.raises (sound : Sound guarantee allowed system)
    (found : system.sessions name = some session)
    (quiet : quietFailure system (.raises name : Action Name Kind Input) = true) :
    Sound guarantee allowed
      (system.put name { session with program := session.onError, onError := .finished }) := by
  have own := sound.sessions name session found
  refine sound.put (Frame.refl _ _) rfl sound.history ?_
  by_cases held : ∃ version, system.lock = some ⟨name, version⟩
  · obtain ⟨version, lock⟩ := held
    obtain ⟨row, identity, loaded, _⟩ := own.holding version lock
    subst loaded
    have silent := onError_of_quiet found (system.holds_eq_true lock) quiet
    refine .of_holding row lock identity ?_ trivial
    rw [silent]
    trivial
  · have free : ∀ version, system.lock ≠ some ⟨name, version⟩ := by
      intro version lock
      exact held ⟨version, lock⟩
    exact .of_reading free own.onError (own.reading free).2 trivial

/-- The step lemma. -/
theorem Sound.perform {setting : Setting Kind Row Input Label}
    (writes : ∀ loaded current, setting.write loaded current loaded = current)
    (meeting : ∀ kind, Meeting guarantee allowed (setting.code kind))
    (sound : Sound guarantee allowed system) {action : Action Name Kind Input}
    (fresh : freshLock system action = true) (quiet : quietFailure system action = true)
    (inputs : allowedInput allowed system action = true)
    (taken : system.perform setting action = some next) : Sound guarantee allowed next := by
  cases action with
  | opens name kind =>
      cases present : system.sessions name with
      | some other => simp [System.perform, present] at taken
      | none =>
          simp only [System.perform, present, Option.some.injEq] at taken
          subst taken
          have free : ∀ version, system.lock ≠ some ⟨name, version⟩ := by
            intro version lock
            exact sound.owner name version lock present
          exact sound.put (Frame.refl _ _) rfl sound.history
            (.of_reading free (meeting kind).1 (by simp) (meeting kind).2)
  | steps name input =>
      cases found : system.sessions name with
      | none => simp [System.perform, System.step, found] at taken
      | some session =>
          by_cases held : ∃ version, system.lock = some ⟨name, version⟩
          · obtain ⟨version, lock⟩ := held
            exact sound.step_holding writes found lock inputs quiet taken
          · have free : ∀ version, system.lock ≠ some ⟨name, version⟩ := by
              intro version lock
              exact held ⟨version, lock⟩
            exact sound.step_reading found free fresh taken
  | raises name =>
      cases found : system.sessions name with
      | none => simp [System.perform, found] at taken
      | some session =>
          simp only [System.perform, found, Option.map_some, Option.some.injEq] at taken
          subst taken
          exact sound.raises found quiet
  | aborts name =>
      simp only [System.perform, Option.some.injEq] at taken
      subst taken
      exact sound.close name

omit [DecidableEq Name] [DecidableEq Row] in
theorem Sound.initial (row : Row) :
    Sound guarantee allowed (System.initial row : System Name Row Input Label) where
  sessions := by simp [System.initial]
  owner := by simp [System.initial]
  history := by simp [System.initial]

/-- The run lemma: with fresh locking reads, quiet failures and allowed inputs,
every commit under the lock is one the verification conditions allow. -/
theorem history_meets {setting : Setting Kind Row Input Label}
    (writes : ∀ loaded current, setting.write loaded current loaded = current)
    (meeting : ∀ kind, Meeting guarantee allowed (setting.code kind))
    {row : Row} {actions : List (Action Name Kind Input)} {final : System Name Row Input Label}
    (reached : run setting (fun system action => freshLock system action &&
      quietFailure system action && allowedInput allowed system action)
        (System.initial row) actions = some final) :
    ∀ event ∈ final.history, guarantee event.label event.before event.after := by
  suffices sound : Sound guarantee allowed final from sound.history
  apply run_preserves (Sound guarantee allowed) _ (Sound.initial row) reached
  intro system next action sound conditions taken
  simp only [Bool.and_eq_true] at conditions
  exact sound.perform writes meeting conditions.1.1 conditions.1.2 conditions.2 taken

end Preservation

/-! ## The history is one chain -/

/-- Each commit starts from the row the one before it left, from `first` to
`last`. -/
def Chained : Row → List (Event Name Row Label) → Row → Prop
  | first, [], last => last = first
  | first, event :: rest, last => event.before = first ∧ Chained event.after rest last

omit [DecidableEq Name] [DecidableEq Row] in
theorem Chained.concat {first last : Row} {events : List (Event Name Row Label)}
    (chained : Chained first events last) {event : Event Name Row Label}
    (continues : event.before = last) : Chained first (events ++ [event]) event.after := by
  induction events generalizing first with
  | nil =>
      rw [show last = first from chained] at continues
      exact ⟨continues, rfl⟩
  | cons head rest inductionHypothesis => exact ⟨chained.1, inductionHypothesis chained.2⟩

omit [DecidableEq Name] [DecidableEq Row] in
/-- What every commit preserves holds between any two rows of the chain. -/
theorem Chained.pairwise {first last : Row} {events : List (Event Name Row Label)}
    (chained : Chained first events last) (below : Row → Row → Prop)
    (reflexive : ∀ row, below row row)
    (transitive : ∀ a b c, below a b → below b c → below a c)
    (preserves : ∀ event ∈ events, below event.before event.after) :
    events.Pairwise (fun earlier later => below earlier.after later.before) ∧
      ∀ event ∈ events, below first event.before := by
  induction events generalizing first with
  | nil => simp
  | cons head rest inductionHypothesis =>
      have headMeets := preserves head (by simp)
      have ⟨ordered, above⟩ := inductionHypothesis chained.2
        (fun event member => preserves event (by simp [member]))
      constructor
      · rw [List.pairwise_cons]
        exact ⟨above, ordered⟩
      · intro event member
        rw [← chained.1]
        rcases List.mem_cons.mp member with same | later
        · rw [same]
          exact reflexive _
        · exact transitive _ _ _ headMeets (above event later)

section History

variable {write : Row → Row → Row → Row} {system next : System Name Row Input Label}

omit [DecidableEq Row] in
theorem System.publish_chained {first : Row} (name : Name) (label : Label)
    (chained : Chained first system.history system.committed) :
    Chained first (system.publish name label).history (system.publish name label).committed := by
  unfold System.publish
  cases system.lock with
  | none => exact chained
  | some held =>
      dsimp only
      split
      · exact chained.concat rfl
      · exact chained

theorem System.flush_log {name : Name} {row : Instance Row}
    (taken : system.flush write name row = some next) :
    next.history = system.history ∧ next.committed = system.committed := by
  unfold System.flush at taken
  split at taken
  · cases taken
    exact ⟨rfl, rfl⟩
  · split at taken
    · cases taken
    · cases taken
      exact ⟨rfl, rfl⟩

theorem System.step_chained {first : Row} {name : Name} {input : Input}
    (chained : Chained first system.history system.committed)
    (taken : system.step write name input = some next) :
    Chained first next.history next.committed := by
  unfold System.step at taken
  split at taken
  · cases taken
  · split at taken
    · cases taken
      exact chained
    · cases taken
      exact chained
    · cases taken
      exact chained
    · split at taken
      · cases taken
      · cases taken
        exact chained
    · obtain ⟨_, _, rfl⟩ := Option.map_eq_some_iff.mp taken
      exact chained
    · cases taken
      exact chained
    · obtain ⟨_, _, rfl⟩ := Option.map_eq_some_iff.mp taken
      exact chained
    · split at taken
      · cases taken
        exact chained
      · obtain ⟨flushed, flush, rfl⟩ := Option.map_eq_some_iff.mp taken
        have log := System.flush_log flush
        simpa only [System.put, log.1, log.2] using chained
    · split at taken
      · cases taken
        exact System.publish_chained name _ chained
      · obtain ⟨flushed, flush, rfl⟩ := Option.map_eq_some_iff.mp taken
        have log := System.flush_log flush
        apply System.publish_chained name
        rw [log.1, log.2]
        exact chained

theorem System.perform_chained {setting : Setting Kind Row Input Label} {first : Row}
    {action : Action Name Kind Input} (chained : Chained first system.history system.committed)
    (taken : system.perform setting action = some next) :
    Chained first next.history next.committed := by
  cases action with
  | opens name kind =>
      simp only [System.perform] at taken
      split at taken
      · cases taken
        exact chained
      · cases taken
  | steps name input => exact System.step_chained chained taken
  | raises name =>
      obtain ⟨_, _, rfl⟩ := Option.map_eq_some_iff.mp taken
      exact chained
  | aborts name =>
      cases taken
      exact chained

theorem history_chained {setting : Setting Kind Row Input Label}
    {condition : System Name Row Input Label → Action Name Kind Input → Bool}
    {row : Row} {actions : List (Action Name Kind Input)} {final : System Name Row Input Label}
    (reached : run setting condition (System.initial row) actions = some final) :
    Chained row final.history final.committed := by
  have initially : Chained row (System.initial row : System Name Row Input Label).history row := rfl
  apply run_preserves (fun system => Chained row system.history system.committed) _ initially reached
  intro system next action chained _ taken
  exact System.perform_chained chained taken

end History

end UrjaSetu.Library.RowLock
