import Mathlib

/-!
Database transactions under READ COMMITTED.

A transaction sees the last commit with its own statements applied to it. Where
a statement has to wait for another transaction (a row that one has written, a
key it has inserted), the database decides it when the other one has ended; here
it is executed at once, and all statements are executed again, in order, on the
state they are committed to. One that fails there takes the transaction back, so
every schedule of the database is a run of the system.

Owns: the systems such transactions make up, what one transaction has
established by the time it commits whatever the others commit meanwhile (`Wp`),
what one that no other overtakes ends in (`Ends`), and the rule for a protocol
every transaction keeps (`history_meets`), with its case of transactions run one
after the other (`serial_meets`).
-/

namespace UrjaSetu.Library

/-- The code of a transaction. `draw` receives a value from outside, such as a
fresh identifier; `done` commits. -/
inductive Transaction (Db Input Error α : Type) where
  | done (value : α)
  | raise (error : Error)
  | read (next : Db → Transaction Db Input Error α)
  | execute (statement : Db → Except Error Db) (next : Transaction Db Input Error α)
  | draw (next : Input → Transaction Db Input Error α)

namespace Transaction

variable {Db Input Error Op Value α β ι : Type}

/-- The code up to where `first` would commit, and then `next`. -/
def bind (first : Transaction Db Input Error α) (next : α → Transaction Db Input Error β) :
    Transaction Db Input Error β :=
  match first with
  | .done value => next value
  | .raise error => .raise error
  | .read onward => .read fun db => (onward db).bind next
  | .execute statement onward => .execute statement (onward.bind next)
  | .draw onward => .draw fun input => (onward input).bind next

instance : Monad (Transaction Db Input Error) where
  pure := .done
  bind := .bind

/-- One query. -/
def query (view : Db → α) : Transaction Db Input Error α := .read fun db => .done (view db)

/-- One statement. -/
def statement (change : Db → Except Error Db) : Transaction Db Input Error Unit :=
  .execute change (.done ())

def ask (view : Input → α) : Transaction Db Input Error α := .draw fun input => .done (view input)

/-- A computation on values that may raise. -/
def lift : Except Error α → Transaction Db Input Error α
  | .ok value => .done value
  | .error error => .raise error

def forItems (body : ι → Transaction Db Input Error Unit) : List ι → Transaction Db Input Error Unit
  | [] => .done ()
  | item :: rest => (body item).bind fun _ => forItems body rest

/-- What the statements in `log` do, one after the other. -/
def replay (log : List (Db → Except Error Db)) (db : Db) : Except Error Db :=
  log.foldlM (fun db change => change db) db

theorem replay_concat (log : List (Db → Except Error Db)) (change : Db → Except Error Db)
    (db : Db) : replay (log ++ [change]) db = (replay log db).bind change := by
  unfold replay
  rw [List.foldlM_append]
  cases log.foldlM (fun db change => change db) db with
  | error error => rfl
  | ok middle => exact bind_pure (change middle)

/-- What a log with one more statement does. -/
theorem replay_concat_ok {log : List (Db → Except Error Db)} {change : Db → Except Error Db}
    {db final : Db} (replayed : replay (log ++ [change]) db = .ok final) :
    ∃ middle, replay log db = .ok middle ∧ change middle = .ok final := by
  rw [replay_concat] at replayed
  cases before : replay log db with
  | error error =>
      rw [before] at replayed
      cases replayed
  | ok middle =>
      rw [before] at replayed
      exact ⟨middle, rfl, replayed⟩

/-! ## Systems -/

/-- A transaction in flight: what is left of its code, and what it has executed. -/
structure Session (Op Db Input Error Value : Type) where
  op : Op
  rest : Transaction Db Input Error Value
  log : List (Db → Except Error Db) := []

structure Commit (Op Db Value : Type) where
  op : Op
  value : Value
  before : Db
  after : Db

/-- Sessions are named by the order in which they opened; one that has ended is
`none`. -/
structure System (Op Db Input Error Value : Type) where
  committed : Db
  sessions : List (Option (Session Op Db Input Error Value)) := []
  history : List (Commit Op Db Value) := []

inductive Action (Op Input : Type) where
  | opens (op : Op)
  | steps (name : ℕ) (input : Input)
  | aborts (name : ℕ)

namespace System

variable (system : System Op Db Input Error Value)

def session? (name : ℕ) : Option (Session Op Db Input Error Value) := system.sessions[name]?.join

def put (name : ℕ) (session : Option (Session Op Db Input Error Value)) :
    System Op Db Input Error Value :=
  { system with sessions := system.sessions.set name session }

/-- Publish what the session has executed. -/
def publish (name : ℕ) (session : Session Op Db Input Error Value) (value : Value) (next : Db) :
    System Op Db Input Error Value where
  committed := next
  sessions := system.sessions.set name none
  history := system.history ++ [⟨session.op, value, system.committed, next⟩]

/-- One step of a session. -/
def step (name : ℕ) (input : Input) : Option (System Op Db Input Error Value) :=
  match system.session? name with
  | none => none
  | some session =>
      match session.rest with
      | .done value =>
          match replay session.log system.committed with
          | .ok next => some (system.publish name session value next)
          | .error _ => some (system.put name none)
      | .raise _ => some (system.put name none)
      | .read next =>
          match replay session.log system.committed with
          | .ok view => some (system.put name (some { session with rest := next view }))
          | .error error => some (system.put name (some { session with rest := .raise error }))
      | .execute change next =>
          match replay (session.log ++ [change]) system.committed with
          | .ok _ =>
              some (system.put name
                (some { session with rest := next, log := session.log ++ [change] }))
          | .error error => some (system.put name (some { session with rest := .raise error }))
      | .draw next => some (system.put name (some { session with rest := next input }))

def perform (code : Op → Transaction Db Input Error Value) :
    Action Op Input → Option (System Op Db Input Error Value)
  | .opens op => some { system with sessions := system.sessions ++ [some { op, rest := code op }] }
  | .steps name input => system.step name input
  | .aborts name => some (system.put name none)

end System

/-- The system after `actions`, when each could be taken and met `condition` in
the state it was taken in. -/
def run (code : Op → Transaction Db Input Error Value)
    (condition : System Op Db Input Error Value → Action Op Input → Bool) :
    System Op Db Input Error Value → List (Action Op Input) →
      Option (System Op Db Input Error Value)
  | system, [] => some system
  | system, action :: rest =>
      if condition system action then
        (system.perform code action).bind fun next => run code condition next rest
      else none

/-- The condition that a session commits only where `ready` says so of the
committed state, and `apart` of every session still in flight. -/
def commitsWhen (ready : Db → Op → Bool) (apart : Db → Op → Op → Bool)
    (system : System Op Db Input Error Value) : Action Op Input → Bool
  | .steps name _ =>
      match system.session? name with
      | some ⟨op, .done _, _⟩ =>
          ready system.committed op && (system.sessions.set name none).all fun other =>
            match other with
            | some session => apart system.committed op session.op
            | none => true
      | _ => true
  | _ => true

/-- A run under no condition. -/
theorem run_unconditional (code : Op → Transaction Db Input Error Value) :
    run code (fun _ _ => true) =
      run code (commitsWhen (fun (_ : Db) (_ : Op) => true) fun _ _ _ => true : _ →
        Action Op Input → Bool) := by
  have permitted : (commitsWhen (fun (_ : Db) (_ : Op) => true) fun _ _ _ => true :
      System Op Db Input Error Value → Action Op Input → Bool) = fun _ _ => true := by
    funext system action
    unfold commitsWhen
    split
    · split
      · simp only [Bool.true_and, List.all_eq_true]
        intro other _
        cases other with
        | none => rfl
        | some session => rfl
      · rfl
    · rfl
  rw [permitted]

/-- Each commit starts from the state the one before it left. -/
def Linked : Db → List (Commit Op Db Value) → Db → Prop
  | start, [], final => start = final
  | start, commit :: rest, final => commit.before = start ∧ Linked commit.after rest final

theorem Linked.concat {start final : Db} {history : List (Commit Op Db Value)}
    (linked : Linked start history final) (commit : Commit Op Db Value)
    (continues : commit.before = final) : Linked start (history ++ [commit]) commit.after := by
  induction history generalizing start with
  | nil => exact ⟨continues.trans linked.symm, rfl⟩
  | cons earlier rest inductionHypothesis => exact ⟨linked.1, inductionHypothesis linked.2⟩

theorem Linked.split {start final : Db} {earlier later : List (Commit Op Db Value)}
    (linked : Linked start (earlier ++ later) final) :
    ∃ middle, Linked start earlier middle ∧ Linked middle later final := by
  induction earlier generalizing start with
  | nil => exact ⟨start, rfl, linked⟩
  | cons commit rest inductionHypothesis =>
      obtain ⟨middle, first, second⟩ := inductionHypothesis linked.2
      exact ⟨middle, ⟨linked.1, first⟩, second⟩

/-- What every commit preserves of the history so far and the state it has led
to holds at the end. -/
theorem Linked.preserves {start final : Db} {history : List (Commit Op Db Value)}
    (invariant : List (Commit Op Db Value) → Db → Prop) (linked : Linked start history final)
    (initially : invariant [] start)
    (preserved : ∀ earlier commit, commit ∈ history → invariant earlier commit.before →
      invariant (earlier ++ [commit]) commit.after) : invariant history final := by
  have onward : ∀ earlier later db, (∀ commit ∈ later, commit ∈ history) → Linked db later final →
      invariant earlier db → invariant (earlier ++ later) final := by
    intro earlier later
    induction later generalizing earlier with
    | nil =>
        intro db _ same holds
        rw [List.append_nil, ← same]
        exact holds
    | cons commit rest inductionHypothesis =>
        intro db members link holds
        have stepped := preserved earlier commit (members commit List.mem_cons_self)
          (link.1.symm ▸ holds)
        have rested := inductionHypothesis (earlier ++ [commit]) commit.after
          (fun later member => members later (List.mem_cons_of_mem _ member)) link.2 stepped
        rw [List.append_assoc] at rested
        exact rested
  exact onward [] history start (fun _ member => member) linked initially

/-- What holds at the start and after every commit holds before every commit. -/
theorem Linked.before {start final : Db} {history : List (Commit Op Db Value)}
    (linked : Linked start history final) {good : Db → Prop} (initially : good start)
    (after : ∀ commit ∈ history, good commit.after) :
    good final ∧ ∀ commit ∈ history, good commit.before := by
  induction history generalizing start with
  | nil =>
      refine ⟨linked ▸ initially, ?_⟩
      intro commit absurdity
      cases absurdity
  | cons first rest inductionHypothesis =>
      obtain ⟨last, restBefore⟩ := inductionHypothesis linked.2 (after first List.mem_cons_self)
        fun commit member => after commit (List.mem_cons_of_mem _ member)
      refine ⟨last, ?_⟩
      intro commit member
      rcases List.mem_cons.mp member with rfl | later
      · exact linked.1.symm ▸ initially
      · exact restBefore commit later

/-! ## What a transaction has established when it commits -/

/-- `post` holds of the value, of what was executed, and of what is known of the
committed state then. At each read and statement the transaction learns the
committed state of that moment, which is `rely`-related to every later one. -/
def Wp (valid : Db → Prop) (rely : Db → Db → Prop) : Transaction Db Input Error α →
    (post : α → List (Db → Except Error Db) → (Db → Prop) → Prop) →
      List (Db → Except Error Db) → (Db → Prop) → Prop
  | .done value, post, log, known => post value log known
  | .raise _, _, _, _ => True
  | .read next, post, log, known => ∀ db view, valid db → known db → replay log db = .ok view →
      Wp valid rely (next view) post log fun later => known later ∧ rely db later
  | .execute change next, post, log, known => ∀ db view, valid db → known db →
      replay (log ++ [change]) db = .ok view →
        Wp valid rely next post (log ++ [change]) fun later => known later ∧ rely db later
  | .draw next, post, log, known => ∀ input, Wp valid rely (next input) post log known

section Rules

variable {valid : Db → Prop} {rely : Db → Db → Prop} {log : List (Db → Except Error Db)}
  {known : Db → Prop} {post : α → List (Db → Except Error Db) → (Db → Prop) → Prop}

@[simp] theorem wp_pure (value : α) :
    Wp valid rely (pure value : Transaction Db Input Error α) post log known ↔
      post value log known := Iff.rfl

@[simp] theorem wp_raise (error : Error) :
    Wp valid rely (.raise error : Transaction Db Input Error α) post log known := trivial

theorem wp_bind (first : Transaction Db Input Error β)
    (next : β → Transaction Db Input Error α) :
    Wp valid rely (first >>= next) post log known ↔ Wp valid rely first
      (fun value log known => Wp valid rely (next value) post log known) log known := by
  show Wp valid rely (first.bind next) post log known ↔ _
  induction first generalizing log known with
  | done value => exact Iff.rfl
  | raise error => exact Iff.rfl
  | read onward inductionHypothesis =>
      simp only [Transaction.bind, Wp, inductionHypothesis]
  | execute change onward inductionHypothesis =>
      simp only [Transaction.bind, Wp, inductionHypothesis]
  | draw onward inductionHypothesis =>
      simp only [Transaction.bind, Wp, inductionHypothesis]

theorem wp_query (view : Db → α) :
    Wp valid rely (query view : Transaction Db Input Error α) post log known ↔
      ∀ db seen, valid db → known db → replay log db = .ok seen →
        post (view seen) log fun later => known later ∧ rely db later := Iff.rfl

theorem wp_statement {post : Unit → List (Db → Except Error Db) → (Db → Prop) → Prop}
    (change : Db → Except Error Db) :
    Wp valid rely (statement change : Transaction Db Input Error Unit) post log known ↔
      ∀ db seen, valid db → known db → replay (log ++ [change]) db = .ok seen →
        post () (log ++ [change]) fun later => known later ∧ rely db later := Iff.rfl

@[simp] theorem wp_ask (view : Input → α) :
    Wp valid rely (ask view : Transaction Db Input Error α) post log known ↔
      ∀ input, post (view input) log known := Iff.rfl

theorem wp_lift (outcome : Except Error α) :
    Wp valid rely (lift outcome : Transaction Db Input Error α) post log known ↔
      ∀ value, outcome = .ok value → post value log known := by
  cases outcome with
  | ok value =>
      show post value log known ↔ _
      simp
  | error error => simp [lift]

theorem Wp.mono {code : Transaction Db Input Error α}
    {weaker : α → List (Db → Except Error Db) → (Db → Prop) → Prop}
    (wp : Wp valid rely code post log known)
    (implied : ∀ value log known, post value log known → weaker value log known) :
    Wp valid rely code weaker log known := by
  induction code generalizing log known with
  | done value => exact implied value log known wp
  | raise error => exact trivial
  | read next inductionHypothesis =>
      intro db view stored holds replayed
      exact inductionHypothesis view (wp db view stored holds replayed)
  | execute change next inductionHypothesis =>
      intro db view stored holds replayed
      exact inductionHypothesis (wp db view stored holds replayed)
  | draw next inductionHypothesis =>
      intro input
      exact inductionHypothesis input (wp input)

/-- A loop preserves what it needs for the items still to come. -/
theorem wp_forItems {body : ι → Transaction Db Input Error Unit} {items : List ι}
    {post : Unit → List (Db → Except Error Db) → (Db → Prop) → Prop}
    (invariant : List ι → List (Db → Except Error Db) → (Db → Prop) → Prop)
    (initially : invariant items log known)
    (step : ∀ item rest log known, invariant (item :: rest) log known →
      Wp valid rely (body item) (fun _ log known => invariant rest log known) log known)
    (finally_ : ∀ log known, invariant [] log known → post () log known) :
    Wp valid rely (forItems body items) post log known := by
  induction items generalizing log known with
  | nil => exact finally_ log known initially
  | cons item rest inductionHypothesis =>
      rw [forItems]
      apply (wp_bind _ _).mpr
      apply (step item rest log known initially).mono
      intro _ later laterKnown kept
      exact inductionHypothesis kept

/-- A later point of the same transaction: nothing known is lost, and what has
been executed since does what `related` says. -/
structure Extends (log : List (Db → Except Error Db)) (known : Db → Prop)
    (later : List (Db → Except Error Db)) (laterKnown : Db → Prop) (related : Db → Db → Prop) :
    Prop where
  known : ∀ db, laterKnown db → known db
  replayed : ∀ db final, replay later db = .ok final →
    ∃ middle, replay log db = .ok middle ∧ related middle final

theorem Extends.rfl : Extends log known log known Eq :=
  ⟨fun _ holds => holds, fun _ final replayed => ⟨final, replayed, Eq.refl final⟩⟩

theorem Extends.mono {related weaker : Db → Db → Prop} {later : List (Db → Except Error Db)}
    {laterKnown : Db → Prop} (extends_ : Extends log known later laterKnown related)
    (implied : ∀ db final, related db final → weaker db final) :
    Extends log known later laterKnown weaker where
  known := extends_.known
  replayed := by
    intro db final replayed
    obtain ⟨middle, before, holds⟩ := extends_.replayed db final replayed
    exact ⟨middle, before, implied middle final holds⟩

theorem Extends.concat {related : Db → Db → Prop} {later : List (Db → Except Error Db)}
    {laterKnown : Db → Prop} (extends_ : Extends log known later laterKnown related)
    (change : Db → Except Error Db) (further : Db → Prop)
    (weaker : ∀ db, further db → laterKnown db) (next : Db → Db → Prop)
    (step : ∀ db middle final, related db middle → change middle = .ok final → next db final) :
    Extends log known (later ++ [change]) further next where
  known := fun db holds => extends_.known db (weaker db holds)
  replayed := by
    intro db final replayed
    obtain ⟨middle, before, changed⟩ := replay_concat_ok replayed
    obtain ⟨earlier, start, holds⟩ := extends_.replayed db middle before
    exact ⟨earlier, start, step earlier middle final holds changed⟩

end Rules

/-! ## Protocols -/

/-- What transactions keep of each other. `valid` is an invariant of the
committed state; `rely op` is how the others may change it while an `op` is in
flight; `guarantee op` is what a commit of an `op` does. -/
structure Protocol (Op Db Value : Type) where
  valid : Db → Prop
  rely : Op → Db → Db → Prop
  guarantee : Op → Value → Db → Db → Prop
  reflexive : ∀ op db, rely op db db
  transitive : ∀ op a b c, rely op a b → rely op b c → rely op a c

/-- Each transaction keeps the protocol in runs whose commits are `ready` and
`apart` from those in flight. -/
structure Protocol.Kept (protocol : Protocol Op Db Value)
    (code : Op → Transaction Db Input Error Value) (ready : Db → Op → Bool)
    (apart : Db → Op → Op → Bool) : Prop where
  meets : ∀ op, Wp protocol.valid (protocol.rely op) (code op)
    (fun value log known => ∀ db next, protocol.valid db → known db → ready db op = true →
      replay log db = .ok next → protocol.guarantee op value db next) [] fun _ => True
  keeps : ∀ op value db next, protocol.valid db → ready db op = true →
    protocol.guarantee op value db next → protocol.valid next
  respects : ∀ op other value db next, protocol.valid db → ready db op = true →
    apart db op other = true → protocol.guarantee op value db next → protocol.rely other db next

section Soundness

variable {protocol : Protocol Op Db Value} {code : Op → Transaction Db Input Error Value}
  {ready : Db → Op → Bool} {apart : Db → Op → Op → Bool}
  {system next : System Op Db Input Error Value}

/-- What is established of a session in flight: some knowledge that holds now,
survives what it relies on, and is enough for the rest of its code. -/
def Established (protocol : Protocol Op Db Value) (ready : Db → Op → Bool) (committed : Db)
    (session : Session Op Db Input Error Value) : Prop :=
  ∃ known : Db → Prop, known committed ∧
    (∀ db later, known db → protocol.rely session.op db later → known later) ∧
    Wp protocol.valid (protocol.rely session.op) session.rest
      (fun value log known => ∀ db next, protocol.valid db → known db →
        ready db session.op = true → replay log db = .ok next →
          protocol.guarantee session.op value db next) session.log known

theorem Established.later {committed : Db} {session : Session Op Db Input Error Value}
    (established : Established protocol ready committed session) {later : Db}
    (changed : protocol.rely session.op committed later) :
    Established protocol ready later session := by
  obtain ⟨known, holds, stable, wp⟩ := established
  exact ⟨known, stable committed later holds changed, stable, wp⟩

/-- A commit that meets the protocol. -/
def Commit.Meets (protocol : Protocol Op Db Value) (ready : Db → Op → Bool)
    (commit : Commit Op Db Value) : Prop :=
  protocol.valid commit.before ∧ ready commit.before commit.op = true ∧
    protocol.guarantee commit.op commit.value commit.before commit.after

/-- What holds of every system a run reaches. -/
structure Sound (protocol : Protocol Op Db Value) (ready : Db → Op → Bool) (start : Db)
    (system : System Op Db Input Error Value) : Prop where
  valid : protocol.valid system.committed
  established : ∀ session, some session ∈ system.sessions →
    Established protocol ready system.committed session
  history : ∀ commit ∈ system.history, commit.Meets protocol ready
  linked : Linked start system.history system.committed

theorem System.mem_of_session? {name : ℕ} {session : Session Op Db Input Error Value}
    (found : system.session? name = some session) : some session ∈ system.sessions := by
  unfold session? at found
  rw [Option.join_eq_some_iff] at found
  exact List.mem_of_getElem? found

theorem Sound.put {start : Db} (sound : Sound protocol ready start system) (name : ℕ)
    (session : Option (Session Op Db Input Error Value))
    (established : ∀ inFlight, session = some inFlight →
      Established protocol ready system.committed inFlight) :
    Sound protocol ready start (system.put name session) where
  valid := sound.valid
  history := sound.history
  linked := sound.linked
  established := by
    intro other member
    rcases List.mem_or_eq_of_mem_set member with before | same
    · exact sound.established other before
    · exact established other same.symm

/-- Step: what a permitted action preserves. -/
theorem Sound.step {start : Db} (kept : protocol.Kept code ready apart)
    (sound : Sound protocol ready start system) {name : ℕ} {input : Input}
    (permitted : commitsWhen ready apart system (.steps name input : Action Op Input) = true)
    (taken : system.step name input = some next) : Sound protocol ready start next := by
  unfold System.step at taken
  cases found : system.session? name with
  | none =>
      rw [found] at taken
      cases taken
  | some session =>
      obtain ⟨known, holds, stable, wp⟩ :=
        sound.established session (System.mem_of_session? found)
      rcases session with ⟨op, rest, log⟩
      rw [found] at taken
      have learned : ∀ db later, known db ∧ protocol.rely op system.committed db →
          protocol.rely op db later → known later ∧ protocol.rely op system.committed later :=
        fun db later both changed =>
          ⟨stable db later both.1 changed, protocol.transitive op _ _ _ both.2 changed⟩
      have raising : ∀ error, Established protocol ready system.committed
          (⟨op, .raise error, log⟩ : Session Op Db Input Error Value) :=
        fun error => ⟨known, holds, stable, trivial⟩
      have closed : Sound protocol ready start (system.put name none) := by
        apply sound.put
        intro inFlight absurdity
        cases absurdity
      cases rest with
      | done value =>
          cases replayed : replay log system.committed with
          | error error =>
              simp only [replayed] at taken
              cases taken
              exact closed
          | ok after =>
              simp only [replayed] at taken
              cases taken
              simp only [commitsWhen, found, Bool.and_eq_true, List.all_eq_true] at permitted
              have guaranteed := wp system.committed after sound.valid holds permitted.1 replayed
              exact
                { valid := kept.keeps op value _ after sound.valid permitted.1 guaranteed
                  established := by
                    intro other member
                    have stored : some other ∈ system.sessions := by
                      rcases List.mem_or_eq_of_mem_set member with before | same
                      · exact before
                      · cases same
                    apply (sound.established other stored).later
                    exact kept.respects op other.op value _ after sound.valid permitted.1
                      (permitted.2 (some other) member) guaranteed
                  history := by
                    intro commit member
                    rcases List.mem_append.mp member with earlier | new
                    · exact sound.history commit earlier
                    · rw [List.mem_singleton.mp new]
                      exact ⟨sound.valid, permitted.1, guaranteed⟩
                  linked := sound.linked.concat ⟨op, value, system.committed, after⟩ rfl }
      | raise error =>
          cases taken
          exact closed
      | read onward =>
          cases replayed : replay log system.committed with
          | error error =>
              simp only [replayed] at taken
              cases taken
              apply sound.put
              intro inFlight same
              cases same
              exact raising error
          | ok view =>
              simp only [replayed] at taken
              cases taken
              apply sound.put
              intro inFlight same
              cases same
              exact ⟨_, ⟨holds, protocol.reflexive op _⟩, learned,
                wp system.committed view sound.valid holds replayed⟩
      | execute change onward =>
          cases replayed : replay (log ++ [change]) system.committed with
          | error error =>
              simp only [replayed] at taken
              cases taken
              apply sound.put
              intro inFlight same
              cases same
              exact raising error
          | ok view =>
              simp only [replayed] at taken
              cases taken
              apply sound.put
              intro inFlight same
              cases same
              exact ⟨_, ⟨holds, protocol.reflexive op _⟩, learned,
                wp system.committed view sound.valid holds replayed⟩
      | draw onward =>
          cases taken
          apply sound.put
          intro inFlight same
          cases same
          exact ⟨known, holds, stable, wp input⟩

theorem Sound.perform {start : Db} (kept : protocol.Kept code ready apart)
    (sound : Sound protocol ready start system) (action : Action Op Input)
    (permitted : commitsWhen ready apart system action = true)
    (taken : system.perform code action = some next) : Sound protocol ready start next := by
  cases action with
  | opens op =>
      cases taken
      refine ⟨sound.valid, ?_, sound.history, sound.linked⟩
      intro session member
      rcases List.mem_append.mp member with before | new
      · exact sound.established session before
      · cases List.mem_singleton.mp new
        exact ⟨fun _ => True, trivial, fun _ _ _ _ => trivial, kept.meets op⟩
  | steps name input => exact sound.step kept permitted taken
  | aborts name =>
      cases taken
      apply sound.put
      intro inFlight absurdity
      cases absurdity

theorem Sound.run {start : Db} (kept : protocol.Kept code ready apart)
    (sound : Sound protocol ready start system) {actions : List (Action Op Input)}
    {final : System Op Db Input Error Value}
    (reached : run code (commitsWhen ready apart) system actions = some final) :
    Sound protocol ready start final := by
  induction actions generalizing system with
  | nil =>
      cases reached
      exact sound
  | cons action rest inductionHypothesis =>
      unfold Transaction.run at reached
      split at reached
      · rename_i permitted
        obtain ⟨next, taken, rested⟩ := Option.bind_eq_some_iff.mp reached
        exact inductionHypothesis (sound.perform kept action permitted taken) rested
      · cases reached

/-- Every run from a valid state whose commits are permitted keeps the protocol. -/
theorem history_meets (kept : protocol.Kept code ready apart) {start : Db}
    (valid : protocol.valid start) {actions : List (Action Op Input)}
    {final : System Op Db Input Error Value}
    (reached : run code (commitsWhen ready apart) ⟨start, [], []⟩ actions = some final) :
    Sound protocol ready start final := by
  have initially : Sound protocol ready start (⟨start, [], []⟩ : System Op Db Input Error Value) :=
    { valid
      established := by
        intro session absurdity
        cases absurdity
      history := by
        intro commit absurdity
        cases absurdity
      linked := rfl }
  exact initially.run kept reached

end Soundness

/-! ## What a transaction does when nothing overtakes it -/

/-- Run on `db` with any inputs that are usable, the transaction raises nothing, no
statement of it is refused, and `post` holds of its value and the state it leaves. -/
def Ends (usable : Input → Prop) : Transaction Db Input Error α → Db → (α → Db → Prop) → Prop
  | .done value, db, post => post value db
  | .raise _, _, _ => False
  | .read next, db, post => Ends usable (next db) db post
  | .execute change next, db, post => ∃ changed, change db = .ok changed ∧
      Ends usable next changed post
  | .draw next, db, post => ∀ input, usable input → Ends usable (next input) db post

section Ending

variable {usable : Input → Prop} {db : Db} {post : α → Db → Prop}

theorem ends_bind {first : Transaction Db Input Error β}
    {next : β → Transaction Db Input Error α} :
    Ends usable (first >>= next) db post ↔
      Ends usable first db fun value middle => Ends usable (next value) middle post := by
  show Ends usable (first.bind next) db post ↔ _
  induction first generalizing db with
  | done value => exact Iff.rfl
  | raise error => exact Iff.rfl
  | read onward inductionHypothesis =>
      simp only [Transaction.bind, Ends, inductionHypothesis]
  | execute change onward inductionHypothesis =>
      simp only [Transaction.bind, Ends, inductionHypothesis]
  | draw onward inductionHypothesis =>
      simp only [Transaction.bind, Ends, inductionHypothesis]

theorem ends_pure (value : α) :
    Ends usable (pure value : Transaction Db Input Error α) db post ↔ post value db := Iff.rfl

theorem ends_query (view : Db → α) :
    Ends usable (query view : Transaction Db Input Error α) db post ↔ post (view db) db := Iff.rfl

theorem ends_statement {post : Unit → Db → Prop} (change : Db → Except Error Db) :
    Ends usable (statement change : Transaction Db Input Error Unit) db post ↔
      ∃ changed, change db = .ok changed ∧ post () changed := Iff.rfl

theorem ends_ask (view : Input → α) :
    Ends usable (ask view : Transaction Db Input Error α) db post ↔
      ∀ input, usable input → post (view input) db := Iff.rfl

theorem ends_lift {computed : Except Error α} {value : α} (isValue : computed = .ok value) :
    Ends usable (lift computed : Transaction Db Input Error α) db post ↔ post value db := by
  rw [isValue]
  exact Iff.rfl

/-- A session that opens and takes its steps ends in its commit. The others in flight
stay where they are. -/
theorem Ends.run {code : Op → Transaction Db Input Error Value} {op : Op}
    {post : Value → Db → Prop} (system : System Op Db Input Error Value)
    (ends : Ends usable (code op) system.committed post) {supply : ℕ → Input}
    (supplied : ∀ index, usable (supply index)) :
    ∃ count value next, post value next ∧
      run code (fun _ _ => true) system (.opens op ::
        (List.range count).map fun index => .steps system.sessions.length (supply index)) =
      some ⟨next, system.sessions ++ [none],
        system.history ++ [⟨op, value, system.committed, next⟩]⟩ := by
  -- The induction is on what is left of the code, after the statements in `log`.
  have onward : ∀ (rest : Transaction Db Input Error Value) (log : List (Db → Except Error Db))
      (working : Db) (supply : ℕ → Input), (∀ index, usable (supply index)) →
      replay log system.committed = .ok working → Ends usable rest working post →
      ∃ count value next, post value next ∧
        Transaction.run code (fun _ _ => true)
          { system with sessions := system.sessions ++ [some ⟨op, rest, log⟩] }
          ((List.range count).map fun index => .steps system.sessions.length (supply index)) =
        some ⟨next, system.sessions ++ [none],
          system.history ++ [⟨op, value, system.committed, next⟩]⟩ := by
    intro rest
    induction rest with
    | done value =>
        intro log working supply _ executed ended
        refine ⟨1, value, working, ended, ?_⟩
        simp [Transaction.run, System.perform, System.step, System.session?, System.publish,
          executed]
    | raise error =>
        intro log working supply _ _ absurdity
        cases absurdity
    | read next inductionHypothesis =>
        intro log working supply supplied executed ended
        obtain ⟨count, value, after, holds, reached⟩ := inductionHypothesis working log working
          (fun index => supply (index + 1)) (fun index => supplied _) executed ended
        refine ⟨count + 1, value, after, holds, ?_⟩
        rw [List.range_succ_eq_map, List.map_cons, List.map_map]
        simpa [Transaction.run, System.perform, System.step, System.session?, System.put,
          executed, Function.comp_def] using reached
    | execute change next inductionHypothesis =>
        intro log working supply supplied executed ended
        obtain ⟨changed, isChanged, ended⟩ := ended
        have replayed : replay (log ++ [change]) system.committed = .ok changed := by
          rw [replay_concat, executed]
          exact isChanged
        obtain ⟨count, value, after, holds, reached⟩ := inductionHypothesis (log ++ [change])
          changed (fun index => supply (index + 1)) (fun index => supplied _) replayed ended
        refine ⟨count + 1, value, after, holds, ?_⟩
        rw [List.range_succ_eq_map, List.map_cons, List.map_map]
        simpa [Transaction.run, System.perform, System.step, System.session?, System.put,
          replayed, Function.comp_def] using reached
    | draw next inductionHypothesis =>
        intro log working supply supplied executed ended
        obtain ⟨count, value, after, holds, reached⟩ := inductionHypothesis (supply 0) log working
          (fun index => supply (index + 1)) (fun index => supplied _) executed
          (ended (supply 0) (supplied 0))
        refine ⟨count + 1, value, after, holds, ?_⟩
        rw [List.range_succ_eq_map, List.map_cons, List.map_map]
        simpa [Transaction.run, System.perform, System.step, System.session?, System.put,
          Function.comp_def] using reached
  obtain ⟨count, value, next, holds, reached⟩ :=
    onward (code op) [] system.committed supply supplied rfl ends
  exact ⟨count, value, next, holds, by simpa [Transaction.run, System.perform] using reached⟩

end Ending

attribute [irreducible] Ends

/-! ## One after the other -/

/-- The transaction with nothing else in flight; the inputs are drawn in order. -/
def alone : Transaction Db Input Error α → (ℕ → Input) → Db → Except Error (α × Db)
  | .done value, _, db => .ok (value, db)
  | .raise error, _, _ => .error error
  | .read next, inputs, db => (next db).alone inputs db
  | .execute change next, inputs, db => (change db).bind fun changed => next.alone inputs changed
  | .draw next, inputs, db => (next (inputs 0)).alone (fun index => inputs (index + 1)) db

theorem alone_query_bind (view : Db → β) (next : β → Transaction Db Input Error α)
    (inputs : ℕ → Input) (db : Db) :
    (query view >>= next).alone inputs db = (next (view db)).alone inputs db := rfl

theorem alone_statement_bind (change : Db → Except Error Db)
    (next : Unit → Transaction Db Input Error α) (inputs : ℕ → Input) (db : Db) :
    (statement change >>= next).alone inputs db =
      (change db).bind fun changed => (next ()).alone inputs changed := rfl

theorem lift_ok_bind (value : β) (next : β → Transaction Db Input Error α) :
    (lift (.ok value : Except Error β) >>= next) = next value := rfl

theorem lift_error_bind (error : Error) (next : β → Transaction Db Input Error α) :
    (lift (.error error : Except Error β) >>= next) = .raise error := rfl

/-- Requests served in turn: the commits, and the state they lead to. A request
that raises leaves the state as it was. -/
def serial (code : Op → Transaction Db Input Error Value) :
    Db → List (Op × (ℕ → Input)) → List (Commit Op Db Value) × Db
  | db, [] => ([], db)
  | db, (op, inputs) :: rest =>
      match (code op).alone inputs db with
      | .ok (value, after) =>
          let (commits, final) := serial code after rest
          (⟨op, value, db, after⟩ :: commits, final)
      | .error _ => serial code db rest

section Serial

variable {code : Op → Transaction Db Input Error Value} {start after : Db} {op : Op}
  {inputs : ℕ → Input} {value : Value} {error : Error}

theorem serial_of_ok (ended : (code op).alone inputs start = .ok (value, after))
    (rest : List (Op × (ℕ → Input))) : serial code start ((op, inputs) :: rest) =
      (⟨op, value, start, after⟩ :: (serial code after rest).1, (serial code after rest).2) := by
  rw [serial, ended]

theorem serial_of_error (failed : (code op).alone inputs start = .error error)
    (rest : List (Op × (ℕ → Input))) :
    serial code start ((op, inputs) :: rest) = serial code start rest := by
  rw [serial, failed]

/-- A commit of a list of requests is of the first at the start, or of the others
where the first has left off. -/
theorem mem_serial_cons {rest : List (Op × (ℕ → Input))} {commit : Commit Op Db Value}
    (member : commit ∈ (serial code start ((op, inputs) :: rest)).1) :
    (commit.op = op ∧ commit.before = start) ∨
      commit ∈ (serial code (serial code start [(op, inputs)]).2 rest).1 := by
  cases ended : (code op).alone inputs start with
  | error error =>
      rw [serial_of_error ended] at member ⊢
      exact Or.inr member
  | ok outcome =>
      obtain ⟨made, after⟩ := outcome
      rw [serial_of_ok ended] at member ⊢
      rcases List.mem_cons.mp member with isFirst | later
      · rw [isFirst]
        exact Or.inl ⟨rfl, rfl⟩
      · exact Or.inr later

end Serial

theorem serial_append (code : Op → Transaction Db Input Error Value) (start : Db)
    (earlier later : List (Op × (ℕ → Input))) :
    serial code start (earlier ++ later) =
      ((serial code start earlier).1 ++ (serial code (serial code start earlier).2 later).1,
        (serial code (serial code start earlier).2 later).2) := by
  induction earlier generalizing start with
  | nil => rfl
  | cons request rest inductionHypothesis =>
      obtain ⟨op, inputs⟩ := request
      rw [List.cons_append]
      cases ended : (code op).alone inputs start with
      | error error =>
          rw [serial_of_error ended, serial_of_error ended, inductionHypothesis]
      | ok result =>
          obtain ⟨value, after⟩ := result
          rw [serial_of_ok ended, serial_of_ok ended, inductionHypothesis]
          rfl

/-- What is established of a transaction holds of it alone. -/
theorem Wp.alone {valid : Db → Prop} {code : Transaction Db Input Error α} {start : Db}
    (stored : valid start) {log : List (Db → Except Error Db)} {known : Db → Prop}
    {post : α → List (Db → Except Error Db) → (Db → Prop) → Prop}
    (wp : Wp valid Eq code post log known) (holds : known start) {inputs : ℕ → Input}
    {working final : Db} {value : α} (executed : replay log start = .ok working)
    (ended : code.alone inputs working = .ok (value, final)) :
    ∃ laterLog laterKnown, post value laterLog laterKnown ∧ laterKnown start ∧
      replay laterLog start = .ok final := by
  induction code generalizing log known inputs working with
  | done result =>
      cases ended
      exact ⟨log, known, wp, holds, executed⟩
  | raise error => cases ended
  | read next inductionHypothesis =>
      exact inductionHypothesis working (wp start working stored holds executed) ⟨holds, rfl⟩
        executed ended
  | execute change next inductionHypothesis =>
      unfold Transaction.alone at ended
      cases changed : change working with
      | error error =>
          rw [changed] at ended
          cases ended
      | ok after =>
          rw [changed] at ended
          have concatenated : replay (log ++ [change]) start = .ok after := by
            rw [replay_concat, executed]
            exact changed
          exact inductionHypothesis (wp start after stored holds concatenated) ⟨holds, rfl⟩
            concatenated ended
  | draw next inductionHypothesis =>
      exact inductionHypothesis (inputs 0) (wp (inputs 0)) holds executed ended

/-- Requests served in turn keep an invariant, and each commit does what is
established of its code. -/
theorem serial_meets {valid : Db → Prop} {guarantee : Op → Value → Db → Db → Prop}
    {code : Op → Transaction Db Input Error Value}
    (meets : ∀ op, Wp valid Eq (code op) (fun value log known => ∀ db next, valid db → known db →
      replay log db = .ok next → guarantee op value db next) [] fun _ => True)
    (keeps : ∀ op value db next, valid db → guarantee op value db next → valid next)
    {start : Db} (stored : valid start) (requests : List (Op × (ℕ → Input))) :
    valid (serial code start requests).2 ∧
      Linked start (serial code start requests).1 (serial code start requests).2 ∧
      ∀ commit ∈ (serial code start requests).1,
        valid commit.before ∧ guarantee commit.op commit.value commit.before commit.after := by
  induction requests generalizing start with
  | nil =>
      refine ⟨stored, rfl, ?_⟩
      intro commit absurdity
      cases absurdity
  | cons request rest inductionHypothesis =>
      obtain ⟨op, inputs⟩ := request
      unfold serial
      cases ended : (code op).alone inputs start with
      | error error => exact inductionHypothesis stored
      | ok result =>
          obtain ⟨value, after⟩ := result
          obtain ⟨log, known, established, holds, replayed⟩ :=
            (meets op).alone stored trivial rfl ended
          have guaranteed := established start after stored holds replayed
          obtain ⟨valid, linked, history⟩ :=
            inductionHypothesis (keeps op value start after stored guaranteed)
          refine ⟨valid, ⟨rfl, linked⟩, ?_⟩
          intro commit member
          rcases List.mem_cons.mp member with first | later
          · rw [first]
            exact ⟨stored, guaranteed⟩
          · exact history commit later

/-- Requests served in turn keep a property in every state exactly where each commit
meets the condition under which it keeps the property. -/
theorem serial_always_iff {valid always : Db → Prop} {guarantee : Op → Value → Db → Db → Prop}
    {condition : Op → Db → Prop} {code : Op → Transaction Db Input Error Value}
    (meets : ∀ op, Wp valid Eq (code op) (fun value log known => ∀ db next, valid db → known db →
      replay log db = .ok next → guarantee op value db next) [] fun _ => True)
    (keeps : ∀ op value db next, valid db → guarantee op value db next → valid next)
    (step : ∀ op value db next, guarantee op value db next → always db →
      (always next ↔ condition op db))
    {start : Db} (stored : valid start) (initially : always start)
    (requests : List (Op × (ℕ → Input))) :
    (∀ earlier later, requests = earlier ++ later → always (serial code start earlier).2) ↔
      ∀ commit ∈ (serial code start requests).1, condition commit.op commit.before := by
  induction requests generalizing start with
  | nil =>
      constructor
      · intro _ commit absurdity
        cases absurdity
      · intro _ earlier later split
        rw [(List.append_eq_nil_iff.mp split.symm).1]
        exact initially
  | cons request rest inductionHypothesis =>
      obtain ⟨op, inputs⟩ := request
      have split_cons : ∀ {always' : List (Op × (ℕ → Input)) → Prop}, always' [] →
          ((∀ earlier later, (op, inputs) :: rest = earlier ++ later → always' earlier) ↔
            ∀ earlier later, rest = earlier ++ later → always' ((op, inputs) :: earlier)) := by
        intro always' first
        constructor
        · intro each earlier later split
          exact each _ later (by rw [split]; rfl)
        · intro each earlier later split
          cases earlier with
          | nil => exact first
          | cons head tail =>
              obtain ⟨rfl, rested⟩ := List.cons_eq_cons.mp split
              exact each tail later rested
      rw [@split_cons (fun earlier => always (serial code start earlier).2) initially]
      cases ended : (code op).alone inputs start with
      | error error =>
          simp only [serial_of_error ended]
          exact inductionHypothesis stored initially
      | ok result =>
          obtain ⟨value, after⟩ := result
          obtain ⟨log, known, established, holds, replayed⟩ :=
            (meets op).alone stored trivial rfl ended
          have guaranteed := established start after stored holds replayed
          have here := step op value start after guaranteed initially
          simp only [serial_of_ok ended, List.forall_mem_cons]
          by_cases still : always after
          · rw [inductionHypothesis (keeps op value start after stored guaranteed) still]
            exact ⟨fun later => ⟨here.mp still, later⟩, And.right⟩
          · constructor
            · intro each
              exact absurd (each [] rest rfl) still
            · rintro ⟨met, _⟩
              exact absurd (here.mpr met) still

-- Programs are reasoned about by the rules above only.
attribute [irreducible] Wp

end Transaction

end UrjaSetu.Library
