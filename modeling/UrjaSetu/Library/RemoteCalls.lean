import Mathlib.Logic.Relation

/-!
Programs that keep a record of their own and call a server over a connection
that may fail.

A call fails before the server has acted, or after it with the reply lost, or
returns the reply. Between the calls the server changes by itself. `Always` says
what holds however a program ends, for every such course of events.

Owns: the programs, and one rule for each way of building them.
-/

namespace UrjaSetu.Library

/-- What is left of a program: it has returned, has raised, or waits for a reply.
Each holds the record as it is then. -/
inductive Remote (Local Request : Type) (Reply : Request → Type) (α : Type) where
  | done (kept : Local) (value : α)
  | raise (kept : Local) (message : String)
  | call (kept : Local) (request : Request) (next : Reply request → Remote Local Request Reply α)

namespace Remote

variable {Local Request Server α β : Type} {Reply : Request → Type}

/-- The record as it is now. -/
def kept : Remote Local Request Reply α → Local
  | .done kept _ => kept
  | .raise kept _ => kept
  | .call kept _ _ => kept

/-- Continue where `first` returns. -/
def bind (first : Remote Local Request Reply α) (next : α → Local → Remote Local Request Reply β) :
    Remote Local Request Reply β :=
  match first with
  | .done kept value => next value kept
  | .raise kept message => .raise kept message
  | .call kept request onward => .call kept request fun reply => (onward reply).bind next

/-- A program on a record. -/
def Script (Local Request : Type) (Reply : Request → Type) (α : Type) : Type :=
  Local → Remote Local Request Reply α

instance : Monad (Script Local Request Reply) where
  pure value := fun kept => .done kept value
  bind first next := fun kept => (first kept).bind next

namespace Script

/-- The record. -/
def get : Script Local Request Reply Local := fun kept => .done kept kept

/-- Assign to the record. -/
def modify (change : Local → Local) : Script Local Request Reply Unit := fun kept =>
  .done (change kept) ()

def raise (message : String) : Script Local Request Reply α := fun kept => .raise kept message

def request (request : Request) : Script Local Request Reply (Reply request) := fun kept =>
  .call kept request fun reply => .done kept reply

end Script

/-! ## Every course of events -/

section Always

variable (serves : (request : Request) → Server → Reply request → Server → Prop)
  (rely : Server → Server → Prop) (fails : Prop)

/-- However the program ends, it ends as said. The server answers by `serves` and
changes by `rely`; calls fail where `fails`. -/
def Always (returns : Local → α → Server → Prop) (raises : Local → String → Server → Prop) :
    Remote Local Request Reply α → Server → Prop
  | .done kept value, server => returns kept value server
  | .raise kept message, server => raises kept message server
  | .call kept request next, server => ∀ later, rely server later →
      (fails → ∀ message, raises kept message later) ∧
      ∀ reply after, serves request later reply after →
        (fails → ∀ message, raises kept message after) ∧ Always returns raises (next reply) after

variable {serves rely fails} {returns : Local → α → Server → Prop}
  {raises : Local → String → Server → Prop} {server : Server}

theorem always_bind (first : Remote Local Request Reply β)
    (next : β → Local → Remote Local Request Reply α) :
    Always serves rely fails returns raises (first.bind next) server ↔
      Always serves rely fails
        (fun kept value after => Always serves rely fails returns raises (next value kept) after)
        raises first server := by
  induction first generalizing server with
  | done kept value => rfl
  | raise kept message => rfl
  | call kept request onward inductionHypothesis =>
      simp only [bind, Always, inductionHypothesis]

theorem Always.mono {program : Remote Local Request Reply α}
    {weakerReturns : Local → α → Server → Prop} {weakerRaises : Local → String → Server → Prop}
    (always : Always serves rely fails returns raises program server)
    (onReturn : ∀ kept value after, returns kept value after → weakerReturns kept value after)
    (onRaise : ∀ kept message after, raises kept message after → weakerRaises kept message after) :
    Always serves rely fails weakerReturns weakerRaises program server := by
  induction program generalizing server with
  | done kept value => exact onReturn kept value server always
  | raise kept message => exact onRaise kept message server always
  | call kept request next inductionHypothesis =>
      intro later changed
      obtain ⟨failed, served⟩ := always later changed
      refine ⟨fun mayFail message => onRaise kept message later (failed mayFail message), ?_⟩
      intro reply after answers
      obtain ⟨lost, answered⟩ := served reply after answers
      exact ⟨fun mayFail message => onRaise kept message after (lost mayFail message),
        inductionHypothesis reply answered⟩

/-- What is certain of a program stays certain while the server changes. -/
theorem Always.later {program : Remote Local Request Reply α} {later : Server}
    (always : Always serves rely fails returns raises program server)
    (transitive : ∀ a b c, rely a b → rely b c → rely a c)
    (returnsLater : ∀ kept value a b, rely a b → returns kept value a → returns kept value b)
    (raisesLater : ∀ kept message a b, rely a b → raises kept message a → raises kept message b)
    (changed : rely server later) :
    Always serves rely fails returns raises program later := by
  cases program with
  | done kept value => exact returnsLater kept value server later changed always
  | raise kept message => exact raisesLater kept message server later changed always
  | call kept request next =>
      exact fun last further => always last (transitive server later last changed further)

theorem Always.failed {kept : Local} {request : Request}
    {next : Reply request → Remote Local Request Reply α} (mayFail : fails)
    (always : Always serves rely fails returns raises (.call kept request next) server)
    (same : rely server server) (message : String) : raises kept message server :=
  (always server same).1 mayFail message

theorem Always.lost {kept : Local} {request : Request}
    {next : Reply request → Remote Local Request Reply α} {reply : Reply request} {after : Server}
    (mayFail : fails)
    (always : Always serves rely fails returns raises (.call kept request next) server)
    (same : rely server server) (served : serves request server reply after) (message : String) :
    raises kept message after :=
  ((always server same).2 reply after served).1 mayFail message

theorem Always.answered {kept : Local} {request : Request}
    {next : Reply request → Remote Local Request Reply α} {reply : Reply request} {after : Server}
    (always : Always serves rely fails returns raises (.call kept request next) server)
    (same : rely server server) (served : serves request server reply after) :
    Always serves rely fails returns raises (next reply) after :=
  ((always server same).2 reply after served).2

end Always

/-! ## Rules -/

namespace Script

variable {serves : (request : Request) → Server → Reply request → Server → Prop}
  {rely : Server → Server → Prop} {fails : Prop} {returns : Local → α → Server → Prop}
  {raises : Local → String → Server → Prop} {server : Server} {kept : Local}

@[simp] theorem always_bind (first : Script Local Request Reply β)
    (next : β → Script Local Request Reply α) :
    Always serves rely fails returns raises ((first >>= next) kept) server ↔
      Always serves rely fails
        (fun kept value after => Always serves rely fails returns raises (next value kept) after)
        raises (first kept) server :=
  Remote.always_bind (first kept) next

@[simp] theorem always_get {returns : Local → Local → Server → Prop} :
    Always serves rely fails returns raises ((get : Script Local Request Reply Local) kept)
      server ↔ returns kept kept server := Iff.rfl

theorem always_request {asked : Request} {returns : Local → Reply asked → Server → Prop}
    (failed : ∀ later, rely server later → fails → ∀ message, raises kept message later)
    (lost : ∀ later reply after, rely server later → serves asked later reply after → fails →
      ∀ message, raises kept message after)
    (answered : ∀ later reply after, rely server later → serves asked later reply after →
      returns kept reply after) :
    Always serves rely fails returns raises
      ((request asked : Script Local Request Reply (Reply asked)) kept) server :=
  fun later changed => ⟨failed later changed, fun reply after served =>
    ⟨lost later reply after changed served, answered later reply after changed served⟩⟩

end Script

end Remote

end UrjaSetu.Library
