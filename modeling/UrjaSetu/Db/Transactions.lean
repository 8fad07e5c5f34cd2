import UrjaSetu.Db.Database
import UrjaSetu.Library.Transactions

/-!
Transactions on the database that several requests have open at once.

Owns: what such a transaction draws, its INSERTs and UPDATEs, and that a
statement on one relation leaves every other relation alone.
-/

namespace UrjaSetu.Db

open UrjaSetu.Core UrjaSetu.Domain UrjaSetu.Db.Models UrjaSetu.Library

/-- What one draw may ask for: `uuid4()`, `datetime.now(UTC)`, or the server's
`now()`. -/
structure Supply where
  identifier : UUID
  moment : Instant
  serverTime : Instant
deriving DecidableEq, Repr

abbrev Txn (α : Type) := Transaction Database Supply Failure α

namespace Txn

open Transaction

def uuid4 : Txn UUID := ask Supply.identifier

def utcNow : Txn Instant := ask Supply.moment

def serverNow : Txn Instant := ask Supply.serverTime

/-- `at or datetime.now(UTC)`. -/
def momentOf : Option Instant → Txn Instant
  | some moment => pure moment
  | none => utcNow

/-- `raise` of a `UrjaSetuError`. -/
def raiseDomain {α : Type} (error : UrjaSetuError) : Txn α := .raise (.domain error)

/-- The value a query found, or an error. -/
def orRaise {α : Type} (error : UrjaSetuError) : Option α → Txn α
  | some value => pure value
  | none => raiseDomain error

/-- `if not condition: raise`. -/
def require (condition : Bool) (error : UrjaSetuError) : Txn Unit :=
  if condition then pure () else raiseDomain error

end Txn

/-- The flush of an appended audit event. -/
def insertAudit (row : AuditEventRecord) (db : Database) : Except Failure Database :=
  match db.audit.insert row with
  | .ok table => .ok { db with audit := table }
  | .error error => .error (.database error)

theorem insertAudit_ok {row : AuditEventRecord} {db next : Database}
    (inserted : insertAudit row db = .ok next) :
    ∃ table, db.audit.insert row = .ok table ∧ next = { db with audit := table } := by
  unfold insertAudit at inserted
  split at inserted
  · rename_i table accepted
    cases inserted
    exact ⟨table, accepted, rfl⟩
  · cases inserted

/-- Nothing but the audit log differs. -/
def Audited (db next : Database) : Prop := ∃ table, next = { db with audit := table }

theorem Audited.trans {db middle next : Database} (first : Audited db middle)
    (second : Audited middle next) : Audited db next := by
  obtain ⟨_, rfl⟩ := first
  obtain ⟨table, rfl⟩ := second
  exact ⟨table, rfl⟩

theorem insertAudit_audited {row : AuditEventRecord} {db next : Database}
    (inserted : insertAudit row db = .ok next) : Audited db next := by
  obtain ⟨table, _, same⟩ := insertAudit_ok inserted
  exact ⟨table, same⟩

namespace Txn

open Transaction

theorem alone_require_bind {α : Type} (condition : Bool) (error : UrjaSetuError)
    (next : Unit → Txn α) (inputs : ℕ → Supply) (db : Database) :
    (require condition error >>= next).alone inputs db =
      if condition then (next ()).alone inputs db else .error (.domain error) := by
  cases condition with
  | true => rfl
  | false => rfl

/-! ## What is established of the small programs -/

variable {α : Type} {valid : Database → Prop} {rely : Database → Database → Prop}
  {log : List (Database → Except Failure Database)} {known : Database → Prop}

theorem wp_orRaise {post : α → List (Database → Except Failure Database) →
      (Database → Prop) → Prop} (error : UrjaSetuError) (found : Option α) :
    Wp valid rely (orRaise error found) post log known ↔
      ∀ value, found = some value → post value log known := by
  cases found with
  | some value => simp [orRaise]
  | none => simp [orRaise, raiseDomain]

theorem wp_require {post : Unit → List (Database → Except Failure Database) →
      (Database → Prop) → Prop} (condition : Bool) (error : UrjaSetuError) :
    Wp valid rely (require condition error) post log known ↔
      (condition = true → post () log known) := by
  cases condition with
  | true => simp [require]
  | false => simp [require, raiseDomain]

theorem wp_uuid4 {post : UUID → List (Database → Except Failure Database) →
      (Database → Prop) → Prop} (each : ∀ identifier, post identifier log known) :
    Wp valid rely uuid4 post log known := by
  rw [uuid4, wp_ask]
  exact fun input => each input.identifier

theorem wp_utcNow {post : Instant → List (Database → Except Failure Database) →
      (Database → Prop) → Prop} (each : ∀ moment, post moment log known) :
    Wp valid rely utcNow post log known := by
  rw [utcNow, wp_ask]
  exact fun input => each input.moment

theorem wp_serverNow {post : Instant → List (Database → Except Failure Database) →
      (Database → Prop) → Prop} (each : ∀ moment, post moment log known) :
    Wp valid rely serverNow post log known := by
  rw [serverNow, wp_ask]
  exact fun input => each input.serverTime

theorem wp_momentOf {post : Instant → List (Database → Except Failure Database) →
      (Database → Prop) → Prop} (at_ : Option Instant)
    (each : ∀ moment, post moment log known) :
    Wp valid rely (momentOf at_) post log known := by
  cases at_ with
  | some moment => exact (wp_pure moment).mpr (each moment)
  | none => exact wp_utcNow each

/-! ## What the small programs do when nothing overtakes them -/

section Ending

variable {usable : Supply → Prop} {db : Database}

theorem ends_orRaise {post : α → Database → Prop} {error : UrjaSetuError} {found : Option α}
    {value : α} (isFound : found = some value) :
    Ends usable (orRaise error found) db post ↔ post value db := by
  rw [isFound]
  exact ends_pure value

theorem ends_require {post : Unit → Database → Prop} {condition : Bool} {error : UrjaSetuError}
    (holds : condition = true) :
    Ends usable (require condition error) db post ↔ post () db := by
  rw [holds]
  exact ends_pure ()

theorem ends_uuid4 {post : UUID → Database → Prop} :
    Ends usable uuid4 db post ↔ ∀ supply, usable supply → post supply.identifier db :=
  ends_ask Supply.identifier

theorem ends_utcNow {post : Instant → Database → Prop} :
    Ends usable utcNow db post ↔ ∀ supply, usable supply → post supply.moment db :=
  ends_ask Supply.moment

theorem ends_momentOf {post : Instant → Database → Prop} (at_ : Option Instant)
    (each : ∀ moment, post moment db) : Ends usable (momentOf at_) db post := by
  cases at_ with
  | some moment => exact (ends_pure moment).mpr (each moment)
  | none => exact ends_utcNow.mpr fun supply _ => each supply.moment

end Ending

end Txn

end UrjaSetu.Db
