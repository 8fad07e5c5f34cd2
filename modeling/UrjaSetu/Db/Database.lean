import UrjaSetu.Core.Errors
import UrjaSetu.Db.Models.Assets
import UrjaSetu.Db.Models.Audit
import UrjaSetu.Db.Models.Market
import UrjaSetu.Db.Models.Telemetry
import UrjaSetu.Db.Models.Workspace
import UrjaSetu.Library.UnitOfWork
import UrjaSetu.Domain.Policies.AuditChain

/-!
The database of the workspace, and the transactions on it.

Owns: the state every operation works on, its statements, and what a
transaction draws from outside (fresh identifiers, the wall clock, the time the
transaction started).
-/

namespace UrjaSetu.Db

open UrjaSetu.Domain UrjaSetu.Db.Models UrjaSetu.Library

structure Database where
  simulation : Simulation
  community : Community
  readings : Table telemetryReadings
  forecastRuns : Table forecastRuns
  forecastPoints : Table forecastPoints
  marketSessions : Table marketSessions
  orders : Table orders
  trades : Table trades
  gridSnapshots : List GridSnapshot
  gridRuns : Table gridValidationRuns
  prices : Table priceComponents
  actions : Table marketplaceActions
  allocations : Table tradeAllocations
  reconciliations : Table meterReconciliations
  settlements : Table settlements
  journal : Table journalEntries
  receipts : Table receipts
  audit : AuditEventTable

/-- A community before anything is stored of it. -/
def Database.initial (simulation : Simulation) (community : Community) : Database where
  simulation := simulation
  community := community
  readings := Table.empty
  forecastRuns := Table.empty
  forecastPoints := Table.empty
  marketSessions := Table.empty
  orders := Table.empty
  trades := Table.empty
  gridSnapshots := []
  gridRuns := Table.empty
  prices := Table.empty
  actions := Table.empty
  allocations := Table.empty
  reconciliations := Table.empty
  settlements := Table.empty
  journal := Table.empty
  receipts := Table.empty
  audit := AuditEventTable.empty

/-- What an operation raises: an `HTTPException`, a `UrjaSetuError`, an
`IntegrityError` of a flush, a refused audit payload, or an error of one of the
pure engines. -/
inductive Failure where
  | http (status : ℕ) (detail : String)
  | domain (error : Core.UrjaSetuError)
  | database (error : IntegrityError)
  | audit (error : Policies.AuditChain.CanonicalError)
  | engine (name : String)
deriving DecidableEq, Repr

/-- What a transaction is given from outside: `uuid4()`, `datetime.now(UTC)` and
the server's `now()`. -/
structure Outside where
  identifiers : ℕ → UUID
  moments : ℕ → Instant
  transactionStart : Instant

/-- What is left once the first identifier is taken. -/
def Outside.afterIdentifier (outside : Outside) : Outside :=
  { outside with identifiers := fun index => outside.identifiers (index + 1) }

def Outside.afterMoment (outside : Outside) : Outside :=
  { outside with moments := fun index => outside.moments (index + 1) }

abbrev Session := UnitOfWork Database Outside Failure

abbrev Call (α : Type) := Work Database Outside Failure α

/-- `uuid4()`. -/
def uuid4 : Call UUID :=
  Work.draw fun outside => (outside.identifiers 0, outside.afterIdentifier)

/-- `datetime.now(UTC)`. -/
def utcNow : Call Instant := Work.draw fun outside => (outside.moments 0, outside.afterMoment)

/-- The server default `func.now()`. -/
def serverNow : Call Instant := Work.draw fun outside => (outside.transactionStart, outside)

/-- `raise` of a `UrjaSetuError`. -/
def raiseDomain {α : Type} (error : Core.UrjaSetuError) : Call α := Work.raise (.domain error)

/-- One relation of the database. -/
structure Relation {Row : Type} (schema : Schema Row) where
  name : String
  get : Database → Table schema
  set : Database → Table schema → Database

namespace Relation

variable {Row : Type} {schema : Schema Row} (relation : Relation schema)

def insert (row : Row) (db : Database) : Except Failure Database :=
  match (relation.get db).insert row with
  | some table => .ok (relation.set db table)
  | none => .error (.database ⟨relation.name⟩)

def modify (selected : Row → Bool) (change : Row → Row) (db : Database) :
    Except Failure Database :=
  match (relation.get db).modify selected change with
  | some table => .ok (relation.set db table)
  | none => .error (.database ⟨relation.name⟩)

variable {relation} {db next : Database}

/-- What an executed INSERT did. -/
theorem insert_ok {row : Row} (inserted : relation.insert row db = .ok next) :
    ∃ table, (relation.get db).insert row = some table ∧ next = relation.set db table := by
  unfold insert at inserted
  split at inserted
  · rename_i table accepted
    cases inserted
    exact ⟨table, accepted, rfl⟩
  · cases inserted

/-- What an executed UPDATE did. -/
theorem modify_ok {selected : Row → Bool} {change : Row → Row}
    (updated : relation.modify selected change db = .ok next) :
    ∃ table, (relation.get db).modify selected change = some table ∧
      next = relation.set db table := by
  unfold modify at updated
  split at updated
  · rename_i table accepted
    cases updated
    exact ⟨table, accepted, rfl⟩
  · cases updated

variable {table : Table schema}

theorem insert_of_some {row : Row} (inserted : (relation.get db).insert row = some table) :
    relation.insert row db = .ok (relation.set db table) := by
  unfold insert
  rw [inserted]

theorem modify_of_some {selected : Row → Bool} {change : Row → Row}
    (updated : (relation.get db).modify selected change = some table) :
    relation.modify selected change db = .ok (relation.set db table) := by
  unfold modify
  rw [updated]

end Relation

namespace Relations

def readings : Relation telemetryReadings :=
  ⟨"telemetry_readings", Database.readings, fun db table => { db with readings := table }⟩

def forecastRuns : Relation Models.forecastRuns :=
  ⟨"forecast_runs", Database.forecastRuns, fun db table => { db with forecastRuns := table }⟩

def forecastPoints : Relation Models.forecastPoints :=
  ⟨"forecast_points", Database.forecastPoints, fun db table => { db with forecastPoints := table }⟩

def marketSessions : Relation Models.marketSessions :=
  ⟨"market_sessions", Database.marketSessions, fun db table => { db with marketSessions := table }⟩

def orders : Relation Models.orders :=
  ⟨"orders", Database.orders, fun db table => { db with orders := table }⟩

def trades : Relation Models.trades :=
  ⟨"trades", Database.trades, fun db table => { db with trades := table }⟩

def gridRuns : Relation gridValidationRuns :=
  ⟨"grid_validation_runs", Database.gridRuns, fun db table => { db with gridRuns := table }⟩

def prices : Relation priceComponents :=
  ⟨"price_components", Database.prices, fun db table => { db with prices := table }⟩

def actions : Relation marketplaceActions :=
  ⟨"marketplace_actions", Database.actions, fun db table => { db with actions := table }⟩

def allocations : Relation tradeAllocations :=
  ⟨"trade_allocations", Database.allocations, fun db table => { db with allocations := table }⟩

def reconciliations : Relation meterReconciliations :=
  ⟨"meter_reconciliations", Database.reconciliations,
    fun db table => { db with reconciliations := table }⟩

def settlements : Relation Models.settlements :=
  ⟨"settlements", Database.settlements, fun db table => { db with settlements := table }⟩

def journal : Relation journalEntries :=
  ⟨"journal_entries", Database.journal, fun db table => { db with journal := table }⟩

def receipts : Relation Models.receipts :=
  ⟨"blockchain_receipts", Database.receipts, fun db table => { db with receipts := table }⟩

end Relations

end UrjaSetu.Db
