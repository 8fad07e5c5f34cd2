import UrjaSetu.Adapters.Baseline
import UrjaSetu.Db.Database
import UrjaSetu.Domain.Interfaces.Grid
import UrjaSetu.Domain.Interfaces.Pricing
import UrjaSetu.Domain.Policies.CommunityEnergy
import UrjaSetu.Services.AuditService

/-!
What every operation of `app/services/workspace_service.py` uses: the simulation
row, fresh identifiers and times, and the audit log.

The calls are those of one transaction: `state(db, True)` holds the row lock from
its first statement to its end, so no other transaction comes between.
-/

namespace UrjaSetu.Services.WorkspaceService

open UrjaSetu.Domain UrjaSetu.Domain.Interfaces UrjaSetu.Db UrjaSetu.Db.Models UrjaSetu.Library

/-- The parts that compute with floating point or outside the repository: the
hash, the power-flow adapter, the `repr` of its request, the statistics of a
forecast point, and the physical models behind a simulated interval. -/
structure Engines where
  sha256 : String → String
  grid : Grid.GridEngine
  requestRepr : Grid.GridValidationRequest → String
  pointRule : Adapters.Baseline.PointRule
  communityPower : Instant → ℚ → Bool → Scenario → ℚ × ℚ
  householdPower : Instant → ℚ → Json → UUID → Scenario → ℚ × ℚ × ℚ

/-- `state(db)`. -/
def state : Call Simulation := Work.read Database.simulation

/-- Change the simulation row. -/
def setSimulation (change : Simulation → Simulation) : Call Unit := Work.execute fun db =>
  .ok { db with simulation := change db.simulation }

/-- `bump(sim)`. -/
def bump : Call Unit := setSimulation fun sim => { sim with revision := sim.revision + 1 }

/-- `raise HTTPException(status, detail)`. -/
def httpError {α : Type} (status : ℕ) (detail : String) : Call α := Work.raise (.http status detail)

/-- `if not condition: raise HTTPException(status, detail)`. -/
def require (condition : Bool) (status : ℕ) (detail : String) : Call Unit :=
  if condition then pure () else httpError status detail

/-- The value that was found, or an `HTTPException`. -/
def orHttp {α : Type} (value : Option α) (status : ℕ) (detail : String) : Call α :=
  match value with
  | some value => pure value
  | none => httpError status detail

/-- `if commit: db.commit()`. -/
def finish (commit : Bool) : Call Unit := if commit then Work.commit else pure ()

/-- The statement of `audit_service.record`. -/
def recordStatement (sha256 : String → String) (event : AuditEvent) (db : Database) :
    Except Failure Database :=
  match AuditService.record sha256 db.audit event with
  | .ok table => .ok { db with audit := table }
  | .error (.canonical error) => .error (.audit error)
  | .error (.integrity error) => .error (.database error)

/-- `add_audit(db, sim, kind, entity, entity_id, payload, actor)`. -/
def addAudit (engines : Engines) (kind : AuditEventType) (entity : AuditEntityType)
    (entityId : UUID) (payload : List (String × Value)) (actor : Option UUID := none) :
    Call Unit := do
  let sim ← state
  let eventId ← uuid4
  let recordedAt ← utcNow
  Work.execute (recordStatement engines.sha256
    { eventId := eventId
      eventType := kind
      entityType := entity
      entityId := entityId
      eventTime := sim.clock
      recordedAt := recordedAt
      actorUserId := actor
      payload := Dict.ofItems Prod.fst Prod.snd payload })

/-- `FEEDER`. -/
def FEEDER : String := "AHMEDABAD-SIMULATION"

/-- `VERSION`. -/
def VERSION : String := "gujarat-household-1"

/-- `sites(db)`: the sites connected to a node of the feeder. -/
def sites (db : Database) : List Site :=
  db.community.sites.filter fun site =>
    (db.community.gridNodes.filter fun node => node.feederId = some FEEDER).any fun node =>
      site.gridNodeId = some node.id

/-- `capacity(db, site)`. -/
def capacity (db : Database) (site : Site) : ℚ :=
  ((db.community.assets.filter fun asset => asset.siteId = site.id).map
    EnergyAsset.capacityKw).sum

/-- A stored decimal of a column with `places` decimals, as `str` writes it. -/
def columnText (places : ℕ) (value : ℚ) : String :=
  (Decimal.mk (value < 0) (value * 10 ^ places).num.natAbs (-places)).formatF

/-- `f"{value:.4f}"`. -/
def fourPlaces (value : ℚ) : String :=
  columnText 4 (Library.Rounding.quantize Library.Rounding.halfEven 4 value)

/-! ## Rules -/

section Rules

variable {α : Type} {unit : Session} {raises : Failure → Session → Prop}

theorem ensures_require {returns : Unit → Session → Prop} (condition : Bool) (status : ℕ)
    (detail : String) : Work.Ensures (require condition status detail) unit returns raises ↔
      (condition = true → returns () unit) ∧
        (condition = false → raises (.http status detail) unit) := by
  cases condition with
  | true => simp [require]
  | false => simp [require, httpError]

theorem ensures_orHttp {returns : α → Session → Prop} (value : Option α) (status : ℕ)
    (detail : String) : Work.Ensures (orHttp value status detail) unit returns raises ↔
      (∀ found, value = some found → returns found unit) ∧
        (value = none → raises (.http status detail) unit) := by
  cases value with
  | some found => simp [orHttp]
  | none => simp [orHttp, httpError]

@[simp] theorem ensures_state {returns : Simulation → Session → Prop} :
    Work.Ensures state unit returns raises ↔ returns unit.working.simulation unit := Iff.rfl

theorem ensures_setSimulation {returns : Unit → Session → Prop} (change : Simulation → Simulation) :
    Work.Ensures (setSimulation change) unit returns raises ↔
      returns () { unit with working :=
        { unit.working with simulation := change unit.working.simulation } } := Iff.rfl

end Rules

end UrjaSetu.Services.WorkspaceService
