import UrjaSetu.Services.GridValidationService
import UrjaSetu.Services.WorkspaceService.Delivery

/-!
Grid validation as `app/services/workspace_service.py` runs it, on the forecast
schedule of an interval, against `app/services/grid_validation_service.py`.

Owns: `validate_grid`, the decision it records, and when that decision is one
the validation service would record.

Does not own: the engine, which is a parameter of both.
-/

namespace UrjaSetu.Services.WorkspaceService

open UrjaSetu.Domain UrjaSetu.Domain.Interfaces.Grid UrjaSetu.Db UrjaSetu.Db.Models
open UrjaSetu.Domain.Policies.CommunityEnergy UrjaSetu.Domain.Policies.GridLimits
open UrjaSetu.Library UrjaSetu.Services.GridValidationService

/-! ## The schedule -/

/-- A value of a `NUMERIC(p, 4)` column as it is read. -/
def columnDecimal (value : ℚ) : Decimal := ⟨value < 0, (value * 10 ^ 4).num.natAbs, -4⟩

/-- The net power one site is forecast to inject. -/
def forecastInjection (db : Database) (scenario : Scenario) (start : Instant) (site : Site) :
    Except Failure NodeInjection :=
  match prediction? db site.id start with
  | none =>
      .error (.http 409 "No complete forecast for that interval. Choose an available slot.")
  | some values =>
      match values.solar.predictedKw, values.load.predictedKw, site.gridNodeId with
      | some solar, some load, some nodeId =>
          let net := (columnDecimal solar).sub (columnDecimal load)
          .ok ⟨nodeId, if scenario = .congestion then net.sub (Decimal.ofUnits 65 0) else net⟩
      | _, _, _ => .error (.http 409 "Grid forecast or connection point is incomplete.")

/-- The request of `validate_grid`: trades allocate the forecast schedule, so
nothing is proposed beside it. -/
def gridRequest (db : Database) (start : Instant) (injections : List NodeInjection) :
    GridValidationRequest where
  network := buildNetwork (some FEEDER) db VERSION
  limits := DEFAULT_LIMITS
  intervalStart := ⟨start, 0⟩
  intervalEnd := ⟨start + INTERVAL, 0⟩
  baselineInjections := injections

/-- The request for an interval, where every site has its forecast. -/
def scheduleRequest (db : Database) (scenario : Scenario) (start : Instant) :
    Except Failure GridValidationRequest := do
  let injections ← (sites db).mapM (forecastInjection db scenario start)
  pure (gridRequest db start injections)

/-! ## The record -/

/-- `v.detail or v.violation_type.value`. -/
def violationReason (violation : GridViolation) : String :=
  let detail := violation.detail.getD ""
  if detail = "" then violation.violationType.value else detail

def scheduleReason (violations : List GridViolation) : String :=
  let joined := "; ".intercalate (violations.map violationReason)
  if joined = "" then "Forecast schedule is within the modelled feeder limits." else joined

/-- What `validate_grid` records of the engine's answer: its status as it is. -/
def scheduleJudgement (engines : Engines) (request : GridValidationRequest) : Judgement :=
  match engines.grid.validate request with
  | .ok result =>
      { simulationEngine := "power_grid_model"
        engineVersion := some engines.grid.engineVersion
        inputHash := engines.sha256 (engines.requestRepr request)
        status := result.status
        metrics := result.metrics
        decision := if result.status = .safe then .accept else .reject
        reason := some (scheduleReason result.violations) }
  | .error name =>
      { simulationEngine := "power_grid_model"
        engineVersion := some engines.grid.engineVersion
        inputHash := engines.sha256 (engines.requestRepr request)
        status := .unknown
        decision := .reject
        reason := some ("Solver unavailable: " ++ name) }

/-- The row of a judgement. -/
def gridRow (judgement : Judgement) (id : UUID) (createdAt : Instant) : GridValidationRun where
  id := id
  tradeId := none
  gridSnapshotId := none
  simulationEngine := judgement.simulationEngine
  engineVersion := judgement.engineVersion
  inputHash := judgement.inputHash
  status := judgement.status
  minVoltagePu := judgement.metrics.minVoltagePu.map Decimal.toRat
  maxVoltagePu := judgement.metrics.maxVoltagePu.map Decimal.toRat
  maxLineLoadingPct := judgement.metrics.maxLineLoadingPct.map Decimal.toRat
  maxTransformerLoadingPct := judgement.metrics.maxTransformerLoadingPct.map Decimal.toRat
  decision := judgement.decision
  reason := judgement.reason
  createdAt := createdAt

/-- `validate_grid(db, sim, start)`. The row in hand keeps the metrics as the
engine gave them. -/
def validateGrid (engines : Engines) (sim : Simulation) (start : Instant) :
    Call GridValidationRun := do
  let schedule ← Work.read fun db => scheduleRequest db sim.scenario start
  let request ← Work.lift schedule
  let id ← uuid4
  let createdAt ← serverNow
  let run := gridRow (scheduleJudgement engines request) id createdAt
  Work.execute (Relations.gridRuns.insert run.asStored)
  pure run

/-- What a validation that returns has recorded. -/
structure Validated (engines : Engines) (sim : Simulation) (start : Instant) (before : Session)
    (run : GridValidationRun) (after : Session) (request : GridValidationRequest) : Prop where
  scheduled : scheduleRequest before.working sim.scenario start = .ok request
  row : run = gridRow (scheduleJudgement engines request) run.id run.createdAt
  recorded : Relations.gridRuns.insert run.asStored before.working = .ok after.working

private theorem validateGrid_ensures (engines : Engines) (sim : Simulation) (start : Instant)
    (unit : Session) :
    Work.Ensures (validateGrid engines sim start) unit
      (fun run after => ∃ request, Validated engines sim start unit run after request)
      fun _ _ => True := by
  unfold validateGrid
  rw [Work.ensures_bind, Work.ensures_read, Work.ensures_bind, Work.ensures_lift]
  refine ⟨?_, fun _ _ => trivial⟩
  intro request scheduled
  rw [Work.ensures_bind]
  unfold uuid4 serverNow
  rw [Work.ensures_draw, Work.ensures_bind, Work.ensures_draw, Work.ensures_bind,
    Work.ensures_execute]
  refine ⟨?_, fun _ _ => trivial⟩
  intro next recorded
  rw [Work.ensures_pure]
  exact ⟨request, scheduled, rfl, recorded⟩

/-! ## What the validation service would record -/

/-- `validate_scenario` records ACCEPT for the request, where it is served alone. -/
def Accepts (sha256 : String → String) (engine : GridEngine) (request : GridValidationRequest)
    (db : Database) : Prop :=
  ∃ inputs run next, (validateScenario sha256 engine request).alone inputs db =
    .ok (.ok run, next) ∧ run.decision = .accept

/-- The answer covers the network: there is one, the result is of the contract,
every element is rated, and nothing is caused. -/
structure Assessed (engine : GridEngine) (request : GridValidationRequest)
    (result : GridValidationResult) : Prop where
  nonempty : request.network.nodes ≠ []
  passes : validateResult result engine = .ok ()
  rated : request.network.unratedElements = []
  harmless : result.causedViolations = []

/-- A validation that records something was of a network. -/
theorem validateScenario_nonempty {sha256 : String → String} {engine : GridEngine}
    {request : GridValidationRequest} {inputs : ℕ → Supply} {db next : Database}
    {outcome : Except Core.UrjaSetuError GridValidationRun}
    (returned : (validateScenario sha256 engine request).alone inputs db = .ok (outcome, next)) :
    request.network.nodes ≠ [] := by
  intro empty
  have refused : (!request.network.isEmpty) = false := by
    simp [NetworkModel.isEmpty, empty]
  unfold validateScenario at returned
  rw [Txn.alone_require_bind, Txn.alone_require_bind, refused] at returned
  split at returned
  · cases returned
  · cases returned

/-- What it records of an answer that passes the boundary. -/
theorem alone_validateScenario {sha256 : String → String} {engine : GridEngine}
    {request : GridValidationRequest} {result : GridValidationResult} (inputs : ℕ → Supply)
    (db : Database) (ordered : request.intervalStart.instant < request.intervalEnd.instant)
    (nonempty : request.network.nodes ≠ []) (answered : engine.validate request = .ok result)
    (passes : validateResult result engine = .ok ()) :
    (validateScenario sha256 engine request).alone inputs db =
      (Relations.gridRuns.insert (gridRow (judge sha256 request result) (inputs 0).identifier
          (inputs 1).moment).asStored db).bind fun next =>
        .ok (.ok (gridRow (judge sha256 request result) (inputs 0).identifier
          (inputs 1).moment).asStored, next) := by
  have allowed : (!request.network.isEmpty) = true := by
    simp [NetworkModel.isEmpty, nonempty]
  unfold validateScenario
  rw [Txn.alone_require_bind, if_pos (decide_eq_true ordered), Txn.alone_require_bind, allowed,
    if_pos rfl, answered]
  dsimp only
  rw [passes]
  rfl

private theorem gridRequest_ordered (db : Database) (start : Instant)
    (injections : List NodeInjection) :
    (gridRequest db start injections).intervalStart.instant <
      (gridRequest db start injections).intervalEnd.instant := by
  simp [gridRequest, Calendar.AwareDatetime.instant, INTERVAL]

/-- Two rows of one identifier, of the same status, decision and voltages, are
stored or refused alike. -/
theorem insert_gridRow {first second : Judgement} {id : UUID} {createdAt recordedAt : Instant}
    {db next : Database}
    (inserted : Relations.gridRuns.insert (gridRow first id createdAt).asStored db = .ok next)
    (status : second.status = first.status) (decision : second.decision = first.decision)
    (metrics : second.metrics = first.metrics) :
    ∃ later, Relations.gridRuns.insert (gridRow second id recordedAt).asStored db = .ok later := by
  obtain ⟨table, accepted, _⟩ := Relation.insert_ok inserted
  obtain ⟨_, check, apart⟩ := Table.insert_eq_some accepted
  have sameCheck : gridValidationRuns.check (gridRow second id recordedAt).asStored =
      gridValidationRuns.check (gridRow first id createdAt).asStored := by
    simp only [gridValidationRuns, gridRow, GridValidationRun.asStored, status, decision, metrics]
  obtain ⟨later, stored⟩ := @Table.insert_of_allowed _ _ (Relations.gridRuns.get db)
    (gridRow second id recordedAt).asStored (sameCheck.trans check) apart
  exact ⟨_, Relation.insert_of_some stored⟩

variable {engines : Engines} {sim : Simulation} {start : Instant} {before after : Session}
  {run : GridValidationRun} {request : GridValidationRequest}

private theorem Validated.ordered
    (validated : Validated engines sim start before run after request) :
    request.intervalStart.instant < request.intervalEnd.instant := by
  have scheduled := validated.scheduled
  unfold scheduleRequest at scheduled
  obtain ⟨injections, _, same⟩ := bind_eq_ok.mp scheduled
  cases same
  exact gridRequest_ordered _ _ _

/-- A safe answer is accepted by the service exactly where it covers the network. -/
theorem Validated.accepts_iff (validated : Validated engines sim start before run after request)
    {result : GridValidationResult} (answered : engines.grid.validate request = .ok result)
    (safe : result.status = .safe) :
    Accepts engines.sha256 engines.grid request before.working ↔
      Assessed engines.grid request result := by
  constructor
  · rintro ⟨inputs, row, next, returned, accepted⟩
    obtain ⟨_, other, judged⟩ := validateScenario_returned engines.sha256 returned
    have same : other = result := Except.ok.inj (judged.answered.symm.trans answered)
    rw [same] at judged
    obtain ⟨_, rated, harmless⟩ := judged.accept_iff.mp accepted
    exact ⟨validateScenario_nonempty returned, judged.passes, rated, harmless⟩
  · intro assessed
    have status : (judge engines.sha256 request result).status = .safe :=
      effectiveStatus_safe_iff.mpr ⟨safe, assessed.rated, assessed.harmless⟩
    have decision : (judge engines.sha256 request result).decision = .accept :=
      decideTrade_accept_iff.mpr status
    have recorded := validated.recorded
    rw [validated.row] at recorded
    have judgement : scheduleJudgement engines request =
        { simulationEngine := "power_grid_model"
          engineVersion := some engines.grid.engineVersion
          inputHash := engines.sha256 (engines.requestRepr request)
          status := .safe
          metrics := result.metrics
          decision := .accept
          reason := some (scheduleReason result.violations) } := by
      simp [scheduleJudgement, answered, safe]
    rw [judgement] at recorded
    obtain ⟨next, stored⟩ := @insert_gridRow _ (judge engines.sha256 request result) _ _ 0 _ _
      recorded status decision rfl
    refine ⟨fun _ => ⟨run.id, 0, 0⟩,
      (gridRow (judge engines.sha256 request result) run.id 0).asStored, next, ?_, decision⟩
    rw [alone_validateScenario _ _ validated.ordered assessed.nonempty answered assessed.passes,
      stored]
    rfl

/-- The two decisions agree on a recorded run exactly where a safe answer of the
engine covers the network it was asked about. -/
theorem validateGrid_agrees_iff
    (returned : validateGrid engines sim start before = (.ok run, after)) :
    ∃ request, scheduleRequest before.working sim.scenario start = .ok request ∧
      ((run.decision = .accept →
          Accepts engines.sha256 engines.grid request before.working) ↔
        ∀ result, engines.grid.validate request = .ok result → result.status = .safe →
          Assessed engines.grid request result) := by
  obtain ⟨request, validated⟩ := (validateGrid_ensures engines sim start before).returned returned
  refine ⟨request, validated.scheduled, ?_⟩
  rw [validated.row]
  cases answered : engines.grid.validate request with
  | error name => simp [gridRow, scheduleJudgement, answered]
  | ok result =>
      by_cases safe : result.status = .safe
      · have accepted := validated.accepts_iff answered safe
        simp [gridRow, scheduleJudgement, answered, safe, accepted]
      · simp [gridRow, scheduleJudgement, answered, safe]

/-! ## A line without a rating -/

/-- A forecast of one quarter of an hour. -/
def quarterForecast (runId : UUID) (predictedKw : ℚ) : Models.ForecastPoint :=
  ⟨runId, 21, INTERVAL, 2 * INTERVAL, some predictedKw, some (predictedKw / 4), none, none, none⟩

/-- One house behind the transformer, over a line of this rating. -/
def houseTwin (rating : Option ℚ) : Database :=
  { Database.initial ⟨0, false, .normal, 0, "", false⟩
      ⟨[⟨1, .substation, 11, none, some FEEDER, none⟩,
          ⟨2, .transformer, 2 / 5, some 1, some FEEDER, some 100⟩,
          ⟨3, .connectionPoint, 2 / 5, some 2, some FEEDER, rating⟩],
        [⟨21, 11, some 3⟩], [⟨61, 21⟩], [], []⟩ with
    forecastRuns :=
      ⟨[⟨91, .solar, 0, DAY, 0, .completed, "baseline", "1", none⟩,
        ⟨92, .load, 0, DAY, 0, .completed, "baseline", "1", none⟩], by decide +kernel,
        by decide +kernel⟩
    forecastPoints := ⟨[quarterForecast 91 3, quarterForecast 92 1], by decide +kernel,
      by decide +kernel⟩ }

/-- An engine that finds nothing wrong with any network. -/
def contentEngines : Engines :=
  { idleEngines with
    grid :=
      { name := "power_grid_model"
        engineVersion := "1"
        validate := fun _ => .ok
          { engine := "power_grid_model"
            engineVersion := "1"
            status := .safe
            metrics := { minVoltagePu := some (Decimal.ofUnits 99 2) } } } }

private theorem houseTwin_validated {rating : Option ℚ} (known : rating ∈ [none, some 20]) :
    ∃ run after, validateGrid contentEngines (houseTwin rating).simulation INTERVAL
        (Work.begin_ (houseTwin rating) (countingOutside 1000)) = (.ok run, after) ∧
      run.decision = .accept := by
  have accepted : ∀ rating ∈ [none, some (20 : ℚ)],
      (validateGrid contentEngines (houseTwin rating).simulation INTERVAL
        (Work.begin_ (houseTwin rating) (countingOutside 1000))).1.toOption.map
          GridValidationRun.decision = some .accept := by
    decide +kernel
  have ends := accepted rating known
  rcases outcome : validateGrid contentEngines (houseTwin rating).simulation INTERVAL
    (Work.begin_ (houseTwin rating) (countingOutside 1000)) with ⟨result, after⟩
  rw [outcome] at ends
  cases result with
  | error error => cases ends
  | ok run => exact ⟨run, after, rfl, Option.some.inj ends⟩

theorem validateGrid_agrees_sample : ∃ run after,
    validateGrid contentEngines (houseTwin (some 20)).simulation INTERVAL
        (Work.begin_ (houseTwin (some 20)) (countingOutside 1000)) = (.ok run, after) ∧
      ∃ request, scheduleRequest (houseTwin (some 20)) .normal INTERVAL = .ok request ∧
        ((run.decision = .accept →
            Accepts contentEngines.sha256 contentEngines.grid request (houseTwin (some 20))) ↔
          ∀ result, contentEngines.grid.validate request = .ok result → result.status = .safe →
            Assessed contentEngines.grid request result) := by
  obtain ⟨run, after, returned, _⟩ := @houseTwin_validated (some 20) (by decide)
  exact ⟨run, after, returned, validateGrid_agrees_iff returned⟩

/-- The house's line has no rating: `validate_grid` accepts, and the service does
not. -/
theorem unrated_line_accepted : ∃ run after request,
    validateGrid contentEngines (houseTwin none).simulation INTERVAL
        (Work.begin_ (houseTwin none) (countingOutside 1000)) = (.ok run, after) ∧
      scheduleRequest (houseTwin none) .normal INTERVAL = .ok request ∧
      run.decision = .accept ∧
      ¬ Accepts contentEngines.sha256 contentEngines.grid request (houseTwin none) := by
  obtain ⟨run, after, returned, accepted⟩ := @houseTwin_validated none (by decide)
  obtain ⟨request, validated⟩ := (validateGrid_ensures contentEngines (houseTwin none).simulation
    INTERVAL (Work.begin_ (houseTwin none) (countingOutside 1000))).returned returned
  refine ⟨run, after, request, returned, validated.scheduled, accepted, ?_⟩
  intro accepts
  have assessed := (validated.accepts_iff rfl rfl).mp accepts
  have unrated : (buildNetwork (some FEEDER) (houseTwin none) VERSION).unratedElements = [3] := by
    decide +kernel
  have scheduled := validated.scheduled
  obtain ⟨injections, _, same⟩ := bind_eq_ok.mp scheduled
  cases same
  have rated : (buildNetwork (some FEEDER) (houseTwin none) VERSION).unratedElements = [] :=
    assessed.rated
  rw [unrated] at rated
  cases rated

end UrjaSetu.Services.WorkspaceService
