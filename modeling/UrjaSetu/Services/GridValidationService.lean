import UrjaSetu.Domain.Policies.GridLimits
import UrjaSetu.Library.JsonAscii
import UrjaSetu.Services.AuditService.Append

/-!
Grid validation as `app/services/grid_validation_service.py` runs it: the twin
is projected, the engine asked, its result checked and the outcome recorded.

The notification sent after the commit is left out.

Owns: `build_network`, `request_fingerprint`, `validate_scenario` and
`validate_trade`, what they record, and which results are recorded as safe.

Does not own: the engine, which is a parameter.
-/

namespace UrjaSetu.Services.GridValidationService

open UrjaSetu.Core UrjaSetu.Domain UrjaSetu.Domain.Interfaces.Grid UrjaSetu.Db
open UrjaSetu.Db.Models UrjaSetu.Domain.Policies.GridLimits UrjaSetu.Library
open UrjaSetu.Library.Calendar UrjaSetu.Library.Transaction UrjaSetu.Services.AuditService

/-! ## The network -/

/-- `build_network`: the twin's nodes of a feeder, each connected to its parent
where that is among them. -/
def buildNetwork (feederId : Option String) (db : Database)
    (version : String := "phase-1-twin") : NetworkModel :=
  let listed := db.community.gridNodes.take 10000
  let nodes := match feederId with
    | none => listed
    | some feeder => listed.filter fun node => node.feederId = some feeder
  let ratings := Dict.ofItems GridNode.id GridNode.ratedCapacityKw nodes
  let networkNodes := nodes.map fun node =>
    { nodeId := node.id
      nodeType := node.nodeType
      nominalVoltageKv := node.nominalVoltageKv
      parentNodeId := node.parentNodeId
      feederId := node.feederId : NetworkNode }
  let known := networkNodes.map NetworkNode.nodeId
  let edges := networkNodes.filterMap fun node =>
    match node.parentNodeId with
    | none => none
    | some parent => if parent ∈ known then some (node, parent) else none
  { version
    nodes := networkNodes
    lines := (edges.filter fun edge => edge.1.nodeType ≠ .transformer).map fun edge =>
      { lineId := edge.1.nodeId
        fromNodeId := edge.2
        toNodeId := edge.1.nodeId
        ratingKw := (ratings.get? edge.1.nodeId).join }
    transformers := (edges.filter fun edge => edge.1.nodeType = .transformer).map fun edge =>
      { transformerId := edge.1.nodeId
        fromNodeId := edge.2
        toNodeId := edge.1.nodeId
        ratingKw := (ratings.get? edge.1.nodeId).join } }

/-- `GridSnapshotRepository.latest_for_feeder`. -/
def latestForFeeder (feederId : String) (db : Database) : Option GridSnapshot :=
  largest GridSnapshot.capturedAt
    (db.gridSnapshots.filter fun snapshot => snapshot.feederId = some feederId)

/-! ## The boundary -/

/-- A grid engine failed, or returned a result the contract does not allow. -/
def gridEngineError (message : String) (details : List (String × DetailValue)) : UrjaSetuError :=
  unprocessableError "GRID_ENGINE_FAILED" message details

/-- `_validate_result`. -/
def validateResult (result : GridValidationResult) (engine : GridEngine) :
    Except UrjaSetuError Unit :=
  if result.engine = "" then
    .error (gridEngineError "Engine returned a result with no engine identifier."
      [("engine", .text engine.name)])
  else if result.violations.any fun violation => violation.limit.toRat < 0 then
    .error (gridEngineError "Engine reported a violation against a negative limit."
      [("engine", .text engine.name)])
  else
    match result.metrics.minVoltagePu, result.metrics.maxVoltagePu with
    | some lowest, some highest =>
        if highest.toRat < lowest.toRat then
          .error (gridEngineError "Engine reported a minimum voltage above its maximum."
            [("engine", .text engine.name)])
        else .ok ()
    | _, _ => .ok ()

/-- Disagreements between an engine's safe status and its own metrics. -/
def crossCheck (result : GridValidationResult) (limits : Interfaces.Grid.GridLimits) :
    List String :=
  if result.status = .safe then
    (evaluateMetrics result.metrics limits).map fun violation =>
      "engine reported safe but " ++ violation.violationType.value ++ " (" ++
        violation.observed.str ++ " vs limit " ++ violation.limit.str ++ ")"
  else []

/-! ## The record -/

def injectionText (injection : NodeInjection) : String :=
  uuidText injection.nodeId ++ ":" ++ injection.activePowerKw.str

/-- What `request_fingerprint` hashes, with its keys in order. -/
def fingerprintPayload (request : GridValidationRequest) : Json :=
  .obj [
    ("injections", .arr ((sortBy id (request.combinedInjections.map injectionText)).map Json.str)),
    ("interval", .arr [.str request.intervalStart.isoformat, .str request.intervalEnd.isoformat]),
    ("limits", .arr [.str request.limits.minVoltagePu.str, .str request.limits.maxVoltagePu.str,
      .str request.limits.maxLineLoadingPct.str, .str request.limits.maxTransformerLoadingPct.str]),
    ("network_version", .str request.network.version),
    ("nodes", .arr ((sortBy id (request.network.nodeIds.map uuidText)).map Json.str))]

section

variable (sha256 : String → String)

def requestFingerprint (request : GridValidationRequest) : String :=
  sha256 (fingerprintPayload request).dumpsAscii

/-- The fields of a row that the engine and the request determine. -/
structure Judgement where
  simulationEngine : String
  engineVersion : Option String
  inputHash : String
  status : GridValidationStatus
  metrics : GridMetrics := {}
  decision : GridValidationDecision
  reason : Option String
deriving DecidableEq, Repr

/-- A run without a result: nothing was observed about the network. -/
def unassessed (engine : GridEngine) (request : GridValidationRequest) (reason : String) :
    Judgement where
  simulationEngine := engine.name
  engineVersion := some engine.engineVersion
  inputHash := requestFingerprint sha256 request
  status := .unknown
  decision := .reject
  reason := some reason

def judge (request : GridValidationRequest) (result : GridValidationResult) : Judgement :=
  let unrated := request.network.unratedElements
  let caused := result.causedViolations
  let status := effectiveStatus (resolveStatus result.status unrated) caused
  let explanation := if status = .unknown ∧ unrated ≠ [] then describeMissingRatings unrated
    else summarise (if caused ≠ [] then caused else result.violations)
  { simulationEngine := result.engine
    engineVersion := some result.engineVersion
    inputHash := requestFingerprint sha256 request
    status
    metrics := result.metrics
    decision := decideTrade status caused
    reason := some explanation }

/-- `_record`: persist a validation outcome, including a failure. -/
def record (judgement : Judgement) (tradeId gridSnapshotId : Option UUID)
    (at_ : Option Instant) : Txn GridValidationRun := do
  let id ← Txn.uuid4
  let createdAt ← Txn.momentOf at_
  let run : GridValidationRun :=
    { id, tradeId, gridSnapshotId, createdAt
      simulationEngine := judgement.simulationEngine
      engineVersion := judgement.engineVersion
      inputHash := judgement.inputHash
      status := judgement.status
      minVoltagePu := judgement.metrics.minVoltagePu.map Decimal.toRat
      maxVoltagePu := judgement.metrics.maxVoltagePu.map Decimal.toRat
      maxLineLoadingPct := judgement.metrics.maxLineLoadingPct.map Decimal.toRat
      maxTransformerLoadingPct := judgement.metrics.maxTransformerLoadingPct.map Decimal.toRat
      decision := judgement.decision
      reason := judgement.reason }
  statement (Relations.gridRuns.insert run.asStored)
  pure run.asStored

/-- The audit event of a run that concerns a trade. -/
def recordAudit (judgement : Judgement) (run : GridValidationRun) : Option UUID → Txn Unit
  | none => pure ()
  | some tradeId => do
      let event ← gridValidationRecorded tradeId run judgement.metrics run.createdAt
      let _ ← append sha256 event
      pure ()

/-! ## Validation -/

/-- `validate_scenario`. The request holds the arguments it is made of. A failure
of the engine is recorded and committed before the error is raised, which is the
value then. -/
def validateScenario (engine : GridEngine) (request : GridValidationRequest)
    (tradeId : Option UUID := none) (gridSnapshotId : Option UUID := none)
    (at_ : Option Instant := none) : Txn (Except UrjaSetuError GridValidationRun) := do
  Txn.require (request.intervalStart.instant < request.intervalEnd.instant)
    (unprocessableError "GRID_INTERVAL_INVALID" "interval_end must be after interval_start." [])
  Txn.require (!request.network.isEmpty)
    (unprocessableError "GRID_NETWORK_EMPTY" "The network model contains no nodes." [])
  match engine.validate request with
  | .error name =>
      let judgement := unassessed sha256 engine request ("engine failure: " ++ name)
      let run ← record judgement tradeId gridSnapshotId at_
      recordAudit sha256 judgement run tradeId
      pure (.error (gridEngineError
        ("Grid engine '" ++ engine.name ++ "' failed to validate the scenario.")
        [("engine", .text engine.name), ("reason", .text name),
          ("grid_validation_run_id", .uuid run.id)]))
  | .ok result =>
      lift ((validateResult result engine).mapError Failure.domain)
      let judgement := judge sha256 request result
      let run ← record judgement tradeId gridSnapshotId at_
      recordAudit sha256 judgement run tradeId
      pure (.ok run)

/-- The seller injects the traded power and the buyer withdraws it. -/
def tradeInjections (sellerNodeId buyerNodeId : UUID) (quantityKwh : Decimal) (interval : ℤ) :
    List NodeInjection :=
  let injection := NodeInjection.fromEnergy sellerNodeId quantityKwh interval
  [injection, ⟨buyerNodeId, injection.activePowerKw.neg⟩]

/-- The request `validate_trade` makes of a trade. -/
def tradeRequest (network : NetworkModel) (sellerNodeId buyerNodeId : UUID)
    (quantityKwh : Decimal) (deliveryStart deliveryEnd : AwareDatetime)
    (baselineInjections : List NodeInjection) (limits : Interfaces.Grid.GridLimits) :
    GridValidationRequest where
  network := network
  limits := limits
  intervalStart := deliveryStart
  intervalEnd := deliveryEnd
  baselineInjections := baselineInjections
  proposedInjections := tradeInjections sellerNodeId buyerNodeId quantityKwh
    (deliveryEnd.instant - deliveryStart.instant)

/-- `validate_trade`. -/
def validateTrade (engine : GridEngine) (tradeId sellerNodeId buyerNodeId : UUID)
    (quantityKwh : Decimal) (deliveryStart deliveryEnd : AwareDatetime)
    (feederId : Option String := none) (baselineInjections : List NodeInjection := [])
    (limits : Interfaces.Grid.GridLimits := DEFAULT_LIMITS) (at_ : Option Instant := none) :
    Txn (Except UrjaSetuError GridValidationRun) := do
  Txn.require (deliveryStart.instant < deliveryEnd.instant)
    (unprocessableError "GRID_INTERVAL_INVALID" "delivery_end must be after delivery_start." [])
  Txn.require (0 < quantityKwh.toRat)
    (unprocessableError "GRID_QUANTITY_INVALID" "quantity_kwh must be greater than zero." [])
  let network ← query fun db => buildNetwork feederId db
  let snapshot ← match feederId with
    | none => pure none
    | some feeder => if feeder = "" then pure none else query (latestForFeeder feeder)
  validateScenario sha256 engine
    (tradeRequest network sellerNodeId buyerNodeId quantityKwh deliveryStart deliveryEnd
      baselineInjections limits) (some tradeId) (snapshot.map GridSnapshot.id) at_

/-! ## What is recorded -/

variable {valid : Database → Prop} {rely : Database → Database → Prop}
  {log : List (Database → Except Failure Database)} {known : Database → Prop}

private theorem wp_record (judgement : Judgement) (tradeId gridSnapshotId : Option UUID)
    (at_ : Option Instant)
    {post : GridValidationRun → List (Database → Except Failure Database) →
      (Database → Prop) → Prop}
    (each : ∀ run known, run.status = judgement.status → run.decision = judgement.decision →
      post run (log ++ [Relations.gridRuns.insert run]) known) :
    Wp valid rely (record judgement tradeId gridSnapshotId at_) post log known := by
  unfold record
  rw [wp_bind]
  apply Txn.wp_uuid4
  intro id
  rw [wp_bind]
  apply Txn.wp_momentOf
  intro createdAt
  rw [wp_bind, wp_statement]
  intro _ _ _ _ _
  exact (wp_pure _).mpr (each _ _ rfl rfl)

private theorem wp_recordAudit (judgement : Judgement) (run : GridValidationRun)
    (tradeId : Option UUID)
    {post : Unit → List (Database → Except Failure Database) → (Database → Prop) → Prop}
    (each : ∀ later known, (later = log ∨ ∃ row, later = log ++ [insertAudit row]) →
      post () later known) :
    Wp valid rely (recordAudit sha256 judgement run tradeId) post log known := by
  cases tradeId with
  | none => exact (wp_pure _).mpr (each _ _ (Or.inl rfl))
  | some tradeId =>
      unfold recordAudit
      rw [wp_bind]
      apply wp_buildEvent
      intro event
      rw [wp_bind]
      apply wp_append
      intro row _ _ _ _ _ _ _ _ _
      exact (wp_pure _).mpr (each _ _ (Or.inr ⟨row, rfl⟩))

/-- The statements of a validation that recorded `run`. -/
def Recorded (run : GridValidationRun) (log : List (Database → Except Failure Database)) : Prop :=
  log = [Relations.gridRuns.insert run] ∨
    ∃ row, log = [Relations.gridRuns.insert run, insertAudit row]

/-- What is judged of an answer of the engine that passes the boundary is what a
returned run records. -/
structure RunOf (engine : GridEngine) (request : GridValidationRequest) (run : GridValidationRun)
    (result : GridValidationResult) : Prop where
  answered : engine.validate request = .ok result
  passes : validateResult result engine = .ok ()
  status : run.status = (judge sha256 request result).status
  decision : run.decision = (judge sha256 request result).decision

private theorem wp_validateScenario (engine : GridEngine) (request : GridValidationRequest)
    (tradeId gridSnapshotId : Option UUID) (at_ : Option Instant) :
    Wp valid rely (validateScenario sha256 engine request tradeId gridSnapshotId at_)
      (fun outcome log _ => ∀ run, outcome = .ok run →
        Recorded run log ∧ ∃ result, RunOf sha256 engine request run result) [] known := by
  unfold validateScenario
  rw [wp_bind, Txn.wp_require]
  intro _
  rw [wp_bind, Txn.wp_require]
  intro _
  cases answered : engine.validate request with
  | error name =>
      dsimp only
      rw [wp_bind]
      apply wp_record
      intro run _ _ _
      rw [wp_bind]
      apply wp_recordAudit
      intro _ _ _
      rw [wp_pure]
      intro other impossible
      cases impossible
  | ok result =>
      dsimp only
      rw [wp_bind, wp_lift]
      intro _ passes
      rw [wp_bind]
      apply wp_record
      intro run _ status decision
      rw [wp_bind]
      apply wp_recordAudit
      intro later _ statements
      rw [wp_pure]
      intro other same
      cases same
      refine ⟨?_, result, answered, mapError_eq_ok.mp passes, status, decision⟩
      rcases statements with alone | audited
      · exact Or.inl alone
      · obtain ⟨row, both⟩ := audited
        exact Or.inr ⟨row, both⟩

/-- The statements append the run to the table. -/
theorem Recorded.rows {run : GridValidationRun}
    {log : List (Database → Except Failure Database)} (recorded : Recorded run log)
    {db next : Database} (replayed : replay log db = .ok next) :
    next.gridRuns.rows = db.gridRuns.rows ++ [run] := by
  have inserted : ∀ {middle}, Relations.gridRuns.insert run db = .ok middle →
      middle.gridRuns.rows = db.gridRuns.rows ++ [run] := by
    intro middle executed
    obtain ⟨table, accepted, same⟩ := Relation.insert_ok executed
    rw [same]
    exact (Table.insert_eq_some accepted).1
  rcases recorded with single | audited
  · rw [single] at replayed
    obtain ⟨middle, executed, rest⟩ := bind_eq_ok.mp replayed
    cases rest
    exact inserted executed
  · obtain ⟨row, both⟩ := audited
    rw [both] at replayed
    obtain ⟨middle, executed, rest⟩ := bind_eq_ok.mp replayed
    obtain ⟨final, audit, rest⟩ := bind_eq_ok.mp rest
    cases rest
    obtain ⟨table, same⟩ := insertAudit_audited audit
    have rows := inserted executed
    rw [same]
    exact rows

/-- A validation that returns a run has appended it, and judged the engine's
answer. -/
theorem validateScenario_returned {engine : GridEngine} {request : GridValidationRequest}
    {tradeId gridSnapshotId : Option UUID} {at_ : Option Instant} {inputs : ℕ → Supply}
    {db next : Database} {run : GridValidationRun}
    (returned : (validateScenario sha256 engine request tradeId gridSnapshotId at_).alone inputs
      db = .ok (.ok run, next)) :
    next.gridRuns.rows = db.gridRuns.rows ++ [run] ∧
      ∃ result, RunOf sha256 engine request run result := by
  have established := @wp_validateScenario sha256 (fun _ => True) Eq (fun _ => True) engine request
    tradeId gridSnapshotId at_
  obtain ⟨log, _, post, _, replayed⟩ := established.alone trivial trivial rfl returned
  obtain ⟨recorded, judged⟩ := post run rfl
  exact ⟨recorded.rows replayed, judged⟩

/-! ## Contradictions -/

private theorem crossCheck_eq_nil_iff {result : GridValidationResult}
    {limits : Interfaces.Grid.GridLimits} :
    crossCheck result limits = [] ↔
      (result.status = .safe → evaluateMetrics result.metrics limits = []) := by
  unfold crossCheck
  split
  · rename_i safe
    rw [List.map_eq_nil_iff]
    exact ⟨fun within _ => within, fun within => within safe⟩
  · rename_i notSafe
    simp [notSafe]

/-- A run says the network is safe when the engine said so of a network that is
rated, and listed nothing the trade caused. -/
theorem RunOf.safe_iff {engine : GridEngine} {request : GridValidationRequest}
    {run : GridValidationRun} {result : GridValidationResult}
    (judged : RunOf sha256 engine request run result) :
    run.status = .safe ↔ result.status = .safe ∧ request.network.unratedElements = [] ∧
      result.causedViolations = [] := by
  rw [judged.status]
  unfold judge
  dsimp only
  rw [effectiveStatus_safe_iff]

/-- It accepts the trade exactly then. -/
theorem RunOf.accept_iff {engine : GridEngine} {request : GridValidationRequest}
    {run : GridValidationRun} {result : GridValidationResult}
    (judged : RunOf sha256 engine request run result) :
    run.decision = .accept ↔ result.status = .safe ∧ request.network.unratedElements = [] ∧
      result.causedViolations = [] := by
  rw [judged.decision]
  unfold judge
  dsimp only
  rw [decideTrade_accept_iff, effectiveStatus_safe_iff]

/-- What is recorded as safe or accepted is within its metrics' limits exactly
when the engine does not contradict itself, or what it says is not taken over. -/
theorem validateScenario_within_iff {engine : GridEngine} {request : GridValidationRequest}
    {tradeId gridSnapshotId : Option UUID} {at_ : Option Instant} {inputs : ℕ → Supply}
    {db next : Database} {run : GridValidationRun} {result : GridValidationResult}
    (answered : engine.validate request = .ok result)
    (returned : (validateScenario sha256 engine request tradeId gridSnapshotId at_).alone inputs
      db = .ok (.ok run, next)) :
    next.gridRuns.rows = db.gridRuns.rows ++ [run] ∧
      ((run.status = .safe ∨ run.decision = .accept →
          evaluateMetrics result.metrics request.limits = []) ↔
        crossCheck result request.limits = [] ∨ request.network.unratedElements ≠ [] ∨
          result.causedViolations ≠ []) := by
  obtain ⟨rows, other, judged⟩ := validateScenario_returned sha256 returned
  have same : other = result := Except.ok.inj (judged.answered.symm.trans answered)
  rw [same] at judged
  refine ⟨rows, ?_⟩
  rw [judged.safe_iff, judged.accept_iff, or_self, crossCheck_eq_nil_iff]
  by_cases rated : request.network.unratedElements = []
  · by_cases caused : result.causedViolations = []
    · simp [rated, caused]
    · simp [caused]
  · simp [rated]

end

/-! ## An engine that contradicts itself -/

/-- One feeder, over a quarter of an hour. -/
def feederRequest : GridValidationRequest where
  network := {
    version := "phase-1-twin"
    nodes := [{ nodeId := 1, nodeType := .feeder, nominalVoltageKv := 11 }] }
  limits := DEFAULT_LIMITS
  intervalStart := ⟨1709229600000000, 0⟩
  intervalEnd := ⟨1709230500000000, 0⟩

/-- An engine that reports one minimum voltage and calls every network safe. -/
def reporting (lowest : Decimal) : GridEngine where
  name := "reporting"
  engineVersion := "1"
  validate := fun _ => .ok {
    engine := "reporting"
    engineVersion := "1"
    status := .safe
    metrics := { minVoltagePu := some lowest } }

def untouched : Database :=
  Database.initial ⟨0, false, .normal, 0, "", false⟩ ⟨[], [], [], [], []⟩

private theorem reporting_returns (lowest : Decimal) : ∃ run next,
    (validateScenario id (reporting lowest) feederRequest).alone (fun _ => ⟨7, 0, 0⟩) untouched =
      .ok (.ok run, next) ∧ run.status = .safe ∧ run.decision = .accept := by
  exact ⟨_, _, rfl, rfl, rfl⟩

theorem validateScenario_within_sample : ∃ run next,
    (validateScenario id (reporting (Decimal.ofUnits 98 2)) feederRequest).alone
        (fun _ => ⟨7, 0, 0⟩) untouched = .ok (.ok run, next) ∧
      next.gridRuns.rows = untouched.gridRuns.rows ++ [run] ∧
      ((run.status = .safe ∨ run.decision = .accept →
          evaluateMetrics { minVoltagePu := some (Decimal.ofUnits 98 2) } DEFAULT_LIMITS = []) ↔
        crossCheck ⟨"reporting", "1", .safe, { minVoltagePu := some (Decimal.ofUnits 98 2) }, [], []⟩
            DEFAULT_LIMITS = [] ∨
          feederRequest.network.unratedElements ≠ [] ∨ ([] : List GridViolation) ≠ []) := by
  obtain ⟨run, next, returned, _⟩ := reporting_returns (Decimal.ofUnits 98 2)
  exact ⟨run, next, returned, validateScenario_within_iff id rfl returned⟩

/-- A minimum voltage of half the nominal is recorded as safe and accepted. -/
theorem collapsed_voltage_accepted : ∃ result run next,
    (reporting (Decimal.ofUnits 5 1)).validate feederRequest = .ok result ∧
      (validateScenario id (reporting (Decimal.ofUnits 5 1)) feederRequest).alone
        (fun _ => ⟨7, 0, 0⟩) untouched = .ok (.ok run, next) ∧
      run.status = .safe ∧ run.decision = .accept ∧
      evaluateMetrics result.metrics feederRequest.limits ≠ [] := by
  obtain ⟨run, next, returned, accepted⟩ := reporting_returns (Decimal.ofUnits 5 1)
  exact ⟨_, run, next, rfl, returned, accepted.1, accepted.2, by decide +kernel⟩

end UrjaSetu.Services.GridValidationService
