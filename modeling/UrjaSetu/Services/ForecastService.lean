import UrjaSetu.Domain.Interfaces.Forecasting
import UrjaSetu.Library.Calendar
import UrjaSetu.Library.DecimalContext
import UrjaSetu.Library.Dict
import UrjaSetu.Services.TelemetryService

/-!
The operations of `app/services/forecast_service.py`: one forecast run around a
provider, and what is checked of the provider's result.

A statement the database refuses raises where it is flushed. Besides the
constraints of the tables these are a number too large for its column, a text too
long for its column, and a text with a NUL.

Does not own: which results a horizon is tiled by (see `Horizon`), in which state
a run is left (see `RunOutcome`), and the surplus of a site (see `SurplusWindow`).
-/

namespace UrjaSetu.Services.ForecastService

open UrjaSetu.Core UrjaSetu.Domain UrjaSetu.Domain.Interfaces UrjaSetu.Db UrjaSetu.Library
open UrjaSetu.Library.Rounding UrjaSetu.Library.DecimalContext

/-- `DEFAULT_HISTORY_WINDOW`. -/
def DEFAULT_HISTORY_WINDOW : ℤ := 14 * 24 * 3600 * 1000000

/-- `DEFAULT_INTERVAL`. -/
def DEFAULT_INTERVAL : ℤ := 15 * 60 * 1000000

/-- `ForecastProviderError`. -/
def forecastProviderError (message : String) (details : List (String × DetailValue)) :
    UrjaSetuError :=
  unprocessableError "FORECAST_PROVIDER_FAILED" message details

/-- `repr` of a name without quotes, backslashes and control characters. -/
def quoted (name : String) : String := "'" ++ name ++ "'"

/-! ## Checking a request -/

/-- `_validate_horizon`. -/
def validateHorizon (start end_ : Instant) (interval : ℤ) : Except UrjaSetuError Unit :=
  if end_ ≤ start then
    .error (unprocessableError "FORECAST_HORIZON_INVALID"
      "horizon_end must be after horizon_start." [])
  else if interval ≤ 0 then
    .error (unprocessableError "FORECAST_INTERVAL_INVALID"
      "interval must be greater than zero." [])
  else .ok ()

/-! ## Checking a result -/

/-- `not (Decimal("0") <= point.confidence <= Decimal("1"))`, where it is given. -/
def confidenceOutside : Option ℚ → Bool
  | none => false
  | some confidence => ¬ (0 ≤ confidence ∧ confidence ≤ 1)

/-- The body of the loop of `_validate_result`, with the starts it has seen. -/
def validatePoint (request : ForecastRequest) (seen : List Instant) (point : ForecastPoint) :
    Except UrjaSetuError (List Instant) :=
  let start := Calendar.isoText point.intervalStart
  if point.intervalEnd ≤ point.intervalStart then
    .error (forecastProviderError
      "Provider returned a point whose interval_end is not after interval_start."
      [("interval_start", .text start)])
  else if point.intervalStart ∈ seen then
    .error (forecastProviderError "Provider returned duplicate points for the same interval."
      [("interval_start", .text start)])
  else if ¬ (request.horizonStart ≤ point.intervalStart ∧
      point.intervalStart < request.horizonEnd) then
    .error (forecastProviderError "Provider returned a point outside the requested horizon."
      [("interval_start", .text start),
        ("horizon_start", .text (Calendar.isoText request.horizonStart)),
        ("horizon_end", .text (Calendar.isoText request.horizonEnd))])
  else if confidenceOutside point.confidence then
    .error (forecastProviderError "Provider returned a confidence outside [0, 1]."
      (point.confidence.toList.map fun confidence => ("confidence", .decimal confidence)))
  else .ok (point.intervalStart :: seen)

/-- `_validate_result`. -/
def validateResult (result : ForecastResult) (request : ForecastRequest)
    (provider : ForecastProvider) : Except UrjaSetuError Unit :=
  if result.forecastType ≠ request.forecastType then
    .error (forecastProviderError "Provider returned a different forecast type than requested."
      [("requested", .text request.forecastType.value),
        ("returned", .text result.forecastType.value)])
  else if result.points = [] then
    .error (forecastProviderError ("Provider " ++ quoted provider.name ++
      " returned no forecast points.") [("provider", .text provider.name)])
  else (result.points.foldlM (validatePoint request) []).map fun _ => ()

/-- What the checks leave of a result. -/
structure Accepted (result : ForecastResult) (request : ForecastRequest) : Prop where
  sameType : result.forecastType = request.forecastType
  nonempty : result.points ≠ []
  ordered : ∀ point ∈ result.points, point.intervalStart < point.intervalEnd
  distinct : (result.points.map ForecastPoint.intervalStart).Nodup
  within : ∀ point ∈ result.points, request.horizonStart ≤ point.intervalStart ∧
    point.intervalStart < request.horizonEnd
  probable : ∀ point ∈ result.points, ∀ confidence ∈ point.confidence,
    0 ≤ confidence ∧ confidence ≤ 1

section Validation

variable {request : ForecastRequest} {seen next : List Instant} {point : ForecastPoint}
  {result : ForecastResult} {provider : ForecastProvider}

private theorem confidenceOutside_eq_false {confidence : Option ℚ} :
    confidenceOutside confidence = false ↔ ∀ value ∈ confidence, 0 ≤ value ∧ value ≤ 1 := by
  cases confidence with
  | none => simp [confidenceOutside]
  | some value => simp [confidenceOutside]

/-- A point that passes is well formed, inside the horizon, and new. -/
theorem validatePoint_eq_ok : validatePoint request seen point = .ok next ↔
    point.intervalStart < point.intervalEnd ∧ point.intervalStart ∉ seen ∧
      (request.horizonStart ≤ point.intervalStart ∧ point.intervalStart < request.horizonEnd) ∧
      (∀ confidence ∈ point.confidence, 0 ≤ confidence ∧ confidence ≤ 1) ∧
      next = point.intervalStart :: seen := by
  dsimp only [validatePoint]
  rw [← confidenceOutside_eq_false]
  split_ifs with reversed repeated inside outside
  · simp [not_lt.mpr reversed]
  · simp [repeated]
  · simp [not_le.mp reversed, repeated, inside, outside]
  · simp only [Bool.not_eq_true] at outside
    simp [not_le.mp reversed, repeated, inside, outside, eq_comm]
  · simp [inside]

/-- What is established of the points already visited. -/
def Visited (request : ForecastRequest) (visited : List ForecastPoint) (seen : List Instant) : Prop :=
  (∀ start, start ∈ seen ↔ start ∈ visited.map ForecastPoint.intervalStart) ∧
    (visited.map ForecastPoint.intervalStart).Nodup ∧
    ∀ point ∈ visited, point.intervalStart < point.intervalEnd ∧
      (request.horizonStart ≤ point.intervalStart ∧ point.intervalStart < request.horizonEnd) ∧
      ∀ confidence ∈ point.confidence, 0 ≤ confidence ∧ confidence ≤ 1

private theorem Visited.extend {visited : List ForecastPoint} (known : Visited request visited seen)
    (passed : validatePoint request seen point = .ok next) :
    Visited request (visited ++ [point]) next := by
  obtain ⟨sameStarts, distinct, each⟩ := known
  obtain ⟨ordered, fresh, within, probable, rfl⟩ := validatePoint_eq_ok.mp passed
  refine ⟨?_, ?_, ?_⟩
  · intro start
    rw [List.map_append, List.mem_append, List.mem_cons, sameStarts start, List.map_singleton,
      List.mem_singleton]
    exact or_comm
  · rw [List.map_append, List.map_singleton, List.nodup_append]
    refine ⟨distinct, List.nodup_singleton _, ?_⟩
    intro start visitedStart other isPoint same
    rw [List.mem_singleton.mp isPoint] at same
    exact fresh ((sameStarts _).mpr (same ▸ visitedStart))
  · intro other member
    rcases List.mem_append.mp member with earlier | last
    · exact each other earlier
    · rw [List.mem_singleton.mp last]
      exact ⟨ordered, within, probable⟩

/-- Points that are all well formed, with distinct starts, pass one after the
other. -/
theorem validatePoints_passes {points : List ForecastPoint}
    (distinct : (points.map ForecastPoint.intervalStart).Nodup)
    (unseen : ∀ point ∈ points, point.intervalStart ∉ seen)
    (each : ∀ point ∈ points, point.intervalStart < point.intervalEnd ∧
      (request.horizonStart ≤ point.intervalStart ∧ point.intervalStart < request.horizonEnd) ∧
      ∀ confidence ∈ point.confidence, 0 ≤ confidence ∧ confidence ≤ 1) :
    ∃ final, points.foldlM (validatePoint request) seen = .ok final := by
  induction points generalizing seen with
  | nil => exact ⟨seen, rfl⟩
  | cons point rest inductionHypothesis =>
      obtain ⟨newStart, restDistinct⟩ := List.nodup_cons.mp distinct
      obtain ⟨ordered, within, probable⟩ := each point (by simp)
      have passed := validatePoint_eq_ok.mpr
        ⟨ordered, unseen point (by simp), within, probable, rfl⟩
      rw [List.foldlM_cons, passed, ok_bind]
      apply inductionHypothesis restDistinct
      · intro other member repeated
        rcases List.mem_cons.mp repeated with same | earlier
        · exact newStart (List.mem_map.mpr ⟨other, member, same⟩)
        · exact unseen other (List.mem_cons_of_mem _ member) earlier
      · exact fun other member => each other (List.mem_cons_of_mem _ member)

private theorem accepted_of_validateResult
    (passed : validateResult result request provider = .ok ()) :
    Accepted result request := by
  unfold validateResult at passed
  split_ifs at passed with differs none_
  obtain ⟨seen, visited⟩ : ∃ seen, result.points.foldlM (validatePoint request) [] = .ok seen := by
    cases ran : result.points.foldlM (validatePoint request) [] with
    | ok seen => exact ⟨seen, rfl⟩
    | error error =>
        rw [ran] at passed
        cases passed
  have known := holds_of_foldlM (Visited request) (by simp [Visited])
    (fun _ _ _ _ known passed => known.extend passed) visited
  obtain ⟨_, distinct, each⟩ := known
  exact
    { sameType := not_not.mp differs
      nonempty := none_
      ordered := fun point member => (each point member).1
      distinct := distinct
      within := fun point member => (each point member).2.1
      probable := fun point member => (each point member).2.2 }

/-- A result passes exactly where nothing the checks look for is wrong with it. -/
theorem validateResult_eq_ok :
    validateResult result request provider = .ok () ↔ Accepted result request := by
  refine ⟨accepted_of_validateResult, fun accepted => ?_⟩
  obtain ⟨final, passed⟩ := @validatePoints_passes request [] result.points accepted.distinct
    (by simp) fun point member =>
      ⟨accepted.ordered point member, accepted.within point member, accepted.probable point member⟩
  rw [validateResult, if_neg (not_not.mpr accepted.sameType), if_neg accepted.nonempty, passed]
  rfl

end Validation

/-! ## History -/

/-- One interval's readings, summed across a site's meters. -/
structure HistoryBucket where
  intervalEnd : Instant
  generationKw : Option ℚ := none
  loadKw : Option ℚ := none
  energyKwh : Option ℚ := none

/-- `_accumulate`. -/
def accumulate : Option ℚ → Option ℚ → Option ℚ
  | total, none => total
  | none, some value => some value
  | some total, some value => some (contextRound (total + value))

/-- `_HistoryBucket.add`. -/
def HistoryBucket.add (bucket : HistoryBucket) (row : Models.TelemetryReading) : HistoryBucket :=
  { bucket with
    generationKw := accumulate bucket.generationKw row.generationKw
    loadKw := accumulate bucket.loadKw row.loadKw
    energyKwh := accumulate bucket.energyKwh row.energyKwh }

def historyBuckets (rows : List Models.TelemetryReading) : Dict Instant HistoryBucket :=
  rows.foldl (fun buckets row => buckets.set row.intervalStart
    (((buckets.get? row.intervalStart).getD { intervalEnd := row.intervalEnd }).add row)) Dict.empty

/-- What `gather_history` makes of the usable readings of a site. -/
def history (db : Database) (siteId : UUID) (end_ : Instant) (window : ℤ) :
    List HistoricalObservation :=
  let rows := Repositories.Telemetry.listForSite db.community.meters db.readings.rows siteId
    (end_ - window) end_ true 100000
  (sortBy Prod.fst (historyBuckets rows).entries).map fun entry =>
    { intervalStart := entry.1
      intervalEnd := entry.2.intervalEnd
      generationKw := entry.2.generationKw
      loadKw := entry.2.loadKw
      energyKwh := entry.2.energyKwh }

/-- `gather_history`. -/
def gatherHistory (siteId : UUID) (end_ : Instant) (window : ℤ) :
    Call (List HistoricalObservation) :=
  Work.query fun db => history db siteId end_ window

/-! ## What the columns take -/

/-- What a `String(length)` column takes. -/
def storableText (length : ℕ) (text : String) : Bool :=
  text.length ≤ length && !text.toList.contains (Char.ofNat 0)

/-- What a `NUMERIC(14, 4)` column takes, where it is given. -/
def storableNumber : Option ℚ → Bool
  | none => true
  | some value => |Models.numeric4 value| < 10 ^ 10

/-- The row of one predicted bucket, as its columns hold it. -/
def storedPoint (runId siteId : UUID) (point : ForecastPoint) : Models.ForecastPoint where
  forecastRunId := runId
  siteId := siteId
  intervalStart := point.intervalStart
  intervalEnd := point.intervalEnd
  predictedKw := point.predictedKw.map Models.numeric4
  predictedKwh := point.predictedKwh.map Models.numeric4
  confidence := point.confidence.map Models.numeric4
  lowerBound := point.lowerBound.map Models.numeric4
  upperBound := point.upperBound.map Models.numeric4

/-- A value that its column refuses. -/
def dataError : Failure := .engine "DataError"

/-- The columns `provider`, `model_version` and `error`. -/
def storableTexts (run : Models.ForecastRun) : Bool :=
  storableText 64 run.provider && storableText 64 run.modelVersion &&
    run.error.all (storableText 500)

/-- INSERT of one run. -/
def insertRun (run : Models.ForecastRun) (db : Database) : Except Failure Database :=
  if storableTexts run then Relations.forecastRuns.insert run db else .error dataError

/-- The columns of power and energy. -/
def storableNumbers (point : ForecastPoint) : Bool :=
  storableNumber point.predictedKw && storableNumber point.predictedKwh &&
    storableNumber point.lowerBound && storableNumber point.upperBound

/-- INSERT of one predicted bucket. -/
def insertPoint (runId siteId : UUID) (point : ForecastPoint) (db : Database) :
    Except Failure Database :=
  if storableNumbers point then
    Relations.forecastPoints.insert (storedPoint runId siteId point) db
  else .error dataError

/-- UPDATE of one run. -/
def updateRun (runId : UUID) (change : Models.ForecastRun → Models.ForecastRun) (db : Database) :
    Except Failure Database :=
  if db.forecastRuns.rows.all fun run => run.id != runId || storableTexts (change run) then
    Relations.forecastRuns.modify (fun run => run.id = runId) change db
  else .error dataError

/-! ## Running a provider -/

/-- `_require_site`. -/
def requireSite (siteId : UUID) : Call Unit := TelemetryService.requireSite siteId

/-- What `_mark_failed` assigns. -/
def failedFor (reason : String) (run : Models.ForecastRun) : Models.ForecastRun :=
  { run with
    status := .failed
    error := some (String.ofList (reason.toList.take 500)) }

/-- `_mark_failed`. -/
def markFailed (runId : UUID) (reason : String) : Call Unit := do
  Work.add (updateRun runId (failedFor reason))
  Work.commit

/-- `if not provider.supports(forecast_type)`. -/
def requireSupported (provider : ForecastProvider) (forecastType : ForecastType) : Call Unit :=
  if provider.supports forecastType then pure ()
  else
    raiseDomain (unprocessableError "FORECAST_TYPE_UNSUPPORTED"
      ("Provider " ++ quoted provider.name ++ " does not produce " ++ forecastType.value ++
        " forecasts.")
      [("provider", .text provider.name), ("forecast_type", .text forecastType.value)])

/-- The run as it is written before the provider is asked. -/
def runningRun (provider : ForecastProvider) (forecastType : ForecastType)
    (horizonStart horizonEnd createdAt : Instant) (runId : UUID) : Models.ForecastRun where
  id := runId
  forecastType := forecastType
  horizonStart := horizonStart
  horizonEnd := horizonEnd
  createdAt := createdAt
  status := .running
  provider := provider.name
  modelVersion := provider.modelVersion
  error := none

def writeRun (provider : ForecastProvider) (forecastType : ForecastType)
    (horizonStart horizonEnd : Instant) (at_ : Option Instant) : Call Models.ForecastRun := do
  let createdAt ← TelemetryService.momentOf at_
  let runId ← uuid4
  let run := runningRun provider forecastType horizonStart horizonEnd createdAt runId
  Work.execute (insertRun run)
  Work.commit
  pure run

/-- What is refused before a run is written, and the run that is written. -/
def openRun (provider : ForecastProvider) (siteId : UUID) (forecastType : ForecastType)
    (horizonStart horizonEnd : Instant) (interval : ℤ) (at_ : Option Instant) :
    Call Models.ForecastRun := do
  requireSite siteId
  Work.lift ((validateHorizon horizonStart horizonEnd interval).mapError .domain)
  requireSupported provider forecastType
  writeRun provider forecastType horizonStart horizonEnd at_

/-- What is assigned to the run of a stored result. -/
def completedAt (modelVersion : String) (run : Models.ForecastRun) : Models.ForecastRun :=
  { run with
    status := .completed
    modelVersion := modelVersion }

/-- The points and the completed run. -/
def storeResult (run : Models.ForecastRun) (siteId : UUID) (result : ForecastResult) :
    Call Models.ForecastRun := do
  Work.forItems result.points fun point => Work.execute (insertPoint run.id siteId point)
  Work.add (updateRun run.id (completedAt result.modelVersion))
  Work.commit
  pure (completedAt result.modelVersion run)

/-- What is done with the provider's answer to `request`. -/
def concludeRun (provider : ForecastProvider) (run : Models.ForecastRun)
    (request : ForecastRequest) : Call Models.ForecastRun :=
  match provider.predict request with
  | .ok result =>
      match validateResult result request provider with
      | .ok () => storeResult run request.siteId result
      | .error error => do
          markFailed run.id "provider returned an invalid result"
          raiseDomain error
  | .error (.providerError error) => do
      markFailed run.id "provider returned an invalid result"
      raiseDomain error
  | .error (.other className text) => do
      markFailed run.id (className ++ ": " ++ text)
      raiseDomain (forecastProviderError
        ("Provider " ++ quoted provider.name ++ " failed to produce a forecast.")
        [("provider", .text provider.name), ("reason", .text className)])

/-- `run_forecast`, with its provider resolved. -/
def runForecast (provider : ForecastProvider) (siteId : UUID) (forecastType : ForecastType)
    (horizonStart horizonEnd : Instant) (interval historyWindow : ℤ) (at_ : Option Instant) :
    Call Models.ForecastRun := do
  let run ← openRun provider siteId forecastType horizonStart horizonEnd interval at_
  let history ← gatherHistory siteId horizonStart historyWindow
  concludeRun provider run
    { siteId := siteId
      forecastType := forecastType
      horizonStart := horizonStart
      horizonEnd := horizonEnd
      interval := interval
      history := history }

end UrjaSetu.Services.ForecastService
