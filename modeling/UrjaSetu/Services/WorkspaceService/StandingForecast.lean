import UrjaSetu.Services.WorkspaceService.Orders

/-!
A forecast stands once it is made: `forecast` runs at most once for a site and a
local day, so what `prediction` finds for an interval never changes.

Owns: which forecasts the tables hold, and that a further run leaves every
prediction there is as it was.
-/

namespace UrjaSetu.Services.WorkspaceService

open UrjaSetu.Domain UrjaSetu.Db UrjaSetu.Db.Models UrjaSetu.Library UrjaSetu.Adapters
open UrjaSetu.Domain.Policies.CommunityEnergy

/-- Midnight of the local day of `moment`. -/
def dayStart (moment : Instant) : Instant := localDate moment * DAY - IST

/-- Every point belongs to a stored run over the local day of its interval. -/
def Forecasted (db : Database) : Prop :=
  ∀ point ∈ db.forecastPoints.rows, ∃ run ∈ db.forecastRuns.rows,
    run.id = point.forecastRunId ∧ run.horizonStart = dayStart point.intervalStart

/-- The predictions of one state are those of the next. -/
def Lasting (db next : Database) : Prop :=
  Forecasted db → Forecasted next ∧ ∀ siteId start basis,
    prediction? db siteId start = some basis → prediction? next siteId start = some basis

theorem Lasting.refl (db : Database) : Lasting db db :=
  fun forecasted => ⟨forecasted, fun _ _ _ found => found⟩

theorem Lasting.trans {db middle next : Database} (first : Lasting db middle)
    (second : Lasting middle next) : Lasting db next := by
  intro forecasted
  obtain ⟨middleForecasted, kept⟩ := first forecasted
  obtain ⟨nextForecasted, further⟩ := second middleForecasted
  exact ⟨nextForecasted, fun siteId start basis found =>
    further siteId start basis (kept siteId start basis found)⟩

/-- A change that reaches no forecast. -/
theorem Lasting.of_same {db next : Database} (points : next.forecastPoints = db.forecastPoints)
    (runs : next.forecastRuns = db.forecastRuns) : Lasting db next := by
  intro forecasted
  unfold Forecasted prediction? newestPoint predictionRows
  rw [points, runs]
  exact ⟨forecasted, fun _ _ _ found => found⟩

/-! ## One forecast -/

theorem dayStart_of_within {clock start : Instant} (after : tomorrow clock ≤ start)
    (before : start < tomorrow clock + DAY) : dayStart start = tomorrow clock := by
  simp only [tomorrow, dayStart, localDate, DAY, IST] at after before ⊢
  change ((_ : ℤ) ≤ _) at after
  change ((_ : ℤ) < _) at before
  change ((_ : ℤ) = _)
  omega

/-- What the INSERTs of points have done. -/
theorem insertPoints_rows (points : List Models.ForecastPoint) (db next : Database)
    (executed : points.foldlM (fun db point => Relations.forecastPoints.insert point db) db =
      .ok next) : next.forecastPoints.rows = db.forecastPoints.rows ++ points ∧
        next = { db with forecastPoints := next.forecastPoints } := by
  induction points generalizing db with
  | nil =>
      cases executed
      exact ⟨(List.append_nil _).symm, rfl⟩
  | cons point rest inductionHypothesis =>
      rw [List.foldlM_cons] at executed
      obtain ⟨first, added, remaining⟩ := bind_eq_ok.mp executed
      obtain ⟨table, accepted, rfl⟩ := Relation.insert_ok added
      have rows : table.rows = db.forecastPoints.rows ++ [point] :=
        (Table.insert_eq_some accepted).1
      obtain ⟨later, frame⟩ := inductionHypothesis _ remaining
      constructor
      · rw [later]
        show table.rows ++ rest = _
        rw [rows, List.append_assoc]
        rfl
      · rw [frame]
        rfl

/-- What the INSERT of a run with its points has done. -/
theorem insertForecast_rows {run : ForecastRun} {points : List Models.ForecastPoint}
    {db next : Database} (executed : insertForecast run points db = .ok next) :
    next.forecastPoints.rows = db.forecastPoints.rows ++ points ∧
      next.forecastRuns.rows = db.forecastRuns.rows ++ [run] ∧
        next = { db with
          forecastPoints := next.forecastPoints
          forecastRuns := next.forecastRuns } := by
  obtain ⟨middle, pointsInserted, runInserted⟩ := bind_eq_ok.mp executed
  obtain ⟨pointRows, frame⟩ := insertPoints_rows points db middle pointsInserted
  obtain ⟨table, accepted, rfl⟩ := Relation.insert_ok runInserted
  have runRows : table.rows = middle.forecastRuns.rows ++ [run] :=
    (Table.insert_eq_some accepted).1
  refine ⟨pointRows, ?_, ?_⟩
  · show table.rows = _
    rw [runRows, frame]
  · show { middle with forecastRuns := table } = _
    rw [frame]
    rfl

/-! ## What a further run leaves -/

section Added

variable {db next : Database} {points : List Models.ForecastPoint} {runs : List ForecastRun}

/-- A prediction comes from points of its site and interval. -/
theorem exists_of_prediction {siteId : UUID} {start : Instant} {basis : Basis}
    (found : prediction? db siteId start = some basis) :
    ∃ point ∈ db.forecastPoints.rows, point.siteId = siteId ∧ point.intervalStart = start := by
  have some_row : ∃ row, row ∈ predictionRows db siteId start := by
    cases rows : predictionRows db siteId start with
    | nil => simp [prediction?, newestPoint, rows] at found
    | cons row rest => exact ⟨row, List.mem_cons_self⟩
  obtain ⟨row, member⟩ := some_row
  obtain ⟨point, selected, _⟩ := List.mem_filterMap.mp ((mem_sortBy _).mp member)
  obtain ⟨stored, wanted⟩ := Table.mem_where.mp selected
  simp only [Bool.and_eq_true, decide_eq_true_eq] at wanted
  exact ⟨point, stored, wanted.1, wanted.2⟩

/-- Points that are added elsewhere are not among the rows of a prediction, and
the runs of those that are there are found as before. -/
theorem predictionRows_added (forecasted : Forecasted db)
    (pointRows : next.forecastPoints.rows = db.forecastPoints.rows ++ points)
    (runRows : next.forecastRuns.rows = db.forecastRuns.rows ++ runs) {siteId : UUID}
    {start : Instant}
    (elsewhere : ∀ point ∈ points, ¬ (point.siteId = siteId ∧ point.intervalStart = start)) :
    predictionRows next siteId start = predictionRows db siteId start := by
  have none : points.filter (fun point => point.siteId = siteId && point.intervalStart = start) =
      [] := by
    apply List.filter_eq_nil_iff.mpr
    intro point member wanted
    simp only [Bool.and_eq_true, decide_eq_true_eq] at wanted
    exact elsewhere point member wanted
  have sameRun : ∀ point ∈ db.forecastPoints.rows,
      next.forecastRuns.find? (fun run => run.id = point.forecastRunId) =
        db.forecastRuns.find? fun run => run.id = point.forecastRunId := by
    intro point stored
    obtain ⟨run, runStored, isIts, _⟩ := forecasted point stored
    have some_ : (db.forecastRuns.rows.find? fun run => run.id = point.forecastRunId).isSome := by
      rw [List.find?_isSome]
      exact ⟨run, runStored, decide_eq_true isIts⟩
    unfold Table.find?
    rw [runRows, List.find?_append, Option.or_of_isSome some_]
  unfold predictionRows Table.where_
  rw [pointRows, List.filter_append, none, List.append_nil]
  congr 1
  apply List.filterMap_congr
  intro point selected
  rw [sameRun point (List.mem_filter.mp selected).1]

theorem lasting_of_added
    (pointRows : next.forecastPoints.rows = db.forecastPoints.rows ++ points)
    (runRows : next.forecastRuns.rows = db.forecastRuns.rows ++ runs)
    (belong : ∀ point ∈ points, ∃ run ∈ runs,
      run.id = point.forecastRunId ∧ run.horizonStart = dayStart point.intervalStart)
    (unforecast : Forecasted db → ∀ point ∈ points, ∀ other ∈ db.forecastPoints.rows,
      ¬ (other.siteId = point.siteId ∧ other.intervalStart = point.intervalStart)) :
    Lasting db next := by
  intro forecasted
  constructor
  · intro point member
    rw [runRows]
    rw [pointRows] at member
    rcases List.mem_append.mp member with stored | added
    · obtain ⟨run, runStored, isIts⟩ := forecasted point stored
      exact ⟨run, List.mem_append_left _ runStored, isIts⟩
    · obtain ⟨run, runAdded, isIts⟩ := belong point added
      exact ⟨run, List.mem_append_right _ runAdded, isIts⟩
  · intro siteId start basis found
    obtain ⟨other, stored, isSite, isStart⟩ := exists_of_prediction found
    have sameRows : predictionRows next siteId start = predictionRows db siteId start := by
      apply predictionRows_added forecasted pointRows runRows
      rintro point member ⟨pointSite, pointStart⟩
      exact unforecast forecasted point member other stored
        ⟨isSite.trans pointSite.symm, isStart.trans pointStart.symm⟩
    unfold prediction? newestPoint at found ⊢
    rw [sameRows]
    exact found

end Added

/-- A site without a point of the horizon has none of an interval in it. -/
theorem unforecast_of_horizon {db : Database} {site : Site} {clock start : Instant}
    (forecasted : Forecasted db) (absent : hasForecast db site (tomorrow clock) = false)
    (after : tomorrow clock ≤ start) (before : start < tomorrow clock + DAY) :
    ∀ point ∈ db.forecastPoints.rows, ¬ (point.siteId = site.id ∧ point.intervalStart = start) := by
  rintro point stored ⟨isSite, isStart⟩
  obtain ⟨run, runStored, isIts, horizon⟩ := forecasted point stored
  rw [isStart, dayStart_of_within after before] at horizon
  have present : hasForecast db site (tomorrow clock) = true := by
    refine List.any_eq_true.mpr ⟨point, stored, ?_⟩
    simp only [Bool.and_eq_true, decide_eq_true_eq, List.any_eq_true]
    exact ⟨isSite, run, runStored, isIts, horizon⟩
  rw [absent] at present
  cases present

/-- The points of a run over tomorrow are tomorrow's. -/
theorem forecastPoint_within {engines : Engines} {runId siteId : UUID} {clock : Instant}
    {kind : ForecastType} {history : List Interfaces.HistoricalObservation}
    {point : Models.ForecastPoint}
    (member : point ∈ (Baseline.predict engines.pointRule
      { siteId := siteId, forecastType := kind, horizonStart := tomorrow clock
        horizonEnd := tomorrow clock + DAY, interval := INTERVAL
        history := history }).map (forecastPoint runId siteId)) :
    point.forecastRunId = runId ∧ point.siteId = siteId ∧
      tomorrow clock ≤ point.intervalStart ∧ point.intervalStart < tomorrow clock + DAY := by
  obtain ⟨predicted, isPredicted, rfl⟩ := List.mem_map.mp member
  have within := Baseline.predict_within (show (0 : ℤ) < INTERVAL by decide) predicted isPredicted
  exact ⟨rfl, rfl, within.1, within.2⟩

end UrjaSetu.Services.WorkspaceService
