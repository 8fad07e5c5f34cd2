import UrjaSetu.Db.Database
import UrjaSetu.Domain.Policies.Surplus

/-!
The queries of `app/repositories/forecasting.py`, and the surplus that
`app/services/forecast_service.py` makes of them.
-/

namespace UrjaSetu.Repositories.Forecasting

open UrjaSetu.Domain UrjaSetu.Db UrjaSetu.Db.Models UrjaSetu.Library
open UrjaSetu.Domain.Policies.Surplus

/-- `list_for_site`: the points of completed runs whose interval starts in
`[start, end)`, the newest run of an interval last. -/
def listForSite (db : Database) (siteId : UUID) (start end_ : Instant) (kind : ForecastType) :
    List ForecastPoint :=
  let joined := db.forecastPoints.rows.filterMap fun point =>
    (db.forecastRuns.find? fun run => run.id = point.forecastRunId).map fun run => (point, run)
  let selected := joined.filter fun row => row.1.siteId = siteId ∧ start ≤ row.1.intervalStart ∧
    row.1.intervalStart < end_ ∧ row.2.status = .completed ∧ row.2.forecastType = kind
  (sortBy (fun row : ForecastPoint × ForecastRun =>
    (toLex (row.1.intervalStart, row.2.createdAt) : Instant ×ₗ Instant)) selected).map Prod.fst

/-- `latest_per_interval_for_site`. -/
def latestPerIntervalForSite (db : Database) (siteId : UUID) (start end_ : Instant)
    (kind : ForecastType) : List ForecastPoint :=
  let newest := Dict.ofItems ForecastPoint.intervalStart id
    (listForSite db siteId start end_ kind)
  (sortBy Prod.fst newest.entries).map Prod.snd

/-- The rows of `get_surplus_for_site`. -/
def predictions (points : List ForecastPoint) : List Prediction :=
  points.map fun point => (point.intervalStart, point.intervalEnd, point.predictedKw)

/-- The surplus window of a site, in kWh. -/
def exportableKwh (db : Database) (siteId : UUID) (start end_ : Instant) : ℚ :=
  totalExportableKwh (calculateSurplus
    (predictions (latestPerIntervalForSite db siteId start end_ .solar))
    (predictions (latestPerIntervalForSite db siteId start end_ .load)))

section Rows

variable {db : Database} {siteId : UUID} {start end_ : Instant} {kind : ForecastType}

private theorem mem_listForSite {point : ForecastPoint}
    (listed : point ∈ listForSite db siteId start end_ kind) : point ∈ db.forecastPoints.rows := by
  obtain ⟨row, sorted, rfl⟩ := List.mem_map.mp listed
  have selected := (mem_sortBy _).mp sorted
  obtain ⟨stored, member, made⟩ := List.mem_filterMap.mp (List.mem_filter.mp selected).1
  obtain ⟨run, _, rfl⟩ := Option.map_eq_some_iff.mp made
  exact member

private theorem mem_latestPerIntervalForSite {point : ForecastPoint}
    (listed : point ∈ latestPerIntervalForSite db siteId start end_ kind) :
    point ∈ db.forecastPoints.rows := by
  obtain ⟨⟨moment, found⟩, sorted, rfl⟩ := List.mem_map.mp listed
  have held := Dict.mem_entries_iff.mp ((mem_sortBy _).mp sorted)
  exact mem_listForSite (Dict.mem_of_get?_ofItems held).1

theorem exportableKwh_nonneg (db : Database) (siteId : UUID) (start end_ : Instant) :
    0 ≤ exportableKwh db siteId start end_ := by
  apply totalExportableKwh_nonneg
  intro point member
  obtain ⟨prediction, listed, startEq, endEq⟩ := calculateSurplus_window member
  have stored : ∃ row ∈ db.forecastPoints.rows,
      (row.intervalStart, row.intervalEnd, row.predictedKw) = prediction := by
    rcases List.mem_append.mp listed with generated | consumed
    · obtain ⟨row, latest, same⟩ := List.mem_map.mp generated
      exact ⟨row, mem_latestPerIntervalForSite latest, same⟩
    · obtain ⟨row, latest, same⟩ := List.mem_map.mp consumed
      exact ⟨row, mem_latestPerIntervalForSite latest, same⟩
  obtain ⟨row, rowStored, rfl⟩ := stored
  have check := db.forecastPoints.checked row rowStored
  simp only [Models.forecastPoints, Bool.and_eq_true, decide_eq_true_eq] at check
  rw [← startEq, ← endEq]
  exact check.1.1.le

end Rows

end UrjaSetu.Repositories.Forecasting
