import UrjaSetu.Library.Json
import UrjaSetu.Library.Table
import UrjaSetu.Domain.Enums

/-!
The community and what is forecast of it: the users, sites, meters and assets of
`app/db/models/identity.py` and `assets.py`, and the forecasts of
`forecasting.py`.

Columns that no modelled function reads are left out. A row carries its id where
another row or a query refers to it.
-/

namespace UrjaSetu.Db.Models

open UrjaSetu.Domain UrjaSetu.Library

/-- The authenticated account a request acts for. -/
structure User where
  id : UUID
  role : UserRole
deriving DecidableEq, Repr

/-- A node of the distribution twin. Its rating is that of the element that
connects it to its parent. -/
structure GridNode where
  id : UUID
  nodeType : GridNodeType
  nominalVoltageKv : ℚ
  parentNodeId : Option UUID
  feederId : Option String
  ratedCapacityKw : Option ℚ
deriving DecidableEq, Repr

/-- Recorded network state of a feeder. -/
structure GridSnapshot where
  id : UUID
  feederId : Option String
  capturedAt : Instant
deriving DecidableEq, Repr

structure Site where
  id : UUID
  ownerUserId : UUID
  gridNodeId : Option UUID
deriving DecidableEq, Repr

structure Meter where
  id : UUID
  siteId : UUID
deriving DecidableEq, Repr

structure EnergyAsset where
  id : UUID
  siteId : UUID
  capacityKw : ℚ
deriving DecidableEq, Repr

/-- A household's model parameters, as its JSONB column holds them. -/
structure HouseholdProfile where
  userId : UUID
  settings : Json

/-- The rows that describe the community. No modelled operation changes them but
`enable_live`, which adds household profiles. -/
structure Community where
  gridNodes : List GridNode
  sites : List Site
  meters : List Meter
  assets : List EnergyAsset
  households : List HouseholdProfile

/-! ## Forecasts -/

structure ForecastRun where
  id : UUID
  forecastType : ForecastType
  horizonStart : Instant
  horizonEnd : Instant
  createdAt : Instant
  status : ForecastRunStatus
  provider : String
  modelVersion : String
  error : Option String
deriving DecidableEq, Repr

def forecastRuns : Schema ForecastRun where
  check run := run.horizonStart < run.horizonEnd
  conflict earlier later := earlier.id = later.id

structure ForecastPoint where
  forecastRunId : UUID
  siteId : UUID
  intervalStart : Instant
  intervalEnd : Instant
  predictedKw : Option ℚ
  predictedKwh : Option ℚ
  confidence : Option ℚ
  lowerBound : Option ℚ
  upperBound : Option ℚ
deriving DecidableEq, Repr

/-- `uq_forecast_points_forecast_run_id_site_id_interval_start`. -/
def forecastPoints : Schema ForecastPoint where
  check point := point.intervalStart < point.intervalEnd &&
    (match point.confidence with
      | none => true
      | some confidence => 0 ≤ confidence ∧ confidence ≤ 1) &&
    (match point.lowerBound, point.upperBound with
      | some lower, some upper => lower ≤ upper
      | _, _ => true)
  conflict earlier later := earlier.forecastRunId = later.forecastRunId ∧
    earlier.siteId = later.siteId ∧ earlier.intervalStart = later.intervalStart

end UrjaSetu.Db.Models
