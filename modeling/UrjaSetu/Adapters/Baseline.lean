import UrjaSetu.Domain.Interfaces.Forecasting
import UrjaSetu.Library.DecimalContext

/-!
The loop of the baseline forecast provider of `app/adapters/forecast/baseline.py`:
history grouped by time of day, and one point for each interval of the horizon.

The statistics of one point (mean, bounds and a heuristic confidence, part of it
floating point) are a parameter here. They are those of `BaselineProvider`, of
which `BaselineProvider.Loop` shows that it predicts what this loop does.

Owns: which intervals a forecast has points for.
-/

namespace UrjaSetu.Adapters.Baseline

open UrjaSetu.Domain UrjaSetu.Domain.Interfaces UrjaSetu.Library.DecimalContext

def DEFAULT_NAME : String := "baseline"

def DEFAULT_MODEL_VERSION : String := "1.0.0"

/-- What `_point_for` says of one interval. -/
structure PointValues where
  predictedKw : Option ℚ := none
  predictedKwh : Option ℚ := none
  confidence : Option ℚ := none
  lowerBound : Option ℚ := none
  upperBound : Option ℚ := none
deriving DecidableEq, Repr

/-- The point of the interval from `start` to `stop`. -/
def PointValues.point (values : PointValues) (start stop : Instant) : ForecastPoint where
  intervalStart := start
  intervalEnd := stop
  predictedKw := values.predictedKw
  predictedKwh := values.predictedKwh
  confidence := values.confidence
  lowerBound := values.lowerBound
  upperBound := values.upperBound

/-- `_point_for`, from the interval and the samples of its time of day. -/
abbrev PointRule := Instant → Instant → List ℚ → PointValues

/-- `_channel`. -/
def channel (observation : HistoricalObservation) : ForecastType → Option ℚ
  | .solar => observation.generationKw
  | .load => observation.loadKw
  | .surplus =>
      match observation.generationKw, observation.loadKw with
      | some generation, some load => some (max 0 (contextRound (generation - load)))
      | _, _ => none

/-- `(moment.hour, moment.minute)`, as minutes of the day. -/
def minuteOfDay (moment : Instant) : ℤ := moment % 86400000000 / 60000000

/-- `_group_by_time_of_day(request).get((start.hour, start.minute), [])`. -/
def samplesAt (request : ForecastRequest) (start : Instant) : List ℚ :=
  request.history.filterMap fun observation =>
    if minuteOfDay observation.intervalStart = minuteOfDay start then
      channel observation request.forecastType
    else none

/-- `while start < horizon_end`, in at most `fuel` rounds. -/
def tile (rule : PointRule) (request : ForecastRequest) : ℕ → Instant → List ForecastPoint
  | 0, _ => []
  | fuel + 1, start =>
      if start < request.horizonEnd then
        let stop := min (start + request.interval) request.horizonEnd
        (rule start stop (samplesAt request start)).point start stop :: tile rule request fuel stop
      else []

/-- `BaselineForecastProvider().predict(request)`. -/
def predict (rule : PointRule) (request : ForecastRequest) : List ForecastPoint :=
  tile rule request
    (((request.horizonEnd - request.horizonStart) / request.interval).toNat + 1)
    request.horizonStart

variable {rule : PointRule} {request : ForecastRequest}

private theorem tile_within (forward : 0 < request.interval) (fuel : ℕ) (start : Instant) :
    ∀ point ∈ tile rule request fuel start,
      start ≤ point.intervalStart ∧ point.intervalStart < request.horizonEnd := by
  induction fuel generalizing start with
  | zero =>
      intro point member
      cases member
  | succ fuel inductionHypothesis =>
      intro point member
      rw [tile] at member
      split at member
      · rename_i before
        rcases List.mem_cons.mp member with first | later
        · rw [first]
          exact ⟨le_refl start, before⟩
        · have within := inductionHypothesis _ point later
          have advanced : start ≤ min (start + request.interval) request.horizonEnd :=
            le_min (le_add_of_nonneg_right forward.le) before.le
          exact ⟨advanced.trans within.1, within.2⟩
      · cases member

/-- Every predicted interval starts inside the horizon. -/
theorem predict_within (forward : 0 < request.interval) :
    ∀ point ∈ predict rule request,
      request.horizonStart ≤ point.intervalStart ∧ point.intervalStart < request.horizonEnd :=
  tile_within forward _ _

end UrjaSetu.Adapters.Baseline
