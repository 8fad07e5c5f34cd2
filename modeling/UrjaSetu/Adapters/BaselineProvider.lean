import UrjaSetu.Adapters.Baseline
import UrjaSetu.Domain.Interfaces.Forecasting
import UrjaSetu.Domain.Interfaces.Grid
import UrjaSetu.Library.DecimalContext
import UrjaSetu.Library.Exceptions

/-!
The forecast provider of `app/adapters/forecast/baseline.py` with the statistics of
its points, and with all it can raise.

The square root of a variance is a parameter that is not negative. Decimals are
their values, rounded as the decimal context rounds them.

Owns: one point, the horizon's points, what a prediction needs, and that it has
points exactly where it has what it needs.

Does not own: what is accepted of a prediction (see `ForecastService`).
-/

namespace UrjaSetu.Adapters.BaselineProvider

open UrjaSetu.Domain UrjaSetu.Domain.Interfaces UrjaSetu.Library
open UrjaSetu.Library.Rounding UrjaSetu.Library.DecimalContext UrjaSetu.Library.Binary64
open UrjaSetu.Adapters.Baseline (channel minuteOfDay DEFAULT_NAME DEFAULT_MODEL_VERSION)

def DEFAULT_REFERENCE_DAYS : ℤ := 7

/-- `BaselineForecastProvider`, as its constructor leaves it. -/
structure BaselineForecastProvider where
  name : String
  modelVersion : String
  referenceDays : ℤ
  minRequiredSamples : ℤ
  pvCapacityKw : Option ℚ
  someDays : 1 ≤ referenceDays
  notNegative : 0 ≤ minRequiredSamples

/-- The constructor. -/
def construct (name modelVersion : String) (referenceDays minRequiredSamples : ℤ)
    (pvCapacityKw : Option ℚ) : BaselineForecastProvider where
  name := name
  modelVersion := modelVersion
  referenceDays := max 1 referenceDays
  minRequiredSamples := max 0 minRequiredSamples
  pvCapacityKw := pvCapacityKw
  someDays := le_max_left _ _
  notNegative := le_max_left _ _

/-! ## Numbers -/

/-- A trapped signal of the decimal context. -/
def trapped (signal : DecimalSignal) : ProviderException :=
  .other signal.name ("[<class 'decimal." ++ signal.name ++ "'>]")

/-- `value.quantize(Decimal("0.001"))`. -/
def quantizeMilli (value : ℚ) : Except ProviderException ℚ :=
  (quantized halfEven 3 value).mapError trapped

/-- `dividend / divisor` of floats. -/
def divideFloats (dividend divisor : ℚ) : Except ProviderException ℚ :=
  if divisor = 0 then .error (.other "ZeroDivisionError" "float division by zero")
  else .ok (double (dividend / divisor))

/-- `Decimal(str(value))` of a float: the fewest significant digits that read back
as it. -/
def shortestDecimal (value : ℚ) : ℚ :=
  (((List.range 17).map fun digits =>
    quantize halfEven (precisionPlaces (digits + 1) value) value).find? fun candidate =>
      double candidate = value).getD value

/-- The greatest `datetime`, in microseconds. -/
def DATETIME_MAX : Instant := 253402300799999999

/-- `start + interval`. -/
def addInterval (start : Instant) (interval : ℤ) : Except ProviderException Instant :=
  if DATETIME_MAX < start + interval then
    .error (.other "OverflowError" "date value out of range")
  else .ok (start + interval)

/-- `sum(values, ZERO)`. -/
def sumDecimals (values : List ℚ) : ℚ := values.foldl (fun total value => contextRound (total + value)) 0

/-! ## Samples -/

/-- The body of the loop of `_group_by_time_of_day`. -/
def groupSample (forecastType : ForecastType) (grouped : Dict ℤ (List ℚ))
    (observation : HistoricalObservation) : Dict ℤ (List ℚ) :=
  match channel observation forecastType with
  | none => grouped
  | some value =>
      let moment := minuteOfDay observation.intervalStart
      grouped.set moment ((grouped.get? moment).getD [] ++ [value])

/-- `_group_by_time_of_day`. -/
def groupByTimeOfDay (request : ForecastRequest) : Dict ℤ (List ℚ) :=
  request.history.foldl (groupSample request.forecastType) Dict.empty

/-- `sum(len(v) for v in samples.values())`. -/
def usableSamples (request : ForecastRequest) : ℕ :=
  ((groupByTimeOfDay request).entries.map fun entry => entry.2.length).sum

/-- `samples.get((start.hour, start.minute), [])`. -/
def samplesAt (request : ForecastRequest) (start : Instant) : List ℚ :=
  ((groupByTimeOfDay request).get? (minuteOfDay start)).getD []

/-! ## One point -/

namespace BaselineForecastProvider

variable (provider : BaselineForecastProvider) (squareRoot : ℚ → ℚ)

/-- Solar and load only. -/
def supports (forecastType : ForecastType) : Bool := forecastType = .solar ∨ forecastType = .load

/-- `_cap`. -/
def cap (value : ℚ) : ℚ :=
  match provider.pvCapacityKw with
  | none => value
  | some capacity => min value capacity

def mean (samples : List ℚ) : ℚ :=
  provider.cap (max 0 (contextRound (sumDecimals samples / samples.length)))

def variance (samples : List ℚ) : ℚ :=
  contextRound (sumDecimals (samples.map fun sample =>
    contextRound (contextRound (sample - provider.mean samples) ^ 2)) / (samples.length - 1 : ℕ))

def deviation (samples : List ℚ) : ℚ :=
  if 1 < samples.length then squareRoot (provider.variance samples) else 0

/-- The heuristic confidence of a mean. -/
def confidence (samples : List ℚ) : Except ProviderException ℚ := do
  let sampleFactor := min 1 (double (samples.length / provider.referenceDays))
  let spread ← divideFloats (double (provider.deviation squareRoot samples))
    (double (double (provider.mean samples) + 1))
  let stability ← divideFloats 1 (double (1 + spread))
  return max (1 / 20) (min 1 (quantize halfEven 3 (double (sampleFactor * stability))))

/-- `_point_for`. -/
def pointFor (intervalStart intervalEnd : Instant) (samples : List ℚ) (hours : ℚ) :
    Except ProviderException ForecastPoint :=
  if samples = [] then
    .ok { intervalStart, intervalEnd, predictedKw := some 0, predictedKwh := some 0
          confidence := some 0, lowerBound := some 0, upperBound := some 0 }
  else do
    let mean := provider.mean samples
    let deviation := provider.deviation squareRoot samples
    let lower ← quantizeMilli (max 0 (contextRound (mean - deviation)))
    let upper ← quantizeMilli (provider.cap (contextRound (mean + deviation)))
    let confidence ← provider.confidence squareRoot samples
    let predictedKw ← quantizeMilli mean
    let predictedKwh ← quantizeMilli (contextRound (predictedKw * hours))
    return { intervalStart, intervalEnd, predictedKw := some predictedKw
             predictedKwh := some predictedKwh, confidence := some confidence
             lowerBound := some lower, upperBound := some upper }

/-- `Decimal(str((end - start).total_seconds())) / Decimal(3600)`. -/
def hoursBetween (start stop : Instant) : ℚ :=
  contextRound (shortestDecimal (Grid.totalSeconds (stop - start)) / 3600)

/-! ## The horizon -/

/-- `while start < horizon_end`, in at most `fuel` rounds. -/
def tile (request : ForecastRequest) : ℕ → Instant → Except ProviderException (List ForecastPoint)
  | 0, _ => .ok []
  | fuel + 1, start =>
      if start < request.horizonEnd then do
        let next ← addInterval start request.interval
        let stop := min next request.horizonEnd
        let point ← provider.pointFor squareRoot start stop (samplesAt request start)
          (hoursBetween start stop)
        let points ← tile request fuel stop
        return point :: points
      else .ok []

/-- `predict`. -/
def predict (request : ForecastRequest) : Except ProviderException ForecastResult :=
  if usableSamples request < provider.minRequiredSamples then
    .error (.other "ValueError" ("History contains " ++ toString (usableSamples request) ++
      " usable measurements, but at least " ++ toString provider.minRequiredSamples ++
      " are required."))
  else do
    let points ← provider.tile squareRoot request
      (((request.horizonEnd - request.horizonStart) / request.interval).toNat + 1)
      request.horizonStart
    return { forecastType := request.forecastType, provider := provider.name
             modelVersion := provider.modelVersion, points }

/-- The provider as the service sees it. -/
def asProvider : ForecastProvider where
  name := provider.name
  modelVersion := provider.modelVersion
  supports := supports
  predict := provider.predict squareRoot

end BaselineForecastProvider

end UrjaSetu.Adapters.BaselineProvider
