import UrjaSetu.Core.Errors
import UrjaSetu.Library.Binary64

/-!
The forecasting contract of `app/domain/interfaces/forecasting.py`: what a
provider is asked, what it returns, and what it is.

A provider is arbitrary. It may return any result or raise any exception;
`generated_at` is left out, which the service does not read.

Owns: the number of points a request expects.
-/

namespace UrjaSetu.Domain

def ForecastType.value : ForecastType → String
  | .solar => "solar"
  | .load => "load"
  | .surplus => "surplus"

namespace Interfaces

open UrjaSetu.Domain UrjaSetu.Library

/-- One past interval; `none` is a channel that was not measured. -/
structure HistoricalObservation where
  intervalStart : Instant
  intervalEnd : Instant
  generationKw : Option ℚ := none
  loadKw : Option ℚ := none
  energyKwh : Option ℚ := none
deriving DecidableEq, Repr

structure ForecastRequest where
  siteId : UUID
  forecastType : ForecastType
  horizonStart : Instant
  horizonEnd : Instant
  interval : ℤ
  history : List HistoricalObservation := []
deriving DecidableEq, Repr

namespace ForecastRequest

variable (request : ForecastRequest)

def span : ℤ := request.horizonEnd - request.horizonStart

/-- `expected_point_count`, whose division of two durations is one of doubles. -/
def expectedPointCount : ℤ :=
  if request.interval ≤ 0 ∨ request.span ≤ 0 then 0
  else ⌊Binary64.double ((request.span : ℚ) / request.interval)⌋

end ForecastRequest

/-- One predicted bucket. -/
structure ForecastPoint where
  intervalStart : Instant
  intervalEnd : Instant
  predictedKw : Option ℚ := none
  predictedKwh : Option ℚ := none
  confidence : Option ℚ := none
  lowerBound : Option ℚ := none
  upperBound : Option ℚ := none
deriving DecidableEq, Repr

structure ForecastResult where
  forecastType : ForecastType
  provider : String
  modelVersion : String
  points : List ForecastPoint := []
deriving DecidableEq, Repr

/-- An exception a provider raises: the service's own error, or any other by its
class and its text. -/
inductive ProviderException where
  | providerError (error : Core.UrjaSetuError)
  | other (className text : String)
deriving DecidableEq, Repr

structure ForecastProvider where
  name : String
  modelVersion : String
  supports : ForecastType → Bool
  predict : ForecastRequest → Except ProviderException ForecastResult

end Interfaces

end UrjaSetu.Domain
