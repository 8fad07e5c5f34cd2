import UrjaSetu.Domain.Enums

/-!
The normalised reading of `app/domain/interfaces/telemetry.py`: what every
source of telemetry hands to the service, in kW, kWh and percent.
-/

namespace UrjaSetu.Domain.Interfaces

open UrjaSetu.Domain

/-- One measurement, independent of where it came from; `none` is not measured
by this device. -/
structure NormalizedReading where
  meterId : UUID
  timestamp : Instant
  intervalStart : Instant
  intervalEnd : Instant
  source : TelemetrySource
  energyAssetId : Option UUID := none
  generationKw : Option ℚ := none
  loadKw : Option ℚ := none
  gridImportKw : Option ℚ := none
  gridExportKw : Option ℚ := none
  energyKwh : Option ℚ := none
  batterySoc : Option ℚ := none
  sourceUnavailable : Bool := false
deriving DecidableEq, Repr

namespace NormalizedReading

/-- The measured channels, in a fixed order. -/
def measurements (reading : NormalizedReading) : List (Option ℚ) :=
  [reading.generationKw, reading.loadKw, reading.gridImportKw, reading.gridExportKw,
    reading.energyKwh, reading.batterySoc]

def hasAnyMeasurement (reading : NormalizedReading) : Bool :=
  reading.measurements.any Option.isSome

/-- The interval of the series the reading belongs to. -/
def naturalKey (reading : NormalizedReading) : UUID × Option UUID × Instant :=
  (reading.meterId, reading.energyAssetId, reading.intervalStart)

end NormalizedReading

end UrjaSetu.Domain.Interfaces
