import UrjaSetu.Library.Rounding
import UrjaSetu.Library.Table
import UrjaSetu.Domain.Enums

/-!
The readings of `app/db/models/telemetry.py`: a measurement of a meter over one
interval, whole or scoped to one asset, with its natural key and its checks.
-/

namespace UrjaSetu.Db.Models

open UrjaSetu.Domain UrjaSetu.Library UrjaSetu.Library.Rounding

/-- A value stored in a `NUMERIC(p, 4)` column: ties go away from zero. -/
def numeric4 (value : ℚ) : ℚ := quantize halfUp 4 value

/-- A value stored in a `NUMERIC(p, 3)` column. -/
def numeric3 (value : ℚ) : ℚ := quantize halfUp 3 value

/-- A value stored in a `NUMERIC(p, 2)` column. -/
def numeric2 (value : ℚ) : ℚ := quantize halfUp 2 value

/-- One interval of one meter. Every measurement is nullable. -/
structure TelemetryReading where
  id : UUID
  meterId : UUID
  energyAssetId : Option UUID
  timestamp : Instant
  intervalStart : Instant
  intervalEnd : Instant
  generationKw : Option ℚ
  loadKw : Option ℚ
  gridImportKw : Option ℚ
  gridExportKw : Option ℚ
  energyKwh : Option ℚ
  generationKwh : Option ℚ
  loadKwh : Option ℚ
  gridImportKwh : Option ℚ
  gridExportKwh : Option ℚ
  batterySoc : Option ℚ
  qualityStatus : TelemetryQualityStatus
  source : TelemetrySource
deriving DecidableEq, Repr

/-- The row as its columns hold it. -/
def TelemetryReading.asStored (reading : TelemetryReading) : TelemetryReading :=
  { reading with
    generationKw := reading.generationKw.map numeric4
    loadKw := reading.loadKw.map numeric4
    gridImportKw := reading.gridImportKw.map numeric4
    gridExportKw := reading.gridExportKw.map numeric4
    energyKwh := reading.energyKwh.map numeric4
    generationKwh := reading.generationKwh.map numeric4
    loadKwh := reading.loadKwh.map numeric4
    gridImportKwh := reading.gridImportKwh.map numeric4
    gridExportKwh := reading.gridExportKwh.map numeric4
    batterySoc := reading.batterySoc.map numeric2 }

/-- `column IS NULL OR column >= 0`. -/
def nullOrNonneg : Option ℚ → Bool
  | none => true
  | some value => 0 ≤ value

/-- `battery_soc IS NULL OR battery_soc BETWEEN 0 AND 100`. -/
def nullOrPercent : Option ℚ → Bool
  | none => true
  | some value => 0 ≤ value ∧ value ≤ 100

/-- The columns of `uq_telemetry_readings_meter_id_energy_asset_id_interval_start`,
where NULL assets are not distinct. -/
def TelemetryReading.naturalKey (reading : TelemetryReading) : UUID × Option UUID × Instant :=
  (reading.meterId, reading.energyAssetId, reading.intervalStart)

/-- The CHECK constraints. -/
def TelemetryReading.checks (reading : TelemetryReading) : Bool :=
  reading.intervalStart ≤ reading.intervalEnd &&
    nullOrNonneg reading.generationKw && nullOrNonneg reading.loadKw &&
      nullOrNonneg reading.gridImportKw && nullOrNonneg reading.gridExportKw &&
        nullOrNonneg reading.energyKwh && nullOrPercent reading.batterySoc

def telemetryReadings : Schema TelemetryReading where
  check := TelemetryReading.checks
  conflict earlier later := earlier.id = later.id ∨ earlier.naturalKey = later.naturalKey

end UrjaSetu.Db.Models
