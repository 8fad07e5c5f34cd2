import UrjaSetu.Db.Models.Assets
import UrjaSetu.Db.Models.Telemetry
import UrjaSetu.Library.Aggregate

/-!
The queries of `app/repositories/telemetry.py`: what is stored of one series,
and the readings of a site resampled into buckets.

Owns: these queries as functions of the rows. The averages of the power channels
in a bucket are left out: nothing modelled reads them.
-/

namespace UrjaSetu.Repositories.Telemetry

open UrjaSetu.Domain UrjaSetu.Db.Models UrjaSetu.Library

/-- The rows of one meter and asset, where no asset matches no asset. -/
def series (rows : List TelemetryReading) (meterId : UUID) (energyAssetId : Option UUID) :
    List TelemetryReading :=
  rows.filter fun row => row.meterId = meterId ∧ row.energyAssetId = energyAssetId

/-- `latest_interval_start`: the newest start stored for this exact series. -/
def latestIntervalStart (rows : List TelemetryReading) (meterId : UUID)
    (energyAssetId : Option UUID) : Option Instant :=
  ((series rows meterId energyAssetId).map TelemetryReading.intervalStart).max?

/-- `exists_for_interval`. -/
def existsForInterval (rows : List TelemetryReading) (meterId : UUID)
    (energyAssetId : Option UUID) (intervalStart : Instant) : Bool :=
  (series rows meterId energyAssetId).any fun row => row.intervalStart = intervalStart

/-- One resampled bucket. -/
structure AggregatedReading where
  bucketStart : Instant
  energyKwh : Option ℚ
  readingCount : ℕ
deriving DecidableEq, Repr

/-- `date_bin(stride, source, origin)` for a source not before the origin. -/
def dateBin (stride : ℤ) (source origin : Instant) : Instant :=
  origin + (source - origin) / stride * stride

/-- The rows the aggregation selects: the site's, from `start` to `end_` by
timestamp with both ends included, and with `onlyValid` the usable ones. -/
def selectedForSite (meters : List Meter) (rows : List TelemetryReading) (siteId : UUID)
    (start end_ : Instant) (onlyValid : Bool) : List TelemetryReading :=
  rows.filter fun row =>
    (meters.any fun meter => meter.id = row.meterId ∧ meter.siteId = siteId) &&
      start ≤ row.timestamp && row.timestamp ≤ end_ &&
        (!onlyValid || row.qualityStatus = .valid)

/-- `list_for_site` with `only_valid`, from the first of the rows. -/
def listForSite (meters : List Meter) (rows : List TelemetryReading) (siteId : UUID)
    (start end_ : Instant) (onlyValid : Bool) (limit : ℕ) : List TelemetryReading :=
  (sortBy TelemetryReading.timestamp
    (selectedForSite meters rows siteId start end_ onlyValid)).take limit

/-- `aggregate_for_site`. -/
def aggregateForSite (meters : List Meter) (rows : List TelemetryReading) (siteId : UUID)
    (start end_ : Instant) (resolution : ℤ) (onlyValid : Bool) : List AggregatedReading :=
  let selected := selectedForSite meters rows siteId start end_ onlyValid
  let bucket (row : TelemetryReading) := dateBin resolution row.timestamp start
  (groupKeys bucket selected).map fun bucketStart =>
    let group := selected.filter fun row => bucket row = bucketStart
    { bucketStart := bucketStart
      energyKwh := sumPresent (group.map TelemetryReading.energyKwh)
      readingCount := group.length }

section

variable {rows : List TelemetryReading} {meterId : UUID} {energyAssetId : Option UUID}
  {intervalStart : Instant}

theorem existsForInterval_iff :
    existsForInterval rows meterId energyAssetId intervalStart = true ↔
      (meterId, energyAssetId, intervalStart) ∈ rows.map TelemetryReading.naturalKey := by
  simp only [existsForInterval, series, List.any_eq_true, List.mem_filter, decide_eq_true_eq,
    List.mem_map, TelemetryReading.naturalKey, Prod.mk.injEq]
  constructor
  · rintro ⟨row, ⟨stored, meter, asset⟩, start⟩
    exact ⟨row, stored, meter, asset, start⟩
  · rintro ⟨row, stored, meter, asset, start⟩
    exact ⟨row, ⟨stored, meter, asset⟩, start⟩

/-- However they are bucketed, the energies of the buckets add up to those of the
selected rows. -/
theorem aggregateForSite_energy (meters : List Meter) (siteId : UUID) (start end_ : Instant)
    (resolution : ℤ) (onlyValid : Bool) :
    sumPresent ((aggregateForSite meters rows siteId start end_ resolution onlyValid).map
      AggregatedReading.energyKwh) =
    sumPresent ((selectedForSite meters rows siteId start end_ onlyValid).map
      TelemetryReading.energyKwh) := by
  dsimp only [aggregateForSite]
  rw [List.map_map]
  have grouped := sumPresent_flatMap
    (fun bucketStart => ((selectedForSite meters rows siteId start end_ onlyValid).filter fun row =>
      dateBin resolution row.timestamp start = bucketStart).map TelemetryReading.energyKwh)
    (groupKeys (fun row => dateBin resolution row.timestamp start)
      (selectedForSite meters rows siteId start end_ onlyValid))
  refine grouped.trans (sumPresent_perm ?_)
  rw [← List.map_flatMap]
  exact (flatMap_groups_perm _ _).map _

theorem series_append (later : List TelemetryReading) :
    series (rows ++ later) meterId energyAssetId =
      series rows meterId energyAssetId ++ series later meterId energyAssetId :=
  List.filter_append ..

end

end UrjaSetu.Repositories.Telemetry
