import UrjaSetu.Db.Database
import UrjaSetu.Domain.Policies.TelemetryQuality
import UrjaSetu.Library.Dict
import UrjaSetu.Repositories.Telemetry

/-!
The operations of `app/services/telemetry_service.py`: ingestion of one reading,
or of a batch in one transaction, and the resampled readings of a site.

The notifications sent after a commit are left out: they read nothing back.

Does not own: that a batch is the sequence of its readings (see `Batch`), and
when a submission runs into a constraint of the table (see `Constraints`).
-/

namespace UrjaSetu.Services.TelemetryService

open UrjaSetu.Core UrjaSetu.Domain UrjaSetu.Domain.Interfaces UrjaSetu.Db UrjaSetu.Db.Models
open UrjaSetu.Domain.Policies.TelemetryQuality UrjaSetu.Library UrjaSetu.Repositories.Telemetry

/-- Statuses whose readings are classified and reported but never written. -/
def NON_STORABLE_STATUSES : List TelemetryQualityStatus := [.duplicate, .invalidValue]

/-- What happened to one submitted reading. -/
structure IngestionOutcome where
  assessment : QualityAssessment
  reading : Option TelemetryReading

namespace IngestionOutcome

def stored (outcome : IngestionOutcome) : Bool := outcome.reading.isSome

def qualityStatus (outcome : IngestionOutcome) : TelemetryQualityStatus := outcome.assessment.status

end IngestionOutcome

/-- `[o.reading for o in outcomes if o.reading is not None]`. -/
def storableRows (outcomes : List IngestionOutcome) : List TelemetryReading :=
  outcomes.filterMap IngestionOutcome.reading

structure BatchIngestionResult where
  outcomes : List IngestionOutcome

namespace BatchIngestionResult

/-- Submissions that resulted in a row. -/
def stored (result : BatchIngestionResult) : ℕ := result.outcomes.countP IngestionOutcome.stored

def countsByStatus (result : BatchIngestionResult) : Dict TelemetryQualityStatus ℕ :=
  result.outcomes.foldl (fun counts outcome =>
    counts.set outcome.qualityStatus ((counts.get? outcome.qualityStatus).getD 0 + 1)) Dict.empty

end BatchIngestionResult

/-! ## Ingestion -/

/-- `_require_meter`. -/
def requireMeter (meterId : UUID) : Call Unit := do
  let known ← Work.read fun db => db.community.meters.any fun meter => meter.id = meterId
  if known then pure ()
  else raiseDomain (notFoundError "METER_NOT_FOUND" "Meter not found." [("id", .uuid meterId)])

/-- `_require_asset`. -/
def requireAsset (energyAssetId : Option UUID) : Call Unit :=
  match energyAssetId with
  | none => pure ()
  | some assetId => do
      let known ← Work.read fun db => db.community.assets.any fun asset => asset.id = assetId
      if known then pure ()
      else
        raiseDomain (notFoundError "ENERGY_ASSET_NOT_FOUND" "Energy asset not found."
          [("id", .uuid assetId)])

/-- `_to_model`; the key is drawn by the column default. -/
def toModel (reading : NormalizedReading) (assessment : QualityAssessment) (id : UUID) :
    TelemetryReading where
  id := id
  meterId := reading.meterId
  energyAssetId := reading.energyAssetId
  timestamp := reading.timestamp
  intervalStart := reading.intervalStart
  intervalEnd := reading.intervalEnd
  generationKw := reading.generationKw
  loadKw := reading.loadKw
  gridImportKw := reading.gridImportKw
  gridExportKw := reading.gridExportKw
  energyKwh := reading.energyKwh
  generationKwh := none
  loadKwh := none
  gridImportKwh := none
  gridExportKwh := none
  batterySoc := reading.batterySoc
  qualityStatus := assessment.status
  source := reading.source

/-- `max(filter(None, (stored, extra)), default=None)`. -/
def laterOf (stored extra : Option Instant) : Option Instant := [stored, extra].reduceOption.max?

/-- `_classify_and_build`. -/
def classifyAndBuild (reading : NormalizedReading) (evaluatedAt : Instant) (stalenessThreshold : ℤ)
    (extraLatest : Option Instant) (extraDuplicate : Bool) : Call IngestionOutcome := do
  let storedLatest ← Work.read fun db =>
    latestIntervalStart db.readings.rows reading.meterId reading.energyAssetId
  let exists_ ← Work.read fun db =>
    existsForInterval db.readings.rows reading.meterId reading.energyAssetId reading.intervalStart
  let assessment := classifyReading reading evaluatedAt
    { latestIntervalStart := laterOf storedLatest extraLatest
      duplicateExists := extraDuplicate || exists_ } stalenessThreshold
  if assessment.status ∈ NON_STORABLE_STATUSES then pure ⟨assessment, none⟩
  else do
    let id ← uuid4
    pure ⟨assessment, some (toModel reading assessment id)⟩

/-- The INSERT of one row, whose values the columns round. -/
def insertReading (row : TelemetryReading) (db : Database) : Except Failure Database :=
  Relations.readings.insert row.asStored db

/-- `at or datetime.now(UTC)`. -/
def momentOf (at_ : Option Instant) : Call Instant :=
  match at_ with
  | some moment => pure moment
  | none => utcNow

/-- `ingest_reading`. -/
def ingestReading (reading : NormalizedReading) (at_ : Option Instant) (stalenessThreshold : ℤ) :
    Call IngestionOutcome := do
  requireMeter reading.meterId
  requireAsset reading.energyAssetId
  let evaluatedAt ← momentOf at_
  let outcome ← classifyAndBuild reading evaluatedAt stalenessThreshold none false
  match outcome.reading with
  | none => pure outcome
  | some row => do
      Work.execute (insertReading row)
      Work.commit
      pure { outcome with reading := some row.asStored }

/-- What a batch has accumulated: the outcomes so far, and its own copy of each
series it has staged rows of. -/
structure BatchState where
  outcomes : List IngestionOutcome := []
  stagedLatest : Dict (UUID × Option UUID) Instant := Dict.empty
  stagedIntervals : List (UUID × Option UUID × Instant) := []
  verifiedMeters : List UUID := []
  verifiedAssets : List UUID := []

/-- `previous is None or reading.interval_start > previous`. -/
def BatchState.stage (state : BatchState) (reading : NormalizedReading) : BatchState :=
  let series := (reading.meterId, reading.energyAssetId)
  { state with
    stagedIntervals := reading.naturalKey :: state.stagedIntervals
    stagedLatest :=
      match state.stagedLatest.get? series with
      | none => state.stagedLatest.set series reading.intervalStart
      | some previous =>
          if previous < reading.intervalStart then
            state.stagedLatest.set series reading.intervalStart
          else state.stagedLatest }

/-- `_require_meter`, once for each meter of the batch. -/
def BatchState.verifyMeter (state : BatchState) (meterId : UUID) : Call BatchState :=
  if meterId ∈ state.verifiedMeters then pure state
  else do
    requireMeter meterId
    pure { state with verifiedMeters := meterId :: state.verifiedMeters }

/-- `_require_asset`, once for each asset of the batch. -/
def BatchState.verifyAsset (state : BatchState) (energyAssetId : Option UUID) : Call BatchState :=
  match energyAssetId with
  | none => pure state
  | some assetId =>
      if assetId ∈ state.verifiedAssets then pure state
      else do
        requireAsset (some assetId)
        pure { state with verifiedAssets := assetId :: state.verifiedAssets }

/-- The body of the loop of `ingest_batch`. -/
def batchStep (evaluatedAt : Instant) (stalenessThreshold : ℤ) (state : BatchState)
    (reading : NormalizedReading) : Call BatchState := do
  let state ← state.verifyMeter reading.meterId
  let state ← state.verifyAsset reading.energyAssetId
  let outcome ← classifyAndBuild reading evaluatedAt stalenessThreshold
    (state.stagedLatest.get? (reading.meterId, reading.energyAssetId))
    (reading.naturalKey ∈ state.stagedIntervals)
  let state := { state with outcomes := state.outcomes ++ [outcome] }
  if outcome.stored then pure (state.stage reading) else pure state

/-- `ingest_batch`. -/
def ingestBatch (readings : List NormalizedReading) (at_ : Option Instant)
    (stalenessThreshold : ℤ) : Call BatchIngestionResult := do
  let evaluatedAt ← momentOf at_
  let state ← Work.foldItems (batchStep evaluatedAt stalenessThreshold) {} readings
  Work.forItems (storableRows state.outcomes) fun row => Work.execute (insertReading row)
  Work.commit
  pure ⟨state.outcomes⟩

/-! ## Retrieval -/

/-- `_require_site`. -/
def requireSite (siteId : UUID) : Call Unit := do
  let known ← Work.read fun db => db.community.sites.any fun site => site.id = siteId
  if known then pure ()
  else raiseDomain (notFoundError "SITE_NOT_FOUND" "Site not found." [("id", .uuid siteId)])

/-- `get_interval_for_site` with a resolution: the buckets of the valid readings. -/
def getIntervalForSite (siteId : UUID) (start end_ : Instant) (resolution : ℤ) :
    Call (List AggregatedReading) := do
  requireSite siteId
  Work.read fun db => aggregateForSite db.community.meters db.readings.rows siteId start end_
    resolution true

end UrjaSetu.Services.TelemetryService
