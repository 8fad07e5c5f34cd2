import UrjaSetu.Services.TelemetryService

/-!
A batch ingests what its readings would ingest one after the other.

`stage` says what classifying a list of readings yields when each is judged
against the rows stored before it. `ingestReading` called in order and
`ingestBatch`, with its in-memory copy of the series, are both shown to be
`stage` followed by the INSERTs.
-/

namespace UrjaSetu.Services.TelemetryService

open UrjaSetu.Core UrjaSetu.Domain UrjaSetu.Domain.Interfaces UrjaSetu.Db UrjaSetu.Db.Models
open UrjaSetu.Domain.Policies.TelemetryQuality UrjaSetu.Library UrjaSetu.Repositories.Telemetry

/-! ## Staging -/

/-- The classification of a reading against the rows of the table. -/
def assess (evaluatedAt : Instant) (stalenessThreshold : ℤ) (rows : List TelemetryReading)
    (reading : NormalizedReading) : QualityAssessment :=
  classifyReading reading evaluatedAt
    { latestIntervalStart := latestIntervalStart rows reading.meterId reading.energyAssetId
      duplicateExists :=
        existsForInterval rows reading.meterId reading.energyAssetId reading.intervalStart }
    stalenessThreshold

/-- The outcome of an assessed reading; only a storable one draws a key. -/
def build (assessment : QualityAssessment) (reading : NormalizedReading) (outside : Outside) :
    IngestionOutcome × Outside :=
  if assessment.status ∈ NON_STORABLE_STATUSES then (⟨assessment, none⟩, outside)
  else
    (⟨assessment, some (toModel reading assessment (outside.identifiers 0))⟩,
      outside.afterIdentifier)

/-- The rows an outcome adds to the table. -/
def IngestionOutcome.rows (outcome : IngestionOutcome) : List TelemetryReading :=
  (outcome.reading.map TelemetryReading.asStored).toList

/-- Classify a list of readings, each against what is stored and what the ones
before it add. -/
def stage (evaluatedAt : Instant) (stalenessThreshold : ℤ) :
    List TelemetryReading → Outside → List NormalizedReading → List IngestionOutcome × Outside
  | _, outside, [] => ([], outside)
  | rows, outside, reading :: rest =>
      let (outcome, outside) :=
        build (assess evaluatedAt stalenessThreshold rows reading) reading outside
      let (outcomes, outside) :=
        stage evaluatedAt stalenessThreshold (rows ++ outcome.rows) outside rest
      (outcome :: outcomes, outside)

/-- The INSERTs of a flush. -/
def insertAll (rows : List TelemetryReading) (db : Database) : Except Failure Database :=
  rows.foldlM (fun db row => insertReading row db) db

/-- The meter and the asset of a reading exist. -/
structure Known (db : Database) (reading : NormalizedReading) : Prop where
  meter : (db.community.meters.any fun meter => meter.id = reading.meterId) = true
  asset : ∀ assetId, reading.energyAssetId = some assetId →
    (db.community.assets.any fun asset => asset.id = assetId) = true

/-- The row is of the reading's interval. -/
structure OfReading (row : TelemetryReading) (reading : NormalizedReading) : Prop where
  naturalKey : row.naturalKey = reading.naturalKey
  intervalEnd : row.intervalEnd = reading.intervalEnd

/-- A session between two transactions. -/
structure Settled (unit : Session) : Prop where
  working : unit.working = unit.committed
  pending : unit.pending = []

/-- The moment a call evaluates at, and what that takes from outside. -/
def momentFrom (at_ : Option Instant) (outside : Outside) : Instant × Outside :=
  match at_ with
  | some moment => (moment, outside)
  | none => (outside.moments 0, outside.afterMoment)

section Calls

variable {unit : Session} {reading : NormalizedReading} {evaluatedAt : Instant}
  {stalenessThreshold : ℤ} {rows : List TelemetryReading}

private theorem momentOf_eq (at_ : Option Instant) :
    momentOf at_ unit = (.ok (momentFrom at_ unit.outside).1,
      { unit with outside := (momentFrom at_ unit.outside).2 }) := by
  cases at_ <;> rfl

private theorem requireMeter_known
    (known : (unit.working.community.meters.any fun meter => meter.id = reading.meterId) = true) :
    requireMeter reading.meterId unit = (.ok (), unit) := by
  have found : (Work.read fun db : Database =>
      db.community.meters.any fun meter => meter.id = reading.meterId : Call Bool) unit =
        (.ok true, unit) := by
    simp [Work.read, known]
  unfold requireMeter
  rw [Work.bind_of_ok found]
  rfl

private theorem requireAsset_known
    (known : ∀ assetId, reading.energyAssetId = some assetId →
      (unit.working.community.assets.any fun asset => asset.id = assetId) = true) :
    requireAsset reading.energyAssetId unit = (.ok (), unit) := by
  cases asset : reading.energyAssetId with
  | none => rfl
  | some assetId =>
      have found : (Work.read fun db : Database =>
          db.community.assets.any fun asset => asset.id = assetId : Call Bool) unit =
            (.ok true, unit) := by
        simp [Work.read, known assetId asset]
      dsimp only [requireAsset]
      rw [Work.bind_of_ok found]
      rfl

/-- Where the extra context completes the stored one to `rows`, the reading is
classified against `rows`. -/
theorem classifyAndBuild_eq {extraLatest : Option Instant} {extraDuplicate : Bool}
    (latest : laterOf (latestIntervalStart unit.working.readings.rows reading.meterId
      reading.energyAssetId) extraLatest =
        latestIntervalStart rows reading.meterId reading.energyAssetId)
    (duplicate : (extraDuplicate || existsForInterval unit.working.readings.rows reading.meterId
      reading.energyAssetId reading.intervalStart) =
        existsForInterval rows reading.meterId reading.energyAssetId reading.intervalStart) :
    classifyAndBuild reading evaluatedAt stalenessThreshold extraLatest extraDuplicate unit =
      (.ok (build (assess evaluatedAt stalenessThreshold rows reading) reading unit.outside).1,
        { unit with outside :=
          (build (assess evaluatedAt stalenessThreshold rows reading) reading unit.outside).2 }) := by
  have latestRead : (Work.read fun db : Database => latestIntervalStart db.readings.rows
      reading.meterId reading.energyAssetId : Call (Option Instant)) unit = (.ok _, unit) := rfl
  have existsRead : (Work.read fun db : Database => existsForInterval db.readings.rows
      reading.meterId reading.energyAssetId reading.intervalStart : Call Bool) unit =
        (.ok _, unit) := rfl
  unfold classifyAndBuild
  rw [Work.bind_of_ok latestRead, Work.bind_of_ok existsRead]
  dsimp only
  rw [latest, duplicate]
  unfold build assess
  split_ifs <;> rfl

/-- The row that is built of a reading is of its interval. -/
theorem build_ofReading {assessment : QualityAssessment} {outside : Outside}
    {row : TelemetryReading} (built : (build assessment reading outside).1.reading = some row) :
    OfReading row reading := by
  unfold build at built
  split_ifs at built
  cases built
  exact ⟨rfl, rfl⟩

private theorem laterOf_none (stored : Option Instant) : laterOf stored none = stored := by
  cases stored <;> rfl

variable (stalenessThreshold) in
/-- One reading: classified against the table, and inserted if storable. -/
theorem ingestReading_eq (settled : Settled unit) (known : Known unit.working reading)
    (at_ : Option Instant) :
    let moment := momentFrom at_ unit.outside
    let built := build (assess moment.1 stalenessThreshold unit.committed.readings.rows reading)
      reading moment.2
    (∀ next, insertAll built.1.reading.toList unit.committed = .ok next →
      ingestReading reading at_ stalenessThreshold unit =
        (.ok ⟨built.1.assessment, built.1.reading.map TelemetryReading.asStored⟩,
          { unit with committed := next, working := next, outside := built.2 })) ∧
    ∀ error, insertAll built.1.reading.toList unit.committed = .error error →
      ingestReading reading at_ stalenessThreshold unit =
        (.error error, { unit with outside := built.2 }) := by
  intro moment built
  rcases unit with ⟨committed, working, pending, autoflush, outside⟩
  cases settled.working
  cases settled.pending
  let classified : Session := ⟨committed, committed, [], autoflush, built.2⟩
  have classify : classifyAndBuild reading moment.1 stalenessThreshold none false
      ⟨committed, committed, [], autoflush, moment.2⟩ = (.ok built.1, classified) := by
    apply classifyAndBuild_eq
    · exact laterOf_none _
    · exact Bool.false_or _
  have unfolded : ingestReading reading at_ stalenessThreshold
      ⟨committed, committed, [], autoflush, outside⟩ =
        (built.1.reading.elim (pure built.1) fun row => do
          Work.execute (insertReading row)
          Work.commit
          pure { built.1 with reading := some row.asStored } : Call IngestionOutcome)
          classified := by
    unfold ingestReading
    rw [Work.bind_of_ok (requireMeter_known known.meter),
      Work.bind_of_ok (requireAsset_known known.asset), Work.bind_of_ok (momentOf_eq at_)]
    refine (Work.bind_of_ok classify).trans ?_
    cases built.1.reading with
    | none => rfl
    | some row => rfl
  rw [unfolded]
  cases stored : built.1.reading with
  | none =>
      constructor
      · intro next same
        cases same
        show (Except.ok built.1, classified) =
          (Except.ok ⟨built.1.assessment, none⟩, classified)
        rw [← stored]
      · intro error impossible
        cases impossible
  | some row =>
      have single : insertAll (some row).toList committed = insertReading row committed := by
        show (insertReading row committed >>= fun next => pure next) = _
        rw [bind_pure]
      rw [single]
      constructor
      · intro next inserted
        have executed : Work.execute (insertReading row) classified = _ :=
          Work.execute_of_ok inserted
        rw [Option.elim_some, Work.bind_of_ok executed]
        rfl
      · intro error refused
        have raised : Work.execute (insertReading row) classified = _ :=
          Work.execute_of_error refused
        rw [Option.elim_some, Work.bind_of_error raised]

/-- A reading that is ingested names a meter and an asset that exist. -/
theorem known_of_ingestReading {at_ : Option Instant} {outcome : IngestionOutcome}
    {after : Session}
    (returned : ingestReading reading at_ stalenessThreshold unit = (.ok outcome, after)) :
    Known unit.working reading := by
  have meterKnown : (unit.working.community.meters.any fun meter =>
      meter.id = reading.meterId) = true := by
    by_contra unknown
    have missing : (Work.read fun db : Database =>
        db.community.meters.any fun meter => meter.id = reading.meterId : Call Bool) unit =
          (.ok false, unit) := by
      simp [Work.read, Bool.eq_false_iff.mpr unknown]
    have refused : ∃ error, requireMeter reading.meterId unit = (.error error, unit) := by
      unfold requireMeter
      rw [Work.bind_of_ok missing]
      exact ⟨_, rfl⟩
    obtain ⟨error, raised⟩ := refused
    unfold ingestReading at returned
    rw [Work.bind_of_error raised] at returned
    cases returned
  refine ⟨meterKnown, ?_⟩
  intro assetId asset
  by_contra unknown
  have missing : (Work.read fun db : Database =>
      db.community.assets.any fun asset => asset.id = assetId : Call Bool) unit =
        (.ok false, unit) := by
    simp [Work.read, Bool.eq_false_iff.mpr unknown]
  have refused : ∃ error, requireAsset reading.energyAssetId unit = (.error error, unit) := by
    rw [asset]
    dsimp only [requireAsset]
    rw [Work.bind_of_ok missing]
    exact ⟨_, rfl⟩
  obtain ⟨error, raised⟩ := refused
  unfold ingestReading at returned
  rw [Work.bind_of_ok (requireMeter_known meterKnown), Work.bind_of_error raised] at returned
  cases returned

end Calls

/-! ## The INSERTs -/

section Inserts

variable {db next : Database} {row : TelemetryReading} {rows : List TelemetryReading}

theorem insertReading_ok (inserted : insertReading row db = .ok next) :
    next.readings.rows = db.readings.rows ++ [row.asStored] ∧ next.community = db.community := by
  obtain ⟨table, accepted, rfl⟩ := Relation.insert_ok inserted
  exact ⟨(Table.insert_eq_some accepted).1, rfl⟩

private theorem insertAll_cons (rest : List TelemetryReading) :
    insertAll (row :: rest) db = insertReading row db >>= insertAll rest :=
  List.foldlM_cons ..

theorem insertAll_append (earlier later : List TelemetryReading) :
    insertAll (earlier ++ later) db = insertAll earlier db >>= insertAll later :=
  List.foldlM_append ..

theorem insertAll_ok (inserted : insertAll rows db = .ok next) :
    next.readings.rows = db.readings.rows ++ rows.map TelemetryReading.asStored ∧
      next.community = db.community := by
  induction rows generalizing db with
  | nil =>
      cases inserted
      simp
  | cons row rest inductionHypothesis =>
      rw [insertAll_cons] at inserted
      cases first : insertReading row db with
      | error error =>
          rw [first] at inserted
          cases inserted
      | ok middle =>
          rw [first] at inserted
          obtain ⟨middleRows, middleCommunity⟩ := insertReading_ok first
          obtain ⟨finalRows, finalCommunity⟩ := inductionHypothesis inserted
          constructor
          · rw [finalRows, middleRows, List.append_assoc]
            rfl
          · rw [finalCommunity, middleCommunity]

theorem Known.of_community {reading : NormalizedReading} (known : Known db reading)
    (same : next.community = db.community) : Known next reading where
  meter := by
    rw [same]
    exact known.meter
  asset := by
    rw [same]
    exact known.asset

end Inserts

/-! ## One after the other -/

/-- `ingest_reading` on each of the readings, in order. -/
def ingestEach (at_ : Option Instant) (stalenessThreshold : ℤ) :
    List NormalizedReading → Call (List IngestionOutcome)
  | [] => pure []
  | reading :: rest => do
      let outcome ← ingestReading reading at_ stalenessThreshold
      let outcomes ← ingestEach at_ stalenessThreshold rest
      pure (outcome :: outcomes)

/-- An outcome after the refresh of its row. -/
def IngestionOutcome.refreshed (outcome : IngestionOutcome) : IngestionOutcome :=
  { outcome with reading := outcome.reading.map TelemetryReading.asStored }

theorem storableRows_cons (outcome : IngestionOutcome) (outcomes : List IngestionOutcome) :
    storableRows (outcome :: outcomes) = outcome.reading.toList ++ storableRows outcomes := by
  unfold storableRows
  rw [List.filterMap_cons]
  cases outcome.reading <;> rfl

theorem IngestionOutcome.rows_eq (outcome : IngestionOutcome) :
    outcome.rows = outcome.reading.toList.map TelemetryReading.asStored := by
  unfold IngestionOutcome.rows
  cases outcome.reading <;> rfl

/-- Readings that were all ingested were staged, and their rows inserted. -/
theorem ingestEach_ok {unit after : Session} {evaluatedAt : Instant} {stalenessThreshold : ℤ}
    {readings : List NormalizedReading} {outcomes : List IngestionOutcome}
    (settled : Settled unit)
    (returned : ingestEach (some evaluatedAt) stalenessThreshold readings unit =
      (.ok outcomes, after)) :
    (∀ reading ∈ readings, Known unit.committed reading) ∧
      ∃ next, insertAll (storableRows (stage evaluatedAt stalenessThreshold
          unit.committed.readings.rows unit.outside readings).1) unit.committed = .ok next ∧
        outcomes = (stage evaluatedAt stalenessThreshold unit.committed.readings.rows unit.outside
          readings).1.map IngestionOutcome.refreshed ∧
        after = { unit with
          committed := next
          working := next
          outside := (stage evaluatedAt stalenessThreshold unit.committed.readings.rows
            unit.outside readings).2 } := by
  induction readings generalizing unit outcomes with
  | nil =>
      cases returned
      rcases after with ⟨committed, working, pending, autoflush, outside⟩
      cases settled.working
      exact ⟨by simp, committed, rfl, rfl, rfl⟩
  | cons reading rest inductionHypothesis =>
      rw [ingestEach] at returned
      rcases first : ingestReading reading (some evaluatedAt) stalenessThreshold unit with
        ⟨result, middle⟩
      cases result with
      | error error =>
          rw [Work.bind_of_error first] at returned
          cases returned
      | ok outcome =>
          rw [Work.bind_of_ok first] at returned
          have known : Known unit.working reading := known_of_ingestReading first
          obtain ⟨onInsert, onRefusal⟩ :=
            ingestReading_eq stalenessThreshold settled known (some evaluatedAt)
          dsimp only [momentFrom] at onInsert onRefusal
          let built := build (assess evaluatedAt stalenessThreshold unit.committed.readings.rows
            reading) reading unit.outside
          cases inserted : insertAll built.1.reading.toList unit.committed with
          | error error =>
              rw [onRefusal error inserted] at first
              cases first
          | ok next =>
              rw [onInsert next inserted] at first
              cases first
              obtain ⟨nextRows, nextCommunity⟩ := insertAll_ok inserted
              rw [← IngestionOutcome.rows_eq] at nextRows
              let middle : Session :=
                { unit with committed := next, working := next, outside := built.2 }
              have middleSettled : Settled middle := ⟨rfl, settled.pending⟩
              rcases second : ingestEach (some evaluatedAt) stalenessThreshold rest middle with
                ⟨restResult, final⟩
              cases restResult with
              | error error =>
                  rw [Work.bind_of_error second] at returned
                  cases returned
              | ok restOutcomes =>
                  rw [Work.bind_of_ok second] at returned
                  cases returned
                  obtain ⟨restKnown, last, restInserted, restEq, finalEq⟩ :=
                    inductionHypothesis middleSettled second
                  have staged : stage evaluatedAt stalenessThreshold unit.committed.readings.rows
                      unit.outside (reading :: rest) =
                      (built.1 :: (stage evaluatedAt stalenessThreshold next.readings.rows built.2
                        rest).1, (stage evaluatedAt stalenessThreshold next.readings.rows built.2
                        rest).2) := by
                    rw [nextRows]
                    rfl
                  rw [staged]
                  refine ⟨?_, last, ?_, ?_, ?_⟩
                  · intro member isMember
                    rcases List.mem_cons.mp isMember with rfl | later
                    · rwa [settled.working] at known
                    · exact (restKnown member later).of_community nextCommunity.symm
                  · rw [storableRows_cons, insertAll_append, inserted]
                    exact restInserted
                  · rw [restEq]
                    rfl
                  · exact finalEq

/-! ## In one batch -/

private theorem laterOf_max? (front back : List Instant) :
    laterOf front.max? back.max? = (front ++ back).max? := by
  induction front with
  | nil =>
      rw [List.nil_append, List.max?_nil]
      cases back.max? <;> rfl
  | cons first rest inductionHypothesis =>
      rw [List.cons_append, List.max?_cons, List.max?_cons, ← inductionHypothesis]
      cases rest.max? <;> cases back.max? <;> simp [laterOf, List.reduceOption, max_assoc]

private theorem latestIntervalStart_append (rows later : List TelemetryReading) (meterId : UUID)
    (energyAssetId : Option UUID) :
    laterOf (latestIntervalStart rows meterId energyAssetId)
      (latestIntervalStart later meterId energyAssetId) =
        latestIntervalStart (rows ++ later) meterId energyAssetId := by
  unfold latestIntervalStart
  rw [laterOf_max?, series_append, List.map_append]

/-- The batch's own copy of the series says what the staged rows would. -/
structure Agrees (state : BatchState) (staged : List TelemetryReading) : Prop where
  latest : ∀ meterId energyAssetId, state.stagedLatest.get? (meterId, energyAssetId) =
    latestIntervalStart staged meterId energyAssetId
  intervals : ∀ key, key ∈ state.stagedIntervals ↔ key ∈ staged.map TelemetryReading.naturalKey

private theorem agrees_nil : Agrees {} [] := ⟨fun _ _ => rfl, fun _ => Iff.rfl⟩

/-- Staging a stored reading keeps the copy in step with the rows. -/
theorem Agrees.stage {state : BatchState} {staged : List TelemetryReading}
    (agrees : Agrees state staged) {reading : NormalizedReading} {row : TelemetryReading}
    (key : row.naturalKey = reading.naturalKey) :
    Agrees (state.stage reading) (staged ++ [row]) where
  latest := by
    intro meterId energyAssetId
    rw [← latestIntervalStart_append, ← agrees.latest]
    have rowMeter : row.meterId = reading.meterId := congrArg Prod.fst key
    have rowAsset : row.energyAssetId = reading.energyAssetId :=
      congrArg (fun key => key.2.1) key
    have rowStart : row.intervalStart = reading.intervalStart := congrArg (fun key => key.2.2) key
    by_cases same : (meterId, energyAssetId) = (reading.meterId, reading.energyAssetId)
    · cases same
      have added : latestIntervalStart [row] reading.meterId reading.energyAssetId =
          some reading.intervalStart := by
        simp [latestIntervalStart, series, rowMeter, rowAsset, rowStart]
      rw [added]
      dsimp only [BatchState.stage]
      cases previous : state.stagedLatest.get? (reading.meterId, reading.energyAssetId) with
      | none =>
          dsimp only
          rw [Dict.get?_set_self]
          rfl
      | some latest =>
          dsimp only
          by_cases newer : latest < reading.intervalStart
          · rw [if_pos newer, Dict.get?_set_self]
            simp [laterOf, List.reduceOption, newer.le]
          · rw [if_neg newer, previous]
            simp [laterOf, List.reduceOption, not_lt.mp newer]
    · have elsewhere : latestIntervalStart [row] meterId energyAssetId = none := by
        have apart : ¬ (reading.meterId = meterId ∧ reading.energyAssetId = energyAssetId) := by
          rintro ⟨rfl, rfl⟩
          exact same rfl
        simp [latestIntervalStart, series, rowMeter, rowAsset, apart]
      rw [elsewhere, laterOf_none]
      dsimp only [BatchState.stage]
      split
      · rw [Dict.get?_set, if_neg same]
      · split_ifs
        · rw [Dict.get?_set, if_neg same]
        · rfl
  intervals := by
    intro other
    dsimp only [BatchState.stage]
    rw [List.mem_cons, List.map_append, List.mem_append, List.map_singleton, List.mem_singleton,
      agrees.intervals, key, or_comm]

section Batch

variable {unit : Session} {evaluatedAt : Instant} {stalenessThreshold : ℤ}

variable (unit) in
private theorem verifyMeter_eq {state : BatchState} {staged : List TelemetryReading}
    (agrees : Agrees state staged) {reading : NormalizedReading}
    (known : (unit.working.community.meters.any fun meter => meter.id = reading.meterId) = true) :
    ∃ verified, state.verifyMeter reading.meterId unit = (.ok verified, unit) ∧
      verified.outcomes = state.outcomes ∧ Agrees verified staged := by
  unfold BatchState.verifyMeter
  split_ifs
  · exact ⟨state, rfl, rfl, agrees⟩
  · rw [Work.bind_of_ok (requireMeter_known known)]
    exact ⟨_, rfl, rfl, agrees.latest, agrees.intervals⟩

variable (unit) in
private theorem verifyAsset_eq {state : BatchState} {staged : List TelemetryReading}
    (agrees : Agrees state staged) {reading : NormalizedReading}
    (known : ∀ assetId, reading.energyAssetId = some assetId →
      (unit.working.community.assets.any fun asset => asset.id = assetId) = true) :
    ∃ verified, state.verifyAsset reading.energyAssetId unit = (.ok verified, unit) ∧
      verified.outcomes = state.outcomes ∧ Agrees verified staged := by
  have required := requireAsset_known known
  cases asset : reading.energyAssetId with
  | none => exact ⟨state, rfl, rfl, agrees⟩
  | some assetId =>
      rw [asset] at required
      dsimp only [BatchState.verifyAsset]
      split_ifs
      · exact ⟨state, rfl, rfl, agrees⟩
      · rw [Work.bind_of_ok required]
        exact ⟨_, rfl, rfl, agrees.latest, agrees.intervals⟩

variable (evaluatedAt stalenessThreshold) in
/-- One round of the loop classifies the reading against the table and the rows
staged before it. -/
theorem batchStep_eq {state : BatchState} {staged : List TelemetryReading}
    (agrees : Agrees state staged) {reading : NormalizedReading}
    (known : Known unit.working reading) :
    ∃ next, batchStep evaluatedAt stalenessThreshold state reading unit =
        (.ok next, { unit with outside := (build (assess evaluatedAt stalenessThreshold
          (unit.working.readings.rows ++ staged) reading) reading unit.outside).2 }) ∧
      next.outcomes = state.outcomes ++ [(build (assess evaluatedAt stalenessThreshold
          (unit.working.readings.rows ++ staged) reading) reading unit.outside).1] ∧
      Agrees next (staged ++ (build (assess evaluatedAt stalenessThreshold
          (unit.working.readings.rows ++ staged) reading) reading unit.outside).1.rows) := by
  obtain ⟨metered, meteredEq, meteredOutcomes, meteredAgrees⟩ :=
    verifyMeter_eq unit agrees known.meter
  obtain ⟨verified, verifiedEq, verifiedOutcomes, verifiedAgrees⟩ :=
    verifyAsset_eq unit meteredAgrees known.asset
  let built := build (assess evaluatedAt stalenessThreshold
    (unit.working.readings.rows ++ staged) reading) reading unit.outside
  have classify : classifyAndBuild reading evaluatedAt stalenessThreshold
      (verified.stagedLatest.get? (reading.meterId, reading.energyAssetId))
      (reading.naturalKey ∈ verified.stagedIntervals) unit =
        (.ok built.1, { unit with outside := built.2 }) := by
    apply classifyAndBuild_eq
    · rw [verifiedAgrees.latest, latestIntervalStart_append]
    · rw [Bool.eq_iff_iff, Bool.or_eq_true, decide_eq_true_iff, existsForInterval_iff,
        existsForInterval_iff, verifiedAgrees.intervals, List.map_append, List.mem_append, or_comm]
      rfl
  unfold batchStep
  rw [Work.bind_of_ok meteredEq, Work.bind_of_ok verifiedEq, Work.bind_of_ok classify]
  have outcomesEq : verified.outcomes ++ [built.1] = state.outcomes ++ [built.1] := by
    rw [verifiedOutcomes, meteredOutcomes]
  cases stored : built.1.reading with
  | none =>
      have unstored : ¬ built.1.stored = true := by simp [IngestionOutcome.stored, stored]
      have noRows : built.1.rows = [] := by simp [IngestionOutcome.rows, stored]
      rw [if_neg unstored]
      refine ⟨_, rfl, outcomesEq, ?_⟩
      rw [noRows, List.append_nil]
      exact ⟨verifiedAgrees.latest, verifiedAgrees.intervals⟩
  | some row =>
      have isStored : built.1.stored = true := by simp [IngestionOutcome.stored, stored]
      have oneRow : built.1.rows = [row.asStored] := by simp [IngestionOutcome.rows, stored]
      have rowKey : row.naturalKey = reading.naturalKey := (build_ofReading stored).naturalKey
      have key : row.asStored.naturalKey = reading.naturalKey := rowKey
      rw [if_pos isStored, oneRow]
      refine ⟨_, rfl, outcomesEq, ?_⟩
      apply Agrees.stage _ key
      exact ⟨verifiedAgrees.latest, verifiedAgrees.intervals⟩

variable (unit evaluatedAt stalenessThreshold) in
/-- The loop of a batch stages its readings. -/
theorem batchLoop_eq {state : BatchState} {staged : List TelemetryReading}
    (agrees : Agrees state staged) {readings : List NormalizedReading}
    (known : ∀ reading ∈ readings, Known unit.working reading) :
    ∃ final, Work.foldItems (batchStep evaluatedAt stalenessThreshold) state readings unit =
        (.ok final, { unit with outside := (stage evaluatedAt stalenessThreshold
          (unit.working.readings.rows ++ staged) unit.outside readings).2 }) ∧
      final.outcomes = state.outcomes ++ (stage evaluatedAt stalenessThreshold
          (unit.working.readings.rows ++ staged) unit.outside readings).1 := by
  induction readings generalizing unit state staged with
  | nil => exact ⟨state, rfl, (List.append_nil _).symm⟩
  | cons reading rest inductionHypothesis =>
      obtain ⟨next, nextEq, nextOutcomes, nextAgrees⟩ := batchStep_eq
        evaluatedAt stalenessThreshold agrees (known reading List.mem_cons_self)
      let built := build (assess evaluatedAt stalenessThreshold
        (unit.working.readings.rows ++ staged) reading) reading unit.outside
      obtain ⟨final, finalEq, finalOutcomes⟩ := @inductionHypothesis
        { unit with outside := built.2 } _ _ nextAgrees
        fun member later => known member (List.mem_cons_of_mem _ later)
      refine ⟨final, ?_, ?_⟩
      · rw [Work.foldItems, Work.bind_of_ok nextEq, finalEq, ← List.append_assoc]
        rfl
      · rw [finalOutcomes, nextOutcomes, List.append_assoc, ← List.append_assoc _ staged]
        rfl

variable (stalenessThreshold) in
/-- A batch is staged, and its rows are inserted in one flush. -/
theorem ingestBatch_eq (settled : Settled unit) (at_ : Option Instant)
    {readings : List NormalizedReading}
    (known : ∀ reading ∈ readings, Known unit.committed reading) :
    let moment := momentFrom at_ unit.outside
    let staged := stage moment.1 stalenessThreshold unit.committed.readings.rows moment.2 readings
    (∀ next, insertAll (storableRows staged.1) unit.committed = .ok next →
      ingestBatch readings at_ stalenessThreshold unit =
        (.ok ⟨staged.1⟩,
          { unit with committed := next, working := next, outside := staged.2 })) ∧
    ∀ error, insertAll (storableRows staged.1) unit.committed = .error error →
      ∃ executed, ingestBatch readings at_ stalenessThreshold unit =
        (.error error, { unit with working := executed, outside := staged.2 }) := by
  intro moment staged
  rcases unit with ⟨committed, working, pending, autoflush, outside⟩
  cases settled.working
  cases settled.pending
  obtain ⟨final, finalEq, finalOutcomes⟩ := batchLoop_eq
    ⟨committed, committed, [], autoflush, moment.2⟩ moment.1 stalenessThreshold agrees_nil known
  rw [List.append_nil] at finalEq finalOutcomes
  have outcomesEq : final.outcomes = staged.1 := finalOutcomes
  obtain ⟨onInsert, onRefusal⟩ := Work.forItems_execute insertReading (storableRows staged.1)
    (⟨committed, committed, [], autoflush, staged.2⟩ : Session)
  unfold ingestBatch
  rw [Work.bind_of_ok (momentOf_eq at_), Work.bind_of_ok finalEq, outcomesEq]
  constructor
  · intro next inserted
    exact (Work.bind_of_ok (onInsert next inserted)).trans rfl
  · intro error refused
    obtain ⟨executed, raised⟩ := onRefusal error refused
    exact ⟨executed, Work.bind_of_error raised⟩

private theorem quiet_requireMeter (meterId : UUID) : Work.Quiet (requireMeter meterId) := by
  apply (Work.quiet_read _).bind
  intro known
  split
  · exact Work.quiet_pure ()
  · exact Work.quiet_raise _

private theorem quiet_requireAsset (energyAssetId : Option UUID) :
    Work.Quiet (requireAsset energyAssetId) := by
  cases energyAssetId with
  | none => exact Work.quiet_pure ()
  | some assetId =>
      apply (Work.quiet_read _).bind
      intro known
      split
      · exact Work.quiet_pure ()
      · exact Work.quiet_raise _

private theorem quiet_momentOf (at_ : Option Instant) : Work.Quiet (momentOf at_) := by
  cases at_ with
  | some moment => exact Work.quiet_pure moment
  | none => exact Work.quiet_draw _

private theorem quiet_classifyAndBuild (reading : NormalizedReading) (extraLatest : Option Instant)
    (extraDuplicate : Bool) : Work.Quiet
      (classifyAndBuild reading evaluatedAt stalenessThreshold extraLatest extraDuplicate) := by
  apply (Work.quiet_read _).bind
  intro latest
  apply (Work.quiet_read _).bind
  intro duplicate
  dsimp only
  split
  · exact Work.quiet_pure _
  · exact (Work.quiet_draw _).bind fun _ => Work.quiet_pure _

private theorem quiet_batchStep (state : BatchState) (reading : NormalizedReading) :
    Work.Quiet (batchStep evaluatedAt stalenessThreshold state reading) := by
  have verifyMeter : Work.Quiet (state.verifyMeter reading.meterId) := by
    unfold BatchState.verifyMeter
    split
    · exact Work.quiet_pure state
    · exact (quiet_requireMeter _).bind fun _ => Work.quiet_pure _
  apply verifyMeter.bind
  intro metered
  have verifyAsset : Work.Quiet (metered.verifyAsset reading.energyAssetId) := by
    unfold BatchState.verifyAsset
    split
    · exact Work.quiet_pure metered
    · split
      · exact Work.quiet_pure metered
      · exact (quiet_requireAsset _).bind fun _ => Work.quiet_pure _
  apply verifyAsset.bind
  intro verified
  apply (quiet_classifyAndBuild reading _ _).bind
  intro outcome
  dsimp only
  split <;> exact Work.quiet_pure _

private theorem atomic_ingestBatch (readings : List NormalizedReading) (at_ : Option Instant) :
    Work.Atomic (ingestBatch readings at_ stalenessThreshold) := by
  apply (quiet_momentOf at_).bind_atomic
  intro moment
  apply (Work.Quiet.foldItems quiet_batchStep {} readings).bind_atomic
  intro state
  apply (Work.Quiet.forItems (fun row => Work.quiet_execute (insertReading row)) _).bind_atomic
  intro _
  exact Work.atomic_commit.bind_pure _

end Batch

/-- A batch does what its readings would do one after the other with the same
`at`: the same outcomes, the same session afterwards. A batch that raises leaves
the store as it was. -/
theorem ingestBatch_refines (unit : Session) (settled : Settled unit) (evaluatedAt : Instant)
    (stalenessThreshold : ℤ) (readings : List NormalizedReading) :
    (∀ outcomes after, ingestEach (some evaluatedAt) stalenessThreshold readings unit =
        (.ok outcomes, after) →
      ∃ result, ingestBatch readings (some evaluatedAt) stalenessThreshold unit =
          (.ok result, after) ∧
        (result.outcomes.map fun outcome => (outcome.qualityStatus, outcome.stored)) =
          outcomes.map fun outcome => (outcome.qualityStatus, outcome.stored)) ∧
    ∀ error after, ingestBatch readings (some evaluatedAt) stalenessThreshold unit =
      (.error error, after) → after.committed.readings = unit.committed.readings := by
  constructor
  · intro outcomes after returned
    obtain ⟨known, next, inserted, outcomesEq, afterEq⟩ := ingestEach_ok settled returned
    have batched := (ingestBatch_eq stalenessThreshold settled
      (some evaluatedAt) known).1 next inserted
    refine ⟨_, batched.trans (congrArg (Prod.mk _) afterEq.symm), ?_⟩
    rw [outcomesEq, List.map_map]
    apply List.map_congr_left
    intro outcome _
    cases stored : outcome.reading <;>
      simp [IngestionOutcome.refreshed, IngestionOutcome.stored, IngestionOutcome.qualityStatus,
        stored]
  · intro error after raised
    rw [atomic_ingestBatch readings (some evaluatedAt) unit error after raised]

/-! ## A meter that reports an interval twice -/

def sampleDatabase : Database :=
  Database.initial ⟨0, false, .normal, 0, "", false⟩ ⟨[], [⟨21, 11, none⟩], [⟨31, 21⟩], [], []⟩

def sampleOutside : Outside where
  identifiers index := Fin.ofNat (2 ^ 128) index
  moments index := index
  transactionStart := 0

def sampleReading : NormalizedReading where
  meterId := 31
  timestamp := 900000000
  intervalStart := 0
  intervalEnd := 900000000
  source := .meter
  energyKwh := some 2

theorem ingestBatch_refines_sample :
    ∃ result after, ingestBatch [sampleReading, sampleReading] (some 900000000)
        DEFAULT_STALENESS_THRESHOLD (Work.begin_ sampleDatabase sampleOutside) =
          (.ok result, after) ∧
      (result.outcomes.map fun outcome => (outcome.qualityStatus, outcome.stored)) =
        [(.valid, true), (.duplicate, false)] := by
  have statuses : ((ingestEach (some 900000000) DEFAULT_STALENESS_THRESHOLD
      [sampleReading, sampleReading] (Work.begin_ sampleDatabase sampleOutside)).1.toOption.map
        fun outcomes => outcomes.map fun outcome => (outcome.qualityStatus, outcome.stored)) =
      some [(.valid, true), (.duplicate, false)] := by
    decide +kernel
  rcases returned : ingestEach (some 900000000) DEFAULT_STALENESS_THRESHOLD
    [sampleReading, sampleReading] (Work.begin_ sampleDatabase sampleOutside) with ⟨ended, after⟩
  rw [returned] at statuses
  cases ended with
  | error error => cases statuses
  | ok outcomes =>
      obtain ⟨result, batched, same⟩ := (ingestBatch_refines
        (Work.begin_ sampleDatabase sampleOutside) ⟨rfl, rfl⟩ 900000000
        DEFAULT_STALENESS_THRESHOLD [sampleReading, sampleReading]).1 outcomes after returned
      exact ⟨result, after, batched, same.trans (Option.some.inj statuses)⟩

end UrjaSetu.Services.TelemetryService
