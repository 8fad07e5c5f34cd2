import UrjaSetu.Adapters.SimulatorAdapter
import UrjaSetu.Library.Tally
import UrjaSetu.Services.TelemetryService.Constraints

/-!
The importer of `scripts/import_telemetry.py`: readings handed to the telemetry
service in chunks, each chunk one transaction.

An import that stops between two chunks keeps what it has committed.

Owns: what any number of such imports and one that ends come to, that importing once
more stores nothing, and that an imported synthetic window has no gap.
-/

namespace UrjaSetu.Scripts.ImportTelemetry

open UrjaSetu.Domain UrjaSetu.Domain.Interfaces UrjaSetu.Db UrjaSetu.Db.Models UrjaSetu.Library
open UrjaSetu.Adapters.SimulatorAdapter UrjaSetu.Domain.Policies.TelemetryQuality
open UrjaSetu.Services.TelemetryService

/-- What the importer reports. -/
structure Summary where
  stored : ℕ := 0
  totals : Dict TelemetryQualityStatus ℕ := Dict.empty

/-- `stored += result.stored` and `totals[status] += count`. -/
def Summary.add (summary : Summary) (result : BatchIngestionResult) : Summary where
  stored := summary.stored + result.stored
  totals := result.countsByStatus.entries.foldl (fun totals entry =>
    totals.set entry.1 ((totals.get? entry.1).getD 0 + entry.2)) summary.totals

/-- The loop over the chunks. -/
def ingestChunks (summary : Summary) (chunks : List (List NormalizedReading)) : Call Summary :=
  Work.foldItems (fun summary chunk => do
    let result ← ingestBatch chunk none DEFAULT_STALENESS_THRESHOLD
    pure (summary.add result)) summary chunks

def chunksOf (readings : List NormalizedReading) (batchSize : ℤ) : Call (List (List NormalizedReading)) :=
  Work.lift ((streamBatches readings batchSize).mapError .engine)

/-- `_dispatch_to_service`, with the commit of `session_scope`. -/
def dispatchToService (readings : List NormalizedReading) (batchSize : ℤ) : Call Summary :=
  if readings.isEmpty then pure {}
  else do
    let chunks ← chunksOf readings batchSize
    let summary ← ingestChunks {} chunks
    Work.commit
    pure summary

/-- An import that stops after so many chunks. -/
def interrupted (readings : List NormalizedReading) (batchSize : ℤ) (done : ℕ) : Call Summary := do
  let chunks ← chunksOf readings batchSize
  ingestChunks {} (chunks.take done)

/-- The database after imports of the readings that stopped, each with its batch size
and the chunks it had done. -/
def afterInterrupted (readings : List NormalizedReading) :
    List (ℤ × ℕ) → Database → Outside → Database × Outside
  | [], db, outside => (db, outside)
  | (batchSize, done) :: rest, db, outside =>
      let (_, next, left) := Work.serve (interrupted readings batchSize done) db outside
      afterInterrupted readings rest next left

/-! ## Chunks -/

private theorem flatten_chunks {α : Type} (readings : List α) (size count : ℕ) :
    ((List.range count).map fun index => (readings.drop (index * size)).take size).flatten =
      readings.take (count * size) := by
  induction count with
  | zero => simp
  | succ count inductionHypothesis =>
      rw [List.range_succ, List.map_append, List.flatten_append, inductionHypothesis,
        Nat.succ_mul, List.take_add]
      simp

private theorem streamBatches_flatten {α : Type} {readings : List α} {batchSize : ℤ}
    {chunks : List (List α)}
    (streamed : streamBatches readings batchSize = .ok chunks) : chunks.flatten = readings := by
  unfold streamBatches at streamed
  split at streamed
  · cases streamed
  · rename_i positive
    cases streamed
    have size : 0 < batchSize.toNat := by omega
    rw [flatten_chunks]
    apply List.take_of_length_le
    have whole := Nat.div_add_mod (readings.length + batchSize.toNat - 1) batchSize.toNat
    have rest := Nat.mod_lt (readings.length + batchSize.toNat - 1) size
    rw [mul_comm] at whole
    omega

private theorem streamBatches_of_pos {α : Type} (readings : List α) {batchSize : ℤ}
    (positive : 0 < batchSize) :
    ∃ chunks, streamBatches readings batchSize = .ok chunks := by
  unfold streamBatches
  rw [if_neg positive.not_ge]
  exact ⟨_, rfl⟩

private theorem chunksOf_eq {readings : List NormalizedReading} {batchSize : ℤ}
    {chunks : List (List NormalizedReading)} (streamed : streamBatches readings batchSize = .ok chunks)
    (unit : Session) : chunksOf readings batchSize unit = (.ok chunks, unit) := by
  simp [chunksOf, Work.lift, streamed, Except.mapError]

/-! ## Routine readings -/

private theorem submittable_of_routine {reading : NormalizedReading} (routine : Routine reading)
    (taken : List NaturalKey) : Submittable taken reading where
  unavailable := by
    intro unavailable
    rw [routine.available] at unavailable
    cases unavailable
  empty := by
    intro _ _ unmeasured
    rw [routine.measured] at unmeasured
    cases unmeasured

private theorem clear_of_routine {readings : List NormalizedReading}
    (routine : ∀ reading ∈ readings, Routine reading) (taken : List NaturalKey) :
    Clear taken readings := by
  induction readings generalizing taken with
  | nil => trivial
  | cons reading rest inductionHypothesis =>
      exact ⟨submittable_of_routine (routine reading List.mem_cons_self) taken,
        inductionHypothesis (fun later member => routine later (List.mem_cons_of_mem _ member)) _⟩

/-- What importing the readings does: rows are inserted for the intervals that were not
yet recorded, and for no others. -/
structure Imported (readings : List NormalizedReading) (rows : List TelemetryReading)
    (db next : Database) : Prop where
  inserted : insertAll rows db = .ok next
  described : ∀ row ∈ rows, ∃ reading ∈ readings, OfReading row reading
  recorded : ∀ key, key ∈ keys next ↔ key ∈ keys db ∨ ∃ reading ∈ readings, reading.naturalKey = key

private theorem Imported.nothing (db : Database) : Imported [] [] db db := ⟨rfl, by simp, by simp⟩

private theorem Imported.trans {readings more : List NormalizedReading}
    {rows moreRows : List TelemetryReading}
    {db middle next : Database} (first : Imported readings rows db middle)
    (second : Imported more moreRows middle next) :
    Imported (readings ++ more) (rows ++ moreRows) db next where
  inserted := by
    rw [insertAll_append, first.inserted]
    exact second.inserted
  described := by
    intro row member
    rcases List.mem_append.mp member with early | late
    · obtain ⟨reading, isReading, describes⟩ := first.described row early
      exact ⟨reading, List.mem_append_left _ isReading, describes⟩
    · obtain ⟨reading, isReading, describes⟩ := second.described row late
      exact ⟨reading, List.mem_append_right _ isReading, describes⟩
  recorded := by
    intro key
    rw [second.recorded, first.recorded, or_assoc]
    simp only [List.mem_append, or_and_right, exists_or]

private theorem Imported.community {readings : List NormalizedReading}
    {rows : List TelemetryReading}
    {db next : Database} (imported : Imported readings rows db next) :
    next.community = db.community := (insertAll_ok imported.inserted).2

/-- Where every interval is recorded already, nothing happens. -/
theorem Imported.eq_of_recorded {readings : List NormalizedReading} {rows : List TelemetryReading}
    {db next : Database} (imported : Imported readings rows db next)
    (recorded : ∀ reading ∈ readings, reading.naturalKey ∈ keys db) :
    rows = [] ∧ next = db := by
  have rowsEq := (insertAll_ok imported.inserted).1
  have distinct : (next.readings.rows.map TelemetryReading.naturalKey).Nodup :=
    Table.nodup_column TelemetryReading.naturalKey
      (fun _ _ same => decide_eq_true (Or.inr same))
  have none_ : rows = [] := by
    by_contra some_
    obtain ⟨row, member⟩ := List.exists_mem_of_ne_nil rows some_
    have stored : row.asStored.naturalKey ∈ keys db := by
      have present : row.asStored.naturalKey ∈ keys next := by
        rw [keys, rowsEq]
        exact List.mem_map_of_mem (List.mem_append_right _ (List.mem_map_of_mem member))
      rcases (imported.recorded _).mp present with before | ⟨reading, isReading, same⟩
      · exact before
      · exact same ▸ recorded reading isReading
    rw [rowsEq, List.map_append] at distinct
    exact (List.nodup_append.mp distinct).2.2 _ stored _
      (List.mem_map_of_mem (List.mem_map_of_mem member)) rfl
  refine ⟨none_, ?_⟩
  have inserted := imported.inserted
  rw [none_] at inserted
  cases inserted
  rfl

section Sessions

variable {unit : Session} {readings : List NormalizedReading} {count : ℕ}

private theorem countP_stored (outcomes : List IngestionOutcome) :
    outcomes.countP IngestionOutcome.stored = (storableRows outcomes).length := by
  induction outcomes with
  | nil => rfl
  | cons outcome rest inductionHypothesis =>
      rw [storableRows_cons, List.countP_cons, inductionHypothesis, List.length_append]
      cases stored : outcome.reading with
      | none => simp [IngestionOutcome.stored, stored]
      | some row => simp [IngestionOutcome.stored, stored, add_comm]

private theorem stage_length (moment : Instant) (threshold : ℤ) (rows : List TelemetryReading)
    (outside : Outside) (readings : List NormalizedReading) :
    (stage moment threshold rows outside readings).1.length = readings.length := by
  induction readings generalizing rows outside with
  | nil => rfl
  | cons reading rest inductionHypothesis =>
      simp only [stage, List.length_cons, inductionHypothesis]

/-- What is staged are rows of the readings' intervals. -/
theorem stage_described (moment : Instant) (threshold : ℤ) (rows : List TelemetryReading)
    (outside : Outside) (readings : List NormalizedReading) :
    ∀ row ∈ storableRows (stage moment threshold rows outside readings).1,
      ∃ reading ∈ readings, OfReading row reading := by
  induction readings generalizing rows outside with
  | nil => intro row absurdity; cases absurdity
  | cons reading rest inductionHypothesis =>
      intro row member
      simp only [stage, storableRows_cons, List.mem_append, Option.mem_toList] at member
      rcases member with built | later
      · exact ⟨reading, List.mem_cons_self, build_ofReading built⟩
      · obtain ⟨other, isOther, describes⟩ := inductionHypothesis _ _ row later
        exact ⟨other, List.mem_cons_of_mem _ isOther, describes⟩

/-- Each outcome is counted under one status. -/
theorem total_countsByStatus (result : BatchIngestionResult) :
    Tally.total result.countsByStatus = result.outcomes.length := by
  have counted := Tally.total_foldl IngestionOutcome.qualityStatus (fun _ => 1) result.outcomes
    Dict.empty
  rw [Tally.total_empty, zero_add] at counted
  rw [BatchIngestionResult.countsByStatus, counted]
  simp

private theorem Summary.total_add (summary : Summary) (result : BatchIngestionResult) :
    Tally.total (summary.add result).totals = Tally.total summary.totals + result.outcomes.length := by
  rw [← total_countsByStatus]
  exact Tally.total_foldl Prod.fst Prod.snd result.countsByStatus.entries summary.totals

/-- One chunk. -/
theorem ingestBatch_routine (settled : Settled unit)
    (known : ∀ reading ∈ readings, Known unit.committed reading)
    (routine : ∀ reading ∈ readings, Routine reading)
    (fresh : Fresh (readings.length + count) unit.committed.readings.rows unit.outside) :
    ∃ result next left rows, ingestBatch readings none DEFAULT_STALENESS_THRESHOLD unit =
        (.ok result, { unit with committed := next, working := next, outside := left }) ∧
      Imported readings rows unit.committed next ∧ result.stored = rows.length ∧
      result.outcomes.length = readings.length ∧ Fresh count next.readings.rows left := by
  obtain ⟨onInsert, _⟩ := ingestBatch_eq DEFAULT_STALENESS_THRESHOLD settled none known
  obtain ⟨onClear, _⟩ := stage_insertAll (momentFrom none unit.outside).1
    DEFAULT_STALENESS_THRESHOLD readings (fresh.momentFrom none)
  obtain ⟨next, inserted, nextFresh, nextKeys⟩ := onClear (clear_of_routine routine _)
  refine ⟨_, next, _, _, onInsert next inserted, ⟨inserted, stage_described _ _ _ _ _, ?_⟩,
    countP_stored _, stage_length _ _ _ _ _, nextFresh⟩
  intro key
  rw [nextKeys, mem_recordedAfter]
  apply or_congr Iff.rfl
  apply exists_congr
  intro reading
  apply and_congr_right
  intro member
  have isRecorded : recorded reading = true := by
    simp [recorded, (routine reading member).sound]
  simp [isRecorded]

/-- Run of the chunks. -/
theorem ingestChunks_routine (chunks : List (List NormalizedReading)) (summary : Summary)
    (settled : Settled unit) (known : ∀ reading ∈ chunks.flatten, Known unit.committed reading)
    (routine : ∀ reading ∈ chunks.flatten, Routine reading)
    (fresh : Fresh (chunks.flatten.length + count) unit.committed.readings.rows unit.outside) :
    ∃ final next left rows, ingestChunks summary chunks unit =
        (.ok final, { unit with committed := next, working := next, outside := left }) ∧
      Imported chunks.flatten rows unit.committed next ∧
      final.stored = summary.stored + rows.length ∧
      Tally.total final.totals = Tally.total summary.totals + chunks.flatten.length ∧
      Fresh count next.readings.rows left := by
  induction chunks generalizing unit summary with
  | nil =>
      rcases unit with ⟨committed, working, pending, autoflush, outside⟩
      cases settled.working
      exact ⟨summary, committed, outside, [], rfl, Imported.nothing committed, rfl, rfl,
        fresh.fewer (by simp)⟩
  | cons chunk rest inductionHypothesis =>
      simp only [List.flatten_cons, List.mem_append, List.length_append] at known routine fresh
      rw [add_assoc] at fresh
      obtain ⟨result, middle, left, rows, ingested, imported, stored, outcomes, middleFresh⟩ :=
        ingestBatch_routine settled (fun reading member => known reading (Or.inl member))
          (fun reading member => routine reading (Or.inl member)) fresh
      obtain ⟨final, next, last, restRows, restIngested, restImported, restStored, restCounted,
          restFresh⟩ :=
        @inductionHypothesis
          { unit with committed := middle, working := middle, outside := left }
          (summary.add result) ⟨rfl, settled.pending⟩
          (fun reading member => (known reading (Or.inr member)).of_community imported.community)
          (fun reading member => routine reading (Or.inr member)) middleFresh
      refine ⟨final, next, last, rows ++ restRows, ?_, ?_, ?_, ?_, restFresh⟩
      · have step : (do
            let result ← ingestBatch chunk none DEFAULT_STALENESS_THRESHOLD
            pure (summary.add result) : Call Summary) unit = (.ok (summary.add result),
              { unit with committed := middle, working := middle, outside := left }) :=
          Work.bind_of_ok ingested
        unfold ingestChunks at restIngested ⊢
        rw [Work.foldItems, Work.bind_of_ok step, restIngested]
      · rw [List.flatten_cons]
        exact imported.trans restImported
      · rw [restStored, Summary.add, stored, List.length_append, add_assoc]
      · rw [restCounted, Summary.total_add, outcomes, List.flatten_cons, List.length_append, add_assoc]

end Sessions

/-! ## Imports -/

private theorem Imported.kept {readings : List NormalizedReading} {rows : List TelemetryReading}
    {db next : Database} (imported : Imported readings rows db next) :
    db.readings.rows <+: next.readings.rows :=
  ⟨_, (insertAll_ok imported.inserted).1.symm⟩

section Imports

variable {readings : List NormalizedReading} {db : Database} {outside : Outside} {count : ℕ}

/-- An import that stopped has imported the readings it had come to. -/
theorem interrupted_served (known : ∀ reading ∈ readings, Known db reading)
    (routine : ∀ reading ∈ readings, Routine reading) (batchSize : ℤ) (done : ℕ)
    (fresh : Fresh (readings.length + count) db.readings.rows outside) :
    ∃ outcome next left part rows,
      Work.serve (interrupted readings batchSize done) db outside = (outcome, next, left) ∧
      part <+: readings ∧ Imported part rows db next ∧ Fresh count next.readings.rows left := by
  cases streamed : streamBatches readings batchSize with
  | error message =>
      have refused : chunksOf readings batchSize (Work.begin_ db outside) =
          (.error (.engine message), Work.begin_ db outside) := by
        simp [chunksOf, Work.lift, streamed, Except.mapError]
      have raised : interrupted readings batchSize done (Work.begin_ db outside) =
          (.error (.engine message), Work.begin_ db outside) := Work.bind_of_error refused
      exact ⟨_, db, outside, [], [], Work.serve_of_run raised, List.nil_prefix,
        Imported.nothing db, fresh.fewer (Nat.le_add_left _ _)⟩
  | ok chunks =>
      have whole : (chunks.take done).flatten ++ (chunks.drop done).flatten = readings := by
        rw [← List.flatten_append, List.take_append_drop, streamBatches_flatten streamed]
      have part : (chunks.take done).flatten <+: readings := ⟨_, whole⟩
      obtain ⟨final, next, left, rows, ingested, imported, _, _, nextFresh⟩ :=
        ingestChunks_routine (chunks.take done) {} (⟨rfl, rfl⟩ : Settled (Work.begin_ db outside))
          (fun reading member => known reading (part.subset member))
          (fun reading member => routine reading (part.subset member))
          (fresh.fewer (Nat.add_le_add_right part.length_le count))
      have returned : interrupted readings batchSize done (Work.begin_ db outside) =
          (.ok final, { Work.begin_ db outside with
            committed := next, working := next, outside := left }) := by
        unfold interrupted
        rw [Work.bind_of_ok (chunksOf_eq streamed _), ingested]
      exact ⟨_, next, left, _, rows, Work.serve_of_run returned, part, imported, nextFresh⟩

/-- Run of the imports that stopped. -/
theorem afterInterrupted_imported (known : ∀ reading ∈ readings, Known db reading)
    (routine : ∀ reading ∈ readings, Routine reading) (stops : List (ℤ × ℕ))
    (fresh : Fresh (stops.length * readings.length + count) db.readings.rows outside) :
    ∃ next left part rows, afterInterrupted readings stops db outside = (next, left) ∧
      part ⊆ readings ∧ Imported part rows db next ∧ Fresh count next.readings.rows left := by
  induction stops generalizing db outside with
  | nil =>
      exact ⟨db, outside, [], [], rfl, List.nil_subset _, Imported.nothing db,
        fresh.fewer (Nat.le_add_left _ _)⟩
  | cons stop rest inductionHypothesis =>
      have enough : Fresh (readings.length + (rest.length * readings.length + count))
          db.readings.rows outside := fresh.fewer (le_of_eq (by rw [List.length_cons]; ring))
      obtain ⟨_, middle, left, part, rows, served, isPart, imported, middleFresh⟩ :=
        interrupted_served known routine stop.1 stop.2 enough
      obtain ⟨next, last, more, moreRows, run, isMore, restImported, nextFresh⟩ :=
        inductionHypothesis
          (fun reading member => (known reading member).of_community imported.community) middleFresh
      refine ⟨next, last, part ++ more, rows ++ moreRows, ?_,
        List.append_subset.mpr ⟨isPart.subset, isMore⟩, imported.trans restImported, nextFresh⟩
      rw [afterInterrupted, served]
      exact run

/-- An import that ends. -/
theorem dispatch_served (known : ∀ reading ∈ readings, Known db reading)
    (routine : ∀ reading ∈ readings, Routine reading) {batchSize : ℤ} (positive : 0 < batchSize)
    (fresh : Fresh (readings.length + count) db.readings.rows outside) :
    ∃ summary next left rows,
      Work.serve (dispatchToService readings batchSize) db outside = (.ok summary, next, left) ∧
      Imported readings rows db next ∧ summary.stored = rows.length ∧
      Tally.total summary.totals = readings.length ∧ Fresh count next.readings.rows left := by
  by_cases nothing : readings = []
  · subst nothing
    exact ⟨{}, db, outside, [], rfl, Imported.nothing db, rfl, rfl,
      fresh.fewer (Nat.le_add_left _ _)⟩
  · obtain ⟨chunks, streamed⟩ := streamBatches_of_pos readings positive
    have whole := streamBatches_flatten streamed
    obtain ⟨final, next, left, rows, ingested, imported, stored, counted, nextFresh⟩ :=
      @ingestChunks_routine (Work.begin_ db outside) count chunks {} ⟨rfl, rfl⟩
        (whole.symm ▸ known) (whole.symm ▸ routine) (whole.symm ▸ fresh)
    have returned : dispatchToService readings batchSize (Work.begin_ db outside) =
        (.ok final, { Work.begin_ db outside with
          committed := next, working := next, outside := left }) := by
      unfold dispatchToService
      rw [if_neg (by simpa using nothing), Work.bind_of_ok (chunksOf_eq streamed _),
        Work.bind_of_ok ingested]
      rfl
    rw [whole] at imported counted
    exact ⟨final, next, left, rows, Work.serve_of_run returned, imported, by simpa using stored,
      by simpa using counted, nextFresh⟩

/-- An import that ends after others of the same readings have stopped. -/
theorem resumed_served (known : ∀ reading ∈ readings, Known db reading)
    (routine : ∀ reading ∈ readings, Routine reading) (stops : List (ℤ × ℕ)) {batchSize : ℤ}
    (positive : 0 < batchSize)
    (fresh : Fresh ((stops.length + 1) * readings.length + count) db.readings.rows outside) :
    ∃ summary next left rows,
      Work.serve (dispatchToService readings batchSize) (afterInterrupted readings stops db outside).1
          (afterInterrupted readings stops db outside).2 = (.ok summary, next, left) ∧
        next.readings.rows.length =
          (afterInterrupted readings stops db outside).1.readings.rows.length + summary.stored ∧
        Tally.total summary.totals = readings.length ∧ Imported readings rows db next ∧
        Fresh count next.readings.rows left := by
  have enough : Fresh (stops.length * readings.length + (readings.length + count))
      db.readings.rows outside := fresh.fewer (le_of_eq (by ring))
  obtain ⟨stopped, beside, part, earlier, run, isPart, partly, stoppedFresh⟩ :=
    afterInterrupted_imported known routine stops enough
  obtain ⟨summary, next, left, rows, served, imported, stored, counted, nextFresh⟩ := dispatch_served
    (fun reading member => (known reading member).of_community partly.community) routine positive
    stoppedFresh
  have all := partly.trans imported
  refine ⟨summary, next, left, earlier ++ rows, ?_, ?_, counted, ⟨all.inserted, ?_, ?_⟩,
    nextFresh⟩
  · rw [run, served]
  · rw [run, stored, (insertAll_ok imported.inserted).1, List.length_append, List.length_map]
  · intro row member
    obtain ⟨reading, isReading, describes⟩ := all.described row member
    exact ⟨reading, (List.append_subset.mpr ⟨isPart, List.Subset.refl _⟩) isReading, describes⟩
  · intro key
    rw [all.recorded]
    apply or_congr Iff.rfl
    constructor
    · rintro ⟨reading, member, same⟩
      rcases List.mem_append.mp member with before | after
      · exact ⟨reading, isPart before, same⟩
      · exact ⟨reading, after, same⟩
    · rintro ⟨reading, member, same⟩
      exact ⟨reading, List.mem_append_right _ member, same⟩

/-- However often an import of the readings has stopped, one that ends has recorded
exactly their intervals beside those that were recorded before, reports how many rows it
added and every reading under a status, and importing them once more stores nothing. -/
theorem import_resumes (known : ∀ reading ∈ readings, Known db reading)
    (routine : ∀ reading ∈ readings, Routine reading) (stops : List (ℤ × ℕ)) {batchSize again : ℤ}
    (positive : 0 < batchSize) (againPositive : 0 < again)
    (fresh : Fresh ((stops.length + 2) * readings.length) db.readings.rows outside) :
    ∃ summary next left,
      Work.serve (dispatchToService readings batchSize) (afterInterrupted readings stops db outside).1
          (afterInterrupted readings stops db outside).2 = (.ok summary, next, left) ∧
        next.readings.rows.length =
          (afterInterrupted readings stops db outside).1.readings.rows.length + summary.stored ∧
        Tally.total summary.totals = readings.length ∧ db.readings.rows <+: next.readings.rows ∧
        (∀ key, key ∈ keys next ↔
          key ∈ keys db ∨ ∃ reading ∈ readings, reading.naturalKey = key) ∧
        ∃ repeated last,
          Work.serve (dispatchToService readings again) next left = (.ok repeated, next, last) ∧
            repeated.stored = 0 := by
  have enough : Fresh ((stops.length + 1) * readings.length + (readings.length + 0))
      db.readings.rows outside := fresh.fewer (le_of_eq (by ring))
  obtain ⟨summary, next, left, rows, served, added, counted, imported, nextFresh⟩ :=
    resumed_served known routine stops positive enough
  obtain ⟨repeated, final, last, more, servedAgain, importedAgain, stored, _, _⟩ := dispatch_served
    (fun reading member => (known reading member).of_community imported.community) routine
    againPositive nextFresh
  obtain ⟨nothing, same⟩ := importedAgain.eq_of_recorded fun reading member =>
    (imported.recorded _).mpr (Or.inr ⟨reading, member, rfl⟩)
  rw [same] at servedAgain
  refine ⟨summary, next, left, served, added, counted, imported.kept, imported.recorded, repeated,
    last, servedAgain, ?_⟩
  rw [stored, nothing, List.length_nil]

/-- A reading of the interval that follows. -/
def laterReading : NormalizedReading :=
  { sampleReading with
    timestamp := 1800000000
    intervalStart := 900000000
    intervalEnd := 1800000000 }

theorem import_resumes_sample : ∃ summary next left,
    Work.serve (dispatchToService [sampleReading, laterReading] 2)
        (afterInterrupted [sampleReading, laterReading] [(1, 1)] sampleDatabase sampleOutside).1
        (afterInterrupted [sampleReading, laterReading] [(1, 1)] sampleDatabase sampleOutside).2 =
      (.ok summary, next, left) ∧ Tally.total summary.totals = 2 ∧
        laterReading.naturalKey ∈ keys next := by
  obtain ⟨summary, next, left, served, _, counted, _, recorded, _⟩ := @import_resumes
    [sampleReading, laterReading] sampleDatabase sampleOutside
    (by
      intro reading member
      simp only [List.mem_cons, List.not_mem_nil, or_false] at member
      rcases member with rfl | rfl
      · exact ⟨by decide, by simp [sampleReading]⟩
      · exact ⟨by decide, by simp [laterReading, sampleReading]⟩)
    (by
      intro reading member
      simp only [List.mem_cons, List.not_mem_nil, or_false] at member
      rcases member with rfl | rfl
      · exact ⟨rfl, by decide +kernel, rfl⟩
      · exact ⟨rfl, by decide +kernel, rfl⟩)
    [(1, 1)] 2 2 (by decide) (by decide)
    ⟨by decide, fun row stored => by cases stored⟩
  exact ⟨summary, next, left, served, counted,
    (recorded _).mpr (Or.inr ⟨laterReading, by simp, rfl⟩)⟩

end Imports

/-! ## A synthetic window -/

section Window

variable {synthetic : Synthetic} {curves : Curves} {start end_ : Instant} {db : Database}
  {outside : Outside}

private theorem synthetic_routine (length : 0 < synthetic.intervalMinutes)
    (ratio : 0 ≤ curves.hoursRatio) :
    ∀ reading ∈ generateSiteTelemetry synthetic curves start end_, Routine reading := by
  obtain ⟨count, generated, _, _⟩ := @generateSiteTelemetry_eq synthetic curves length start end_
  intro reading member
  rw [generated] at member
  obtain ⟨step, _, rfl⟩ := List.mem_map.mp member
  exact readingAt_routine length ratio step _

private theorem synthetic_known (length : 0 < synthetic.intervalMinutes)
    (meter : (db.community.meters.any fun meter => meter.id = synthetic.meterId) = true)
    (asset : ∀ assetId, synthetic.energyAssetId = some assetId →
      (db.community.assets.any fun asset => asset.id = assetId) = true) :
    ∀ reading ∈ generateSiteTelemetry synthetic curves start end_, Known db reading := by
  obtain ⟨count, generated, _, _⟩ := @generateSiteTelemetry_eq synthetic curves length start end_
  intro reading member
  rw [generated] at member
  obtain ⟨step, _, rfl⟩ := List.mem_map.mp member
  exact ⟨meter, asset⟩

/-- A moment of a window lies in the interval of one of its readings. -/
theorem synthetic_covers (length : 0 < synthetic.intervalMinutes) {moment : Instant}
    (begun : start ≤ moment) (before : moment < end_) :
    ∃ reading ∈ generateSiteTelemetry synthetic curves start end_,
      reading.intervalStart ≤ moment ∧ moment < reading.intervalStart + synthetic.delta := by
  obtain ⟨count, generated, covers, _⟩ :=
    @generateSiteTelemetry_eq synthetic curves length start end_
  have delta : 0 < synthetic.delta := by
    unfold Synthetic.delta
    omega
  obtain ⟨step, stepEq⟩ := Int.eq_ofNat_of_zero_le
    (Int.ediv_nonneg (sub_nonneg.mpr begun) delta.le)
  have whole := Int.mul_ediv_add_emod (moment - start) synthetic.delta
  have nonneg := Int.emod_nonneg (moment - start) delta.ne'
  have small := Int.emod_lt_of_pos (moment - start) delta
  rw [stepEq] at whole
  refine ⟨readingAt synthetic curves step (start + step * synthetic.delta), ?_, ?_, ?_⟩
  · rw [generated]
    refine List.mem_map.mpr ⟨step, List.mem_range.mpr ?_, rfl⟩
    by_contra past
    have far : (count : ℤ) * synthetic.delta ≤ step * synthetic.delta :=
      mul_le_mul_of_nonneg_right (by exact_mod_cast not_lt.mp past) delta.le
    linarith
  · show start + step * synthetic.delta ≤ moment
    linarith
  · show moment < start + step * synthetic.delta + synthetic.delta
    linarith

private theorem synthetic_begins (length : 0 < synthetic.intervalMinutes) :
    ∀ reading ∈ generateSiteTelemetry synthetic curves start end_,
      start ≤ reading.intervalStart ∧ reading.intervalStart < end_ := by
  obtain ⟨count, generated, _, within⟩ :=
    @generateSiteTelemetry_eq synthetic curves length start end_
  intro reading member
  rw [generated] at member
  obtain ⟨step, isStep, rfl⟩ := List.mem_map.mp member
  have delta : 0 < synthetic.delta := by
    unfold Synthetic.delta
    omega
  refine ⟨?_, within step (List.mem_range.mp isStep)⟩
  show start ≤ start + step * synthetic.delta
  have forward : 0 ≤ (step : ℤ) * synthetic.delta := by positivity
  linarith

/-- What is generated is of the meter and the asset, and lasts an interval. -/
theorem synthetic_lasts (length : 0 < synthetic.intervalMinutes) :
    ∀ reading ∈ generateSiteTelemetry synthetic curves start end_,
      reading.meterId = synthetic.meterId ∧ reading.energyAssetId = synthetic.energyAssetId ∧
        reading.intervalEnd = reading.intervalStart + synthetic.delta := by
  obtain ⟨count, generated, _, _⟩ := @generateSiteTelemetry_eq synthetic curves length start end_
  intro reading member
  rw [generated] at member
  obtain ⟨step, _, rfl⟩ := List.mem_map.mp member
  exact ⟨rfl, rfl, rfl⟩

/-- However often the import of a synthetic window has stopped, one that ends leaves no
moment of the window without a stored reading of its meter, where the readings that the
meter had in the window before last as long as the generated ones. -/
theorem synthetic_import_covers (length : 0 < synthetic.intervalMinutes)
    (ratio : 0 ≤ curves.hoursRatio)
    (meter : (db.community.meters.any fun meter => meter.id = synthetic.meterId) = true)
    (asset : ∀ assetId, synthetic.energyAssetId = some assetId →
      (db.community.assets.any fun asset => asset.id = assetId) = true)
    (earlier : ∀ row ∈ db.readings.rows, row.meterId = synthetic.meterId →
      row.energyAssetId = synthetic.energyAssetId → start ≤ row.intervalStart →
        row.intervalStart < end_ → row.intervalStart + synthetic.delta ≤ row.intervalEnd)
    (stops : List (ℤ × ℕ)) {batchSize : ℤ} (positive : 0 < batchSize)
    (fresh : Fresh ((stops.length + 1) * (generateSiteTelemetry synthetic curves start end_).length)
      db.readings.rows outside) :
    ∃ summary next left,
      Work.serve (dispatchToService (generateSiteTelemetry synthetic curves start end_) batchSize)
          (afterInterrupted (generateSiteTelemetry synthetic curves start end_) stops db outside).1
          (afterInterrupted (generateSiteTelemetry synthetic curves start end_) stops db outside).2 =
        (.ok summary, next, left) ∧
      ∀ moment, start ≤ moment → moment < end_ → ∃ row ∈ next.readings.rows,
        row.meterId = synthetic.meterId ∧ row.energyAssetId = synthetic.energyAssetId ∧
          row.intervalStart ≤ moment ∧ moment < row.intervalEnd := by
  obtain ⟨summary, next, left, rows, served, _, _, imported, _⟩ := @resumed_served _ db outside 0
    (synthetic_known length meter asset) (synthetic_routine length ratio) stops batchSize positive
    fresh
  refine ⟨summary, next, left, served, ?_⟩
  intro moment begun before
  obtain ⟨reading, member, first, last⟩ := @synthetic_covers synthetic curves start end_ length
    moment begun before
  have stored : reading.naturalKey ∈ keys next :=
    (imported.recorded _).mpr (Or.inr ⟨reading, member, rfl⟩)
  obtain ⟨row, isRow, same⟩ := List.mem_map.mp stored
  obtain ⟨isMeter, isAsset, _⟩ := synthetic_lasts length reading member
  simp only [TelemetryReading.naturalKey, NormalizedReading.naturalKey, Prod.mk.injEq, isMeter,
    isAsset] at same
  obtain ⟨isMeter, isAsset, begins⟩ := same
  refine ⟨row, isRow, isMeter, isAsset, begins ▸ first, ?_⟩
  have lasts : row.intervalStart + synthetic.delta ≤ row.intervalEnd := by
    rw [(insertAll_ok imported.inserted).1] at isRow
    rcases List.mem_append.mp isRow with known | added
    · have inWindow := synthetic_begins length reading member
      exact earlier row known isMeter isAsset (begins ▸ inWindow.1) (begins ▸ inWindow.2)
    · obtain ⟨staged, isStaged, rfl⟩ := List.mem_map.mp added
      obtain ⟨other, isOther, describes⟩ := imported.described staged isStaged
      have starts : staged.intervalStart = other.intervalStart :=
        congrArg (fun key : NaturalKey => key.2.2) describes.naturalKey
      have ends := (synthetic_lasts length other isOther).2.2
      rw [← describes.intervalEnd, ← starts] at ends
      exact ends.ge
  rw [begins] at lasts
  linarith

/-- Half an hour of a meter that reports every quarter. -/
def sampleSynthetic : Synthetic := ⟨31, none, .residentialConsumer, 15⟩

def sampleCurves : Curves := ⟨fun _ => 0, fun _ => 1, 1 / 4⟩

/-- The meter's first quarter, as it was measured. -/
def measuredQuarter : TelemetryReading :=
  toModel { sampleReading with timestamp := 0 } ⟨.valid, none⟩ (2 ^ 127)

/-- A community in which that quarter is stored already. -/
def measuredDatabase : Database :=
  { sampleDatabase with readings := ⟨[measuredQuarter], by decide +kernel, by decide +kernel⟩ }

theorem synthetic_import_covers_sample : ∃ summary next left,
    Work.serve (dispatchToService (generateSiteTelemetry sampleSynthetic sampleCurves 0 1800000000) 1)
        (afterInterrupted (generateSiteTelemetry sampleSynthetic sampleCurves 0 1800000000) [(1, 1)]
          measuredDatabase sampleOutside).1
        (afterInterrupted (generateSiteTelemetry sampleSynthetic sampleCurves 0 1800000000) [(1, 1)]
          measuredDatabase sampleOutside).2 = (.ok summary, next, left) ∧
      ∀ moment, 0 ≤ moment → moment < 1800000000 → ∃ row ∈ next.readings.rows, row.meterId = 31 ∧
        row.intervalStart ≤ moment ∧ moment < row.intervalEnd := by
  have two : (generateSiteTelemetry sampleSynthetic sampleCurves 0 1800000000).length = 2 := by
    decide +kernel
  obtain ⟨summary, next, left, served, covered⟩ := @synthetic_import_covers sampleSynthetic
    sampleCurves 0 1800000000 measuredDatabase sampleOutside (by decide)
    (by norm_num [sampleCurves]) (by decide) (by simp [sampleSynthetic])
    (by
      intro row stored _ _ _ _
      rw [List.mem_singleton.mp stored]
      decide) [(1, 1)] 1 (by decide)
    (by
      rw [two]
      refine ⟨by decide, fun row stored => ?_⟩
      rw [List.mem_singleton.mp stored]
      decide +kernel)
  refine ⟨summary, next, left, served, ?_⟩
  intro moment begun before
  obtain ⟨row, isRow, isMeter, _, within⟩ := covered moment begun before
  exact ⟨row, isRow, isMeter, within⟩

end Window

end UrjaSetu.Scripts.ImportTelemetry
