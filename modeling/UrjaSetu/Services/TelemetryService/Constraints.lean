import UrjaSetu.Services.TelemetryService.Batch

/-!
When a submission runs into a constraint of `telemetry_readings`.

The classifier keeps duplicates and invalid values out of the table, but it
looks for them only in a measured reading of an available source: a repeated gap
or a repeated "source unavailable" marker is stored again.

Owns: the exact condition on the submitted readings, over whole runs.
-/

namespace UrjaSetu.Services.TelemetryService

open UrjaSetu.Core UrjaSetu.Domain UrjaSetu.Domain.Interfaces UrjaSetu.Db UrjaSetu.Db.Models
open UrjaSetu.Domain.Policies.TelemetryQuality UrjaSetu.Library UrjaSetu.Library.Rounding
open UrjaSetu.Repositories.Telemetry

abbrev NaturalKey := UUID × Option UUID × Instant

/-- The CHECKs hold of the reading's values as the columns round them. -/
def satisfiesChecks (reading : NormalizedReading) : Bool :=
  (toModel reading ⟨.valid, none⟩ 0).asStored.checks

/-- The reading can be stored, or is kept out, where the intervals in `taken` are
recorded. -/
structure Submittable (taken : List NaturalKey) (reading : NormalizedReading) : Prop where
  unavailable : reading.sourceUnavailable = true →
    satisfiesChecks reading = true ∧ reading.naturalKey ∉ taken
  empty : reading.sourceUnavailable = false → firstInvalidValue reading = none →
    reading.hasAnyMeasurement = false → reading.naturalKey ∉ taken

/-- Once submitted, the reading's interval is recorded. -/
def recorded (reading : NormalizedReading) : Bool :=
  reading.sourceUnavailable || (firstInvalidValue reading).isNone

/-- The intervals recorded after a list of readings. -/
def recordedAfter (taken : List NaturalKey) (readings : List NormalizedReading) :
    List NaturalKey :=
  readings.foldl (fun taken reading =>
    if recorded reading then reading.naturalKey :: taken else taken) taken

/-- Each reading in turn can be submitted. -/
def Clear : List NaturalKey → List NormalizedReading → Prop
  | _, [] => True
  | taken, reading :: rest =>
      Submittable taken reading ∧ Clear (recordedAfter taken [reading]) rest

/-- The next `count` identifiers are distinct and not in use. -/
structure Fresh (count : ℕ) (rows : List TelemetryReading) (outside : Outside) : Prop where
  distinct : ∀ left < count, ∀ right < count,
    outside.identifiers left = outside.identifiers right → left = right
  unused : ∀ row ∈ rows, ∀ index < count, row.id ≠ outside.identifiers index

theorem Fresh.fewer {count fewer : ℕ} {rows : List TelemetryReading} {outside : Outside}
    (fresh : Fresh count rows outside) (atMost : fewer ≤ count) : Fresh fewer rows outside where
  distinct left leftBound right rightBound same :=
    fresh.distinct left (leftBound.trans_le atMost) right (rightBound.trans_le atMost) same
  unused row stored index bound := fresh.unused row stored index (bound.trans_le atMost)

/-! ## The condition -/

section Condition

variable {taken other : List NaturalKey} {reading : NormalizedReading}
  {readings : List NormalizedReading}

theorem mem_recordedAfter (key : NaturalKey) :
    key ∈ recordedAfter taken readings ↔
      key ∈ taken ∨ ∃ reading ∈ readings, recorded reading = true ∧ reading.naturalKey = key := by
  induction readings generalizing taken with
  | nil => simp [recordedAfter]
  | cons first rest inductionHypothesis =>
      have unfolded : recordedAfter taken (first :: rest) =
          recordedAfter (if recorded first then first.naturalKey :: taken else taken) rest := rfl
      rw [unfolded, inductionHypothesis]
      simp only [List.mem_cons, exists_eq_or_imp]
      by_cases isRecorded : recorded first = true
      · have swapped : key = first.naturalKey ↔ first.naturalKey = key := eq_comm
        rw [if_pos isRecorded, List.mem_cons, swapped]
        tauto
      · rw [if_neg isRecorded]
        tauto

private theorem mem_recordedAfter_cons (key : NaturalKey) :
    key ∈ recordedAfter taken (reading :: readings) ↔
      key ∈ recordedAfter taken [reading] ∨
        ∃ later ∈ readings, recorded later = true ∧ later.naturalKey = key := by
  have unfolded : recordedAfter taken (reading :: readings) =
      recordedAfter (recordedAfter taken [reading]) readings := rfl
  rw [unfolded, mem_recordedAfter]

private theorem Submittable.congr (same : ∀ key, key ∈ taken ↔ key ∈ other)
    (submittable : Submittable taken reading) : Submittable other reading where
  unavailable := by
    intro marked
    obtain ⟨checked, free⟩ := submittable.unavailable marked
    exact ⟨checked, fun member => free ((same _).mpr member)⟩
  empty := by
    intro available sound unmeasured member
    exact submittable.empty available sound unmeasured ((same _).mpr member)

private theorem Clear.congr (same : ∀ key, key ∈ taken ↔ key ∈ other)
    (clear : Clear taken readings) :
    Clear other readings := by
  induction readings generalizing taken other with
  | nil => trivial
  | cons first rest inductionHypothesis =>
      refine ⟨clear.1.congr same, inductionHypothesis ?_ clear.2⟩
      intro key
      rw [mem_recordedAfter, mem_recordedAfter, same]

private theorem clear_append (later : List NormalizedReading) :
    Clear taken (readings ++ later) ↔
      Clear taken readings ∧ Clear (recordedAfter taken readings) later := by
  induction readings generalizing taken with
  | nil => exact ⟨fun clear => ⟨trivial, clear⟩, And.right⟩
  | cons first rest inductionHypothesis =>
      show Submittable taken first ∧ Clear (recordedAfter taken [first]) (rest ++ later) ↔
        (Submittable taken first ∧ Clear (recordedAfter taken [first]) rest) ∧
          Clear (recordedAfter (recordedAfter taken [first]) rest) later
      rw [inductionHypothesis, and_assoc]

/-- The constraints on the values are those the classifier looks for. -/
theorem satisfiesChecks_of_sound (sound : firstInvalidValue reading = none) :
    satisfiesChecks reading = true := by
  obtain ⟨ordered, magnitudesSound, percentSound⟩ := firstInvalidValue_eq_none_iff.mp sound
  have nonneg : ∀ value : Option ℚ, isNegative value = false →
      nullOrNonneg (value.map numeric4) = true := by
    intro value positive
    cases value with
    | none => rfl
    | some value =>
        have above : 0 ≤ value := by simpa [isNegative] using positive
        exact decide_eq_true (quantize_nonneg halfUp above)
  have percent : nullOrPercent (reading.batterySoc.map numeric2) = true := by
    cases soc : reading.batterySoc with
    | none => rfl
    | some value =>
        rw [soc] at percentSound
        have within : 0 ≤ value ∧ value ≤ 100 := by
          simpa [isOutsidePercent, BATTERY_SOC_MIN, BATTERY_SOC_MAX] using percentSound
        apply decide_eq_true
        exact ⟨quantize_nonneg halfUp within.1,
          quantize_le halfUp (by exact_mod_cast OnGrid.intCast 100) within.2⟩
  simp only [magnitudes, List.mem_cons, List.not_mem_nil, or_false, forall_eq_or_imp,
    forall_eq] at magnitudesSound
  obtain ⟨generation, load, gridImport, gridExport, energy⟩ := magnitudesSound
  simp [satisfiesChecks, TelemetryReading.checks, TelemetryReading.asStored, toModel, ordered,
    nonneg _ generation, nonneg _ load, nonneg _ gridImport, nonneg _ gridExport, nonneg _ energy,
    percent]

end Condition

/-! ## Staged rows and the table -/

section Staged

variable {db : Database} {outside : Outside} {reading : NormalizedReading}
  {evaluatedAt : Instant} {stalenessThreshold : ℤ}

/-- The intervals the table has recorded. -/
def keys (db : Database) : List NaturalKey := db.readings.rows.map TelemetryReading.naturalKey

private theorem insertReading_of_allowed {row : TelemetryReading}
    (check : row.asStored.checks = true)
    (unused : ∀ other ∈ db.readings.rows, other.id ≠ row.id) (free : row.naturalKey ∉ keys db) :
    ∃ next, insertReading row db = .ok next := by
  have apart : ∀ other ∈ db.readings.rows,
      telemetryReadings.conflict other row.asStored = false := by
    intro other stored
    apply decide_eq_false
    rintro (sameId | sameKey)
    · exact unused other stored sameId
    · exact free (sameKey ▸ List.mem_map_of_mem stored)
  obtain ⟨table, accepted⟩ := Table.insert_of_allowed check apart
  unfold insertReading Relation.insert
  have found : (Relations.readings.get db).insert row.asStored = some table := accepted
  rw [found]
  exact ⟨_, rfl⟩

private theorem insertReading_of_refused {row : TelemetryReading}
    (refused : row.asStored.checks = false ∨ row.naturalKey ∈ keys db) :
    insertReading row db = .error (.database ⟨"telemetry_readings"⟩) := by
  have notAllowed : ¬ (telemetryReadings.check row.asStored = true ∧ ∀ other ∈ db.readings.rows,
      telemetryReadings.conflict other row.asStored = false) := by
    rintro ⟨checked, apart⟩
    rcases refused with unchecked | taken
    · exact absurd checked (by rw [show telemetryReadings.check row.asStored = false from unchecked]
                               decide)
    · obtain ⟨other, stored, sameKey⟩ := List.mem_map.mp taken
      exact of_decide_eq_false (apart other stored) (Or.inr sameKey)
  unfold insertReading Relation.insert
  have missing : (Relations.readings.get db).insert row.asStored = none :=
    Table.insert_of_refused notAllowed
  rw [missing]
  rfl

/-- A refused status, in terms of the reading and the recorded intervals. -/
theorem assess_refused_iff :
    (assess evaluatedAt stalenessThreshold db.readings.rows reading).status ∈ NON_STORABLE_STATUSES ↔
      reading.sourceUnavailable = false ∧ (firstInvalidValue reading ≠ none ∨
        (reading.hasAnyMeasurement = true ∧ reading.naturalKey ∈ keys db)) := by
  unfold NON_STORABLE_STATUSES assess
  rw [List.mem_pair, classifyReading_refused_iff]
  dsimp only
  rw [existsForInterval_iff]
  rfl

/-- What is kept out can be submitted, and its interval is recorded if it is one
to record. -/
theorem submittable_of_refused (refused : (assess evaluatedAt stalenessThreshold db.readings.rows
    reading).status ∈ NON_STORABLE_STATUSES) :
    Submittable (keys db) reading ∧ (recorded reading = true → reading.naturalKey ∈ keys db) := by
  obtain ⟨available, cause⟩ := assess_refused_iff.mp refused
  refine ⟨⟨?_, ?_⟩, ?_⟩
  · intro unavailable
    rw [available] at unavailable
    cases unavailable
  · intro _ sound unmeasured
    rcases cause with invalid | ⟨measured, _⟩
    · exact absurd sound invalid
    · rw [measured] at unmeasured
      cases unmeasured
  · intro isRecorded
    rcases cause with invalid | ⟨_, taken⟩
    · simp [recorded, available, invalid] at isRecorded
    · exact taken

/-- What is built is of an unavailable source, or sound, and empty or of a free
interval. -/
theorem sound_of_storable (storable : (assess evaluatedAt stalenessThreshold db.readings.rows
    reading).status ∉ NON_STORABLE_STATUSES) :
    reading.sourceUnavailable = true ∨ (firstInvalidValue reading = none ∧
      (reading.hasAnyMeasurement = false ∨ reading.naturalKey ∉ keys db)) := by
  rw [assess_refused_iff] at storable
  cases available : reading.sourceUnavailable with
  | true => exact Or.inl rfl
  | false =>
      right
      by_contra notSound
      apply storable
      refine ⟨available, ?_⟩
      by_cases sound : firstInvalidValue reading = none
      · right
        constructor
        · by_contra unmeasured
          exact notSound ⟨sound, Or.inl (Bool.eq_false_iff.mpr unmeasured)⟩
        · by_contra free
          exact notSound ⟨sound, Or.inr free⟩
      · exact Or.inl sound

/-- What is built can be submitted where its values pass and its interval is free. -/
theorem submittable_iff_of_storable (storable : (assess evaluatedAt stalenessThreshold
    db.readings.rows reading).status ∉ NON_STORABLE_STATUSES) :
    Submittable (keys db) reading ↔
      satisfiesChecks reading = true ∧ reading.naturalKey ∉ keys db := by
  constructor
  · intro submittable
    rcases sound_of_storable storable with unavailable | ⟨sound, unmeasured | free⟩
    · exact submittable.unavailable unavailable
    · cases available : reading.sourceUnavailable with
      | true => exact submittable.unavailable available
      | false =>
          exact ⟨satisfiesChecks_of_sound sound, submittable.empty available sound unmeasured⟩
    · exact ⟨satisfiesChecks_of_sound sound, free⟩
  · intro passes
    exact ⟨fun _ => passes, fun _ _ _ => passes.2⟩

/-- A row under the next identifier leaves the others fresh. -/
theorem Fresh.insert {count : ℕ} {rows : List TelemetryReading}
    (fresh : Fresh (count + 1) rows outside) {row : TelemetryReading}
    (drawn : row.id = outside.identifiers 0) :
    Fresh count (rows ++ [row]) outside.afterIdentifier where
  distinct left leftBound right rightBound same :=
    Nat.succ_injective (fresh.distinct (left + 1) (by omega) (right + 1) (by omega) same)
  unused := by
    intro other stored index bound
    rcases List.mem_append.mp stored with earlier | isNew
    · exact fresh.unused other earlier (index + 1) (by omega)
    · rw [List.mem_singleton.mp isNew, drawn]
      intro same
      exact absurd (fresh.distinct 0 (by omega) (index + 1) (by omega) same)
        (Nat.succ_ne_zero index).symm

variable (reading evaluatedAt stalenessThreshold) in
/-- One reading: what is staged of it can be inserted exactly where it can be
submitted, and then its interval is recorded. -/
theorem build_insertAll {count : ℕ} (fresh : Fresh (count + 1) db.readings.rows outside) :
    let built := build (assess evaluatedAt stalenessThreshold db.readings.rows reading) reading
      outside
    (Submittable (keys db) reading → ∃ next, insertAll built.1.reading.toList db = .ok next ∧
      Fresh count next.readings.rows built.2 ∧
      ∀ key, key ∈ keys next ↔ key ∈ recordedAfter (keys db) [reading]) ∧
    (¬ Submittable (keys db) reading →
      insertAll built.1.reading.toList db = .error (.database ⟨"telemetry_readings"⟩)) := by
  intro built
  by_cases refused : (assess evaluatedAt stalenessThreshold db.readings.rows reading).status ∈
      NON_STORABLE_STATUSES
  · -- kept out of the table: nothing is inserted, and the interval is recorded already
    obtain ⟨submittable, taken⟩ := submittable_of_refused refused
    have builtEq : built = (⟨_, none⟩, outside) := if_pos refused
    refine ⟨fun _ => ?_, fun absurdity => absurd submittable absurdity⟩
    rw [builtEq]
    refine ⟨db, rfl, fresh.fewer (Nat.le_succ count), ?_⟩
    intro key
    rw [mem_recordedAfter]
    simp only [List.mem_singleton, exists_eq_left]
    constructor
    · exact Or.inl
    · rintro (member | ⟨isRecorded, rfl⟩)
      · exact member
      · exact taken isRecorded
  · -- a row is built: it fits exactly where its interval is free and its values pass
    let row := toModel reading (assess evaluatedAt stalenessThreshold db.readings.rows reading)
      (outside.identifiers 0)
    have builtEq : built = (⟨_, some row⟩, outside.afterIdentifier) := if_neg refused
    have checks : row.asStored.checks = satisfiesChecks reading := rfl
    have single : insertAll (some row).toList db = insertReading row db := by
      show (insertReading row db >>= fun next => pure next) = _
      rw [bind_pure]
    rw [builtEq, single, submittable_iff_of_storable refused]
    constructor
    · rintro ⟨passes, free⟩
      have unused : ∀ other ∈ db.readings.rows, other.id ≠ row.id :=
        fun other stored => fresh.unused other stored 0 (Nat.succ_pos count)
      obtain ⟨next, inserted⟩ := insertReading_of_allowed (checks.trans passes) unused free
      obtain ⟨nextRows, _⟩ := insertReading_ok inserted
      refine ⟨next, inserted, ?_, ?_⟩
      · rw [nextRows]
        exact fresh.insert rfl
      · intro key
        have isRecorded : recorded reading = true := by
          rcases sound_of_storable refused with unavailable | ⟨sound, _⟩
          · simp [recorded, unavailable]
          · simp [recorded, sound]
        rw [keys, nextRows, List.map_append, List.mem_append, mem_recordedAfter]
        simp only [List.map_singleton, List.mem_singleton, exists_eq_left, isRecorded, true_and]
        exact or_congr Iff.rfl eq_comm
    · intro notSubmittable
      apply insertReading_of_refused
      rw [not_and_or, not_not, Bool.not_eq_true] at notSubmittable
      exact notSubmittable

variable (evaluatedAt stalenessThreshold) in
/-- A list of readings: what is staged of it can be inserted exactly where each
can be submitted in turn. -/
theorem stage_insertAll {count : ℕ} (readings : List NormalizedReading)
    (fresh : Fresh (readings.length + count) db.readings.rows outside) :
    let staged := stage evaluatedAt stalenessThreshold db.readings.rows outside readings
    (Clear (keys db) readings → ∃ next, insertAll (storableRows staged.1) db = .ok next ∧
      Fresh count next.readings.rows staged.2 ∧
      ∀ key, key ∈ keys next ↔ key ∈ recordedAfter (keys db) readings) ∧
    (¬ Clear (keys db) readings →
      insertAll (storableRows staged.1) db = .error (.database ⟨"telemetry_readings"⟩)) := by
  induction readings generalizing db outside with
  | nil =>
      have enough : Fresh count db.readings.rows outside := fresh.fewer (by simp)
      exact ⟨fun _ => ⟨db, rfl, enough, fun _ => Iff.rfl⟩, fun unclear => absurd trivial unclear⟩
  | cons reading rest inductionHypothesis =>
      intro staged
      have enough : Fresh (rest.length + count + 1) db.readings.rows outside := by
        apply fresh.fewer
        rw [List.length_cons]
        omega
      let built := build (assess evaluatedAt stalenessThreshold db.readings.rows reading) reading
        outside
      obtain ⟨onSubmittable, onRefusal⟩ := build_insertAll reading evaluatedAt
        stalenessThreshold enough
      have stagedRows : storableRows staged.1 = built.1.reading.toList ++ storableRows
          (stage evaluatedAt stalenessThreshold (db.readings.rows ++ built.1.rows) built.2 rest).1 :=
        storableRows_cons _ _
      rw [stagedRows, insertAll_append]
      by_cases submittable : Submittable (keys db) reading
      · obtain ⟨middle, inserted, middleFresh, middleKeys⟩ := onSubmittable submittable
        have middleRows : middle.readings.rows = db.readings.rows ++ built.1.rows := by
          rw [(insertAll_ok inserted).1, IngestionOutcome.rows_eq]
        obtain ⟨onClear, onUnclear⟩ := inductionHypothesis middleFresh
        rw [middleRows] at onClear onUnclear
        rw [inserted]
        constructor
        · intro clear
          obtain ⟨next, restInserted, nextFresh, nextKeys⟩ :=
            onClear (clear.2.congr fun key => (middleKeys key).symm)
          refine ⟨next, restInserted, nextFresh, ?_⟩
          intro key
          rw [nextKeys, mem_recordedAfter, middleKeys]
          exact (mem_recordedAfter_cons key).symm
        · intro unclear
          apply onUnclear
          intro clear
          exact unclear ⟨submittable, clear.congr middleKeys⟩
      · constructor
        · intro clear
          exact absurd clear.1 submittable
        · intro _
          rw [onRefusal submittable]
          rfl

end Staged

/-! ## Runs of submissions -/

/-- One call of the service. -/
inductive Submission where
  | single (reading : NormalizedReading) (at_ : Option Instant) (stalenessThreshold : ℤ)
  | batch (readings : List NormalizedReading) (at_ : Option Instant) (stalenessThreshold : ℤ)

def Submission.readings : Submission → List NormalizedReading
  | .single reading _ _ => [reading]
  | .batch readings _ _ => readings

def submit : Submission → Call (List IngestionOutcome)
  | .single reading at_ stalenessThreshold => do
      let outcome ← ingestReading reading at_ stalenessThreshold
      pure [outcome]
  | .batch readings at_ stalenessThreshold => do
      let result ← ingestBatch readings at_ stalenessThreshold
      pure result.outcomes

/-- Submissions one after the other, each on its own session. -/
def submitAll : List Submission → Database → Outside →
    List (Except Failure (List IngestionOutcome))
  | [], _, _ => []
  | submission :: rest, db, outside =>
      let (outcome, committed, left) := Work.serve (submit submission) db outside
      outcome :: submitAll rest committed left

/-- The call ended in an `IntegrityError`. -/
def constraintError {α : Type} : Except Failure α → Bool
  | .error (.database _) => true
  | _ => false

theorem Fresh.momentFrom {count : ℕ} {rows : List TelemetryReading} {outside : Outside}
    (fresh : Fresh count rows outside) (at_ : Option Instant) :
    Fresh count rows (momentFrom at_ outside).2 := by
  cases at_ with
  | some moment => exact fresh
  | none => exact ⟨fresh.distinct, fresh.unused⟩

section Runs

variable {db : Database} {outside : Outside}

/-- One submission of known meters and assets: accepted where its readings are
clear, and otherwise refused by a constraint, with nothing stored. -/
theorem submit_clear {count : ℕ} (submission : Submission)
    (fresh : Fresh (submission.readings.length + count) db.readings.rows outside)
    (known : ∀ reading ∈ submission.readings, Known db reading) :
    (Clear (keys db) submission.readings → ∃ outcomes next left,
      Work.serve (submit submission) db outside = (.ok outcomes, next, left) ∧
        Fresh count next.readings.rows left ∧ next.community = db.community ∧
        ∀ key, key ∈ keys next ↔ key ∈ recordedAfter (keys db) submission.readings) ∧
    (¬ Clear (keys db) submission.readings → ∃ left,
      Work.serve (submit submission) db outside =
        (.error (.database ⟨"telemetry_readings"⟩), db, left)) := by
  have settled : Settled (Work.begin_ db outside) := ⟨rfl, rfl⟩
  cases submission with
  | single reading at_ stalenessThreshold =>
      obtain ⟨onInsert, onRefusal⟩ := ingestReading_eq stalenessThreshold settled
         (known reading (List.mem_singleton.mpr rfl)) at_
      obtain ⟨onSubmittable, onUnsubmittable⟩ := build_insertAll reading
        (momentFrom at_ outside).1 stalenessThreshold
        ((fresh.momentFrom at_).fewer (Nat.add_comm 1 count).ge)
      constructor
      · intro clear
        obtain ⟨next, inserted, nextFresh, nextKeys⟩ := onSubmittable clear.1
        have returned : submit (.single reading at_ stalenessThreshold) (Work.begin_ db outside) =
            _ := Work.bind_of_ok (onInsert next inserted)
        exact ⟨_, next, _, Work.serve_of_run returned, nextFresh, (insertAll_ok inserted).2,
          nextKeys⟩
      · intro unclear
        have unsubmittable : ¬ Submittable (keys db) reading :=
          fun submittable => unclear ⟨submittable, trivial⟩
        have raised : submit (.single reading at_ stalenessThreshold) (Work.begin_ db outside) =
            _ := Work.bind_of_error (onRefusal _ (onUnsubmittable unsubmittable))
        exact ⟨_, Work.serve_of_run raised⟩
  | batch readings at_ stalenessThreshold =>
      obtain ⟨onInsert, onRefusal⟩ := ingestBatch_eq stalenessThreshold settled at_ known
      obtain ⟨onClear, onUnclear⟩ := stage_insertAll (momentFrom at_ outside).1
        stalenessThreshold readings (fresh.momentFrom at_)
      constructor
      · intro clear
        obtain ⟨next, inserted, nextFresh, nextKeys⟩ := onClear clear
        have returned : submit (.batch readings at_ stalenessThreshold) (Work.begin_ db outside) =
            _ := Work.bind_of_ok (onInsert next inserted)
        exact ⟨_, next, _, Work.serve_of_run returned, nextFresh, (insertAll_ok inserted).2,
          nextKeys⟩
      · intro unclear
        obtain ⟨executed, refused⟩ := onRefusal _ (onUnclear unclear)
        have raised : submit (.batch readings at_ stalenessThreshold) (Work.begin_ db outside) =
            _ := Work.bind_of_error refused
        exact ⟨_, Work.serve_of_run raised⟩

end Runs

/-- No submission of a run ends in a constraint error exactly where each reading
in turn can be submitted: a marker of an unavailable source carries values that
pass the CHECKs, and neither it nor an empty reading names an interval already
recorded. -/
theorem submitAll_constraintError_iff (submissions : List Submission) (db : Database)
    (outside : Outside)
    (fresh : Fresh (submissions.flatMap Submission.readings).length db.readings.rows outside)
    (known : ∀ submission ∈ submissions, ∀ reading ∈ submission.readings, Known db reading) :
    (∀ outcome ∈ submitAll submissions db outside, constraintError outcome = false) ↔
      Clear (keys db) (submissions.flatMap Submission.readings) := by
  induction submissions generalizing db outside with
  | nil => exact ⟨fun _ => trivial, fun _ _ absurdity => by cases absurdity⟩
  | cons submission rest inductionHypothesis =>
      rw [List.flatMap_cons, List.length_append] at fresh
      obtain ⟨onClear, onUnclear⟩ := submit_clear submission fresh
        fun reading member => known submission List.mem_cons_self reading member
      rw [List.flatMap_cons, clear_append]
      by_cases clear : Clear (keys db) submission.readings
      · obtain ⟨outcomes, next, left, served, nextFresh, community, nextKeys⟩ := onClear clear
        have restKnown : ∀ later ∈ rest, ∀ reading ∈ later.readings, Known next reading :=
          fun later member reading isReading =>
            (known later (List.mem_cons_of_mem _ member) reading isReading).of_community community
        have unfolded : submitAll (submission :: rest) db outside =
            .ok outcomes :: submitAll rest next left := by
          rw [submitAll, served]
        rw [unfolded, List.forall_mem_cons, inductionHypothesis next left nextFresh restKnown]
        constructor
        · rintro ⟨_, restClear⟩
          exact ⟨clear, restClear.congr nextKeys⟩
        · rintro ⟨_, restClear⟩
          exact ⟨rfl, restClear.congr fun key => (nextKeys key).symm⟩
      · obtain ⟨left, served⟩ := onUnclear clear
        have unfolded : submitAll (submission :: rest) db outside =
            .error (.database ⟨"telemetry_readings"⟩) :: submitAll rest db left := by
          rw [submitAll, served]
        rw [unfolded, List.forall_mem_cons]
        constructor
        · rintro ⟨noError, _⟩
          cases noError
        · rintro ⟨absurdity, _⟩
          exact absurd absurdity clear

/-- A source that was polled and has nothing to give. -/
def sampleMarker : NormalizedReading :=
  { sampleReading with energyKwh := none, sourceUnavailable := true }

theorem submitAll_constraintError_sample :
    (submitAll [.single sampleMarker (some 0) DEFAULT_STALENESS_THRESHOLD,
      .batch [sampleReading, sampleReading] none DEFAULT_STALENESS_THRESHOLD] sampleDatabase
        sampleOutside).any constraintError = false := by
  have known : Known sampleDatabase sampleReading := ⟨by decide, by simp [sampleReading]⟩
  have marker : Known sampleDatabase sampleMarker := ⟨by decide, by simp [sampleMarker, sampleReading]⟩
  have measured : ∀ taken, Submittable taken sampleReading := by
    intro taken
    constructor
    · intro unavailable
      cases unavailable
    · intro _ _ unmeasured
      cases unmeasured
  rw [List.any_eq_false]
  suffices noError : ∀ outcome ∈ submitAll [.single sampleMarker (some 0)
      DEFAULT_STALENESS_THRESHOLD, .batch [sampleReading, sampleReading] none
        DEFAULT_STALENESS_THRESHOLD] sampleDatabase sampleOutside,
          constraintError outcome = false by
    intro outcome member
    rw [noError outcome member]
    decide
  apply (submitAll_constraintError_iff _ sampleDatabase sampleOutside ?_ ?_).mpr
  · refine ⟨⟨fun _ => ⟨by decide +kernel, List.not_mem_nil⟩, ?_⟩, measured _, measured _, trivial⟩
    intro absurdity
    cases absurdity
  · constructor
    · decide
    · intro row absurdity
      cases absurdity
  · intro submission member reading isReading
    simp only [List.mem_cons, List.not_mem_nil, or_false] at member
    rcases member with rfl | rfl
    · rw [List.mem_singleton.mp isReading]
      exact marker
    · have either : reading = sampleReading := by simpa [Submission.readings] using isReading
      rw [either]
      exact known

/-- The same source polled twice in one interval. -/
theorem repeatedMarker_refused :
    ((submitAll [.single sampleMarker (some 0) DEFAULT_STALENESS_THRESHOLD,
      .single sampleMarker (some 0) DEFAULT_STALENESS_THRESHOLD] sampleDatabase
        sampleOutside).map constraintError) = [false, true] := by
  decide +kernel

end UrjaSetu.Services.TelemetryService
