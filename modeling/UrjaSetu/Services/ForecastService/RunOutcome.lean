import UrjaSetu.Services.ForecastService

/-!
In which state `run_forecast` leaves the run it created.

The run is committed before the provider is asked. What the provider raises and
what the checks refuse is recorded on it; what the database refuses of an accepted
result, or of the record of a failure, is not.

Owns: the values that a run can be concluded with, and that exactly then it is.
-/

namespace UrjaSetu.Services.ForecastService

open UrjaSetu.Core UrjaSetu.Domain UrjaSetu.Domain.Interfaces UrjaSetu.Db UrjaSetu.Library
open UrjaSetu.Library.Rounding

/-! ## Values a run can be concluded with -/

/-- The columns take the numbers, and the bounds are ordered as they are stored. -/
def StorablePoint (point : ForecastPoint) : Prop :=
  storableNumbers point = true ∧ ∀ lower ∈ point.lowerBound, ∀ upper ∈ point.upperBound,
    Models.numeric4 lower ≤ Models.numeric4 upper

/-- The reason as `_mark_failed` shortens it is a text the database takes. -/
def RecordableReason (reason : String) : Prop := Char.ofNat 0 ∉ reason.toList.take 500

/-- A result that is accepted is stored as it is; one that is not, or an exception,
is a reason that can be written down. -/
def Recordable (request : ForecastRequest) : Except ProviderException ForecastResult → Prop
  | .ok result => Accepted result request →
      (∀ point ∈ result.points, StorablePoint point) ∧ storableText 64 result.modelVersion = true
  | .error (.providerError _) => True
  | .error (.other className text) => RecordableReason (className ++ ": " ++ text)

/-! ## The statements -/

variable {db next : Database} {runId siteId : UUID} {point : ForecastPoint}

/-- The rows of the runs after an UPDATE of one of them. -/
def UpdatedRun (db next : Database) (runId : UUID)
    (change : Models.ForecastRun → Models.ForecastRun) : Prop :=
  ∃ table : Table Models.forecastRuns, next = { db with forecastRuns := table } ∧
    table.rows = db.forecastRuns.rows.map fun run => if run.id = runId then change run else run

section Update

variable {change : Models.ForecastRun → Models.ForecastRun}
  (keeps : ∀ run, (change run).id = run.id ∧ (change run).horizonStart = run.horizonStart ∧
    (change run).horizonEnd = run.horizonEnd)
include keeps

/-- An UPDATE that keeps the key and the horizon succeeds where its texts fit. -/
theorem updateRun_of_storable
    (fits : ∀ run ∈ db.forecastRuns.rows, run.id = runId → storableTexts (change run) = true) :
    ∃ next, updateRun runId change db = .ok next ∧ UpdatedRun db next runId change := by
  have passes : (db.forecastRuns.rows.all fun run =>
      run.id != runId || storableTexts (change run)) = true := by
    rw [List.all_eq_true]
    intro run stored
    rcases eq_or_ne run.id runId with isRun | other
    · simp [fits run stored isRun]
    · simp [other]
  obtain ⟨table, updated⟩ := @Table.modify_of_unconstrained _ _ db.forecastRuns
    (fun run => run.id = runId) change
    (fun run => by simp [Models.forecastRuns, (keeps run).2.1, (keeps run).2.2])
    (fun earlier later => by simp [Models.forecastRuns, (keeps earlier).1])
    (fun earlier later => by simp [Models.forecastRuns, (keeps later).1])
  refine ⟨{ db with forecastRuns := table }, ?_, table, rfl, ?_⟩
  · unfold updateRun
    rw [if_pos passes]
    exact Relation.modify_of_some (show (Relations.forecastRuns.get db).modify _ _ = _ from updated)
  · simpa using Table.modify_eq_some updated

omit keeps in
private theorem updateRun_of_unstorable {run : Models.ForecastRun}
    (stored : run ∈ db.forecastRuns.rows)
    (refused : storableTexts (change run) = false) :
    updateRun run.id change db = .error dataError := by
  unfold updateRun
  rw [if_neg]
  intro passes
  have fits := List.all_eq_true.mp passes run stored
  simp [refused] at fits

end Update

/-- What the INSERT of an accepted point takes. -/
theorem insertPoint_of_storable (ordered : point.intervalStart < point.intervalEnd)
    (probable : ∀ confidence ∈ point.confidence, 0 ≤ confidence ∧ confidence ≤ 1)
    (fresh : ∀ row ∈ db.forecastPoints.rows, row.forecastRunId = runId →
      row.intervalStart ≠ point.intervalStart)
    (storable : StorablePoint point) :
    ∃ table : Table Models.forecastPoints,
      insertPoint runId siteId point db = .ok { db with forecastPoints := table } ∧
      table.rows = db.forecastPoints.rows ++ [storedPoint runId siteId point] := by
  obtain ⟨numbers, bounds⟩ := storable
  have check : Models.forecastPoints.check (storedPoint runId siteId point) = true := by
    simp only [Models.forecastPoints, storedPoint, Bool.and_eq_true, decide_eq_true_eq]
    refine ⟨⟨ordered, ?_⟩, ?_⟩
    · cases given : point.confidence with
      | none => rfl
      | some confidence =>
          obtain ⟨nonneg, atMostOne⟩ := probable confidence given
          simp only [Option.map_some, decide_eq_true_eq]
          exact ⟨quantize_nonneg _ nonneg, quantize_le _ (OnGrid.intCast 1) (by simpa using atMostOne)⟩
    · cases lower : point.lowerBound with
      | none => rfl
      | some low =>
          cases upper : point.upperBound with
          | none => rfl
          | some high => simpa using bounds low lower high upper
  obtain ⟨table, inserted⟩ := @Table.insert_of_allowed _ _ db.forecastPoints
    (storedPoint runId siteId point) check (by
      intro row stored
      simp only [Models.forecastPoints, storedPoint, decide_eq_false_iff_not]
      rintro ⟨sameRun, _, sameStart⟩
      exact fresh row stored sameRun sameStart)
  refine ⟨table, ?_, (Table.insert_eq_some inserted).1⟩
  unfold insertPoint
  rw [if_pos numbers]
  exact Relation.insert_of_some (show (Relations.forecastPoints.get db).insert _ = _ from inserted)

private theorem storable_of_insertPoint (inserted : insertPoint runId siteId point db = .ok next) :
    StorablePoint point := by
  unfold insertPoint at inserted
  split at inserted
  · rename_i numbers
    obtain ⟨table, accepted, _⟩ := Relation.insert_ok inserted
    have check := (Table.insert_eq_some accepted).2.1
    simp only [Models.forecastPoints, storedPoint, Bool.and_eq_true, decide_eq_true_eq] at check
    refine ⟨numbers, fun low lower high upper => ?_⟩
    have bounds := check.2
    rw [lower, upper] at bounds
    simpa using bounds
  · cases inserted

/-- The points of an accepted result are stored one after the other. -/
theorem insertPoints_of_storable {points : List ForecastPoint}
    (ordered : ∀ point ∈ points, point.intervalStart < point.intervalEnd)
    (distinct : (points.map ForecastPoint.intervalStart).Nodup)
    (probable : ∀ point ∈ points, ∀ confidence ∈ point.confidence, 0 ≤ confidence ∧ confidence ≤ 1)
    (fresh : ∀ row ∈ db.forecastPoints.rows, row.forecastRunId = runId →
      ∀ point ∈ points, row.intervalStart ≠ point.intervalStart)
    (storable : ∀ point ∈ points, StorablePoint point) :
    ∃ table : Table Models.forecastPoints,
      points.foldlM (fun db point => insertPoint runId siteId point db) db =
        .ok { db with forecastPoints := table } ∧
      table.rows = db.forecastPoints.rows ++ points.map (storedPoint runId siteId) := by
  induction points generalizing db with
  | nil => exact ⟨db.forecastPoints, rfl, by simp⟩
  | cons point rest inductionHypothesis =>
      obtain ⟨newStart, restDistinct⟩ := List.nodup_cons.mp distinct
      obtain ⟨table, inserted, rows⟩ := @insertPoint_of_storable db runId siteId point
        (ordered point (by simp)) (probable point (by simp))
        (fun row stored sameRun => fresh row stored sameRun point (by simp))
        (storable point (by simp))
      obtain ⟨final, reached, finalRows⟩ :=
        @inductionHypothesis { db with forecastPoints := table }
          (fun other member => ordered other (List.mem_cons_of_mem _ member)) restDistinct
          (fun other member => probable other (List.mem_cons_of_mem _ member))
          (by
            intro row stored sameRun other member same
            rcases List.mem_append.mp (rows ▸ stored) with earlier | isPoint
            · exact fresh row earlier sameRun other (List.mem_cons_of_mem _ member) same
            · rw [List.mem_singleton.mp isPoint] at same
              exact newStart (List.mem_map.mpr ⟨other, member, same.symm⟩))
          (fun other member => storable other (List.mem_cons_of_mem _ member))
      refine ⟨final, ?_, ?_⟩
      · rw [List.foldlM_cons, inserted, ok_bind]
        exact reached
      · rw [finalRows, rows, List.append_assoc, List.map_cons, List.singleton_append]

private theorem storable_of_insertPoints {points : List ForecastPoint}
    (inserted : points.foldlM (fun db point => insertPoint runId siteId point db) db = .ok next) :
    ∀ point ∈ points, StorablePoint point := by
  apply holds_of_foldlM (fun visited _ => ∀ point ∈ visited, StorablePoint point) (by simp) ?_
    inserted
  intro visited item accumulated following known executed point member
  rcases List.mem_append.mp member with earlier | last
  · exact known point earlier
  · rw [List.mem_singleton.mp last]
    exact storable_of_insertPoint executed

/-! ## The programs -/

variable {unit : Session} {run : Models.ForecastRun} {result : ForecastResult}
  {request : ForecastRequest} {provider : ForecastProvider}

/-- One UPDATE and the commit it is flushed by. -/
theorem ensures_addCommit {statement : Database → Except Failure Database}
    {returns : Unit → Session → Prop} {raises : Failure → Session → Prop}
    (flushed : unit.pending = [])
    (executed : ∀ next, statement unit.working = .ok next →
      returns () { unit with committed := next, working := next })
    (refused : ∀ error after, statement unit.working = .error error →
      after.committed = unit.committed → raises error after) :
    Work.Ensures (Work.add statement >>= fun _ => Work.commit) unit returns raises := by
  rcases unit with ⟨committed, working, pending, autoflush, outside⟩
  cases flushed
  rw [Work.ensures_bind, Work.ensures_add]
  unfold Work.Ensures Work.commit Work.flush
  simp only [List.nil_append, List.foldlM_cons, List.foldlM_nil]
  cases outcome : statement working with
  | ok next =>
      simp only [ok_bind, except_pure]
      exact executed next outcome
  | error error =>
      simp only [error_bind]
      exact refused error _ outcome rfl

/-- The unit of work once the run is committed: nothing is pending, and the run is
there without points. -/
structure Opened (unit : Session) (run : Models.ForecastRun) : Prop where
  flushed : unit.pending = []
  published : unit.committed = unit.working
  stored : run ∈ unit.working.forecastRuns.rows
  running : run.status = .running
  unexplained : run.error = none
  texts : storableText 64 run.provider = true ∧ storableText 64 run.modelVersion = true
  pointless : ∀ row ∈ unit.working.forecastPoints.rows, row.forecastRunId ≠ run.id

/-- The run is failed, and no point of it is stored. -/
def FailedRun (db : Database) (runId : UUID) : Prop :=
  (∀ run ∈ db.forecastRuns.rows, run.id = runId → run.status = .failed) ∧
    ∀ row ∈ db.forecastPoints.rows, row.forecastRunId ≠ runId

/-- The run is completed, and the points stored of it are those of the result. -/
def CompletedRun (db : Database) (runId siteId : UUID) (result : ForecastResult) : Prop :=
  (∀ run ∈ db.forecastRuns.rows, run.id = runId → run.status = .completed) ∧
    (db.forecastPoints.where_ fun row => row.forecastRunId = runId) =
      result.points.map (storedPoint runId siteId)

/-- The UPDATE that concludes the run, and its commit, on what has been executed
since the run was committed. -/
theorem concludes_ensures {change : Models.ForecastRun → Models.ForecastRun}
    {status : ForecastRunStatus}
    (keeps : ∀ run, (change run).id = run.id ∧ (change run).horizonStart = run.horizonStart ∧
      (change run).horizonEnd = run.horizonEnd)
    (concludes : ∀ run, (change run).status = status) (flushed : unit.pending = [])
    (stored : run ∈ unit.working.forecastRuns.rows) :
    Work.Ensures (Work.add (updateRun run.id change) >>= fun _ => Work.commit) unit
      (fun _ after => storableTexts (change run) = true ∧
        after.committed.forecastPoints = unit.working.forecastPoints ∧
        ∀ row ∈ after.committed.forecastRuns.rows, row.id = run.id → row.status = status)
      (fun _ after => storableTexts (change run) = false ∧ after.committed = unit.committed) := by
  have unique : ∀ other ∈ unit.working.forecastRuns.rows, other.id = run.id → other = run :=
    fun other member same => Table.eq_of_column Models.ForecastRun.id
      (fun earlier later same => by simp [Models.forecastRuns, same]) member stored same
  cases texts : storableTexts (change run) with
  | false =>
      have refused := updateRun_of_unstorable stored texts
      apply ensures_addCommit flushed
      · intro next executed
        rw [executed] at refused
        cases refused
      · exact fun error after _ unchanged => ⟨rfl, unchanged⟩
  | true =>
      obtain ⟨updated, executed, table, isUpdated, rows⟩ :=
        @updateRun_of_storable unit.working run.id change keeps fun other member same =>
          unique other member same ▸ texts
      apply ensures_addCommit flushed
      · intro next also
        rw [executed] at also
        cases also
        rw [isUpdated]
        refine ⟨rfl, rfl, ?_⟩
        intro row member same
        obtain ⟨before, _, rfl⟩ := List.mem_map.mp (rows ▸ member)
        split at same
        · rename_i isRun
          rw [if_pos isRun]
          exact concludes before
        · rename_i notRun
          exact absurd same notRun
      · intro error after refused _
        rw [executed] at refused
        cases refused

private theorem storableTexts_failedFor (opened : Opened unit run) (reason : String) :
    storableTexts (failedFor reason run) = true ↔ RecordableReason reason := by
  have reasons : storableText 500 (String.ofList (reason.toList.take 500)) = true ↔
      RecordableReason reason := by
    simp [storableText, RecordableReason]
  simp [storableTexts, failedFor, opened.texts, reasons]

/-- A reason without a NUL is written down; any other leaves the run running. -/
theorem markFailed_ensures (opened : Opened unit run) (reason : String) :
    Work.Ensures (markFailed run.id reason) unit
      (fun _ after => RecordableReason reason ∧ FailedRun after.committed run.id)
      (fun _ after => ¬ RecordableReason reason ∧ after.committed = unit.committed) := by
  have concluded := @concludes_ensures unit run (failedFor reason) .failed (fun run => ⟨rfl, rfl, rfl⟩)
    (fun run => rfl) opened.flushed opened.stored
  apply concluded.mono
  · rintro _ after ⟨texts, points, failed⟩
    refine ⟨(storableTexts_failedFor opened reason).mp texts, failed, ?_⟩
    rw [points]
    exact opened.pointless
  · rintro error after ⟨texts, unchanged⟩
    refine ⟨fun recordable => ?_, unchanged⟩
    rw [(storableTexts_failedFor opened reason).mpr recordable] at texts
    cases texts

/-- The points, the UPDATE of the run and the commit, after the points. -/
theorem completes_ensures {table : Table Models.forecastPoints} (opened : Opened unit run)
    (rows : table.rows = unit.working.forecastPoints.rows ++
      result.points.map (storedPoint run.id siteId)) :
    Work.Ensures (Work.add (updateRun run.id (completedAt result.modelVersion)) >>=
        fun _ => Work.commit)
      { unit with working := { unit.working with forecastPoints := table } }
      (fun _ after => storableText 64 result.modelVersion = true ∧
        CompletedRun after.committed run.id siteId result)
      (fun _ after => storableText 64 result.modelVersion = false ∧
        after.committed = unit.committed) := by
  have concluded := @concludes_ensures
    { unit with working := { unit.working with forecastPoints := table } } run
    (completedAt result.modelVersion) .completed (fun run => ⟨rfl, rfl, rfl⟩) (fun run => rfl)
    opened.flushed opened.stored
  have texts : storableTexts (completedAt result.modelVersion run) =
      storableText 64 result.modelVersion := by
    simp [storableTexts, completedAt, opened.texts, opened.unexplained]
  rw [texts] at concluded
  apply concluded.mono
  · rintro _ after ⟨fits, points, completed⟩
    refine ⟨fits, completed, ?_⟩
    have noneBefore : unit.working.forecastPoints.rows.filter
        (fun row => decide (row.forecastRunId = run.id)) = [] := by
      rw [List.filter_eq_nil_iff]
      intro row stored
      simpa using opened.pointless row stored
    have allOfResult : (result.points.map (storedPoint run.id siteId)).filter
        (fun row => decide (row.forecastRunId = run.id)) =
        result.points.map (storedPoint run.id siteId) := by
      rw [List.filter_eq_self]
      intro row stored
      obtain ⟨point, _, rfl⟩ := List.mem_map.mp stored
      exact decide_eq_true rfl
    rw [points, Table.where_, rows, List.filter_append, noneBefore, allOfResult, List.nil_append]
  · exact fun error after refused => refused

/-- An accepted result that the columns take is stored; any other leaves the run
running. -/
theorem storeResult_ensures (opened : Opened unit run) (accepted : Accepted result request) :
    Work.Ensures (storeResult run siteId result) unit
      (fun _ after => ((∀ point ∈ result.points, StorablePoint point) ∧
        storableText 64 result.modelVersion = true) ∧
        CompletedRun after.committed run.id siteId result)
      (fun _ after => ¬ ((∀ point ∈ result.points, StorablePoint point) ∧
        storableText 64 result.modelVersion = true) ∧ after.committed = unit.committed) := by
  obtain ⟨whole, part⟩ := Work.forItems_execute (insertPoint run.id siteId) result.points unit
  have stores := @insertPoints_of_storable unit.working run.id siteId result.points
    accepted.ordered accepted.distinct accepted.probable
    (fun row member same => absurd same (opened.pointless row member))
  unfold storeResult
  rw [Work.ensures_bind]
  cases inserted : result.points.foldlM (fun db point => insertPoint run.id siteId point db)
      unit.working with
  | error error =>
      obtain ⟨executed, ran⟩ := part error inserted
      unfold Work.Ensures
      rw [ran]
      refine ⟨?_, rfl⟩
      rintro ⟨storable, _⟩
      obtain ⟨table, stored, _⟩ := stores storable
      rw [inserted] at stored
      cases stored
  | ok next =>
      have storable := storable_of_insertPoints inserted
      obtain ⟨table, stored, rows⟩ := stores storable
      rw [inserted] at stored
      cases stored
      have completes := completes_ensures opened rows
      unfold Work.Ensures
      rw [whole _ inserted]
      rw [Work.ensures_bind, Work.ensures_add] at completes
      show Work.Ensures (Work.commit >>= fun _ =>
        (pure (completedAt result.modelVersion run) : Call Models.ForecastRun)) _ _ _
      rw [Work.ensures_bind]
      apply completes.mono
      · rintro _ after ⟨fits, completed⟩
        exact (Work.ensures_pure _).mpr ⟨⟨storable, fits⟩, completed⟩
      · rintro error after ⟨refused, unchanged⟩
        refine ⟨?_, unchanged⟩
        rintro ⟨_, fits⟩
        rw [refused] at fits
        cases fits

/-- The run as the provider's answer leaves it. -/
def Concluded (provider : ForecastProvider) (request : ForecastRequest) (db : Database)
    (runId : UUID) : Except Failure Models.ForecastRun → Prop
  | .ok _ => ∃ result, provider.predict request = .ok result ∧
      CompletedRun db runId request.siteId result
  | .error _ => FailedRun db runId

/-- What is recorded of an answer is the answer, or else the run is still running. -/
theorem concludeRun_ensures (opened : Opened unit run) :
    Work.Ensures (concludeRun provider run request) unit
      (fun _ after => Recordable request (provider.predict request) ∧
        ∃ result, provider.predict request = .ok result ∧
          CompletedRun after.committed run.id request.siteId result)
      (fun _ after => (Recordable request (provider.predict request) ∧
          FailedRun after.committed run.id) ∨
        ¬ Recordable request (provider.predict request) ∧ after.committed = unit.committed) := by
  have invalid : RecordableReason "provider returned an invalid result" := by
    unfold RecordableReason
    decide +kernel
  have marks : ∀ (reason : String) (raised : Failure),
      Work.Ensures (markFailed run.id reason >>= fun _ =>
          (Work.raise raised : Call Models.ForecastRun)) unit
        (fun _ _ => False)
        (fun _ after => (RecordableReason reason ∧ FailedRun after.committed run.id) ∨
          ¬ RecordableReason reason ∧ after.committed = unit.committed) := by
    intro reason raised
    rw [Work.ensures_bind]
    apply (markFailed_ensures opened reason).mono
    · exact fun _ after recorded => (Work.ensures_raise _).mpr (Or.inl recorded)
    · exact fun _ after refused => Or.inr refused
  unfold concludeRun
  cases answered : provider.predict request with
  | error exception =>
      cases exception with
      | providerError error =>
          apply (marks "provider returned an invalid result" (.domain error)).mono
          · exact fun _ _ absurdity => absurdity.elim
          · rintro _ after (⟨_, failed⟩ | ⟨refused, _⟩)
            · exact Or.inl ⟨trivial, failed⟩
            · exact absurd invalid refused
      | other className text =>
          apply (marks (className ++ ": " ++ text) (.domain (forecastProviderError
            ("Provider " ++ quoted provider.name ++ " failed to produce a forecast.")
            [("provider", .text provider.name), ("reason", .text className)]))).mono
          · exact fun _ _ absurdity => absurdity.elim
          · exact fun _ after recorded => recorded
  | ok result =>
      dsimp only
      cases checked : validateResult result request provider with
      | error error =>
          have notAccepted : ¬ Accepted result request := by
            intro accepted
            rw [validateResult_eq_ok.mpr accepted] at checked
            cases checked
          apply (marks "provider returned an invalid result" (.domain error)).mono
          · exact fun _ _ absurdity => absurdity.elim
          · rintro _ after (⟨_, failed⟩ | ⟨refused, _⟩)
            · exact Or.inl ⟨fun accepted => absurd accepted notAccepted, failed⟩
            · exact absurd invalid refused
      | ok passed =>
          have accepted := validateResult_eq_ok.mp checked
          apply (storeResult_ensures opened accepted).mono
          · exact fun _ after ⟨storable, completed⟩ => ⟨fun _ => storable, result, rfl, completed⟩
          · rintro _ after ⟨refused, unchanged⟩
            exact Or.inr ⟨fun recordable => refused (recordable accepted), unchanged⟩

/-! ## Opening a run -/

/-- A run is written for a known site and a proper horizon, by a provider that
produces such forecasts and has storable names. -/
def Started (provider : ForecastProvider) (db : Database) (siteId : UUID)
    (forecastType : ForecastType) (horizonStart horizonEnd : Instant) (interval : ℤ) : Prop :=
  (∃ site ∈ db.community.sites, site.id = siteId) ∧ horizonStart < horizonEnd ∧ 0 < interval ∧
    provider.supports forecastType = true ∧ storableText 64 provider.name = true ∧
    storableText 64 provider.modelVersion = true

/-- No run has the identifier, and no point refers to it. -/
def FreshRun (db : Database) (runId : UUID) : Prop :=
  (∀ run ∈ db.forecastRuns.rows, run.id ≠ runId) ∧
    ∀ row ∈ db.forecastPoints.rows, row.forecastRunId ≠ runId

/-- The INSERT of the run is refused where its texts do not fit, and only there. -/
theorem writeRun_ensures {forecastType : ForecastType} {horizonStart horizonEnd : Instant}
    (at_ : Option Instant) (ordered : horizonStart < horizonEnd)
    (fresh : FreshRun unit.working (unit.outside.identifiers 0)) (flushed : unit.pending = []) :
    Work.Ensures (writeRun provider forecastType horizonStart horizonEnd at_) unit
      (fun run after => (storableText 64 provider.name = true ∧
          storableText 64 provider.modelVersion = true) ∧
        run.id = unit.outside.identifiers 0 ∧ Opened after run ∧
        ∃ table, after.working = { unit.working with forecastRuns := table })
      (fun _ after => ¬ (storableText 64 provider.name = true ∧
          storableText 64 provider.modelVersion = true) ∧
        after.committed = unit.committed) := by
  have texts : ∀ createdAt runId, storableTexts
      (runningRun provider forecastType horizonStart horizonEnd createdAt runId) = true ↔
        storableText 64 provider.name = true ∧ storableText 64 provider.modelVersion = true := by
    intro createdAt runId
    simp [storableTexts, runningRun]
  have writes : ∀ (createdAt : Instant) (outside : Outside),
      outside.identifiers 0 = unit.outside.identifiers 0 → Work.Ensures (do
        let runId ← uuid4
        let run := runningRun provider forecastType horizonStart horizonEnd createdAt runId
        Work.execute (insertRun run)
        Work.commit
        pure run) { unit with outside := outside }
      (fun run after => (storableText 64 provider.name = true ∧
          storableText 64 provider.modelVersion = true) ∧
        run.id = unit.outside.identifiers 0 ∧ Opened after run ∧
        ∃ table, after.working = { unit.working with forecastRuns := table })
      (fun _ after => ¬ (storableText 64 provider.name = true ∧
          storableText 64 provider.modelVersion = true) ∧
        after.committed = unit.committed) := by
    intro createdAt outside sameOutside
    simp only [uuid4, Work.ensures_bind, Work.ensures_draw, Work.ensures_execute]
    constructor
    · intro next executed
      unfold insertRun at executed
      split at executed
      · rename_i fit
        obtain ⟨table, inserted, rfl⟩ := Relation.insert_ok executed
        have rows := (Table.insert_eq_some inserted).1
        refine (Work.ensures_commit_of_flushed (by exact flushed)).mpr ?_
        rw [Work.ensures_pure]
        refine ⟨(texts _ _).mp fit, sameOutside, ?_, table, rfl⟩
        exact
          { flushed := flushed
            published := rfl
            stored := rows ▸ List.mem_append_right _ (List.mem_singleton_self _)
            running := rfl
            unexplained := rfl
            texts := (texts _ _).mp fit
            pointless := fun row stored => sameOutside ▸ fresh.2 row stored }
      · cases executed
    · intro error refused
      refine ⟨fun fit => ?_, trivial⟩
      obtain ⟨table, inserted⟩ := @Table.insert_of_allowed _ _ unit.working.forecastRuns
        (runningRun provider forecastType horizonStart horizonEnd createdAt (outside.identifiers 0))
        (decide_eq_true ordered) (by
          intro other stored
          simpa [Models.forecastRuns, runningRun, sameOutside] using fresh.1 other stored)
      unfold insertRun at refused
      rw [if_pos ((texts _ _).mpr fit), Relation.insert_of_some
        (show (Relations.forecastRuns.get _).insert _ = _ from inserted)] at refused
      cases refused
  unfold writeRun TelemetryService.momentOf
  cases at_ with
  | some moment => exact writes moment unit.outside rfl
  | none => exact writes (unit.outside.moments 0) unit.outside.afterMoment rfl

/-- What is checked before the run is written. -/
theorem openRun_ensures (provider : ForecastProvider) (siteId : UUID) (forecastType : ForecastType)
    (horizonStart horizonEnd : Instant) (interval : ℤ) (at_ : Option Instant) (db : Database)
    (outside : Outside) (fresh : FreshRun db (outside.identifiers 0)) :
    Work.Ensures (openRun provider siteId forecastType horizonStart horizonEnd interval at_)
      (Work.begin_ db outside)
      (fun run after => Started provider db siteId forecastType horizonStart horizonEnd interval ∧
        run.id = outside.identifiers 0 ∧ Opened after run ∧
        ∃ table, after.working = { db with forecastRuns := table })
      (fun _ after =>
        ¬ Started provider db siteId forecastType horizonStart horizonEnd interval ∧
        after.committed = db) := by
  have known : (db.community.sites.any fun site => decide (site.id = siteId)) = true ↔
      ∃ site ∈ db.community.sites, site.id = siteId := by
    simp
  simp only [openRun, requireSite, TelemetryService.requireSite, Work.ensures_bind,
    Work.ensures_read]
  show Work.Ensures (if (db.community.sites.any fun site => decide (site.id = siteId)) = true
    then pure () else _) _ _ _
  split
  · rename_i isKnown
    rw [Work.ensures_pure, Work.ensures_lift]
    unfold validateHorizon
    split_ifs with reversed stepless
    · constructor
      · intro value impossible
        cases impossible
      · exact fun _ _ => ⟨fun started => reversed.not_gt started.2.1, rfl⟩
    · constructor
      · intro value impossible
        cases impossible
      · exact fun _ _ => ⟨fun started => stepless.not_gt started.2.2.1, rfl⟩
    · constructor
      · intro _ _
        unfold requireSupported
        split
        · rename_i supported
          rw [Work.ensures_pure]
          apply (writeRun_ensures at_ (not_le.mp reversed) fresh rfl).mono
          · rintro run after ⟨texts, isNew, opened, table, same⟩
            exact ⟨⟨known.mp isKnown, not_le.mp reversed, not_le.mp stepless, supported, texts⟩,
              isNew, opened, table, same⟩
          · rintro error after ⟨refused, unchanged⟩
            exact ⟨fun started => refused started.2.2.2.2, unchanged⟩
        · rename_i unsupported
          exact ⟨fun started => unsupported started.2.2.2.1, rfl⟩
      · intro error impossible
        cases impossible
  · rename_i unknown
    exact ⟨fun started => unknown (known.mpr started.1), rfl⟩

/-! ## Whole runs -/

/-- What `run_forecast` asks its provider. -/
def requestOf (db : Database) (siteId : UUID) (forecastType : ForecastType)
    (horizonStart horizonEnd : Instant) (interval historyWindow : ℤ) : ForecastRequest where
  siteId := siteId
  forecastType := forecastType
  horizonStart := horizonStart
  horizonEnd := horizonEnd
  interval := interval
  history := history db siteId horizonStart historyWindow

/-- How a whole run ends. -/
theorem runForecast_ensures (provider : ForecastProvider) (siteId : UUID)
    (forecastType : ForecastType) (horizonStart horizonEnd : Instant) (interval historyWindow : ℤ)
    (at_ : Option Instant) (db : Database) (outside : Outside)
    (fresh : FreshRun db (outside.identifiers 0)) :
    let request := requestOf db siteId forecastType horizonStart horizonEnd interval historyWindow
    let started := Started provider db siteId forecastType horizonStart horizonEnd interval
    let recordable := Recordable request (provider.predict request)
    Work.Ensures (runForecast provider siteId forecastType horizonStart horizonEnd interval
        historyWindow at_) (Work.begin_ db outside)
      (fun _ after => (started ∧ recordable) ∧ ∃ result, provider.predict request = .ok result ∧
        CompletedRun after.committed (outside.identifiers 0) siteId result)
      (fun _ after =>
        (started ∧ recordable ∧ FailedRun after.committed (outside.identifiers 0)) ∨
        (started ∧ ¬ recordable ∧ ∃ run ∈ after.committed.forecastRuns.rows,
          run.id = outside.identifiers 0 ∧ run.status = .running) ∨
        ¬ started ∧ after.committed = db) := by
  intro request started recordable
  unfold runForecast
  rw [Work.ensures_bind]
  apply (openRun_ensures provider siteId forecastType horizonStart horizonEnd interval at_ db outside
    fresh).mono
  · rintro run after ⟨isStarted, isNew, opened, table, same⟩
    rw [Work.ensures_bind, gatherHistory, Work.ensures_query_of_flushed _ opened.flushed]
    -- the run itself is no part of the history
    have asked : history after.working siteId horizonStart historyWindow = request.history := by
      rw [same]
      rfl
    rw [asked]
    apply (@concludeRun_ensures after run request provider opened).mono
    · rintro _ final ⟨isRecordable, result, answered, completed⟩
      rw [isNew] at completed
      exact ⟨⟨isStarted, isRecordable⟩, result, answered, completed⟩
    · rintro error final (⟨isRecordable, failed⟩ | ⟨notRecordable, unchanged⟩)
      · rw [isNew] at failed
        exact Or.inl ⟨isStarted, isRecordable, failed⟩
      · refine Or.inr (Or.inl ⟨isStarted, notRecordable, run, ?_, isNew, opened.running⟩)
        rw [unchanged, opened.published]
        exact opened.stored
  · exact fun error after refused => Or.inr (Or.inr refused)

/-- A community with one site and nothing stored. -/
def sampleCommunity : Database :=
  Database.initial ⟨0, false, .normal, 0, "", false⟩ ⟨[], [⟨21, 11, none⟩], [], [], []⟩

def sampleOutside : Outside where
  identifiers index := Fin.ofNat (2 ^ 128) (41 + index)
  moments index := index
  transactionStart := 0

/-- A provider that predicts one quarter between two bounds. -/
def boundedProvider (lower upper : ℚ) : ForecastProvider where
  name := "baseline"
  modelVersion := "1.0.0"
  supports _ := true
  predict _ := .ok
    { forecastType := .solar
      provider := "baseline"
      modelVersion := "1.0.0"
      points := [{
        intervalStart := 0
        intervalEnd := DEFAULT_INTERVAL
        predictedKw := some 1
        lowerBound := some lower
        upperBound := some upper }] }

def sampleRun (provider : ForecastProvider) : Call Models.ForecastRun :=
  runForecast provider 21 .solar 0 DEFAULT_INTERVAL DEFAULT_INTERVAL DEFAULT_HISTORY_WINDOW none

end UrjaSetu.Services.ForecastService
