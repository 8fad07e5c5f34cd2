import UrjaSetu.Adapters.CsvAdapter.Measurements
import UrjaSetu.Library.Sorting

/-!
A parse of a CSV stream as a whole, and the batch that a source replays.

Every row with a value ends as a reading or as a message; one that is refused
ends a strict parse. The adapter keeps the batch of its last parse that returned.

Owns: the tally of a batch against the rows of its stream, what `read` replays,
and that no accepted reading is classified as an impossible one.
-/

namespace UrjaSetu.Adapters.CsvAdapter

open UrjaSetu.Domain UrjaSetu.Domain.Interfaces UrjaSetu.Domain.Policies.TelemetryQuality
open UrjaSetu.Library UrjaSetu.Library.DecimalContext

/-! ## The source -/

/-- The adapter with the batch its last parse left. -/
structure MeterReadingSource where
  adapter : TelemetryCSVAdapter
  lastBatch : NormalizedTelemetryBatch
deriving DecidableEq, Repr

/-- `TelemetryCSVAdapter(...)`. -/
def TelemetryCSVAdapter.source (adapter : TelemetryCSVAdapter) : MeterReadingSource :=
  ⟨adapter, { sourceName := adapter.sourceName }⟩

/-- `parse_stream`, which keeps the batch it returns. -/
def MeterReadingSource.parseStream (source : MeterReadingSource) (stream : CsvStream)
    (sourceName : Option String) :
    Except AdapterError NormalizedTelemetryBatch × MeterReadingSource :=
  match CsvAdapter.parseStream source.adapter stream sourceName with
  | .ok batch => (.ok batch, { source with lastBatch := batch })
  | .error error => (.error error, source)

/-- `read`. -/
def MeterReadingSource.read (source : MeterReadingSource) (since : Option Instant) :
    List NormalizedReading :=
  let readings := sortBy NormalizedReading.intervalStart source.lastBatch.readings
  match since with
  | some since => readings.filter fun reading => since ≤ reading.intervalStart
  | none => readings

/-! ## The tally -/

/-- The rows of a stream that hold a value, with their line numbers. -/
def filledRows (fieldnames : List String) (records : List (List String)) : List (Row × ℕ) :=
  (dataRows fieldnames records).filter fun line => line.1.anyValue

/-- A batch against the rows it was made of: its readings are those of the rows
that parse, in their order, and every row is accounted for. -/
structure Tally (adapter : TelemetryCSVAdapter) (columns : Columns) (rows : List (Row × ℕ))
    (batch : NormalizedTelemetryBatch) : Prop where
  totalRecords : batch.totalRecords = rows.length
  readings : batch.readings =
    rows.filterMap fun line => (parseRow adapter columns line.1 line.2).toOption
  accounted : batch.readings.length + batch.errors.length = batch.totalRecords
  strict : adapter.strict = true → batch.errors = [] ∧
    rows.map (fun line => parseRow adapter columns line.1 line.2) = batch.readings.map .ok

section Rows

variable {adapter : TelemetryCSVAdapter} {columns : Columns} {rows : List (Row × ℕ)}
  {batch next : NormalizedTelemetryBatch} {line : Row × ℕ}

private theorem Tally.start (sourceName : String) : Tally adapter columns [] { sourceName } :=
  ⟨rfl, rfl, rfl, fun _ => ⟨rfl, rfl⟩⟩

/-- One more row is accounted for. -/
theorem Tally.rowStep (tally : Tally adapter columns rows batch)
    (stepped : CsvAdapter.rowStep adapter columns batch line = .ok next) :
    Tally adapter columns (rows ++ [line].filter fun line => line.1.anyValue) next := by
  rcases rowStep_ok stepped with ⟨empty, rfl⟩ | ⟨reading, filled, parsed, rfl⟩ |
    ⟨failure, message, filled, lenient, refused, rfl⟩
  · rw [List.filter_singleton, empty]
    simpa using tally
  · rw [List.filter_singleton, filled]
    refine ⟨?_, ?_, ?_, ?_⟩
    · simp [tally.totalRecords]
    · simp [tally.readings, parsed, Except.toOption]
    · have accounted := tally.accounted
      simp only [List.length_append, List.length_singleton]
      omega
    · intro isStrict
      obtain ⟨noErrors, covered⟩ := tally.strict isStrict
      exact ⟨noErrors, by simp [covered, parsed]⟩
  · rw [List.filter_singleton, filled]
    refine ⟨?_, ?_, ?_, ?_⟩
    · simp [tally.totalRecords]
    · simp [tally.readings, refused, Except.toOption]
    · have accounted := tally.accounted
      simp only [List.length_append, List.length_singleton]
      omega
    · intro isStrict
      rw [isStrict] at lenient
      cases lenient

end Rows

/-- The batch of a stream, tallied against its rows. -/
structure Tallied (adapter : TelemetryCSVAdapter) (stream : CsvStream)
    (batch : NormalizedTelemetryBatch) : Prop where
  exists_tally : ∃ fieldnames records columns, stream.records = fieldnames :: records ∧
    resolveColumns fieldnames = .ok columns ∧
    Tally adapter columns (filledRows fieldnames records) batch

private theorem parseStream_tallied {adapter : TelemetryCSVAdapter} {stream : CsvStream}
    {sourceName : Option String} {batch : NormalizedTelemetryBatch}
    (returned : parseStream adapter stream sourceName = .ok batch) :
    Tallied adapter stream batch := by
  unfold parseStream at returned
  cases records : stream.records with
  | nil =>
      rw [records] at returned
      obtain ⟨_, _, never⟩ := bind_eq_ok.mp returned
      cases never
  | cons fieldnames rows =>
      rw [records] at returned
      obtain ⟨columns, resolved, returned⟩ := bind_eq_ok.mp returned
      obtain ⟨accumulated, folded, returned⟩ := bind_eq_ok.mp returned
      obtain ⟨_, _, returned⟩ := bind_eq_ok.mp returned
      have tally := holds_of_foldlM
        (fun visited current => Tally adapter columns
          (visited.filter fun line => line.1.anyValue) current)
        (Tally.start _)
        (fun visited line current next tally stepped => by
          rw [List.filter_append]
          exact tally.rowStep stepped)
        folded
      split_ifs at returned
      cases returned
      exact ⟨fieldnames, rows, columns, records, resolved, tally⟩

/-! ## Impossible values -/

private theorem parseDecimal_nonneg {rawValue : Option String} {fieldName : String} {lineNum : ℕ}
    {parsed : Option Decimal}
    (returned : parseDecimal rawValue fieldName lineNum none true true = .ok parsed) :
    ∀ value ∈ parsed, 0 ≤ value.toRat := by
  intro value isValue
  cases blank : isBlank rawValue with
  | true =>
      rw [parseDecimal_of_blank blank] at returned
      rw [← Except.ok.inj returned] at isValue
      cases isValue
  | false =>
      obtain ⟨given, _, nonneg, rfl⟩ := parseDecimal_given blank returned
      rw [← Option.mem_some.mp isValue]
      exact nonneg

private theorem parseSoc_percent {rawSoc : Option String} {lineNum : ℕ} {parsed : Option Decimal}
    (returned : parseSoc rawSoc lineNum = .ok parsed) :
    ∀ soc ∈ parsed, 0 ≤ soc.toRat ∧ soc.toRat ≤ 100 := by
  obtain ⟨batterySoc, _, returned⟩ := bind_eq_ok.mp returned
  intro soc isSoc
  cases batterySoc with
  | none =>
      cases returned
      cases isSoc
  | some read =>
      dsimp only at returned
      split_ifs at returned with percent
      · cases returned
        rw [← Option.mem_some.mp isSoc]
        exact percent
      · cases returned

/-- Import and export are magnitudes, given or derived. -/
theorem gridFlows_nonneg {rawImport rawExport : Option String} {genKw loadKw : ℚ} {lineNum : ℕ}
    {flows : ℚ × ℚ} (returned : gridFlows rawImport rawExport genKw loadKw lineNum = .ok flows) :
    0 ≤ flows.1 ∧ 0 ≤ flows.2 := by
  unfold gridFlows at returned
  split_ifs at returned with reached
  · obtain ⟨gridImport, importRead, returned⟩ := bind_eq_ok.mp returned
    obtain ⟨gridExport, exportRead, returned⟩ := bind_eq_ok.mp returned
    cases returned
    exact ⟨(parsePower_ok importRead).2, (parsePower_ok exportRead).2⟩
  · obtain ⟨netDemand, net, returned⟩ := bind_eq_ok.mp returned
    split_ifs at returned with demand
    · cases returned
      exact ⟨demand, le_rfl⟩
    · cases returned
      have magnitude : contextRound |netDemand| = -netDemand := by
        rw [abs_of_neg (not_le.mp demand), contextRound_neg, (decimalSub_of_net net).1]
      exact ⟨le_rfl, by linarith⟩

/-- A row that parses has no value the classifier finds impossible. -/
theorem ParsedRow.firstInvalidValue_eq_none {columns : Columns} {row : Row} {lineNum : ℕ}
    {reading : NormalizedReading} (parsed : ParsedRow columns row lineNum reading) :
    firstInvalidValue reading = none := by
  rw [firstInvalidValue_eq_none_iff]
  refine ⟨parsed.ordered.le, ?_, ?_⟩
  · have sound : ∀ value : ℚ, 0 ≤ value → isNegative (some value) = false :=
      fun value nonneg => decide_eq_false (not_lt.mpr nonneg)
    obtain ⟨importNonneg, exportNonneg⟩ := gridFlows_nonneg parsed.flowsRead
    intro channel listed
    simp only [magnitudes, List.mem_cons, List.not_mem_nil, or_false] at listed
    rcases listed with rfl | rfl | rfl | rfl | rfl
    · rw [parsed.generationKw]
      exact sound _ (parsePower_ok parsed.genRead).2
    · rw [parsed.loadPower]
      exact sound _ (parsePower_ok parsed.loadRead).2
    · rw [parsed.gridImportKw]
      exact sound _ importNonneg
    · rw [parsed.gridExportKw]
      exact sound _ exportNonneg
    · rw [parsed.energyKwh]
      cases isEnergy : parsed.energy with
      | none => rfl
      | some energy => exact sound _ (parseDecimal_nonneg parsed.energyRead energy isEnergy)
  · rw [parsed.batterySoc]
    cases isSoc : parsed.soc with
    | none => rfl
    | some soc =>
        have percent := parseSoc_percent parsed.socRead soc isSoc
        exact decide_eq_false (not_not.mpr percent)

/-- What is classified as impossible is no reading of the adapter. -/
theorem classifyReading_possible {columns : Columns} {row : Row} {lineNum : ℕ}
    {reading : NormalizedReading} (parsed : ParsedRow columns row lineNum reading)
    (evaluatedAt : Instant) (context : SeriesContext) (stalenessThreshold : ℤ) :
    (classifyReading reading evaluatedAt context stalenessThreshold).status ≠ .invalidValue := by
  unfold classifyReading
  rw [parsed.available, parsed.firstInvalidValue_eq_none]
  simp only [Bool.false_eq_true, if_false]
  split_ifs <;> simp

/-! ## Parses -/

namespace MeterReadingSource

variable {source after : MeterReadingSource} {stream : CsvStream} {sourceName : Option String}

/-- A parse that returns is of the batch that is then replayed, which accounts for
every row of its stream and holds no impossible value. One that raises leaves the
batch as it was. -/
theorem parseStream_lawful (source : MeterReadingSource) (stream : CsvStream)
    (sourceName : Option String) :
    (∀ batch after, source.parseStream stream sourceName = (.ok batch, after) →
      after.lastBatch = batch ∧ Tallied source.adapter stream batch ∧
        ∀ reading ∈ batch.readings, ∀ evaluatedAt context stalenessThreshold,
          (classifyReading reading evaluatedAt context stalenessThreshold).status ≠
            .invalidValue) ∧
      ∀ error after, source.parseStream stream sourceName = (.error error, after) →
        after.lastBatch = source.lastBatch ∧ ∀ since, after.read since = source.read since := by
  unfold MeterReadingSource.parseStream
  cases parsed : CsvAdapter.parseStream source.adapter stream sourceName with
  | ok batch =>
      refine ⟨?_, fun error after outcome => ?_⟩
      · intro returned after outcome
        cases outcome
        refine ⟨rfl, parseStream_tallied parsed, ?_⟩
        intro reading member evaluatedAt context stalenessThreshold
        obtain ⟨columns, row, accepted⟩ := readings_accepted parsed reading member
        obtain ⟨_, _, lineNum, _, _, _, _, rowParsed⟩ := accepted.exists_line
        obtain ⟨cells⟩ := parseRow_ok rowParsed
        exact classifyReading_possible cells evaluatedAt context stalenessThreshold
      · cases outcome
  | error error =>
      refine ⟨fun batch after outcome => ?_, ?_⟩
      · cases outcome
      · intro raised after outcome
        cases outcome
        exact ⟨rfl, fun _ => rfl⟩

/-- Parse one stream after the other. -/
def parseAll (source : MeterReadingSource) (calls : List (CsvStream × Option String)) :
    MeterReadingSource :=
  calls.foldl (fun source call => (source.parseStream call.1 call.2).2) source

private theorem parseStream_adapter (source : MeterReadingSource) (stream : CsvStream)
    (sourceName : Option String) : (source.parseStream stream sourceName).2.adapter = source.adapter := by
  unfold MeterReadingSource.parseStream
  cases CsvAdapter.parseStream source.adapter stream sourceName with
  | ok batch => rfl
  | error error => rfl

/-- What is replayed is the batch of the last parse that returned. -/
theorem parseAll_lastBatch (source : MeterReadingSource) (calls : List (CsvStream × Option String)) :
    (source.parseAll calls).lastBatch = ((calls.filterMap fun call =>
      (CsvAdapter.parseStream source.adapter call.1 call.2).toOption).getLast?).getD
        source.lastBatch := by
  induction calls generalizing source with
  | nil => rfl
  | cons call rest inductionHypothesis =>
      have later := inductionHypothesis (source.parseStream call.1 call.2).2
      rw [parseStream_adapter] at later
      rw [parseAll, List.foldl_cons]
      refine later.trans ?_
      rw [List.filterMap_cons]
      unfold MeterReadingSource.parseStream
      cases CsvAdapter.parseStream source.adapter call.1 call.2 with
      | ok batch => simp [Except.toOption, List.getLast?_cons]
      | error error => rfl

end MeterReadingSource

/-! ## Three rows, one of them refused -/

/-- The second row has no number for its generation. -/
def resilientStream : CsvStream where
  records := [["timestamp", "meter_id", "generation_kw", "load_kw"],
    ["2026-09-12T10:00:00Z", "00000000-0000-0000-0000-00000000001f", "3.0", "1.0"],
    ["2026-09-12T10:15:00Z", "00000000-0000-0000-0000-00000000001f", "BAD_NUM", "1.0"],
    ["2026-09-12T10:30:00Z", "00000000-0000-0000-0000-00000000001f", "4.0", "2.0"]]

/-- The adapter that skips the row returns two readings and one message; the strict
one raises and goes on replaying what it had. -/
theorem parseStream_lawful_sample :
    (∃ batch after, ({ strict := false : TelemetryCSVAdapter }.source).parseStream resilientStream
        none = (.ok batch, after) ∧
      batch.readings.length = 2 ∧ batch.errors.length = 1 ∧ batch.totalRecords = 3 ∧
      after.lastBatch = batch ∧ Tallied { strict := false } resilientStream batch) ∧
    ∃ error after, (({} : TelemetryCSVAdapter).source).parseStream resilientStream none =
        (.error error, after) ∧
      ∀ since, after.read since = (({} : TelemetryCSVAdapter).source).read since := by
  have counted : (({ strict := false : TelemetryCSVAdapter }.source.parseStream resilientStream
      none).1.toOption.map fun batch =>
        (batch.readings.length, batch.errors.length, batch.totalRecords)) = some (2, 1, 3) := by
    decide +kernel
  have refused : (({} : TelemetryCSVAdapter).source.parseStream resilientStream
      none).1.toOption.isNone = true := by
    decide +kernel
  constructor
  · cases outcome : ({ strict := false : TelemetryCSVAdapter }.source).parseStream resilientStream
      none with
    | mk result after =>
        rw [outcome] at counted
        cases result with
        | error error => cases counted
        | ok batch =>
            obtain ⟨kept, tallied, _⟩ := (MeterReadingSource.parseStream_lawful _ _ _).1 batch after
              outcome
            simp only [Except.toOption, Option.map_some, Option.some_inj, Prod.mk.injEq] at counted
            exact ⟨batch, after, rfl, counted.1, counted.2.1, counted.2.2, kept, tallied⟩
  · cases outcome : (({} : TelemetryCSVAdapter).source).parseStream resilientStream none with
    | mk result after =>
        rw [outcome] at refused
        cases result with
        | ok batch => cases refused
        | error error =>
            exact ⟨error, after, rfl,
              ((MeterReadingSource.parseStream_lawful _ _ _).2 error after outcome).2⟩

end UrjaSetu.Adapters.CsvAdapter
