import UrjaSetu.Adapters.CsvAdapter
import UrjaSetu.Domain.Policies.TelemetryQuality

/-!
What the CSV adapter makes of the measurements a row does not give.

A cell is not given when its column is missing, the record ends before it, or it
holds white space only. Generation and load that are not given become zero, and
so do import and export as soon as one of their cells reaches the row as text,
however blank; only where neither does are they derived from the balance.

Owns: where import and export that are not given follow the balance, and where a
channel that is not known stays unmeasured.
-/

namespace UrjaSetu.Adapters.CsvAdapter

open UrjaSetu.Domain UrjaSetu.Domain.Interfaces UrjaSetu.Domain.Policies.TelemetryQuality
open UrjaSetu.Library UrjaSetu.Library.DecimalContext UrjaSetu.Library.PythonText

/-! ## Accepted rows -/

/-- A row of the stream, under the columns its headers resolve to, that the
adapter makes a reading of. -/
structure AcceptedRow (adapter : TelemetryCSVAdapter) (stream : CsvStream) (columns : Columns)
    (row : Row) (reading : NormalizedReading) : Prop where
  exists_line : ∃ fieldnames records lineNum, stream.records = fieldnames :: records ∧
    resolveColumns fieldnames = .ok columns ∧ (row, lineNum) ∈ dataRows fieldnames records ∧
    row.anyValue = true ∧ parseRow adapter columns row lineNum = .ok reading

/-- The value of a cell, zero for one that is not given. -/
def cellPower (rawValue : Option String) : ℚ :=
  if isBlank rawValue then 0
  else ((readDecimal (strip (rawValue.getD "").toList)).map Decimal.toRat).getD 0

private theorem zeroDecimal_toRat : zeroDecimal.toRat = 0 := by
  simp [zeroDecimal, Decimal.toRat]

section Cells

variable {rawValue : Option String} {fieldName : String} {lineNum : ℕ}

theorem parseDecimal_of_blank (blank : isBlank rawValue = true) (nonNegative : Bool) :
    parseDecimal rawValue fieldName lineNum none true nonNegative = .ok none := by
  unfold parseDecimal
  rw [if_pos blank]
  rfl

/-- A cell that is accepted as a decimal that may not be negative. -/
theorem parseDecimal_given {default : Option Decimal} {allowNone : Bool} {parsed : Option Decimal}
    (given : isBlank rawValue = false)
    (returned : parseDecimal rawValue fieldName lineNum default allowNone true = .ok parsed) :
    ∃ value, readDecimal (strip (rawValue.getD "").toList) = some value ∧ 0 ≤ value.toRat ∧
      parsed = some value := by
  unfold parseDecimal at returned
  rw [given] at returned
  dsimp only at returned
  rw [if_neg (by decide)] at returned
  cases read : readDecimal (strip (rawValue.getD "").toList) with
  | none =>
      rw [read] at returned
      cases returned
  | some value =>
      rw [read] at returned
      dsimp only at returned
      split_ifs at returned with negative
      · cases returned
      · cases returned
        exact ⟨value, rfl, not_lt.mp fun below => negative ⟨rfl, below⟩, rfl⟩

/-- A power is the value of its cell, and not negative. -/
theorem parsePower_ok {power : Decimal}
    (returned : parsePower rawValue fieldName lineNum = .ok power) :
    power.toRat = cellPower rawValue ∧ 0 ≤ power.toRat := by
  obtain ⟨parsed, parsedOk, powerEq⟩ := bind_eq_ok.mp returned
  cases powerEq
  have dropZero : ∀ value : Decimal, 0 ≤ value.toRat →
      (((some value).filter fun value => value.toRat ≠ 0).getD zeroDecimal).toRat = value.toRat ∧
        0 ≤ (((some value).filter fun value => value.toRat ≠ 0).getD zeroDecimal).toRat := by
    intro value nonneg
    by_cases zero : value.toRat = 0
    · simp [Option.filter, zero, zeroDecimal_toRat]
    · simp [Option.filter, zero, nonneg]
  cases blank : isBlank rawValue with
  | true =>
      unfold parseDecimal at parsedOk
      rw [if_pos blank] at parsedOk
      cases parsedOk
      obtain ⟨value, nonneg⟩ := dropZero zeroDecimal zeroDecimal_toRat.ge
      exact ⟨by rw [value, cellPower, if_pos blank, zeroDecimal_toRat], nonneg⟩
  | false =>
      obtain ⟨value, read, nonneg, rfl⟩ := parseDecimal_given blank parsedOk
      rw [cellPower, blank, if_neg (by decide), read]
      exact dropZero value nonneg

end Cells

/-- The values an accepted row was read as. -/
structure ParsedRow (columns : Columns) (row : Row) (lineNum : ℕ)
    (reading : NormalizedReading) where
  genKw : Decimal
  loadKw : Decimal
  flows : ℚ × ℚ
  energy : Option Decimal
  soc : Option Decimal
  ordered : reading.intervalStart < reading.intervalEnd
  genRead : parsePower (row.get columns.genCol) "generation_kw" lineNum = .ok genKw
  loadRead : parsePower (row.get columns.loadCol) "load_kw" lineNum = .ok loadKw
  flowsRead : gridFlows (row.get columns.importCol) (row.get columns.exportCol) genKw.toRat
    loadKw.toRat lineNum = .ok flows
  energyRead : parseDecimal (row.get columns.energyCol) "energy_kwh" lineNum none true true =
    .ok energy
  socRead : parseSoc (row.get columns.socCol) lineNum = .ok soc
  generationKw : reading.generationKw = some genKw.toRat
  loadPower : reading.loadKw = some loadKw.toRat
  gridImportKw : reading.gridImportKw = some flows.1
  gridExportKw : reading.gridExportKw = some flows.2
  energyKwh : reading.energyKwh = energy.map Decimal.toRat
  batterySoc : reading.batterySoc = soc.map Decimal.toRat
  available : reading.sourceUnavailable = false

theorem parseRow_ok {adapter : TelemetryCSVAdapter} {columns : Columns} {row : Row} {lineNum : ℕ}
    {reading : NormalizedReading}
    (accepted : parseRow adapter columns row lineNum = .ok reading) :
    Nonempty (ParsedRow columns row lineNum reading) := by
  unfold parseRow at accepted
  obtain ⟨ts, _, accepted⟩ := bind_eq_ok.mp accepted
  obtain ⟨intervalStart, _, accepted⟩ := bind_eq_ok.mp accepted
  obtain ⟨intervalEnd, _, accepted⟩ := bind_eq_ok.mp accepted
  split_ifs at accepted with reversed
  obtain ⟨parsedMeter, _, accepted⟩ := bind_eq_ok.mp accepted
  obtain ⟨meterId, _, accepted⟩ := bind_eq_ok.mp accepted
  obtain ⟨assetId, _, accepted⟩ := bind_eq_ok.mp accepted
  obtain ⟨genKw, genOk, accepted⟩ := bind_eq_ok.mp accepted
  obtain ⟨loadKw, loadOk, accepted⟩ := bind_eq_ok.mp accepted
  obtain ⟨⟨importKw, exportKw⟩, flowsOk, accepted⟩ := bind_eq_ok.mp accepted
  obtain ⟨energyKwh, energyOk, accepted⟩ := bind_eq_ok.mp accepted
  obtain ⟨batterySoc, socOk, accepted⟩ := bind_eq_ok.mp accepted
  cases accepted
  exact ⟨⟨genKw, loadKw, (importKw, exportKw), energyKwh, batterySoc, not_le.mp reversed, genOk,
    loadOk, flowsOk, energyOk, socOk, rfl, rfl, rfl, rfl, rfl, rfl, rfl⟩⟩

/-- What an accepted row establishes of its measurements. -/
structure Measured (columns : Columns) (row : Row) (reading : NormalizedReading)
    (importKw exportKw : ℚ) : Prop where
  generation : reading.generationKw = some (cellPower (row.get columns.genCol))
  load : reading.loadKw = some (cellPower (row.get columns.loadCol))
  gridImport : reading.gridImportKw = some importKw
  gridExport : reading.gridExportKw = some exportKw
  flows : ∃ lineNum, gridFlows (row.get columns.importCol) (row.get columns.exportCol)
    (cellPower (row.get columns.genCol)) (cellPower (row.get columns.loadCol)) lineNum =
      .ok (importKw, exportKw)
  energy : isBlank (row.get columns.energyCol) = true → reading.energyKwh = none
  soc : isBlank (row.get columns.socCol) = true → reading.batterySoc = none
  available : reading.sourceUnavailable = false

private theorem parseRow_measured {adapter : TelemetryCSVAdapter} {columns : Columns} {row : Row}
    {lineNum : ℕ} {reading : NormalizedReading}
    (accepted : parseRow adapter columns row lineNum = .ok reading) :
    ∃ importKw exportKw, Measured columns row reading importKw exportKw := by
  obtain ⟨parsed⟩ := parseRow_ok accepted
  have flowsRead := parsed.flowsRead
  rw [(parsePower_ok parsed.genRead).1, (parsePower_ok parsed.loadRead).1] at flowsRead
  refine ⟨parsed.flows.1, parsed.flows.2, ?_⟩
  refine ⟨by rw [parsed.generationKw, (parsePower_ok parsed.genRead).1],
    by rw [parsed.loadPower, (parsePower_ok parsed.loadRead).1], parsed.gridImportKw,
    parsed.gridExportKw, ⟨lineNum, flowsRead⟩, ?_, ?_, parsed.available⟩
  · intro blank
    have energyRead := parsed.energyRead
    rw [parseDecimal_of_blank blank] at energyRead
    rw [parsed.energyKwh, ← Except.ok.inj energyRead]
    rfl
  · intro blank
    have socRead := parsed.socRead
    rw [parseSoc, parseDecimal_of_blank blank] at socRead
    rw [parsed.batterySoc, ← Except.ok.inj socRead]
    rfl

private theorem AcceptedRow.measured {adapter : TelemetryCSVAdapter} {stream : CsvStream}
    {columns : Columns}
    {row : Row} {reading : NormalizedReading}
    (accepted : AcceptedRow adapter stream columns row reading) :
    ∃ importKw exportKw, Measured columns row reading importKw exportKw := by
  obtain ⟨fieldnames, records, lineNum, _, _, _, _, parsed⟩ := accepted.exists_line
  exact parseRow_measured parsed

/-- What a row does to the batch: nothing, a reading, or a message. -/
theorem rowStep_ok {adapter : TelemetryCSVAdapter} {columns : Columns}
    {batch next : NormalizedTelemetryBatch} {line : Row × ℕ}
    (stepped : rowStep adapter columns batch line = .ok next) :
    (line.1.anyValue = false ∧ next = batch) ∨
      (∃ reading, line.1.anyValue = true ∧ parseRow adapter columns line.1 line.2 = .ok reading ∧
        next = { batch with totalRecords := batch.totalRecords + 1
                            readings := batch.readings ++ [reading] }) ∨
      ∃ failure message, line.1.anyValue = true ∧ adapter.strict = false ∧
        parseRow adapter columns line.1 line.2 = .error failure ∧
        next = { batch with totalRecords := batch.totalRecords + 1
                            errors := batch.errors ++ [message] } := by
  unfold rowStep at stepped
  by_cases empty : line.1.anyValue = false
  · rw [if_pos empty] at stepped
    cases stepped
    exact Or.inl ⟨empty, rfl⟩
  · rw [if_neg empty] at stepped
    have filled : line.1.anyValue = true := (Bool.not_eq_false _).mp empty
    cases parsed : parseRow adapter columns line.1 line.2 with
    | ok reading =>
        rw [parsed] at stepped
        cases stepped
        exact Or.inr (Or.inl ⟨reading, filled, rfl, rfl⟩)
    | error failure =>
        rw [parsed] at stepped
        cases strict : adapter.strict with
        | true =>
            rw [strict] at stepped
            cases failure <;> cases stepped
        | false =>
            rw [strict] at stepped
            cases failure with
            | validation error =>
                cases stepped
                exact Or.inr (Or.inr ⟨_, _, filled, rfl, rfl, rfl⟩)
            | unexpected message =>
                cases stepped
                exact Or.inr (Or.inr ⟨_, _, filled, rfl, rfl, rfl⟩)

/-- Every reading of a batch is an accepted row of the stream. -/
theorem readings_accepted {adapter : TelemetryCSVAdapter} {stream : CsvStream}
    {sourceName : Option String} {batch : NormalizedTelemetryBatch}
    (returned : parseStream adapter stream sourceName = .ok batch) :
    ∀ reading ∈ batch.readings, ∃ columns row, AcceptedRow adapter stream columns row reading := by
  unfold parseStream at returned
  cases records : stream.records with
  | nil =>
      rw [records] at returned
      obtain ⟨_, _, never⟩ := bind_eq_ok.mp returned
      cases never
  | cons fieldnames rows =>
      rw [records] at returned
      obtain ⟨columns, resolved, returned⟩ := bind_eq_ok.mp returned
      obtain ⟨accumulated, folded, returned⟩ := bind_eq_ok.mp returned
      obtain ⟨_, _, returned⟩ := bind_eq_ok.mp returned
      have kept := holds_of_foldlM
        (fun visited current => visited ⊆ dataRows fieldnames rows → ∀ reading ∈ current.readings,
          ∃ columns row, AcceptedRow adapter stream columns row reading)
        (fun _ reading member => by cases member)
        (fun visited line current next holds stepped within => by
          have early := holds fun other member => within (List.mem_append_left _ member)
          have inside : line ∈ dataRows fieldnames rows := within (by simp)
          rcases rowStep_ok stepped with ⟨_, rfl⟩ | ⟨accepted, filled, parsed, rfl⟩ |
            ⟨_, _, _, _, _, rfl⟩
          · exact early
          · intro reading member
            rcases List.mem_append.mp member with before | last
            · exact early reading before
            · rw [List.mem_singleton.mp last]
              exact ⟨columns, line.1, fieldnames, rows, line.2, records, resolved, inside, filled,
                parsed⟩
          · exact early)
        folded (fun _ member => member)
      split_ifs at returned
      cases returned
      exact kept

/-! ## Import and export that are not given -/

/-- The flows of a reading make up the difference of load and generation, in
decimal arithmetic, and one of them is nothing. -/
def FollowsBalance (reading : NormalizedReading) : Prop :=
  ∃ importKw exportKw loadKw genKw, reading.gridImportKw = some importKw ∧
    reading.gridExportKw = some exportKw ∧ reading.loadKw = some loadKw ∧
    reading.generationKw = some genKw ∧ decimalSub importKw exportKw = decimalSub loadKw genKw ∧
    (importKw = 0 ∨ exportKw = 0)

private theorem decimalSub_zero_zero : decimalSub 0 0 = .ok 0 := by decide +kernel

private theorem decimalSub_eq_zero_iff (left right : ℚ) :
    decimalSub left right = .ok 0 ↔ contextRound (left - right) = 0 := by
  unfold decimalSub
  constructor
  · intro returned
    split_ifs at returned
    exact Except.ok.inj returned
  · intro zero
    have fits : ¬ Overflows (left - right) := by
      unfold Overflows
      rw [zero, abs_zero, Int.log_zero_right]
      norm_num
    rw [if_neg fits, zero]

/-- A net demand is what it differs from nothing by. -/
theorem decimalSub_of_net {loadKw genKw netDemand : ℚ}
    (returned : decimalSub loadKw genKw = .ok netDemand) :
    contextRound netDemand = netDemand ∧ decimalSub netDemand 0 = .ok netDemand ∧
      decimalSub 0 (-netDemand) = .ok netDemand := by
  unfold decimalSub at returned ⊢
  split_ifs at returned with overflow
  cases returned
  have again := contextRound_contextRound (loadKw - genKw)
  have fits : ¬ Overflows (contextRound (loadKw - genKw)) := by
    unfold Overflows at overflow ⊢
    rwa [again]
  rw [sub_zero, zero_sub, neg_neg, if_neg fits, again]
  exact ⟨rfl, rfl, rfl⟩

/-- Flows that no cell gives are derived from the balance. -/
theorem gridFlows_derived {genKw loadKw importKw exportKw : ℚ} {lineNum : ℕ}
    (returned : gridFlows none none genKw loadKw lineNum = .ok (importKw, exportKw)) :
    decimalSub importKw exportKw = decimalSub loadKw genKw ∧ (importKw = 0 ∨ exportKw = 0) := by
  unfold gridFlows at returned
  rw [if_neg (by simp)] at returned
  obtain ⟨netDemand, net, returned⟩ := bind_eq_ok.mp returned
  obtain ⟨rounded, demanded, offered⟩ := decimalSub_of_net net
  split_ifs at returned with demand
  · cases returned
    exact ⟨by rw [demanded, net], Or.inr rfl⟩
  · cases returned
    have magnitude : contextRound |netDemand| = -netDemand := by
      rw [abs_of_neg (not_le.mp demand), contextRound_neg, rounded]
    exact ⟨by rw [magnitude, offered, net], Or.inl rfl⟩

/-- A blank cell that reaches the row makes both flows nothing. -/
theorem gridFlows_of_blank {rawImport rawExport : Option String} {genKw loadKw importKw exportKw : ℚ}
    {lineNum : ℕ} (noImport : isBlank rawImport = true) (noExport : isBlank rawExport = true)
    (reached : rawImport ≠ none ∨ rawExport ≠ none)
    (returned : gridFlows rawImport rawExport genKw loadKw lineNum = .ok (importKw, exportKw)) :
    importKw = 0 ∧ exportKw = 0 := by
  unfold gridFlows at returned
  rw [if_pos reached] at returned
  obtain ⟨gridImport, importOk, returned⟩ := bind_eq_ok.mp returned
  obtain ⟨gridExport, exportOk, returned⟩ := bind_eq_ok.mp returned
  cases returned
  rw [(parsePower_ok importOk).1, (parsePower_ok exportOk).1, cellPower, if_pos noImport, cellPower,
    if_pos noExport]
  exact ⟨rfl, rfl⟩

/-- Import and export that are not given follow the balance exactly where neither
cell reaches the row as text, or where load and generation are equal anyway. -/
theorem unprovidedFlows_balance_iff {adapter : TelemetryCSVAdapter} {stream : CsvStream}
    {columns : Columns} {row : Row} {reading : NormalizedReading}
    (accepted : AcceptedRow adapter stream columns row reading)
    (noImport : isBlank (row.get columns.importCol) = true)
    (noExport : isBlank (row.get columns.exportCol) = true) :
    FollowsBalance reading ↔
      (row.get columns.importCol = none ∧ row.get columns.exportCol = none) ∨
        contextRound (cellPower (row.get columns.loadCol) - cellPower (row.get columns.genCol)) =
          0 := by
  obtain ⟨importKw, exportKw, measured⟩ := accepted.measured
  obtain ⟨lineNum, flows⟩ := measured.flows
  have law : FollowsBalance reading ↔
      decimalSub importKw exportKw = decimalSub (cellPower (row.get columns.loadCol))
        (cellPower (row.get columns.genCol)) ∧ (importKw = 0 ∨ exportKw = 0) := by
    unfold FollowsBalance
    rw [measured.gridImport, measured.gridExport, measured.load, measured.generation]
    simp
  rw [law]
  by_cases reached : row.get columns.importCol ≠ none ∨ row.get columns.exportCol ≠ none
  · obtain ⟨importZero, exportZero⟩ := gridFlows_of_blank noImport noExport reached flows
    have notAbsent : ¬ (row.get columns.importCol = none ∧ row.get columns.exportCol = none) := by
      tauto
    rw [importZero, exportZero, decimalSub_zero_zero, eq_comm, decimalSub_eq_zero_iff]
    simp [notAbsent]
  · have absent : row.get columns.importCol = none ∧ row.get columns.exportCol = none := by tauto
    rw [absent.1, absent.2] at flows
    exact iff_of_true (gridFlows_derived flows) (Or.inl absent)

def blankImportAdapter : TelemetryCSVAdapter where
  defaultMeterId := some 1

/-- A row whose import cell is there and empty. -/
def blankImportStream : CsvStream where
  records := [["timestamp", "generation_kw", "load_kw", "grid_import_kw"],
    ["2026-09-12T10:00:00Z", "3.0", "1.0", ""]]

def blankImportColumns : Columns where
  tsCol := "timestamp"
  intStartCol := none
  intEndCol := none
  meterCol := none
  siteCol := none
  assetCol := none
  genCol := some "generation_kw"
  loadCol := some "load_kw"
  importCol := some "grid_import_kw"
  exportCol := none
  energyCol := none
  voltCol := none
  socCol := none

def blankImportRow : Row where
  cells := [("timestamp", some "2026-09-12T10:00:00Z"), ("generation_kw", some "3.0"),
    ("load_kw", some "1.0"), ("grid_import_kw", some "")]
  surplus := []

def blankImportReading : NormalizedReading where
  meterId := 1
  timestamp := 1789207200000000
  intervalStart := 1789207200000000
  intervalEnd := 1789208100000000
  source := .imported
  generationKw := some 3
  loadKw := some 1
  gridImportKw := some 0
  gridExportKw := some 0

private theorem blankImport_accepted :
    AcceptedRow blankImportAdapter blankImportStream blankImportColumns
    blankImportRow blankImportReading where
  exists_line := ⟨_, _, 2, rfl, by decide +kernel, by decide +kernel, by decide +kernel,
    by decide +kernel⟩

theorem unprovidedFlows_balance_sample :
    FollowsBalance blankImportReading ↔
      (blankImportRow.get blankImportColumns.importCol = none ∧
        blankImportRow.get blankImportColumns.exportCol = none) ∨
        contextRound (cellPower (blankImportRow.get blankImportColumns.loadCol) -
          cellPower (blankImportRow.get blankImportColumns.genCol)) = 0 :=
  unprovidedFlows_balance_iff blankImport_accepted (by decide +kernel) (by decide +kernel)

/-- Three kilowatts are generated and one is used, and nothing flows to the grid. -/
theorem blankImport_zeroFlow : ¬ ∀ adapter stream columns row reading,
    AcceptedRow adapter stream columns row reading →
      isBlank (row.get columns.importCol) = true → isBlank (row.get columns.exportCol) = true →
        FollowsBalance reading := by
  intro law
  obtain ⟨importKw, exportKw, loadKw, genKw, importEq, exportEq, loadEq, genEq, balance, _⟩ :=
    law _ _ _ _ _ blankImport_accepted (by decide +kernel) (by decide +kernel)
  rw [← Option.some.inj importEq, ← Option.some.inj exportEq, ← Option.some.inj loadEq,
    ← Option.some.inj genEq] at balance
  exact absurd balance (by decide +kernel)

/-! ## Channels that are not known -/

/-- The measured channels of a reading. -/
inductive Channel where
  | generation
  | load
  | gridImport
  | gridExport
  | energy
  | soc
deriving DecidableEq, Repr

def Channel.measurement (reading : NormalizedReading) : Channel → Option ℚ
  | .generation => reading.generationKw
  | .load => reading.loadKw
  | .gridImport => reading.gridImportKw
  | .gridExport => reading.gridExportKw
  | .energy => reading.energyKwh
  | .soc => reading.batterySoc

def Channel.column (columns : Columns) : Channel → Option String
  | .generation => columns.genCol
  | .load => columns.loadCol
  | .gridImport => columns.importCol
  | .gridExport => columns.exportCol
  | .energy => columns.energyCol
  | .soc => columns.socCol

/-- The row has a value for the channel. -/
def Given (columns : Columns) (row : Row) (channel : Channel) : Prop :=
  isBlank (row.get (channel.column columns)) = false

/-- The balance of generation, load, import and export gives the channel: a
power from the other three, and both flows from generation and load. -/
def Derivable (columns : Columns) (row : Row) : Channel → Prop
  | .generation => Given columns row .load ∧ Given columns row .gridImport ∧
      Given columns row .gridExport
  | .load => Given columns row .generation ∧ Given columns row .gridImport ∧
      Given columns row .gridExport
  | .gridImport => Given columns row .generation ∧ Given columns row .load
  | .gridExport => Given columns row .generation ∧ Given columns row .load
  | .energy => False
  | .soc => False

/-- What is not known stays unmeasured, and a row without any measurement is
classified as missing. -/
def KeepsUnmeasured (columns : Columns) (row : Row) (reading : NormalizedReading) : Prop :=
  (∀ channel, ¬ Given columns row channel → ¬ Derivable columns row channel →
    channel.measurement reading = none) ∧
  ((∀ channel, ¬ Given columns row channel) → ∀ evaluatedAt context stalenessThreshold,
    (classifyReading reading evaluatedAt context stalenessThreshold).status = .missing)

/-- A row without any measurement is classified as a measured one. -/
theorem classifyReading_ne_missing {adapter : TelemetryCSVAdapter} {stream : CsvStream}
    {columns : Columns} {row : Row} {reading : NormalizedReading}
    (accepted : AcceptedRow adapter stream columns row reading) (evaluatedAt : Instant)
    (context : SeriesContext) (stalenessThreshold : ℤ) :
    (classifyReading reading evaluatedAt context stalenessThreshold).status ≠ .missing := by
  obtain ⟨importKw, exportKw, measured⟩ := accepted.measured
  have measurement : reading.hasAnyMeasurement = true := by
    unfold NormalizedReading.hasAnyMeasurement NormalizedReading.measurements
    rw [measured.generation]
    rfl
  unfold classifyReading
  rw [measured.available, measurement]
  cases firstInvalidValue reading with
  | some reason => simp
  | none =>
      simp only [Bool.false_eq_true, if_false, not_true_eq_false]
      split_ifs <;> simp

/-- What is not known stays unmeasured exactly where generation and load are
given, or one of them with both flows. -/
theorem keepsUnmeasured_iff {adapter : TelemetryCSVAdapter} {stream : CsvStream}
    {columns : Columns} {row : Row} {reading : NormalizedReading}
    (accepted : AcceptedRow adapter stream columns row reading) :
    KeepsUnmeasured columns row reading ↔
      (Given columns row .generation ∧ Given columns row .load) ∨
        ((Given columns row .generation ∨ Given columns row .load) ∧
          Given columns row .gridImport ∧ Given columns row .gridExport) := by
  obtain ⟨importKw, exportKw, measured⟩ := accepted.measured
  -- The four powers are always numbers, so each of them has to be known.
  have generationKnown : Channel.generation.measurement reading ≠ none := by
    rw [Channel.measurement, measured.generation]
    simp
  have loadKnown : Channel.load.measurement reading ≠ none := by
    rw [Channel.measurement, measured.load]
    simp
  have importKnown : Channel.gridImport.measurement reading ≠ none := by
    rw [Channel.measurement, measured.gridImport]
    simp
  have exportKnown : Channel.gridExport.measurement reading ≠ none := by
    rw [Channel.measurement, measured.gridExport]
    simp
  constructor
  · rintro ⟨unmeasured, _⟩
    have known : ∀ channel, Channel.measurement reading channel ≠ none →
        Given columns row channel ∨ Derivable columns row channel := by
      intro channel number
      by_contra unknown
      obtain ⟨notGiven, notDerivable⟩ := not_or.mp unknown
      exact number (unmeasured channel notGiven notDerivable)
    have generation := known _ generationKnown
    have load := known _ loadKnown
    have gridImport := known _ importKnown
    have gridExport := known _ exportKnown
    unfold Derivable at generation load gridImport gridExport
    tauto
  · intro enough
    refine ⟨?_, fun nothing => absurd enough ?_⟩
    · intro channel notGiven notDerivable
      cases channel with
      | energy => exact measured.energy ((Bool.not_eq_false _).mp notGiven)
      | soc => exact measured.soc ((Bool.not_eq_false _).mp notGiven)
      | generation =>
          unfold Derivable at notDerivable
          tauto
      | load =>
          unfold Derivable at notDerivable
          tauto
      | gridImport =>
          unfold Derivable at notDerivable
          tauto
      | gridExport =>
          unfold Derivable at notDerivable
          tauto
    · have noGeneration := nothing .generation
      have noLoad := nothing .load
      tauto

theorem keepsUnmeasured_sample :
    KeepsUnmeasured blankImportColumns blankImportRow blankImportReading ↔
      (Given blankImportColumns blankImportRow .generation ∧
        Given blankImportColumns blankImportRow .load) ∨
        ((Given blankImportColumns blankImportRow .generation ∨
          Given blankImportColumns blankImportRow .load) ∧
          Given blankImportColumns blankImportRow .gridImport ∧
          Given blankImportColumns blankImportRow .gridExport) :=
  keepsUnmeasured_iff blankImport_accepted

/-- A row that holds a timestamp and nothing else. -/
def timestampStream : CsvStream where
  records := [["timestamp"], ["2026-09-12T10:00:00Z"]]

def timestampColumns : Columns where
  tsCol := "timestamp"
  intStartCol := none
  intEndCol := none
  meterCol := none
  siteCol := none
  assetCol := none
  genCol := none
  loadCol := none
  importCol := none
  exportCol := none
  energyCol := none
  voltCol := none
  socCol := none

def timestampRow : Row where
  cells := [("timestamp", some "2026-09-12T10:00:00Z")]
  surplus := []

def timestampReading : NormalizedReading :=
  { blankImportReading with generationKw := some 0, loadKw := some 0 }

/-- It becomes four measured zeros, and is classified as valid. -/
theorem timestampOnly_measured :
    ¬ (∀ adapter stream columns row reading, AcceptedRow adapter stream columns row reading →
      KeepsUnmeasured columns row reading) ∧
      (classifyReading timestampReading 1789208100000000 {} DEFAULT_STALENESS_THRESHOLD).status =
        .valid := by
  have accepted : AcceptedRow blankImportAdapter timestampStream timestampColumns timestampRow
      timestampReading :=
    ⟨_, _, 2, rfl, by decide +kernel, by decide +kernel, by decide +kernel, by decide +kernel⟩
  refine ⟨fun law => ?_, by decide +kernel⟩
  have nothing : ∀ channel, ¬ Given timestampColumns timestampRow channel := by
    intro channel
    cases channel <;> exact Bool.not_eq_false _ |>.mpr rfl
  have missing := (law _ _ _ _ _ accepted).2 nothing 1789208100000000 {} DEFAULT_STALENESS_THRESHOLD
  exact absurd missing (by decide +kernel)

end UrjaSetu.Adapters.CsvAdapter
