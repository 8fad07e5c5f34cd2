import UrjaSetu.Domain.Interfaces.Telemetry
import UrjaSetu.Library.DecimalContext
import UrjaSetu.Library.Dict
import UrjaSetu.Library.Exceptions
import UrjaSetu.Library.Strptime

/-!
The CSV adapter of `app/adapters/meter/csv_adapter.py`: from the records of a CSV
reader to a batch of normalised readings.

A stream is the records its reader yields, up to a `csv.Error` if there is one.
An exception that is neither of the adapter's own is kept as its text.

Owns: headers and their synonyms, the parsers of a cell, a row and a stream.

Does not own: files and their encoding, and the replay of `read`.
-/

namespace UrjaSetu.Adapters.CsvAdapter

open UrjaSetu.Domain UrjaSetu.Domain.Interfaces UrjaSetu.Library
open UrjaSetu.Library.Calendar UrjaSetu.Library.IsoFormat UrjaSetu.Library.Strptime
open UrjaSetu.Library.PythonText UrjaSetu.Library.DecimalContext UrjaSetu.Library.Binary64

/-! ## Failures -/

inductive InvalidValue where
  | text (raw : String)
  | number (value : Decimal)
deriving DecidableEq, Repr

/-- `AdapterValidationError`. -/
structure AdapterValidationError where
  message : String
  lineNumber : Option ℕ := none
  fieldName : Option String := none
  invalidValue : Option InvalidValue := none
deriving DecidableEq, Repr

/-- What a parse raises to its caller. -/
inductive AdapterError where
  | parse (message : String)
  | validation (error : AdapterValidationError)
deriving DecidableEq, Repr

/-- What a row raises: a refusal, or an exception the adapter did not expect. -/
inductive RowError where
  | validation (error : AdapterValidationError)
  | unexpected (message : String)
deriving DecidableEq, Repr

/-! ## Headers -/

/-- The columns a reading is made of. -/
inductive FieldKey where
  | timestamp
  | intervalStart
  | intervalEnd
  | meterId
  | siteId
  | energyAssetId
  | generationKw
  | loadKw
  | gridImportKw
  | gridExportKw
  | energyKwh
  | voltagePu
  | batterySoc
deriving DecidableEq, Repr

/-- `_COLUMN_SYNONYMS`. -/
def columnSynonyms : FieldKey → List String
  | .timestamp => ["timestamp", "datetime", "date_time", "time", "ts", "reading_time",
      "interval_start"]
  | .intervalStart => ["interval_start", "start_time", "start"]
  | .intervalEnd => ["interval_end", "end_time", "end"]
  | .meterId => ["meter_id", "meter_uuid", "meter", "meter_id_ref"]
  | .siteId => ["site_id", "site_uuid", "site"]
  | .energyAssetId => ["energy_asset_id", "asset_id", "asset_uuid", "pv_id", "solar_asset_id"]
  | .generationKw => ["generation_kw", "gen_kw", "solar_kw", "pv_kw", "generation",
      "solar_generation_kw"]
  | .loadKw => ["load_kw", "demand_kw", "consumption_kw", "load", "power_demand_kw"]
  | .gridImportKw => ["grid_import_kw", "import_kw", "grid_import", "imported_kw"]
  | .gridExportKw => ["grid_export_kw", "export_kw", "grid_export", "exported_kw"]
  | .energyKwh => ["energy_kwh", "kwh", "energy", "active_energy_kwh"]
  | .voltagePu => ["voltage_pu", "v_pu", "voltage"]
  | .batterySoc => ["battery_soc", "soc", "battery_percentage", "state_of_charge"]

/-- `_normalize_header`. Letters whose lower case is not ASCII stay as they are:
no synonym has one. -/
def normalizeHeader (rawHeader : String) : String :=
  String.ofList (replaceChar ' ' ['_'] (replaceChar '-' ['_']
    ((strip rawHeader.toList).map lowerChar)))

/-- The column of each normalised header; of two alike the later. -/
def headerMap (fieldnames : List String) : List (String × String) :=
  fieldnames.foldl (fun entries name => putEntry (normalizeHeader name) name entries) []

/-- `_find_column`. -/
def findColumn (fieldKey : FieldKey) (availableHeaders : List (String × String)) : Option String :=
  (columnSynonyms fieldKey).findSome? fun synonym => findEntry synonym availableHeaders

/-! ## Cells -/

/-- The formats tried after ISO 8601, in their order. -/
def commonFormats : List Format :=
  let slashes : Format :=
    [.day, .literal '/', .month, .literal '/', .year]
  let hourMinuteSecond : Format := hourMinute ++ [.literal ':', .second]
  [yearMonthDay '-' ++ .spaces :: hourMinuteSecond,
    yearMonthDay '-' ++ .spaces :: hourMinute,
    slashes ++ .spaces :: hourMinuteSecond,
    slashes ++ .spaces :: hourMinute,
    yearMonthDay '/' ++ .spaces :: hourMinuteSecond,
    yearMonthDay '/' ++ .spaces :: hourMinute,
    yearMonthDay '-' ++ .literal 'T' :: hourMinuteSecond]

/-- `datetime.min` and `datetime.max` in UTC. -/
def minInstant : Instant := daysOfCivil ⟨MINYEAR, 1, 1⟩ * microsecondsPerDay

def maxInstant : Instant := (daysOfCivil ⟨MAXYEAR, 12, 31⟩ + 1) * microsecondsPerDay - 1

def inDatetimeRange (instant : ℤ) : Bool := minInstant ≤ instant && instant ≤ maxInstant

/-- The `OverflowError` of an instant `datetime` cannot hold. -/
def dateOutOfRange : RowError := .unexpected "date value out of range"

/-- `datetime.fromtimestamp(seconds, tz=UTC)`, or `none` for what it raises. -/
def fromtimestamp (seconds : ℚ) : Option Instant :=
  let whole := Rounding.down.toInt seconds
  let microseconds := Rounding.halfEvenInt (double ((seconds - whole) * 1000000))
  let instant := whole * 1000000 + microseconds
  if inDatetimeRange instant then some instant else none

/-- An epoch in seconds or, from `1e11` on, in milliseconds. -/
def parseEpoch (val : List Char) : Option Instant :=
  (readFloat val).bind fun epochNum =>
    if 100000000000 < epochNum then fromtimestamp (double (epochNum / 1000))
    else fromtimestamp epochNum

/-- `_parse_timestamp`. -/
def parseTimestamp (rawValue : String) (lineNum : ℕ) : Except RowError Instant :=
  let val := strip rawValue.toList
  if val = [] then
    .error (.validation { message := "Timestamp value cannot be empty", lineNumber := some lineNum
                          fieldName := some "timestamp", invalidValue := some (.text rawValue) })
  else
    match fromIsoChars (replaceChar 'Z' "+00:00".toList val) with
    | some moment =>
        -- A naive text is taken for UTC. The shift of an aware one may leave the
        -- range of `datetime`, which is no `ValueError`.
        let instant := moment.wallClock - moment.utcOffset.getD 0
        if inDatetimeRange instant then .ok instant else .error dateOutOfRange
    | none =>
        match commonFormats.findSome? fun format => strptime format val with
        | some wallClock => .ok wallClock
        | none =>
            match parseEpoch val with
            | some instant => .ok instant
            | none =>
                .error (.validation { message := s!"Invalid timestamp format: '{rawValue}'"
                                      lineNumber := some lineNum
                                      fieldName := some "timestamp"
                                      invalidValue := some (.text rawValue) })

/-- No value, or white space only. -/
def isBlank : Option String → Bool
  | none => true
  | some raw => strip raw.toList = []

/-- A refusal of a cell. -/
def refuse {α : Type} (message : String) (lineNum : ℕ) (fieldName : String)
    (invalidValue : Option InvalidValue) : Except RowError α :=
  .error (.validation { message := message, lineNumber := some lineNum
                        fieldName := some fieldName, invalidValue := invalidValue })

/-- `Decimal("0.0")`. -/
def zeroDecimal : Decimal := ⟨false, 0, -1⟩

/-- `_parse_decimal`. -/
def parseDecimal (rawValue : Option String) (fieldName : String) (lineNum : ℕ)
    (default : Option Decimal) (allowNone nonNegative : Bool) : Except RowError (Option Decimal) :=
  if isBlank rawValue then
    match default with
    | some value => .ok (some value)
    | none =>
        if allowNone then .ok none
        else refuse s!"Field '{fieldName}' cannot be empty" lineNum fieldName
          (rawValue.map .text)
  else
    let raw := rawValue.getD ""
    match readDecimal (strip raw.toList) with
    | none =>
        refuse s!"Field '{fieldName}' must be a valid number, got: '{raw}'" lineNum fieldName
          (some (.text raw))
    | some val =>
        if nonNegative ∧ val.toRat < 0 then
          let shown := val.str
          refuse s!"Field '{fieldName}' cannot be negative, got: {shown}" lineNum fieldName
            (some (.number val))
        else .ok (some val)

/-- Drop every occurrence of `pattern`, from left to right; `skip` characters of
one are still to be dropped. -/
def removeAll (pattern : List Char) : ℕ → List Char → List Char
  | _, [] => []
  | skip + 1, _ :: rest => removeAll pattern skip rest
  | 0, char :: rest =>
      if pattern.isPrefixOf (char :: rest) then removeAll pattern (pattern.length - 1) rest
      else char :: removeAll pattern 0 rest

/-- `UUID(text)`. -/
def readUuid (text : List Char) : Option UUID :=
  let hex := (stripBy (fun char => char = '\x7b' || char = '\x7d')
    (removeAll "uuid:".toList 0 (removeAll "urn:".toList 0 text))).filter (· ≠ '-')
  if hex.length = 32 then
    (readHexInt hex).bind fun number =>
      if inRange : 0 ≤ number ∧ number.toNat < 2 ^ 128 then some ⟨number.toNat, inRange.2⟩ else none
  else none

/-- `_parse_uuid`. -/
def parseUuid (rawValue : Option String) (fieldName : String) (lineNum : ℕ) (default : Option UUID)
    (allowNone : Bool) : Except RowError (Option UUID) :=
  if isBlank rawValue then
    match default with
    | some id => .ok (some id)
    | none =>
        if allowNone then .ok none
        else refuse s!"Missing required UUID for field '{fieldName}'" lineNum fieldName
          (rawValue.map .text)
  else
    let raw := rawValue.getD ""
    match readUuid (strip raw.toList) with
    | some id => .ok (some id)
    | none =>
        refuse s!"Invalid UUID for field '{fieldName}': '{raw}'" lineNum fieldName
          (some (.text raw))

/-! ## Rows -/

/-- A record under its headers, and the cells it has beyond them. A header
beyond the record has no value. -/
structure Row where
  cells : List (String × Option String)
  surplus : List String
deriving DecidableEq, Repr

/-- What `csv.DictReader` makes of a record. -/
def dictRow (fieldnames record : List String) : Row where
  cells := (fieldnames.drop record.length).foldl (fun cells name => putEntry name none cells)
    ((fieldnames.zip record).foldl (fun cells cell => putEntry cell.1 (some cell.2) cells) [])
  surplus := record.drop fieldnames.length

/-- `row.get(column) if column else None`. -/
def Row.get (row : Row) (column : Option String) : Option String :=
  (column.filter (· ≠ "")).bind fun name => (findEntry name row.cells).join

/-- `any(row.values())`. -/
def Row.anyValue (row : Row) : Bool :=
  row.cells.any (fun cell => cell.2.any (· ≠ "")) || row.surplus ≠ []

/-- The columns of a stream, by what they hold. -/
structure Columns where
  tsCol : String
  intStartCol : Option String
  intEndCol : Option String
  meterCol : Option String
  siteCol : Option String
  assetCol : Option String
  genCol : Option String
  loadCol : Option String
  importCol : Option String
  exportCol : Option String
  energyCol : Option String
  voltCol : Option String
  socCol : Option String
deriving DecidableEq, Repr

/-- `TelemetryCSVAdapter`, as its constructor leaves it. -/
structure TelemetryCSVAdapter where
  defaultMeterId : Option UUID := none
  defaultSiteId : Option UUID := none
  defaultEnergyAssetId : Option UUID := none
  defaultIntervalMinutes : ℤ := 15
  sourceName : String := "csv_simulator"
  strict : Bool := true
deriving DecidableEq, Repr

/-- `timedelta(minutes=minutes)`. -/
def timedeltaMinutes (minutes : ℤ) : Except RowError ℤ :=
  let days := minutes / 1440
  if days.natAbs ≤ 999999999 then .ok (60000000 * minutes)
  else .error (.unexpected s!"days={days}; must have magnitude <= 999999999")

def addTimedelta (instant : Instant) (length : ℤ) : Except RowError Instant :=
  if inDatetimeRange (instant + length) then .ok (instant + length) else .error dateOutOfRange

/-- A timestamp cell that may be missing or empty: what to take instead is
computed only then. -/
def parseOptionalTimestamp (rawValue : Option String) (lineNum : ℕ)
    (otherwise : Except RowError Instant) : Except RowError Instant :=
  match rawValue.filter (· ≠ "") with
  | some raw => parseTimestamp raw lineNum
  | none => otherwise

/-- `_parse_decimal(raw, default=Decimal("0.0")) or Decimal("0.0")`. -/
def parsePower (rawValue : Option String) (fieldName : String) (lineNum : ℕ) :
    Except RowError Decimal := do
  let parsed ← parseDecimal rawValue fieldName lineNum (some zeroDecimal) false true
  .ok ((parsed.filter fun value => value.toRat ≠ 0).getD zeroDecimal)

/-- `left - right` of decimals. -/
def decimalSub (left right : ℚ) : Except RowError ℚ :=
  if Overflows (left - right) then .error (.unexpected "[<class 'decimal.Overflow'>]")
  else .ok (contextRound (left - right))

/-- Grid import and export: as given where either cell reached the row, else by
the physical balance. -/
def gridFlows (rawImport rawExport : Option String) (genKw loadKw : ℚ) (lineNum : ℕ) :
    Except RowError (ℚ × ℚ) :=
  if rawImport ≠ none ∨ rawExport ≠ none then do
    let gridImportKw ← parsePower rawImport "grid_import_kw" lineNum
    let gridExportKw ← parsePower rawExport "grid_export_kw" lineNum
    .ok (gridImportKw.toRat, gridExportKw.toRat)
  else do
    let netDemand ← decimalSub loadKw genKw
    if 0 ≤ netDemand then .ok (netDemand, 0) else .ok (0, contextRound |netDemand|)

/-- A state of charge, which is at most 100 percent. -/
def parseSoc (rawSoc : Option String) (lineNum : ℕ) : Except RowError (Option Decimal) := do
  let batterySoc ← parseDecimal rawSoc "battery_soc" lineNum none true true
  match batterySoc with
  | none => .ok none
  | some soc =>
      if 0 ≤ soc.toRat ∧ soc.toRat ≤ 100 then .ok (some soc)
      else
        let shown := soc.str
        refuse s!"battery_soc must be between 0.0 and 100.0, got: {shown}" lineNum "battery_soc"
          (some (.number soc))

/-- The timestamp cell, which must be there. -/
def parseRequiredTimestamp (rawTs : Option String) (tsCol : String) (lineNum : ℕ) :
    Except RowError Instant :=
  match rawTs.filter (· ≠ "") with
  | none =>
      .error (.validation { message := s!"Missing timestamp in column '{tsCol}'"
                            lineNumber := some lineNum, fieldName := some "timestamp" })
  | some raw => parseTimestamp raw lineNum

/-- `_parse_row`. -/
def parseRow (adapter : TelemetryCSVAdapter) (columns : Columns) (row : Row) (lineNum : ℕ) :
    Except RowError NormalizedReading := do
  let ts ← parseRequiredTimestamp (row.get (some columns.tsCol)) columns.tsCol lineNum
  let intervalStart ← parseOptionalTimestamp (row.get columns.intStartCol) lineNum (.ok ts)
  let intervalEnd ← parseOptionalTimestamp (row.get columns.intEndCol) lineNum
    (timedeltaMinutes adapter.defaultIntervalMinutes >>= addTimedelta intervalStart)
  if intervalEnd ≤ intervalStart then
    let endText := AwareDatetime.isoformat ⟨intervalEnd, 0⟩
    let startText := AwareDatetime.isoformat ⟨intervalStart, 0⟩
    .error (.validation
      { message := s!"interval_end ({endText}) must be strictly after interval_start ({startText})"
        lineNumber := some lineNum, fieldName := some "interval_end" })
  else
    let parsedMeter ← parseUuid (row.get columns.meterCol) "meter_id" lineNum adapter.defaultMeterId
      false
    let meterId ← parsedMeter.elim (.error (.unexpected "")) .ok
    let assetId ← parseUuid (row.get columns.assetCol) "energy_asset_id" lineNum
      adapter.defaultEnergyAssetId true
    let genKw ← parsePower (row.get columns.genCol) "generation_kw" lineNum
    let loadKw ← parsePower (row.get columns.loadCol) "load_kw" lineNum
    let (gridImportKw, gridExportKw) ← gridFlows (row.get columns.importCol)
      (row.get columns.exportCol) genKw.toRat loadKw.toRat lineNum
    let energyKwh ← parseDecimal (row.get columns.energyCol) "energy_kwh" lineNum none true true
    let batterySoc ← parseSoc (row.get columns.socCol) lineNum
    .ok { meterId := meterId
          energyAssetId := assetId
          timestamp := ts
          intervalStart := intervalStart
          intervalEnd := intervalEnd
          generationKw := some genKw.toRat
          loadKw := some loadKw.toRat
          gridImportKw := some gridImportKw
          gridExportKw := some gridExportKw
          energyKwh := energyKwh.map Decimal.toRat
          batterySoc := batterySoc.map Decimal.toRat
          source := .imported }

/-! ## Streams -/

/-- What the CSV reader yields: its records, and the error that ends them. -/
structure CsvStream where
  records : List (List String)
  csvError : Option String := none
deriving DecidableEq, Repr

/-- `NormalizedTelemetryBatch`. -/
structure NormalizedTelemetryBatch where
  sourceName : String
  readings : List NormalizedReading := []
  totalRecords : ℕ := 0
  errors : List String := []
deriving DecidableEq, Repr

def resolveColumns (fieldnames : List String) : Except AdapterError Columns :=
  if fieldnames = [] then
    .error (.validation { message := "CSV contains no valid headers" })
  else
    let find := fun key => findColumn key (headerMap fieldnames)
    match find .timestamp with
    | none =>
        let shown := ", ".intercalate (fieldnames.map reprText)
        .error (.validation
          { message := s!"Missing required timestamp column. Available headers: [{shown}]" })
    | some tsCol =>
        .ok { tsCol := tsCol
              intStartCol := find .intervalStart
              intEndCol := find .intervalEnd
              meterCol := find .meterId
              siteCol := find .siteId
              assetCol := find .energyAssetId
              genCol := find .generationKw
              loadCol := find .loadKw
              importCol := find .gridImportKw
              exportCol := find .gridExportKw
              energyCol := find .energyKwh
              voltCol := find .voltagePu
              socCol := find .batterySoc }

/-- The data rows with their line numbers. Empty records are not counted. -/
def dataRows (fieldnames : List String) (records : List (List String)) : List (Row × ℕ) :=
  ((records.filter (· ≠ [])).map (dictRow fieldnames)).zipIdx 2

/-- What a row adds to the batch. -/
def rowStep (adapter : TelemetryCSVAdapter) (columns : Columns) (batch : NormalizedTelemetryBatch)
    (line : Row × ℕ) : Except AdapterError NormalizedTelemetryBatch :=
  if line.1.anyValue = false then .ok batch
  else
    let counted := { batch with totalRecords := batch.totalRecords + 1 }
    let lineIdx := line.2
    match parseRow adapter columns line.1 line.2 with
    | .ok reading => .ok { counted with readings := batch.readings ++ [reading] }
    | .error (.validation error) =>
        if adapter.strict then .error (.validation error)
        else
          let message := error.message
          .ok { counted with errors := batch.errors ++ [s!"Line {lineIdx}: {message}"] }
    | .error (.unexpected message) =>
        if adapter.strict then
          .error (.validation { message := s!"Unexpected parsing error: {message}"
                                lineNumber := some line.2 })
        else
          .ok { counted with
                errors := batch.errors ++ [s!"Line {lineIdx}: Unexpected error - {message}"] }

def raiseCsvError (csvError : Option String) : Except AdapterError PUnit :=
  match csvError with
  | some message => .error (.parse s!"Malformed CSV syntax: {message}")
  | none => .ok ⟨⟩

/-- `parse_stream`. -/
def parseStream (adapter : TelemetryCSVAdapter) (stream : CsvStream) (sourceName : Option String) :
    Except AdapterError NormalizedTelemetryBatch :=
  let actualSource := (sourceName.filter (· ≠ "")).getD adapter.sourceName
  match stream.records with
  | [] => do
      raiseCsvError stream.csvError
      .error (.validation { message := "CSV input is empty or has no header row" })
  | fieldnames :: records => do
      let columns ← resolveColumns fieldnames
      let batch ← (dataRows fieldnames records).foldlM (rowStep adapter columns)
        { sourceName := actualSource }
      raiseCsvError stream.csvError
      if batch.totalRecords = 0 ∧ batch.readings = [] then
        .error (.validation { message := "CSV input contains no data rows" })
      else .ok batch

end UrjaSetu.Adapters.CsvAdapter
