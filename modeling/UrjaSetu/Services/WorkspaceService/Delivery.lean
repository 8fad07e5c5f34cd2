import UrjaSetu.Library.DecimalContext
import UrjaSetu.Library.JsonAscii
import UrjaSetu.Services.WorkspaceService.Clock
import UrjaSetu.Services.WorkspaceService.Orders

/-!
Delivery in `app/services/workspace_service.py`: simulated readings, the
reconciliation and settlement of trades that are due, `advance` and
`recover_missing`, with `experience_service.tick`.

The session does not autoflush, so a query sees what was executed and not what
is pending.

Owns: what a due trade is given, the rows that are written of it, and the
operations that reconcile.
-/

namespace UrjaSetu.Services.WorkspaceService

open UrjaSetu.Domain UrjaSetu.Domain.Interfaces UrjaSetu.Db UrjaSetu.Db.Models UrjaSetu.Library
open UrjaSetu.Domain.Policies.CommunityEnergy UrjaSetu.Library.Rounding
open UrjaSetu.Library.DecimalContext

/-! ## Readings -/

/-- `reading_profile`. -/
def readingProfile (engines : Engines) (moment : Instant) (cap : ℚ)
    (household : Option HouseholdProfile) (scenario : Scenario) : IntervalData :=
  match household with
  | some household =>
      let powers := engines.householdPower moment cap household.settings household.userId scenario
      interval powers.1 powers.2.1 powers.2.2
  | none =>
      let powers := engines.communityPower moment cap (cap = 0) scenario
      profile powers.1 powers.2

/-- The row of a simulated interval. -/
def simulatedReading (id meterId : UUID) (moment : Instant) (data : IntervalData) :
    TelemetryReading where
  id := id
  meterId := meterId
  energyAssetId := none
  timestamp := moment + INTERVAL
  intervalStart := moment
  intervalEnd := moment + INTERVAL
  generationKw := some data.generationKw
  loadKw := some data.loadKw
  gridImportKw := some data.gridImportKw
  gridExportKw := some data.gridExportKw
  energyKwh := some data.loadKwh
  generationKwh := some data.generationKwh
  loadKwh := some data.loadKwh
  gridImportKwh := some data.gridImportKwh
  gridExportKwh := some data.gridExportKwh
  batterySoc := none
  qualityStatus := .valid
  source := .simulator

def siteMeter (siteId : UUID) (db : Database) : Option Meter :=
  db.community.meters.find? fun meter => meter.siteId = siteId

def siteHousehold (site : Site) (db : Database) : Option HouseholdProfile :=
  db.community.households.find? fun household => household.userId = site.ownerUserId

/-- The meter's reading of an interval that starts at `moment`. -/
def readingAt (meterId : UUID) (moment : Instant) (db : Database) : Option TelemetryReading :=
  db.readings.find? fun reading => reading.meterId = meterId && reading.intervalStart = moment

/-- Simulate one interval of a site and add its reading. -/
def simulate (engines : Engines) (site : Site) (meter : Meter) (moment : Instant)
    (scenario : Scenario) : Call TelemetryReading := do
  let cap ← Work.query fun db => capacity db site
  let household ← Work.query (siteHousehold site)
  let id ← uuid4
  let reading := simulatedReading id meter.id moment
    (readingProfile engines moment cap household scenario)
  Work.add (Relations.readings.insert reading.asStored)
  pure reading

/-- `add_reading`. -/
def addReading (engines : Engines) (site : Site) (moment : Instant)
    (scenario : Scenario := .normal) : Call (Option TelemetryReading) := do
  let found ← Work.query (siteMeter site.id)
  let meter ← orHttp found 409 "Site has no configured meter."
  let previous ← Work.query (readingAt meter.id moment)
  match previous with
  | some reading => pure (some reading)
  | none =>
      if scenario = .missing then pure none
      else do
        let reading ← simulate engines site meter moment scenario
        pure (some reading)

/-- `add_readings`. -/
def addReadings (engines : Engines) (site : Site) (moments : List Instant)
    (scenario : Scenario := .normal) : Call Unit :=
  if moments = [] ∨ scenario = .missing then pure ()
  else do
    let found ← Work.query (siteMeter site.id)
    let meter ← orHttp found 409 "Site has no configured meter."
    let existing ← Work.query fun db => (db.readings.where_ fun reading =>
      reading.meterId = meter.id && reading.intervalStart ∈ moments).map
        TelemetryReading.intervalStart
    Work.forItems moments fun moment =>
      if moment ∈ existing then pure ()
      else do
        let _ ← simulate engines site meter moment scenario
        pure ()

/-! ## Deliveries -/

/-- `Trade.status == COMMITTED, Trade.delivery_end <= clock`. -/
def isDue (clock : Instant) (trade : Trade) : Bool :=
  trade.status = .committed && trade.deliveryEnd ≤ clock

def dueTrades (clock : Instant) (db : Database) : List Trade := db.trades.where_ (isDue clock)

/-- The order in which due trades share readings. -/
def deliveryOrder (trade : Trade) : Instant ×ₗ Instant ×ₗ UUID :=
  toLex (trade.deliveryStart, toLex (trade.createdAt, trade.id))

/-- A valid reading, and what it has left for a trade. -/
structure Measured where
  reading : TelemetryReading
  kwh : ℚ
deriving DecidableEq, Repr

/-- What earlier trades were given of a reading. -/
def usedKwh (fk : TradeAllocation → UUID) (readingId : UUID) (db : Database) : ℚ :=
  ((db.allocations.where_ fun allocation => fk allocation = readingId).map
    TradeAllocation.energyKwh).sum

/-- The reading of one side of a trade: of the order's site, over the delivery
interval, with a value of its channel. -/
def measured (trade : Trade) (order : Order) (channel : TelemetryReading → Option ℚ)
    (fk : TradeAllocation → UUID) (db : Database) : Option Measured := do
  let meter ← siteMeter order.siteId db
  let reading ← db.readings.find? fun reading => reading.meterId = meter.id &&
    reading.intervalStart = trade.deliveryStart && reading.intervalEnd = trade.deliveryEnd &&
      reading.qualityStatus = .valid
  let kwh ← channel reading
  return ⟨reading, max 0 (kwh - usedKwh fk reading.id db)⟩

def sellerMeasured (trade : Trade) (sell : Order) : Database → Option Measured :=
  measured trade sell TelemetryReading.gridExportKwh TradeAllocation.sellerReadingId

def buyerMeasured (trade : Trade) (buy : Order) : Database → Option Measured :=
  measured trade buy TelemetryReading.gridImportKwh TradeAllocation.buyerReadingId

/-- `delivered`: the quantity, capped by what both readings have left. -/
def deliveredKwh (trade : Trade) (seller buyer : Measured) : ℚ :=
  quantize down 4 (min (min trade.quantityKwh seller.kwh) buyer.kwh)

/-- `gross`, rounded by the default context. -/
def grossInr (delivered finalPrice : ℚ) : ℚ :=
  quantize halfEven 2 (contextRound (delivered * finalPrice))

def allocationOf (trade : Trade) (seller buyer : Measured) (delivered : ℚ) : TradeAllocation where
  tradeId := trade.id
  sellerReadingId := seller.reading.id
  buyerReadingId := buyer.reading.id
  energyKwh := delivered

def reconciliationOf (id : UUID) (createdAt : Instant) (trade : Trade) (delivered : ℚ) :
    MeterReconciliation where
  id := id
  tradeId := trade.id
  committedKwh := trade.quantityKwh
  actualKwh := some delivered
  deviationKwh := some (delivered - trade.quantityKwh)
  withinTolerance := |delivered - trade.quantityKwh| ≤ trade.quantityKwh * (5 / 100)
  balancingKwh := -(delivered - trade.quantityKwh)
  reconciliationStatus := .reconciled
  reason := some ("Synthetic bidirectional readings; chronological allocation capped by " ++
    "seller export and buyer import. Shortfall remains with utility; no invented penalty.")
  createdAt := createdAt

def settlementOf (id : UUID) (trade : Trade) (buy sell : Order) (delivered finalPrice : ℚ)
    (clock : Instant) : Settlement where
  id := id
  tradeId := trade.id
  buyerUserId := buy.userId
  sellerUserId := sell.userId
  settledKwh := delivered
  grossAmountInr := grossInr delivered finalPrice
  platformFeeInr := 0
  balancingChargeInr := 0
  sellerCreditInr := grossInr delivered finalPrice
  buyerDebitInr := grossInr delivered finalPrice
  status := .settled
  settledAt := clock

def buyerPosting (settlement : Settlement) : JournalEntry :=
  ⟨settlement.id, uuidText settlement.buyerUserId, -settlement.grossAmountInr⟩

def sellerPosting (settlement : Settlement) : JournalEntry :=
  ⟨settlement.id, uuidText settlement.sellerUserId, settlement.grossAmountInr⟩

/-- The two postings of a settlement. -/
def postings (settlement : Settlement) : List JournalEntry :=
  [buyerPosting settlement, sellerPosting settlement]

def receiptPayload (trade : Trade) (settlement : Settlement) (price : PriceComponents)
    (grid : GridValidationRun) : Json :=
  .obj [("schema", .str "urjasetu-receipt-1"), ("trade_id", .str (uuidText trade.id)),
    ("settlement_id", .str (uuidText settlement.id)),
    ("agreed_kwh", .str (columnText 4 trade.quantityKwh)),
    ("delivered_kwh", .str (columnText 4 settlement.settledKwh)),
    ("price_inr_per_kwh", .str (columnText 4 price.finalPrice)),
    ("gross_inr", .str (columnText 2 settlement.grossAmountInr)),
    ("delivery_start", .str (Calendar.AwareDatetime.isoformat ⟨trade.deliveryStart, 0⟩)),
    ("grid_input_hash", .str grid.inputHash), ("source", .str "synthetic"),
    ("model_version", .str VERSION)]

def receiptOf (engines : Engines) (trade : Trade) (settlement : Settlement)
    (price : PriceComponents) (grid : GridValidationRun) : Receipt :=
  let payload := receiptPayload trade settlement price grid
  { tradeId := trade.id
    payload
    payloadHash := engines.sha256 (payload.orderKeys id).dumpsAscii
    status := "pending" }

/-- The loop body of `reconcile_due` where both sides were measured. -/
def settleDelivery (engines : Engines) (sim : Simulation) (trade : Trade) (buy sell : Order)
    (seller buyer : Measured) : Call Unit := do
  let delivered := deliveredKwh trade seller buyer
  Work.add (Relations.allocations.insert (allocationOf trade seller buyer delivered))
  let reconciliationId ← uuid4
  let createdAt ← serverNow
  Work.add (Relations.reconciliations.insert
    (reconciliationOf reconciliationId createdAt trade delivered).asStored)
  let price ← Work.query fun db => db.prices.find? fun price => price.tradeId = trade.id
  let grid ← Work.query fun db => db.gridRuns.find? fun run => trade.gridValidationId = some run.id
  match price, grid with
  | some price, some grid => do
      let settlementId ← uuid4
      let settlement := settlementOf settlementId trade buy sell delivered price.finalPrice sim.clock
      Work.add (Relations.settlements.insert settlement.asStored)
      Work.flush
      Work.forItems (postings settlement) fun entry => Work.add (Relations.journal.insert entry)
      Work.add (Relations.trades.modify (fun row => row.id = trade.id)
        fun row => { row with status := .settled })
      let receipt := receiptOf engines trade settlement price grid
      Work.add (Relations.receipts.insert receipt)
      Work.flush
      addAudit engines .tradeSettled .trade trade.id
        [("delivered_kwh", .str (columnText 4 delivered)),
          ("gross_inr", .str (columnText 2 settlement.grossAmountInr)),
          ("receipt_hash", .str receipt.payloadHash)]
  | _, _ => httpError 409 "Trade price or grid evidence is missing."

/-- The loop body of `reconcile_due`. A trade that is not measured stays due. -/
def deliver (engines : Engines) (sim : Simulation) (trade : Trade) : Call Unit := do
  let buy ← Work.query fun db => db.orders.find? fun order => order.id = trade.buyOrderId
  let sell ← Work.query fun db => db.orders.find? fun order => order.id = trade.sellOrderId
  match buy, sell with
  | some buy, some sell => do
      let seller ← Work.query (sellerMeasured trade sell)
      let buyer ← Work.query (buyerMeasured trade buy)
      match seller, buyer with
      | some seller, some buyer => settleDelivery engines sim trade buy sell seller buyer
      | _, _ => pure ()
  | _, _ => httpError 409 "Trade order evidence is missing."

/-- `reconcile_due`. -/
def reconcileDue (engines : Engines) (sim : Simulation) : Call Unit := do
  let due ← Work.query (dueTrades sim.clock)
  Work.forItems (sortBy deliveryOrder due) (deliver engines sim)

/-! ## Operations -/

/-- What is left of `advance` once the target is known. -/
def moveTo (engines : Engines) (sim : Simulation) (target : Instant) : Call Simulation := do
  require (target ≤ sim.clock + 2 * DAY) 422 "Advance at most two simulation days at a time."
  let allSites ← Work.query sites
  let passed := passTo sim.clock target
  let moved := { sim with clock := passed.2 }
  Work.forItems allSites fun site => addReadings engines site passed.1 sim.scenario
  Work.add fun db => .ok { db with simulation := moved }
  Work.flush
  reconcileDue engines moved
  Work.forItems allSites fun site => forecast engines site moved
  bump
  Work.commit
  state

/-- `advance`. -/
def advance (engines : Engines) (intervals : ℕ) (deliver : Bool) : Call Simulation := do
  let sim ← state
  if deliver then do
    let due ← Work.query fun db => (db.trades.where_ fun trade => trade.status = .committed).map
      Trade.deliveryEnd
    let target ← orHttp (largest id due) 409 "No committed trades await delivery."
    moveTo engines sim target
  else moveTo engines sim (sim.clock + INTERVAL * intervals)

/-- `experience_service.tick`, at this reading of the wall clock. -/
def tick (engines : Engines) : Call Unit := do
  let sim ← state
  let now ← utcNow
  let end_ := floorTime now 900
  let start := min end_ (max sim.clock (end_ - 30 * DAY))
  let moments := (List.range ((end_ - start).tdiv INTERVAL).toNat).map fun (index : ℕ) =>
    start + INTERVAL * index
  let allSites ← Work.query sites
  Work.forItems allSites fun site => addReadings engines site moments
  let moved := { sim with clock := end_ }
  Work.add fun db => .ok { db with simulation := moved }
  Work.flush
  reconcileDue engines moved
  if moments ≠ [] then Work.forItems allSites fun site => forecast engines site moved
  else pure ()
  bump
  Work.commit

/-- The reading that a side of a due trade may lack. -/
def replayReading (engines : Engines) (moment : Instant) (orderId : UUID) : Call Unit := do
  let order ← Work.query fun db => db.orders.find? fun order => order.id = orderId
  let site ← Work.query fun db => order.bind fun order =>
    db.community.sites.find? fun site => site.id = order.siteId
  match site with
  | some site => do
      let _ ← addReading engines site moment
      pure ()
  | none => pure ()

/-- The loop of `recover_missing`, and its flush. -/
def replayMissing (engines : Engines) (sim : Simulation) : Call Unit := do
  let due ← Work.query (dueTrades sim.clock)
  Work.forItems due fun trade => Work.forItems [trade.buyOrderId, trade.sellOrderId]
    (replayReading engines trade.deliveryStart)
  Work.flush

/-- `recover_missing`. -/
def recoverMissing (engines : Engines) : Call Unit := do
  let sim ← state
  replayMissing engines sim
  reconcileDue engines sim
  bump
  Work.commit

/-! ## Two households -/

/-- Engines under which nothing is generated and nothing drawn, with one hash for
everything: enough for one event. -/
def idleEngines : Engines where
  sha256 := fun _ => "hash"
  grid := ⟨"power_grid_model", "test", fun _ => .error "SolverError"⟩
  requestRepr := fun _ => ""
  pointRule := fun _ _ _ => ⟨none, none, none, none, none⟩
  communityPower := fun _ _ _ _ => (0, 0)
  householdPower := fun _ _ _ _ _ => (0, 0, 0)

/-- An order of the first quarter of an hour. -/
def quarterOrder (id userId siteId : UUID) (side : OrderSide) : Order where
  id := id
  marketSessionId := 100
  userId := userId
  siteId := siteId
  nodeId := none
  side := side
  energyKwh := 5
  minPriceInrPerKwh := some 0
  maxPriceInrPerKwh := some 9
  deliveryStart := 0
  deliveryEnd := INTERVAL
  forecastBasisId := none
  status := .filled
  matchedKwh := 5
  createdAt := 0

/-- A committed trade between the two orders. -/
def quarterTrade (id : UUID) (fillSequence : ℤ) (quantityKwh : ℚ) : Trade where
  id := id
  fillSequence := fillSequence
  buyOrderId := 32
  sellOrderId := 31
  quantityKwh := quantityKwh
  clearingPriceInrPerKwh := 5
  deliveryStart := 0
  deliveryEnd := INTERVAL
  gridValidationId := some 51
  status := .committed
  committedAt := some 0
  matchingEngine := none
  matchingEngineVersion := none
  createdAt := 0

def flatPrice (id tradeId : UUID) (price : ℚ) : PriceComponents where
  id := id
  tradeId := tradeId
  baseMarketPrice := price
  timeComponent := 0
  congestionComponent := 0
  imbalanceComponent := 0
  localRenewableComponent := 0
  finalPrice := price
  formulaVersion := "1.0.0"
  createdAt := 0

def quarterReading (id meterId : UUID) (importKw exportKw : ℚ) : TelemetryReading :=
  simulatedReading id meterId 0 (quarterHour 0 0 importKw exportKw)

/-- The seller exports at 4 kW and the buyer imports at 8 kW. -/
def quarterReadings : Table telemetryReadings :=
  ⟨[quarterReading 71 61 0 4, quarterReading 72 62 8 0], by decide +kernel, by decide +kernel⟩

/-- One trade of a kilowatt-hour. -/
def quarterTrades : Table Models.trades :=
  ⟨[quarterTrade 41 1 1], by decide +kernel, by decide +kernel⟩

/-- It is priced at five. -/
def quarterPrices : Table priceComponents :=
  ⟨[flatPrice 81 41 5], by decide +kernel, by decide +kernel⟩

/-- A seller at site 21 and a buyer at site 22, a quarter of an hour after the
trades between them were to be delivered. -/
def twoHouseholds (readings : Table telemetryReadings) (trades : Table Models.trades)
    (prices : Table priceComponents) : Database :=
  { Database.initial ⟨INTERVAL, false, .normal, 0, "", false⟩
      ⟨[], [⟨21, 11, none⟩, ⟨22, 12, none⟩], [⟨61, 21⟩, ⟨62, 22⟩], [], []⟩ with
    readings
    trades
    prices
    orders := ⟨[quarterOrder 31 11 21 .sell, quarterOrder 32 12 22 .buy], by decide +kernel,
      by decide +kernel⟩
    gridRuns := ⟨[⟨51, none, none, "test", none, "hash", .safe, none, none, none, none, .accept,
      none, 0⟩], by decide, by decide⟩ }

/-- What a transaction is given: identifiers and moments in order. -/
def countingOutside (first : ℕ) : Outside where
  identifiers := fun index => Fin.ofNat (2 ^ 128) (first + index)
  moments := fun index => first + index
  transactionStart := first

end UrjaSetu.Services.WorkspaceService
