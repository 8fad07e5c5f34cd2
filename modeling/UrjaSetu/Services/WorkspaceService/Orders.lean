import UrjaSetu.Services.WorkspaceService.Session

/-!
Forecasts and orders of `app/services/workspace_service.py`: `forecast`,
`prediction`, `place_order` and `cancel_order`.

A query without an ORDER BY returns rows in insertion order here; nothing proved
depends on it.
-/

namespace UrjaSetu.Services.WorkspaceService

open UrjaSetu.Domain UrjaSetu.Domain.Interfaces UrjaSetu.Db UrjaSetu.Db.Models UrjaSetu.Library
open UrjaSetu.Domain.Policies.CommunityEnergy UrjaSetu.Adapters

/-! ## Forecasts -/

/-- Whether `site` has a point of a run whose horizon starts at `horizon`. -/
def hasForecast (db : Database) (site : Site) (horizon : Instant) : Bool :=
  db.forecastPoints.rows.any fun point => point.siteId = site.id &&
    db.forecastRuns.rows.any fun run =>
      run.id = point.forecastRunId && run.horizonStart = horizon

/-- The site's readings of the eight days before `clock`. -/
def observations (db : Database) (site : Site) (clock : Instant) :
    List HistoricalObservation :=
  let meters := (db.community.meters.filter fun meter => meter.siteId = site.id).map Meter.id
  (db.readings.where_ fun reading => reading.meterId ∈ meters && reading.intervalEnd ≤ clock &&
    clock - 8 * DAY ≤ reading.intervalStart).map fun reading =>
      { intervalStart := reading.intervalStart, intervalEnd := reading.intervalEnd
        generationKw := reading.generationKw, loadKw := reading.loadKw }

/-- The stored row of one predicted interval. -/
def forecastPoint (runId siteId : UUID) (point : Interfaces.ForecastPoint) : Models.ForecastPoint where
  forecastRunId := runId
  siteId := siteId
  intervalStart := point.intervalStart
  intervalEnd := point.intervalEnd
  predictedKw := point.predictedKw
  predictedKwh := point.predictedKwh
  confidence := point.confidence
  lowerBound := point.lowerBound
  upperBound := point.upperBound

/-- INSERT of one run with its points. -/
def insertForecast (run : ForecastRun) (points : List Models.ForecastPoint) (db : Database) :
    Except Failure Database :=
  points.foldlM (fun db point => Relations.forecastPoints.insert point db) db >>=
    Relations.forecastRuns.insert run

/-- `forecast(db, site, sim)`. -/
def forecast (engines : Engines) (site : Site) (sim : Simulation) : Call Unit := do
  let horizon := tomorrow sim.clock
  let existing ← Work.query fun db => hasForecast db site horizon
  if existing then pure ()
  else
    let history ← Work.query fun db => observations db site sim.clock
    let points (kind : ForecastType) := Baseline.predict engines.pointRule
      { siteId := site.id
        forecastType := kind
        horizonStart := horizon
        horizonEnd := horizon + DAY
        interval := INTERVAL
        history := history }
    let solarId ← uuid4
    let loadId ← uuid4
    let createdAt ← serverNow
    Work.execute fun db =>
      insertForecast ⟨solarId, .solar, horizon, horizon + DAY, createdAt, .completed,
            Baseline.DEFAULT_NAME, Baseline.DEFAULT_MODEL_VERSION, none⟩
          ((points .solar).map (forecastPoint solarId site.id)) db >>=
        insertForecast ⟨loadId, .load, horizon, horizon + DAY, createdAt, .completed,
            Baseline.DEFAULT_NAME, Baseline.DEFAULT_MODEL_VERSION, none⟩
          ((points .load).map (forecastPoint loadId site.id))

/-- The points of one interval with their runs, the newest run first. -/
def predictionRows (db : Database) (siteId : UUID) (start : Instant) :
    List (Models.ForecastPoint × ForecastRun) :=
  sortBy (fun row => -row.2.createdAt)
    ((db.forecastPoints.where_ fun point => point.siteId = siteId && point.intervalStart = start
      ).filterMap fun point => (db.forecastRuns.find? fun run => run.id = point.forecastRunId).map
        fun run => (point, run))

/-- `found[kind]` after the `setdefault` loop. -/
def newestPoint (db : Database) (siteId : UUID) (start : Instant) (kind : ForecastType) :
    Option Models.ForecastPoint :=
  ((predictionRows db siteId start).find? fun row => row.2.forecastType = kind).map Prod.fst

/-- The two points `prediction` returns. -/
structure Basis where
  solar : Models.ForecastPoint
  load : Models.ForecastPoint

/-- `prediction(db, site_id, start)` where it returns. -/
def prediction? (db : Database) (siteId : UUID) (start : Instant) : Option Basis :=
  match newestPoint db siteId start .solar, newestPoint db siteId start .load with
  | some solar, some load => some ⟨solar, load⟩
  | _, _ => none

/-- `prediction(db, site_id, start)`. -/
def prediction (siteId : UUID) (start : Instant) : Call Basis := do
  let found ← Work.read fun db => prediction? db siteId start
  orHttp found 409 "No complete forecast for that interval. Choose an available slot."

/-! ## Orders -/

/-- What an order counts against the surplus: what it has matched, and what it
may still match. -/
def reservedKwh (order : Order) : ℚ :=
  order.matchedKwh + if order.status.isActive then order.remainingKwh else 0

/-- The site's sell orders of one interval. -/
def sellOrders (db : Database) (siteId : UUID) (start : Instant) : List Order :=
  db.orders.where_ fun order =>
    order.siteId = siteId && order.deliveryStart = start && order.side = .sell

def reserved (db : Database) (siteId : UUID) (start : Instant) : ℚ :=
  ((sellOrders db siteId start).map reservedKwh).sum

/-- The forecast surplus of one interval, where both energies are predicted. -/
def surplus (basis : Basis) : Option ℚ :=
  match basis.solar.predictedKwh, basis.load.predictedKwh with
  | some solarKwh, some loadKwh => some (max 0 (solarKwh - loadKwh))
  | _, _ => none

/-- The session of a market date, opened at the first order. -/
def marketSession (day : ℤ) (openedAt : Instant) : Call MarketSession := do
  let found ← Work.read fun db => db.marketSessions.find? fun session => session.marketDate = day
  match found with
  | some session => pure session
  | none => do
      let sessionId ← uuid4
      let session : MarketSession := { id := sessionId, marketDate := day, marketType := .dayAhead, status := .open, openedAt := some openedAt }
      Work.execute (Relations.marketSessions.insert session)
      pure session

/-- A decimal of a request body: `Field(gt=0, le=limit, decimal_places=4)`. -/
structure Amount (limit : ℚ) where
  value : Decimal
  positive : 0 < value.toRat
  bounded : value.toRat ≤ limit
  onGrid : Rounding.OnGrid 4 value.toRat

def Amount.toRat {limit : ℚ} (amount : Amount limit) : ℚ := amount.value.toRat

/-- `OrderInput.quantity` and `Acceptance.quantity`, in kWh. -/
abbrev QuantityInput := Amount 10

/-- `OrderInput.price` and `Acceptance.price`, in INR per kWh. -/
abbrev PriceInput := Amount 30

/-- `place_order`. An amount of a request is stored as it is. -/
def placeOrder (engines : Engines) (user : User) (start : Instant) (side : OrderSide)
    (quantity : QuantityInput) (price : PriceInput) (commit : Bool) : Call Order := do
  let sim ← state
  require (start % INTERVAL = 0) 422 "Choose a 15-minute delivery boundary."
  require (localDate start = localDate sim.clock + 1) 422
    "Select an available delivery slot for tomorrow (IST)."
  let site ← Work.read fun db => db.community.sites.find? fun site => site.ownerUserId = user.id
  let site ← orHttp (site.filter fun _ => side ≠ .sell || user.role = .prosumer) 403
    "This account cannot place that order."
  let basis ← prediction site.id start
  let available ← orHttp (surplus basis) 409 "The forecast is missing interval energy."
  let held ← Work.read fun db => reserved db site.id start
  require (side ≠ .sell || quantity.toRat ≤ available - held) 409
    ("Only " ++ fourPlaces (max 0 (available - held)) ++ " kWh remains after reservations.")
  let market ← marketSession (localDate start) sim.clock
  let orderId ← uuid4
  let createdAt ← serverNow
  let order : Order :=
    { id := orderId
      marketSessionId := market.id
      userId := user.id
      siteId := site.id
      nodeId := site.gridNodeId
      side := side
      energyKwh := quantity.toRat
      minPriceInrPerKwh := if side = .sell then some price.toRat else none
      maxPriceInrPerKwh := if side = .buy then some price.toRat else none
      deliveryStart := start
      deliveryEnd := start + INTERVAL
      forecastBasisId := if side = .sell then some basis.solar.forecastRunId else none
      status := .open
      matchedKwh := 0
      createdAt := createdAt }
  Work.execute (Relations.orders.insert order)
  addAudit engines .orderPlaced .order order.id
    [("side", .str side.value), ("energy_kwh", .str quantity.value.str),
      ("limit_price", .str price.value.str), ("source", .str "simulation")] (some user.id)
  bump
  finish commit
  pure order

/-- `cancel_order`. -/
def cancelOrder (engines : Engines) (user : User) (orderId : UUID) : Call Unit := do
  let _ ← state
  let order ← Work.read fun db => db.orders.find? fun order => order.id = orderId
  let order ← orHttp (order.filter fun order => order.userId = user.id) 404 "Order not found."
  require (order.status = .open && order.matchedKwh = 0) 409
    "Only an unfilled open order can be cancelled."
  Work.execute (Relations.orders.modify (fun row => row.id = order.id)
    fun row => { row with status := .cancelled })
  addAudit engines .orderCancelled .order order.id [] (some user.id)
  bump
  Work.commit

end UrjaSetu.Services.WorkspaceService
