import UrjaSetu.Library.Json
import UrjaSetu.Db.Models.Telemetry

/-!
The simulation row and the delivery evidence of `app/db/models/workspace.py`,
with the reconciliations and settlements of `settlement.py`.
-/

namespace UrjaSetu.Db.Models

open UrjaSetu.Domain UrjaSetu.Library

inductive Scenario where
  | normal
  | cloudy
  | congestion
  | missing
deriving DecidableEq, Repr

/-- The one row of `simulation_state`. The weather column is kept as the text of
its JSON document. -/
structure Simulation where
  clock : Instant
  running : Bool
  scenario : Scenario
  revision : ℕ
  weather : String
  liveMode : Bool
deriving DecidableEq, Repr

/-- The stored row after an UPDATE of the columns that differ between `loaded`
and `current`. -/
def Simulation.update (loaded current stored : Simulation) : Simulation where
  clock := if current.clock = loaded.clock then stored.clock else current.clock
  running := if current.running = loaded.running then stored.running else current.running
  scenario := if current.scenario = loaded.scenario then stored.scenario else current.scenario
  revision := if current.revision = loaded.revision then stored.revision else current.revision
  weather := if current.weather = loaded.weather then stored.weather else current.weather
  liveMode := if current.liveMode = loaded.liveMode then stored.liveMode else current.liveMode

/-- On an unchanged stored row an UPDATE of the changed columns writes the whole
of `current`. -/
theorem Simulation.update_loaded (loaded current : Simulation) :
    Simulation.update loaded current loaded = current := by
  have keep : ∀ {α : Type} [DecidableEq α] (new old : α), (if new = old then old else new) = new := by
    intro α _ new old
    split
    · rename_i same
      exact same.symm
    · rfl
  simp only [Simulation.update, keep]

/-! ## Delivery evidence -/

/-- The answer to one acceptance request. -/
structure MarketplaceAction where
  userId : UUID
  requestId : UUID
  bodyHash : String
  tradeId : UUID
deriving DecidableEq, Repr

def marketplaceActions : Schema MarketplaceAction where
  conflict earlier later := earlier.userId = later.userId ∧ earlier.requestId = later.requestId

/-- What of two readings a trade has been given. -/
structure TradeAllocation where
  tradeId : UUID
  sellerReadingId : UUID
  buyerReadingId : UUID
  energyKwh : ℚ
deriving DecidableEq, Repr

def tradeAllocations : Schema TradeAllocation where
  conflict earlier later := earlier.tradeId = later.tradeId

/-- The committed quantity of a trade against the measured one. -/
structure MeterReconciliation where
  id : UUID
  tradeId : UUID
  committedKwh : ℚ
  actualKwh : Option ℚ
  deviationKwh : Option ℚ
  withinTolerance : Bool
  balancingKwh : ℚ
  reconciliationStatus : ReconciliationStatus
  reason : Option String
  createdAt : Instant
deriving DecidableEq, Repr

/-- The row as its columns hold it. -/
def MeterReconciliation.asStored (row : MeterReconciliation) : MeterReconciliation :=
  { row with
    committedKwh := numeric4 row.committedKwh
    actualKwh := row.actualKwh.map numeric4
    deviationKwh := row.deviationKwh.map numeric4
    balancingKwh := numeric4 row.balancingKwh }

def meterReconciliations : Schema MeterReconciliation where
  check row := 0 < row.committedKwh &&
    (match row.actualKwh with
      | none => true
      | some actual => 0 ≤ actual) &&
    0 ≤ row.balancingKwh &&
    ((row.actualKwh.isSome && row.deviationKwh.isSome) ||
      (row.actualKwh.isNone && row.deviationKwh.isNone && !row.withinTolerance))
  conflict earlier later := earlier.id = later.id

structure Settlement where
  id : UUID
  tradeId : UUID
  buyerUserId : UUID
  sellerUserId : UUID
  settledKwh : ℚ
  grossAmountInr : ℚ
  platformFeeInr : ℚ
  balancingChargeInr : ℚ
  sellerCreditInr : ℚ
  buyerDebitInr : ℚ
  status : SettlementStatus
  settledAt : Instant
deriving DecidableEq, Repr

/-- The row as its columns hold it. -/
def Settlement.asStored (row : Settlement) : Settlement :=
  { row with
    settledKwh := numeric4 row.settledKwh
    grossAmountInr := numeric2 row.grossAmountInr
    platformFeeInr := numeric2 row.platformFeeInr
    balancingChargeInr := numeric2 row.balancingChargeInr
    sellerCreditInr := numeric2 row.sellerCreditInr
    buyerDebitInr := numeric2 row.buyerDebitInr }

def settlements : Schema Settlement where
  check row := row.buyerDebitInr =
      row.sellerCreditInr + row.platformFeeInr + row.balancingChargeInr &&
    0 ≤ row.settledKwh && 0 ≤ row.grossAmountInr && 0 ≤ row.platformFeeInr &&
      0 ≤ row.balancingChargeInr && 0 ≤ row.buyerDebitInr
  conflict earlier later := earlier.id = later.id

/-- A signed posting. -/
structure JournalEntry where
  settlementId : UUID
  account : String
  amountInr : ℚ
deriving DecidableEq, Repr

def journalEntries : Schema JournalEntry where
  conflict earlier later := earlier.settlementId = later.settlementId ∧
    earlier.account = later.account

/-- A publication job for the evidence of a settled trade. -/
structure Receipt where
  tradeId : UUID
  payload : Json
  payloadHash : String
  status : String

def receipts : Schema Receipt where
  conflict earlier later := earlier.tradeId = later.tradeId

end UrjaSetu.Db.Models
