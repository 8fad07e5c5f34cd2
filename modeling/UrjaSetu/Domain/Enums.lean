import UrjaSetu.Library.Numerals

/-!
The controlled vocabularies of `app/domain/enums.py` that the modelled code
branches on, with the values the columns store, and the identifiers and
instants every table shares.
-/

namespace UrjaSetu.Domain

open UrjaSetu.Library.Numerals

/-- A UUID, ordered as Python and PostgreSQL order it: by its 128-bit value. -/
abbrev UUID := Fin (2 ^ 128)

instance uuidNeZero : NeZero (2 ^ 128) := ⟨by decide⟩

instance uuidLawfulBEq : LawfulBEq UUID := inferInstance

/-- The 32 digits of an identifier in groups of 8, 4, 4, 4 and 12. -/
def uuidChars (id : UUID) : List Char :=
  let digits := hexChars 32 id
  digits.take 8 ++ '-' :: ((digits.drop 8).take 4 ++ '-' :: ((digits.drop 12).take 4 ++
    '-' :: ((digits.drop 16).take 4 ++ '-' :: digits.drop 20)))

/-- `str(id)`. -/
def uuidText (id : UUID) : String := String.ofList (uuidChars id)

theorem uuidText_injective : Function.Injective uuidText := by
  intro left right same
  have strip : ∀ id : UUID, (uuidChars id).filter (· ≠ '-') = hexChars 32 id := by
    intro id
    have digitsOnly : ∀ part : List Char, part ⊆ hexChars 32 id → part.filter (· ≠ '-') = part := by
      intro part within
      rw [List.filter_eq_self]
      intro char member
      obtain ⟨digit, small, rfl⟩ := hexChars_isHex 32 id char (within member)
      have noHyphen : ∀ digit < 16, decide (Nat.digitChar digit ≠ '-') = true := by decide
      exact noHyphen digit small
    have hyphen : ∀ rest : List Char, ('-' :: rest).filter (· ≠ '-') = rest.filter (· ≠ '-') :=
      fun _ => rfl
    have window : ∀ skip size, ((hexChars 32 id).drop skip).take size ⊆ hexChars 32 id :=
      fun _ _ _ member => List.mem_of_mem_drop (List.mem_of_mem_take member)
    rw [uuidChars, List.filter_append, hyphen, List.filter_append, hyphen, List.filter_append,
      hyphen, List.filter_append, hyphen, digitsOnly _ (List.take_subset _ _),
      digitsOnly _ (window 8 4), digitsOnly _ (window 12 4), digitsOnly _ (window 16 4),
      digitsOnly _ (List.drop_subset _ _)]
    have rejoin : ∀ skip size, ((hexChars 32 id).drop skip).take size ++
        (hexChars 32 id).drop (skip + size) = (hexChars 32 id).drop skip := by
      intro skip size
      rw [← List.drop_drop]
      exact List.take_append_drop _ _
    rw [rejoin 16 4, rejoin 12 4, rejoin 8 4, List.take_append_drop]
  have digits : hexChars 32 left = hexChars 32 right := by
    rw [← strip left, ← strip right, String.ofList_injective same]
  apply Fin.ext
  exact hexChars_inj (left.isLt.trans_le (by norm_num)) (right.isLt.trans_le (by norm_num)) digits

/-- A timezone-aware `datetime` as the instant it denotes: microseconds after
the epoch. Comparison and arithmetic of aware datetimes are those of the
instants. -/
abbrev Instant := ℤ

inductive OrderSide where
  | buy
  | sell
deriving DecidableEq, Repr

def OrderSide.value : OrderSide → String
  | .buy => "buy"
  | .sell => "sell"

inductive OrderStatus where
  | open
  | partiallyFilled
  | filled
  | cancelled
  | rejected
deriving DecidableEq, Repr

def OrderStatus.value : OrderStatus → String
  | .open => "open"
  | .partiallyFilled => "partially_filled"
  | .filled => "filled"
  | .cancelled => "cancelled"
  | .rejected => "rejected"

/-- Whether the order still has energy that can be matched. -/
def OrderStatus.isActive : OrderStatus → Bool
  | .open | .partiallyFilled => true
  | .filled | .cancelled | .rejected => false

inductive TradeStatus where
  | proposed
  | committed
  | rejected
  | settled
deriving DecidableEq, Repr

def TradeStatus.value : TradeStatus → String
  | .proposed => "proposed"
  | .committed => "committed"
  | .rejected => "rejected"
  | .settled => "settled"

inductive ReconciliationStatus where
  | awaitingTelemetry
  | reconciled
deriving DecidableEq, Repr

def ReconciliationStatus.value : ReconciliationStatus → String
  | .awaitingTelemetry => "awaiting_telemetry"
  | .reconciled => "reconciled"

/-- Whether the comparison could be made. -/
def ReconciliationStatus.isComplete (status : ReconciliationStatus) : Bool := status = .reconciled

inductive SettlementStatus where
  | pending
  | settled
  | superseded
deriving DecidableEq, Repr

/-- What an audit event is about. -/
inductive AuditEntityType where
  | order
  | trade
  | marketSession
deriving DecidableEq, Repr

def AuditEntityType.value : AuditEntityType → String
  | .order => "order"
  | .trade => "trade"
  | .marketSession => "market_session"

/-- The material business events the audit log records. -/
inductive AuditEventType where
  | orderPlaced
  | orderCancelled
  | marketCleared
  | tradeProposed
  | gridValidationRecorded
  | priceCalculated
  | tradeReconciled
  | tradeSettled
deriving DecidableEq, Repr

def AuditEventType.value : AuditEventType → String
  | .orderPlaced => "order_placed"
  | .orderCancelled => "order_cancelled"
  | .marketCleared => "market_cleared"
  | .tradeProposed => "trade_proposed"
  | .gridValidationRecorded => "grid_validation_recorded"
  | .priceCalculated => "price_calculated"
  | .tradeReconciled => "trade_reconciled"
  | .tradeSettled => "trade_settled"

theorem AuditEntityType.value_injective : Function.Injective AuditEntityType.value := by
  intro left right same
  cases left <;> cases right <;> first | rfl | exact absurd same (by decide)

theorem AuditEventType.value_injective : Function.Injective AuditEventType.value := by
  intro left right same
  cases left <;> cases right <;> first | rfl | exact absurd same (by decide)

/-- The entity an event of this type is recorded against. -/
def AuditEventType.subject : AuditEventType → AuditEntityType
  | .orderPlaced | .orderCancelled => .order
  | .marketCleared => .marketSession
  | _ => .trade

inductive MarketType where
  | dayAhead
deriving DecidableEq, Repr

def MarketType.value : MarketType → String
  | .dayAhead => "day_ahead"

inductive MarketSessionStatus where
  | open
  | closed
  | cleared
deriving DecidableEq, Repr

def MarketSessionStatus.value : MarketSessionStatus → String
  | .open => "open"
  | .closed => "closed"
  | .cleared => "cleared"

/-- Only an open session takes new orders. -/
def MarketSessionStatus.acceptsOrders (status : MarketSessionStatus) : Bool := status = .open

/-- Clearing runs once, after intake closes. -/
def MarketSessionStatus.canClear (status : MarketSessionStatus) : Bool := status = .closed

inductive UserRole where
  | consumer
  | prosumer
  | operator
  | regulatorViewer
  | admin
deriving DecidableEq, Repr

inductive UserStatus where
  | pending
  | active
  | suspended
deriving DecidableEq, Repr

inductive ForecastType where
  | solar
  | load
  | surplus
deriving DecidableEq, Repr

/-- How far a forecast run has come. -/
inductive ForecastRunStatus where
  | pending
  | running
  | completed
  | failed
deriving DecidableEq, Repr

/-- The tariff periods the time component of a price recognises. -/
inductive TimeOfDayBand where
  | peak
  | solar
  | normal
deriving DecidableEq, Repr

/-- What a grid validation concluded about the network. -/
inductive GridValidationStatus where
  | safe
  | unsafe_
  | unknown
deriving DecidableEq, Repr

def GridValidationStatus.value : GridValidationStatus → String
  | .safe => "safe"
  | .unsafe_ => "unsafe"
  | .unknown => "unknown"

/-- Only a network positively shown to be safe lets a trade through. -/
def GridValidationStatus.permitsTrade : GridValidationStatus → Bool
  | .safe => true
  | .unsafe_ | .unknown => false

inductive GridValidationDecision where
  | accept
  | reprice
  | reduce
  | shift
  | reject
deriving DecidableEq, Repr

def GridValidationDecision.value : GridValidationDecision → String
  | .accept => "accept"
  | .reprice => "reprice"
  | .reduce => "reduce"
  | .shift => "shift"
  | .reject => "reject"

/-- The classes of nodes in the distribution twin. -/
inductive GridNodeType where
  | substation
  | feeder
  | transformer
  | connectionPoint
deriving DecidableEq, Repr

/-- The constraints a power flow can breach. -/
inductive GridViolationType where
  | underVoltage
  | overVoltage
  | lineOverload
  | transformerOverload
deriving DecidableEq, Repr

def GridViolationType.value : GridViolationType → String
  | .underVoltage => "under_voltage"
  | .overVoltage => "over_voltage"
  | .lineOverload => "line_overload"
  | .transformerOverload => "transformer_overload"

inductive TelemetryQualityStatus where
  | valid
  | missing
  | stale
  | outOfOrder
  | duplicate
  | invalidValue
  | sourceUnavailable
deriving DecidableEq, Repr

/-- The ingestion channel of a reading. -/
inductive TelemetrySource where
  | meter
  | inverter
  | simulator
  | imported
  | manual
deriving DecidableEq, Repr

end UrjaSetu.Domain
