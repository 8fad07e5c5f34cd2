import UrjaSetu.Domain.Enums
import UrjaSetu.Library.Calendar
import UrjaSetu.Library.Json

/-!
The notifications of `app/domain/interfaces/realtime.py`, with the channels and
event types that `app/domain/enums.py` gives them.
-/

namespace UrjaSetu.Domain.Interfaces.Realtime

open UrjaSetu.Library UrjaSetu.Library.Calendar

inductive RealtimeChannel where
  | market
  | grid
  | telemetry
deriving DecidableEq, Repr

def RealtimeChannel.value : RealtimeChannel → String
  | .market => "market"
  | .grid => "grid"
  | .telemetry => "telemetry"

inductive RealtimeEventType where
  | orderAccepted
  | clearingStarted
  | tradeProposed
  | marketPriceChanged
  | settlementUpdated
  | gridValidationUpdated
  | gridSnapshotUpdated
  | telemetryUpdated
deriving DecidableEq, Repr

namespace RealtimeEventType

def value : RealtimeEventType → String
  | .orderAccepted => "order_accepted"
  | .clearingStarted => "clearing_started"
  | .tradeProposed => "trade_proposed"
  | .marketPriceChanged => "market_price_changed"
  | .settlementUpdated => "settlement_updated"
  | .gridValidationUpdated => "grid_validation_updated"
  | .gridSnapshotUpdated => "grid_snapshot_updated"
  | .telemetryUpdated => "telemetry_updated"

/-- `_GRID_EVENTS`. -/
def GRID_EVENTS : List RealtimeEventType := [.gridValidationUpdated, .gridSnapshotUpdated]

def channel (event : RealtimeEventType) : RealtimeChannel :=
  if event ∈ GRID_EVENTS then .grid
  else if event = .telemetryUpdated then .telemetry
  else .market

end RealtimeEventType

/-- What may travel in a payload. -/
inductive Scalar where
  | str (value : String)
  | int (value : ℤ)
  | bool (value : Bool)
  | none
deriving DecidableEq, Repr

def Scalar.toJson : Scalar → Json
  | .str value => .str value
  | .int value => .int value
  | .bool value => .bool value
  | .none => .null

/-- `PAYLOAD_VERSION`. -/
def PAYLOAD_VERSION : String := "1.0.0"

structure RealtimeEvent where
  eventType : RealtimeEventType
  entityType : String
  entityId : Option UUID
  tradeId : Option UUID
  payload : List (String × Scalar)
  occurredAt : AwareDatetime
  eventId : UUID
deriving DecidableEq, Repr

namespace RealtimeEvent

def channel (event : RealtimeEvent) : RealtimeChannel := event.eventType.channel

/-- `str(id) if id else None`. -/
def idJson (id : Option UUID) : Json := (id.map fun id => Json.str (uuidText id)).getD .null

/-- `event.to_message()`. -/
def toMessage (event : RealtimeEvent) : Json :=
  .obj
    [("event_id", .str (uuidText event.eventId)),
      ("event_type", .str event.eventType.value),
      ("channel", .str event.channel.value),
      ("occurred_at", .str (AwareDatetime.isoformat ⟨event.occurredAt.instant, 0⟩)),
      ("entity_type", .str event.entityType),
      ("entity_id", idJson event.entityId),
      ("trade_id", idJson event.tradeId),
      ("payload", .obj (event.payload.map fun entry => (entry.1, entry.2.toJson))),
      ("payload_version", .str PAYLOAD_VERSION)]

/-- Notifications with different identifiers are different on the wire. -/
theorem eventId_of_toMessage {left right : RealtimeEvent}
    (same : left.toMessage = right.toMessage) : left.eventId = right.eventId := by
  have texts := (List.cons.inj (Json.obj.inj same)).1
  exact uuidText_injective (Json.str.inj (congrArg Prod.snd texts))

end RealtimeEvent

end UrjaSetu.Domain.Interfaces.Realtime
