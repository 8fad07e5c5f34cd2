import UrjaSetu.Domain.Enums
import UrjaSetu.Library.Decimal
import UrjaSetu.Library.Dict

/-!
The audit contract of `app/domain/interfaces/audit.py`: events, sealed events
and the report of a chain walk.
-/

namespace UrjaSetu.Domain.Interfaces

open UrjaSetu.Domain UrjaSetu.Library

/-- A Python object a payload may carry. A `StrEnum` member is a `str`; `enum`
is any other enumeration member with its value. -/
inductive Value where
  | none
  | bool (value : Bool)
  | str (value : String)
  | int (value : ℤ)
  | decimal (value : Decimal)
  | float
  | datetime (instant : Instant)
  | naiveDatetime
  | uuid (value : UUID)
  | enum (value : Value)
  | mapping (entries : List (String × Value))
  | sequence (items : List Value)
  | other (typeName : String)

/-- `value if value is not None else None`, for the optional columns of an
event. -/
def Value.ofOption {α : Type} (wrap : α → Value) : Option α → Value
  | .none => .none
  | .some value => wrap value

def payloadVersion : String := "1.0.0"

def payloadVersionKey : String := "payload_version"

/-- One material business event, before the chain closes over it. -/
structure AuditEvent where
  eventId : UUID
  eventType : AuditEventType
  entityType : AuditEntityType
  entityId : UUID
  eventTime : Instant
  recordedAt : Instant
  actorUserId : Option UUID := none
  payload : Dict String Value := Dict.empty

/-- The payload as stored, carrying its own contract version. A version the
payload already names is kept. -/
def AuditEvent.withPayloadVersion (event : AuditEvent) : Dict String Value :=
  (Dict.empty.set payloadVersionKey (.str payloadVersion)).update event.payload

/-- An audit event with its place in the chain fixed. -/
structure SealedAuditEvent where
  event : AuditEvent
  previousHash : Option String
  eventHash : String

/-- The result of walking an audit chain. -/
structure ChainVerification where
  intact : Bool
  eventsChecked : ℕ
  brokenAtEventId : Option UUID := none
  problems : List String := []
deriving DecidableEq, Repr

end UrjaSetu.Domain.Interfaces
