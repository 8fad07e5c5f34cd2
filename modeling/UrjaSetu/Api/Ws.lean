import UrjaSetu.Db.Models.Assets
import UrjaSetu.Library.DropOldest
import UrjaSetu.Services.RealtimeService

/-!
The WebSocket gateway of `app/api/ws.py`, with the hub it listens to, the worker
threads that publish, and the event loop that carries messages across.

A step is what runs without interruption: of a connection's coroutine or of its
two tasks, the part between two awaits; of a publishing thread, one copy of the
list or one delivery; of the loop, one scheduled callback. Any order of steps is
a run.
-/

namespace UrjaSetu.Api.Ws

open UrjaSetu.Domain UrjaSetu.Domain.Interfaces.Realtime UrjaSetu.Db.Models UrjaSetu.Library
  UrjaSetu.Services.RealtimeService

/-- `QUEUE_DEPTH`. -/
def QUEUE_DEPTH : ℕ := 64

/-- The `ready` frame. -/
def readyFrame (channel : RealtimeChannel) : Json :=
  .obj
    [("event_type", .str "ready"),
      ("channel", .str channel.value),
      ("authoritative_source", .str "rest"),
      ("message", .str "connected; load current state from the REST API")]

/-- The actor that `_serve` goes on with: outside the legacy test API only an
operator or an administrator. -/
def admitted (legacyTestApi : Bool) (actor : Option User) : Option User :=
  if legacyTestApi then actor
  else actor.filter fun user => user.role = .operator || user.role = .admin

/-- Where the coroutine of a connection is. -/
inductive Phase where
  /-- `await websocket.accept()`. -/
  | accepting
  /-- `await websocket.send_json(...)` of the `ready` frame. -/
  | greeting
  /-- `await asyncio.wait(...)`. -/
  | serving
  /-- A task has ended, and `_serve` has not gone on yet. -/
  | closing
  /-- After the `finally` block. -/
  | closed
  /-- Closed with a policy violation. -/
  | refused
  /-- The `ready` frame could not be sent, outside the `try` block. -/
  | abandoned
deriving DecidableEq, Repr

/-- What `pump()` holds. -/
inductive Pump where
  | idle
  | sending (message : Json)
  | failed (message : Json)

def Pump.held : Pump → List Json
  | .idle => []
  | .sending message => [message]
  | .failed message => [message]

/-- The subscription of a connection, and what was observed of it: how many
events had been published when it began and when it was removed, and which
events the sink was handed, by number. No step reads what was observed. -/
structure Subscription where
  channel : RealtimeChannel
  token : Option UUID
  joined : ℕ
  left : Option ℕ
  handed : List (ℕ × RealtimeEvent)

namespace Subscription

def none (channel : RealtimeChannel) : Subscription := ⟨channel, .none, 0, .none, []⟩

def leave (now : ℕ) (subscription : Subscription) : Subscription :=
  { subscription with left := subscription.left <|> some now }

def hand (number : ℕ) (event : RealtimeEvent) (subscription : Subscription) : Subscription :=
  { subscription with handed := subscription.handed ++ [(number, event)] }

def join (token : UUID) (now : ℕ) (subscription : Subscription) : Subscription :=
  { subscription with token := some token, joined := now }

end Subscription

structure Connection where
  subscription : Subscription
  actor : Option User
  phase : Phase
  queue : List Json
  pump : Pump
  frames : List Json

namespace Connection

/-- The head of `_serve`. -/
def opened (channel : RealtimeChannel) (actor : Option User) : Connection where
  subscription := .none channel
  actor := actor
  phase := if actor.isSome then .accepting else .refused
  queue := []
  pump := .idle
  frames := []

/-- The tasks of the connection run. -/
def running (connection : Connection) : Bool :=
  connection.phase = .serving || connection.phase = .closing

/-- The body of `enqueue()`. -/
def enqueue (message : Json) (connection : Connection) : Connection :=
  { connection with queue := DropOldest.put QUEUE_DEPTH connection.queue message }

def leave (now : ℕ) (connection : Connection) : Connection :=
  { connection with subscription := connection.subscription.leave now }

def hand (number : ℕ) (event : RealtimeEvent) (connection : Connection) : Connection :=
  { connection with subscription := connection.subscription.hand number event }

def join (token : UUID) (now : ℕ) (connection : Connection) : Connection :=
  { connection with
    subscription := connection.subscription.join token now
    phase := .greeting }

def conclude (connection : Connection) : Connection := { connection with phase := .closed }

end Connection

/-- What a connection does by itself. -/
inductive Move where
  /-- The `ready` frame is sent, and the tasks start. -/
  | greets
  /-- Sending it raises. -/
  | greetingFails
  /-- `pump()` gets a message. -/
  | takes
  /-- `pump()` has sent it. -/
  | sends
  /-- Sending it raises. -/
  | sendingFails
  /-- `watch()` notices that the client is gone. -/
  | hangsUp
deriving DecidableEq, Repr

def Connection.move (connection : Connection) : Move → Option Connection
  | .greets =>
      if connection.phase = .greeting then
        some { connection with
          phase := .serving
          frames := connection.frames ++ [readyFrame connection.subscription.channel] }
      else none
  | .greetingFails =>
      if connection.phase = .greeting then some { connection with phase := .abandoned } else none
  | .takes =>
      match connection.pump, connection.queue with
      | .idle, message :: rest =>
          if connection.running then
            some { connection with pump := .sending message, queue := rest }
          else none
      | _, _ => none
  | .sends =>
      match connection.pump with
      | .sending message =>
          if connection.running then
            some { connection with pump := .idle, frames := connection.frames ++ [message] }
          else none
      | _ => none
  | .sendingFails =>
      match connection.pump with
      | .sending message =>
          if connection.running then
            some { connection with pump := .failed message, phase := .closing }
          else none
      | _ => none
  | .hangsUp =>
      if connection.phase = .serving then some { connection with phase := .closing } else none

/-- The process. A connection and a publication are known by their place in the
lists. -/
structure Gateway where
  hub : RealtimeHub ℕ
  connections : List Connection
  publishings : List (Publishing ℕ)
  /-- The callbacks that `call_soon_threadsafe` has scheduled. -/
  scheduled : List (ℕ × Json)
  /-- The event loop is closed. -/
  stopped : Bool

def Gateway.initial : Gateway := ⟨RealtimeHub.initial, [], [], [], false⟩

inductive Action where
  | connect (channel : RealtimeChannel) (actor : Option User)
  /-- The connection is accepted, and subscribes with this handle. -/
  | subscribe (id : ℕ) (token : UUID)
  | move (id : ℕ) (move : Move)
  /-- The `finally` block. -/
  | close (id : ℕ)
  | publish (event : RealtimeEvent)
  /-- A publishing thread hands its message to its next target. -/
  | deliver (number : ℕ)
  /-- The loop runs the next callback. -/
  | callback
  | stop

namespace Gateway

/-- `uuid4()` returns no handle twice. -/
def freshToken (state : Gateway) (token : UUID) : Bool :=
  state.connections.all fun connection => connection.subscription.token ≠ some token

def subscribe (state : Gateway) (id : ℕ) (token : UUID) : Option Gateway := do
  let connection ← state.connections[id]?
  if connection.phase = .accepting && state.freshToken token then
    some { state with
      hub := state.hub.subscribe connection.subscription.channel id token
      connections := state.connections.modify id (·.join token state.publishings.length) }
  else none

def close (state : Gateway) (id : ℕ) : Option Gateway := do
  let connection ← state.connections[id]?
  let token ← connection.subscription.token
  if connection.phase = .closing then
    some { state with
      hub := state.hub.unsubscribe connection.subscription.channel token
      connections := state.connections.modify id fun connection =>
        (connection.leave state.publishings.length).conclude }
  else none

/-- The next turn of the loop of `publish`. The sink schedules the callback, and
raises where the event loop is closed. -/
def deliver (state : Gateway) (number : ℕ) : Option Gateway := do
  let publishing ← state.publishings[number]?
  match publishing.targets with
  | [] => none
  | (token, id) :: rest =>
      if state.stopped then
        some { state with
          hub := state.hub.unsubscribe publishing.event.channel token
          publishings := state.publishings.modify number ({ · with targets := rest })
          connections := state.connections.modify id (·.leave state.publishings.length) }
      else
        some { state with
          publishings := state.publishings.modify number
            ({ · with targets := rest, delivered := publishing.delivered + 1 })
          connections := state.connections.modify id (·.hand number publishing.event)
          scheduled := state.scheduled ++ [(id, publishing.message)] }

def callback (state : Gateway) : Option Gateway :=
  match state.scheduled with
  | [] => none
  | (id, message) :: rest =>
      some { state with
        connections := state.connections.modify id (·.enqueue message)
        scheduled := rest }

def step (legacyTestApi : Bool) (state : Gateway) : Action → Option Gateway
  | .connect channel actor =>
      if state.stopped then none
      else some { state with
        connections := state.connections ++ [.opened channel (admitted legacyTestApi actor)] }
  | .subscribe id token => if state.stopped then none else state.subscribe id token
  | .move id move =>
      if state.stopped then none
      else do
        let connection ← state.connections[id]?
        let next ← connection.move move
        some { state with connections := state.connections.modify id fun _ => next }
  | .close id => if state.stopped then none else state.close id
  | .publish event =>
      some { state with publishings := state.publishings ++ [state.hub.publish event] }
  | .deliver number => state.deliver number
  | .callback => if state.stopped then none else state.callback
  | .stop => some { state with stopped := true }

end Gateway

end UrjaSetu.Api.Ws
