import UrjaSetu.Api.Ws.Registry

/-!
What a client is sent, over any interleaving of the connections, the publishing
threads and the event loop.

Owns: the invariant of the gateway, and its runs.
-/

namespace UrjaSetu.Api.Ws

open UrjaSetu.Domain UrjaSetu.Domain.Interfaces.Realtime UrjaSetu.Db.Models UrjaSetu.Library
  UrjaSetu.Services.RealtimeService

/-! ## One connection -/

/-- What is sent of an event. -/
def sentAs (entry : ℕ × RealtimeEvent) : Json := entry.2.toMessage

namespace Connection

/-- The `ready` frame has been sent. -/
def begun (connection : Connection) : Bool :=
  connection.phase = .serving || connection.phase = .closing || connection.phase = .closed

/-- What was sent after the `ready` frame. -/
def messages (connection : Connection) : List Json := connection.frames.tail

/-- What was taken out of the queue. -/
def taken (connection : Connection) : List Json := connection.messages ++ connection.pump.held

structure Lawful (connection : Connection) : Prop where
  silent : connection.begun = false → connection.frames = [] ∧ connection.pump = .idle
  greeted : connection.begun = true → ∃ messages,
    connection.frames = readyFrame connection.subscription.channel :: messages
  named : connection.subscription.token = none ↔
    connection.phase = .accepting ∨ connection.phase = .refused
  seated : connection.actor = none ↔ connection.phase = .refused

/-- What the sink was handed is what was put into the queue, and then what is
still scheduled. -/
def Flow (connection : Connection) (pending : List Json) : Prop :=
  ∃ enqueued, connection.subscription.handed.map sentAs = enqueued ++ pending ∧
    DropOldest.Kept QUEUE_DEPTH enqueued connection.taken connection.queue

/-- Nothing that was put into the queue has been lost. -/
def Whole (connection : Connection) (pending : List Json) : Prop :=
  connection.taken ++ connection.queue ++ pending = connection.subscription.handed.map sentAs

private theorem opened_lawful (channel : RealtimeChannel) (actor : Option User) :
    (opened channel actor).Lawful := by
  cases actor with
  | none => exact ⟨fun _ => ⟨rfl, rfl⟩, fun begun => (by cases begun),
      ⟨fun _ => .inr rfl, fun _ => rfl⟩, ⟨fun _ => rfl, fun _ => rfl⟩⟩
  | some user => exact ⟨fun _ => ⟨rfl, rfl⟩, fun begun => (by cases begun),
      ⟨fun _ => .inl rfl, fun _ => rfl⟩,
      ⟨fun seated => (by cases seated), fun refused => (by cases refused)⟩⟩

private theorem opened_flow (channel : RealtimeChannel) (actor : Option User) :
    (opened channel actor).Flow [] :=
  ⟨[], rfl, DropOldest.Kept.start _⟩

/-- What a move of the connection leaves of it. -/
structure Moved (connection next : Connection) : Prop where
  subscription : next.subscription = connection.subscription
  actor : next.actor = connection.actor
  lawful : next.Lawful
  closed : next.phase = .closed ↔ connection.phase = .closed
  kept : ∀ {offered}, DropOldest.Kept QUEUE_DEPTH offered connection.taken connection.queue →
    DropOldest.Kept QUEUE_DEPTH offered next.taken next.queue
  whole : next.taken ++ next.queue = connection.taken ++ connection.queue

/-- While the tasks run the `ready` frame has been sent. -/
theorem greeted_of_running {connection : Connection} (lawful : connection.Lawful)
    (running : connection.running = true) : connection.begun = true ∧ ∃ messages,
      connection.frames = readyFrame connection.subscription.channel :: messages := by
  have begun : connection.begun = true := by
    simp only [Connection.running, Connection.begun, Bool.or_eq_true, decide_eq_true_eq] at running ⊢
    exact .inl running
  exact ⟨begun, lawful.greeted begun⟩

private theorem named_of_running {connection : Connection} (running : connection.running = true) :
    ¬ (connection.phase = .accepting ∨ connection.phase = .refused) := by
  cases phase : connection.phase <;> simp [Connection.running, phase] at running ⊢

section Moves

variable {connection : Connection} {message : Json} {rest : List Json}

/-- The `ready` frame is the first. -/
theorem greets_moved (lawful : connection.Lawful) (greeting : connection.phase = .greeting) :
    connection.Moved { connection with
      phase := .serving
      frames := connection.frames ++ [readyFrame connection.subscription.channel] } := by
  have silent := lawful.silent (by simp [begun, greeting])
  refine ⟨rfl, rfl, ⟨?_, ?_, ?_, ?_⟩, ?_, ?_, ?_⟩
  · intro notBegun
    simp [begun] at notBegun
  · exact fun _ => ⟨[], by simp [silent.1]⟩
  · rw [lawful.named, greeting]
    simp
  · rw [lawful.seated, greeting]
    simp
  · simp [greeting]
  · intro offered kept
    simpa [taken, messages, silent.1, silent.2, Pump.held] using kept
  · simp [taken, messages, silent.1, silent.2, Pump.held]

private theorem greetingFails_moved (lawful : connection.Lawful)
    (greeting : connection.phase = .greeting) :
    connection.Moved { connection with phase := .abandoned } := by
  have silent := lawful.silent (by simp [begun, greeting])
  refine ⟨rfl, rfl, ⟨fun _ => silent, ?_, ?_, ?_⟩, ?_, fun kept => kept, rfl⟩
  · intro isBegun
    simp [begun] at isBegun
  · rw [lawful.named, greeting]
    simp
  · rw [lawful.seated, greeting]
    simp
  · simp [greeting]

private theorem takes_moved (lawful : connection.Lawful) (running : connection.running = true)
    (idle : connection.pump = .idle) (waits : connection.queue = message :: rest) :
    connection.Moved { connection with pump := .sending message, queue := rest } := by
  obtain ⟨isBegun, greeted⟩ := greeted_of_running lawful running
  refine ⟨rfl, rfl, ⟨?_, fun _ => greeted, lawful.named, lawful.seated⟩, Iff.rfl, ?_, ?_⟩
  · exact fun notBegun => absurd (isBegun.symm.trans notBegun) (by decide)
  · intro offered kept
    rw [waits] at kept
    simpa [taken, messages, idle, Pump.held] using kept.take
  · simp [taken, messages, idle, waits, Pump.held]

private theorem sends_moved (lawful : connection.Lawful) (running : connection.running = true)
    (holds : connection.pump = .sending message) :
    connection.Moved
      { connection with pump := .idle, frames := connection.frames ++ [message] } := by
  obtain ⟨isBegun, sent, greeted⟩ := greeted_of_running lawful running
  refine ⟨rfl, rfl, ⟨?_, ?_, lawful.named, lawful.seated⟩, Iff.rfl, ?_, ?_⟩
  · exact fun notBegun => absurd (isBegun.symm.trans notBegun) (by decide)
  · exact fun _ => ⟨sent ++ [message], by rw [greeted]; rfl⟩
  · intro offered kept
    simpa [taken, messages, holds, greeted, Pump.held] using kept
  · simp [taken, messages, holds, greeted, Pump.held]

private theorem sendingFails_moved (lawful : connection.Lawful)
    (running : connection.running = true)
    (holds : connection.pump = .sending message) :
    connection.Moved { connection with pump := .failed message, phase := .closing } := by
  obtain ⟨_, greeted⟩ := greeted_of_running lawful running
  have named := named_of_running running
  refine ⟨rfl, rfl, ⟨?_, fun _ => greeted, ?_, ?_⟩, ?_, ?_, ?_⟩
  · intro notBegun
    simp [begun] at notBegun
  · rw [lawful.named]
    simpa using named
  · rw [lawful.seated]
    simpa using fun refused => named (.inr refused)
  · cases phase : connection.phase <;> simp [Connection.running, phase] at running ⊢
  · intro offered kept
    simpa [taken, messages, holds, Pump.held] using kept
  · simp [taken, messages, holds, Pump.held]

private theorem hangsUp_moved (lawful : connection.Lawful) (serving : connection.phase = .serving) :
    connection.Moved { connection with phase := .closing } := by
  have greeted := lawful.greeted (by simp [begun, serving])
  refine ⟨rfl, rfl, ⟨?_, fun _ => greeted, ?_, ?_⟩, ?_, fun kept => kept, rfl⟩
  · intro notBegun
    simp [begun] at notBegun
  · rw [lawful.named, serving]
    simp
  · rw [lawful.seated, serving]
    simp
  · simp [serving]

end Moves

theorem moved {connection next : Connection} {move : Move} (lawful : connection.Lawful)
    (moves : connection.move move = some next) : connection.Moved next := by
  cases move with
  | greets =>
      obtain ⟨greeting, ⟨⟩⟩ := Option.ite_none_right_eq_some.mp moves
      exact greets_moved lawful greeting
  | greetingFails =>
      obtain ⟨greeting, ⟨⟩⟩ := Option.ite_none_right_eq_some.mp moves
      exact greetingFails_moved lawful greeting
  | takes =>
      simp only [Connection.move] at moves
      split at moves
      case h_1 message rest idle waits =>
        obtain ⟨running, ⟨⟩⟩ := Option.ite_none_right_eq_some.mp moves
        exact takes_moved lawful running idle waits
      case h_2 => cases moves
  | sends =>
      simp only [Connection.move] at moves
      split at moves
      case h_1 message holds =>
        obtain ⟨running, ⟨⟩⟩ := Option.ite_none_right_eq_some.mp moves
        exact sends_moved lawful running holds
      case h_2 => cases moves
  | sendingFails =>
      simp only [Connection.move] at moves
      split at moves
      case h_1 message holds =>
        obtain ⟨running, ⟨⟩⟩ := Option.ite_none_right_eq_some.mp moves
        exact sendingFails_moved lawful running holds
      case h_2 => cases moves
  | hangsUp =>
      obtain ⟨serving, ⟨⟩⟩ := Option.ite_none_right_eq_some.mp moves
      exact hangsUp_moved lawful serving

end Connection

/-! ## Steps -/

namespace Gateway

/-- What a step does, and what it needs. -/
inductive Stepped (legacyTestApi : Bool) (state : Gateway) : Gateway → Prop
  | connected (channel : RealtimeChannel) (actor : Option User) (running : state.stopped = false) :
      Stepped legacyTestApi state { state with
        connections := state.connections ++ [.opened channel (admitted legacyTestApi actor)] }
  | subscribed (id : ℕ) (token : UUID) (connection : Connection) (running : state.stopped = false)
      (found : state.connections[id]? = some connection)
      (accepting : connection.phase = .accepting)
      (fresh : ∀ {other : ℕ} {known : Connection}, state.connections[other]? = some known →
        known.subscription.token ≠ some token) :
      Stepped legacyTestApi state { state with
        hub := state.hub.subscribe connection.subscription.channel id token
        connections := state.connections.modify id (·.join token state.publishings.length) }
  | moved (id : ℕ) (move : Move) (connection next : Connection) (running : state.stopped = false)
      (found : state.connections[id]? = some connection)
      (moves : connection.move move = some next) :
      Stepped legacyTestApi state
        { state with connections := state.connections.modify id fun _ => next }
  | closed (id : ℕ) (token : UUID) (connection : Connection) (running : state.stopped = false)
      (found : state.connections[id]? = some connection)
      (named : connection.subscription.token = some token)
      (closing : connection.phase = .closing) :
      Stepped legacyTestApi state { state with
        hub := state.hub.unsubscribe connection.subscription.channel token
        connections := state.connections.modify id fun connection =>
          (connection.leave state.publishings.length).conclude }
  | published (event : RealtimeEvent) :
      Stepped legacyTestApi state
        { state with publishings := state.publishings ++ [state.hub.publish event] }
  | dropped (number id : ℕ) (token : UUID) (rest : List (UUID × ℕ)) (publishing : Publishing ℕ)
      (stopped : state.stopped = true) (found : state.publishings[number]? = some publishing)
      (targets : publishing.targets = (token, id) :: rest) :
      Stepped legacyTestApi state { state with
        hub := state.hub.unsubscribe publishing.event.channel token
        publishings := state.publishings.modify number ({ · with targets := rest })
        connections := state.connections.modify id (·.leave state.publishings.length) }
  | handed (number id : ℕ) (token : UUID) (rest : List (UUID × ℕ)) (publishing : Publishing ℕ)
      (running : state.stopped = false) (found : state.publishings[number]? = some publishing)
      (targets : publishing.targets = (token, id) :: rest) :
      Stepped legacyTestApi state { state with
        publishings := state.publishings.modify number
          ({ · with targets := rest, delivered := publishing.delivered + 1 })
        connections := state.connections.modify id (·.hand number publishing.event)
        scheduled := state.scheduled ++ [(id, publishing.message)] }
  | called (id : ℕ) (message : Json) (rest : List (ℕ × Json)) (running : state.stopped = false)
      (next : state.scheduled = (id, message) :: rest) :
      Stepped legacyTestApi state { state with
        connections := state.connections.modify id (·.enqueue message)
        scheduled := rest }
  | stopped : Stepped legacyTestApi state { state with stopped := true }

private theorem fresh_of_freshToken {state : Gateway} {token : UUID}
    (fresh : state.freshToken token = true) {other : ℕ} {known : Connection}
    (found : state.connections[other]? = some known) : known.subscription.token ≠ some token :=
  of_decide_eq_true (List.all_eq_true.mp fresh known (List.mem_of_getElem? found))

theorem stepped_of_step {legacyTestApi : Bool} {state next : Gateway} {action : Action}
    (steps : state.step legacyTestApi action = some next) : Stepped legacyTestApi state next := by
  cases action with
  | connect channel actor =>
      simp only [step] at steps
      split at steps
      case isTrue => cases steps
      case isFalse running =>
        obtain rfl := Option.some.inj steps
        exact .connected channel actor (Bool.not_eq_true _ ▸ running)
  | subscribe id token =>
      simp only [step] at steps
      split at steps
      case isTrue => cases steps
      case isFalse running =>
        obtain ⟨connection, found, joins⟩ := Option.bind_eq_some_iff.mp steps
        split at joins
        case isTrue allowed =>
          obtain rfl := Option.some.inj joins
          simp only [Bool.and_eq_true, decide_eq_true_eq] at allowed
          exact .subscribed id token connection (Bool.not_eq_true _ ▸ running) found allowed.1
            (fresh_of_freshToken allowed.2)
        case isFalse => cases joins
  | move id move =>
      simp only [step] at steps
      split at steps
      case isTrue => cases steps
      case isFalse running =>
        obtain ⟨connection, found, changes⟩ := Option.bind_eq_some_iff.mp steps
        obtain ⟨moved, moves, same⟩ := Option.bind_eq_some_iff.mp changes
        obtain rfl := Option.some.inj same
        exact .moved id move connection moved (Bool.not_eq_true _ ▸ running) found moves
  | close id =>
      simp only [step] at steps
      split at steps
      case isTrue => cases steps
      case isFalse running =>
        obtain ⟨connection, found, named⟩ := Option.bind_eq_some_iff.mp steps
        obtain ⟨token, isToken, closes⟩ := Option.bind_eq_some_iff.mp named
        split at closes
        case isTrue closing =>
          obtain rfl := Option.some.inj closes
          exact .closed id token connection (Bool.not_eq_true _ ▸ running) found isToken closing
        case isFalse => cases closes
  | publish event =>
      obtain rfl := Option.some.inj steps
      exact .published event
  | deliver number =>
      obtain ⟨publishing, found, delivers⟩ := Option.bind_eq_some_iff.mp steps
      cases targets : publishing.targets with
      | nil =>
          rw [targets] at delivers
          cases delivers
      | cons target rest =>
          obtain ⟨token, id⟩ := target
          simp only [targets] at delivers
          split at delivers
          case isTrue stopped =>
            obtain rfl := Option.some.inj delivers
            exact .dropped number id token rest publishing stopped found targets
          case isFalse running =>
            obtain rfl := Option.some.inj delivers
            exact .handed number id token rest publishing (Bool.not_eq_true _ ▸ running) found
              targets
  | callback =>
      simp only [step] at steps
      split at steps
      case isTrue => cases steps
      case isFalse running =>
        simp only [callback] at steps
        split at steps
        case h_1 => cases steps
        case h_2 id message rest next =>
          obtain rfl := Option.some.inj steps
          exact .called id message rest (Bool.not_eq_true _ ▸ running) next
  | stop =>
      obtain rfl := Option.some.inj steps
      exact .stopped

end Gateway

/-! ## The invariant -/

/-- The subscriptions of the connections, by their place. -/
def Gateway.subscriptions (state : Gateway) : List Subscription :=
  state.connections.map Connection.subscription

/-- What is scheduled for a connection. -/
def pendingFor (id : ℕ) (scheduled : List (ℕ × Json)) : List Json :=
  (scheduled.filter fun callback => callback.1 = id).map Prod.snd

/-- A change of the connections is one of their subscriptions. -/
theorem map_modify_subscription {connections : List Connection} {id : ℕ}
    {change : Connection → Connection} {changes : Subscription → Subscription}
    (alike : ∀ connection, (change connection).subscription = changes connection.subscription) :
    (connections.modify id change).map Connection.subscription =
      (connections.map Connection.subscription).modify id changes := by
  apply List.ext_getElem?
  intro place
  rw [List.getElem?_map, List.getElem?_modify, List.getElem?_modify, List.getElem?_map]
  cases connections[place]? with
  | none => rfl
  | some connection =>
      by_cases here : id = place
      · simp [here, alike]
      · simp [here]

/-- One that leaves the subscription alone. -/
theorem map_modify_same {connections : List Connection} {id : ℕ}
    {change : Connection → Connection}
    (alike : ∀ connection, connections[id]? = some connection →
      (change connection).subscription = connection.subscription) :
    (connections.modify id change).map Connection.subscription =
      connections.map Connection.subscription := by
  apply List.ext_getElem?
  intro place
  rw [List.getElem?_map, List.getElem?_modify, List.getElem?_map]
  cases found : connections[place]? with
  | none => rfl
  | some connection =>
      by_cases here : id = place
      · subst here
        simp [alike connection found]
      · simp [here]

theorem subscription_of_found {connections : List Connection} {id : ℕ} {connection : Connection}
    (found : connections[id]? = some connection) :
    (connections.map Connection.subscription)[id]? = some connection.subscription := by
  rw [List.getElem?_map, found]
  rfl

structure Invariant (legacyTestApi : Bool) (state : Gateway) : Prop where
  registered : Registered state.hub state.subscriptions state.publishings state.stopped
  lawful : ∀ {id : ℕ} {connection : Connection}, state.connections[id]? = some connection →
    connection.Lawful
  flow : ∀ {id : ℕ} {connection : Connection}, state.connections[id]? = some connection →
    connection.Flow (pendingFor id state.scheduled)
  admitted : ∀ {id : ℕ} {connection : Connection}, state.connections[id]? = some connection →
    connection.actor = admitted legacyTestApi connection.actor
  known : ∀ callback ∈ state.scheduled, callback.1 < state.connections.length
  left : state.stopped = false → ∀ {id : ℕ} {connection : Connection},
    state.connections[id]? = some connection →
      (connection.subscription.left = none ↔ connection.phase ≠ .closed)

theorem Invariant.initial (legacyTestApi : Bool) : Invariant legacyTestApi .initial where
  registered := .initial
  lawful found := by simp [Gateway.initial] at found
  flow found := by simp [Gateway.initial] at found
  admitted found := by simp [Gateway.initial] at found
  known := by simp [Gateway.initial]
  left _ _ _ found := by simp [Gateway.initial] at found

private theorem admitted_idem (legacyTestApi : Bool) (actor : Option User) :
    admitted legacyTestApi (admitted legacyTestApi actor) = admitted legacyTestApi actor := by
  cases legacyTestApi with
  | true => rfl
  | false => simp [admitted, Option.filter_filter]

theorem pendingFor_append (id : ℕ) (scheduled more : List (ℕ × Json)) :
    pendingFor id (scheduled ++ more) = pendingFor id scheduled ++ pendingFor id more := by
  simp [pendingFor]

theorem pendingFor_unknown {id : ℕ} {scheduled : List (ℕ × Json)}
    (unknown : ∀ callback ∈ scheduled, callback.1 ≠ id) : pendingFor id scheduled = [] := by
  rw [pendingFor, List.map_eq_nil_iff, List.filter_eq_nil_iff]
  intro callback member
  simpa using unknown callback member

section Steps

variable {legacyTestApi : Bool} {state next : Gateway}

private theorem Invariant.connected (invariant : Invariant legacyTestApi state)
    (channel : RealtimeChannel) (actor : Option User) (running : state.stopped = false) :
    Invariant legacyTestApi { state with
      connections := state.connections ++ [.opened channel (Ws.admitted legacyTestApi actor)] } := by
  refine ⟨?_, ?_, ?_, ?_, ?_, ?_⟩
  · rw [Gateway.subscriptions, List.map_append]
    exact invariant.registered.connect channel
  · intro id connection found
    rcases getElem?_concat_eq_some.mp found with earlier | ⟨_, rfl⟩
    · exact invariant.lawful earlier
    · exact Connection.opened_lawful _ _
  · intro id connection found
    rcases getElem?_concat_eq_some.mp found with earlier | ⟨rfl, rfl⟩
    · exact invariant.flow earlier
    · rw [pendingFor_unknown fun callback member => (invariant.known callback member).ne]
      exact Connection.opened_flow _ _
  · intro id connection found
    rcases getElem?_concat_eq_some.mp found with earlier | ⟨_, rfl⟩
    · exact invariant.admitted earlier
    · exact (admitted_idem _ _).symm
  · intro callback member
    rw [List.length_append]
    exact Nat.lt_add_right _ (invariant.known callback member)
  · intro _ id connection found
    rcases getElem?_concat_eq_some.mp found with earlier | ⟨_, rfl⟩
    · exact invariant.left running earlier
    · cases Ws.admitted legacyTestApi actor with
      | none => exact ⟨fun _ => Phase.noConfusion, fun _ => rfl⟩
      | some user => exact ⟨fun _ => Phase.noConfusion, fun _ => rfl⟩

private theorem Invariant.subscribed (invariant : Invariant legacyTestApi state) {id : ℕ}
    {token : UUID}
    {connection : Connection} (found : state.connections[id]? = some connection)
    (accepting : connection.phase = .accepting)
    (fresh : ∀ {other : ℕ} {known : Connection}, state.connections[other]? = some known →
      known.subscription.token ≠ some token) (running : state.stopped = false) :
    Invariant legacyTestApi { state with
      hub := state.hub.subscribe connection.subscription.channel id token
      connections := state.connections.modify id (·.join token state.publishings.length) } := by
  have lawful := invariant.lawful found
  have unnamed := lawful.named.mpr (.inl accepting)
  have silent := lawful.silent (by simp [Connection.begun, accepting])
  refine ⟨?_, ?_, ?_, ?_, ?_, ?_⟩
  · rw [Gateway.subscriptions,
      @map_modify_subscription _ _ _ (·.join token state.publishings.length) fun _ => rfl]
    apply invariant.registered.join (subscription_of_found found) unnamed
    intro other known knownFound
    obtain ⟨holder, holderFound, rfl⟩ := Option.map_eq_some_iff.mp
      ((List.getElem?_map ..).symm.trans knownFound)
    exact fresh holderFound
  · apply forall_modified invariant.lawful
    intro same sameFound _
    obtain rfl := Option.some.inj (found.symm.trans sameFound)
    refine ⟨fun _ => silent, fun begun => ?_, ?_, ?_⟩
    · simp [Connection.join, Connection.begun] at begun
    · simp [Connection.join, Subscription.join]
    · simp [Connection.join, lawful.seated, accepting]
  · apply forall_modified invariant.flow
    exact fun _ _ flow => flow
  · apply forall_modified invariant.admitted
    exact fun _ _ admitted => admitted
  · simpa using invariant.known
  · intro _
    apply forall_modified (invariant.left running)
    intro same sameFound left
    obtain rfl := Option.some.inj (found.symm.trans sameFound)
    rw [show (connection.join token state.publishings.length).subscription.left =
      connection.subscription.left from rfl, left, accepting]
    simp [Connection.join]

private theorem Invariant.moved (invariant : Invariant legacyTestApi state) {id : ℕ} {move : Move}
    {connection moved : Connection} (found : state.connections[id]? = some connection)
    (moves : connection.move move = some moved) (running : state.stopped = false) :
    Invariant legacyTestApi
      { state with connections := state.connections.modify id fun _ => moved } := by
  have moved := Connection.moved (invariant.lawful found) moves
  refine ⟨?_, ?_, ?_, ?_, ?_, ?_⟩
  · rw [Gateway.subscriptions, map_modify_same]
    · exact invariant.registered
    · intro same sameFound
      rw [moved.subscription, Option.some.inj (found.symm.trans sameFound)]
  · apply forall_modified invariant.lawful
    exact fun _ _ _ => moved.lawful
  · apply forall_modified invariant.flow
    intro _ _ _
    obtain ⟨enqueued, handed, kept⟩ := invariant.flow found
    exact ⟨enqueued, by rw [moved.subscription]; exact handed, moved.kept kept⟩
  · apply forall_modified invariant.admitted
    intro _ _ _
    rw [moved.actor]
    exact invariant.admitted found
  · simpa using invariant.known
  · intro _
    apply forall_modified (invariant.left running)
    intro _ _ _
    rw [moved.subscription, Ne, moved.closed]
    exact invariant.left running found

/-- A connection that leaves is told nothing by it. -/
theorem lawful_leave {connection : Connection} (lawful : connection.Lawful) (now : ℕ) :
    (connection.leave now).Lawful :=
  ⟨lawful.silent, lawful.greeted, lawful.named, lawful.seated⟩

private theorem Invariant.closed (invariant : Invariant legacyTestApi state) {id : ℕ} {token : UUID}
    {connection : Connection} (found : state.connections[id]? = some connection)
    (named : connection.subscription.token = some token) (closing : connection.phase = .closing)
    (running : state.stopped = false) :
    Invariant legacyTestApi { state with
      hub := state.hub.unsubscribe connection.subscription.channel token
      connections := state.connections.modify id fun connection =>
        (connection.leave state.publishings.length).conclude } := by
  have lawful := invariant.lawful found
  refine ⟨?_, ?_, ?_, ?_, ?_, ?_⟩
  · rw [Gateway.subscriptions,
      @map_modify_subscription _ _ _ (·.leave state.publishings.length) fun _ => rfl]
    exact invariant.registered.leave (subscription_of_found found) named
  · apply forall_modified invariant.lawful
    intro same sameFound _
    obtain rfl := Option.some.inj (found.symm.trans sameFound)
    refine ⟨?_, fun _ => lawful.greeted (by simp [Connection.begun, closing]), ?_, ?_⟩
    · intro notBegun
      simp [Connection.conclude, Connection.begun] at notBegun
    · simp [Connection.conclude, Connection.leave, Subscription.leave, named]
    · simp [Connection.conclude, Connection.leave, lawful.seated, closing]
  · apply forall_modified invariant.flow
    exact fun _ _ flow => flow
  · apply forall_modified invariant.admitted
    exact fun _ _ admitted => admitted
  · simpa using invariant.known
  · intro _
    apply forall_modified (invariant.left running)
    intro same sameFound _
    obtain rfl := Option.some.inj (found.symm.trans sameFound)
    have present := (invariant.left running found).mpr (by rw [closing]; exact Phase.noConfusion)
    simp [Connection.conclude, Connection.leave, Subscription.leave, present]

private theorem Invariant.published (invariant : Invariant legacyTestApi state)
    (event : RealtimeEvent) :
    Invariant legacyTestApi
      { state with publishings := state.publishings ++ [state.hub.publish event] } :=
  { invariant with registered := invariant.registered.publish event }

private theorem Invariant.dropped (invariant : Invariant legacyTestApi state) {number id : ℕ}
    {token : UUID} {rest : List (UUID × ℕ)} {publishing : Publishing ℕ}
    (stopped : state.stopped = true) (published : state.publishings[number]? = some publishing)
    (targets : publishing.targets = (token, id) :: rest) :
    Invariant legacyTestApi { state with
      hub := state.hub.unsubscribe publishing.event.channel token
      publishings := state.publishings.modify number ({ · with targets := rest })
      connections := state.connections.modify id (·.leave state.publishings.length) } := by
  have registered := invariant.registered
  rw [stopped] at registered
  obtain ⟨subscription, found, isToken, awaits⟩ := registered.targets published
    (targets ▸ List.mem_cons_self)
  refine ⟨?_, ?_, ?_, ?_, ?_, ?_⟩
  · have left := (registered.drop published targets).leave found isToken
    rw [List.length_modify, ← awaits.channel] at left
    rw [Gateway.subscriptions, stopped,
      @map_modify_subscription _ _ _ (·.leave state.publishings.length) fun _ => rfl]
    exact left
  · apply forall_modified invariant.lawful
    exact fun _ _ lawful => lawful_leave lawful _
  · apply forall_modified invariant.flow
    exact fun _ _ flow => flow
  · apply forall_modified invariant.admitted
    exact fun _ _ admitted => admitted
  · simpa using invariant.known
  · intro running
    exact absurd (stopped.symm.trans running) (by decide)

private theorem Invariant.handed (invariant : Invariant legacyTestApi state) {number id : ℕ}
    {token : UUID} {rest : List (UUID × ℕ)} {publishing : Publishing ℕ}
    (published : state.publishings[number]? = some publishing)
    (targets : publishing.targets = (token, id) :: rest) (delivered : ℕ) :
    Invariant legacyTestApi { state with
      publishings := state.publishings.modify number ({ · with targets := rest, delivered })
      connections := state.connections.modify id (·.hand number publishing.event)
      scheduled := state.scheduled ++ [(id, publishing.message)] } := by
  obtain ⟨_, target, _⟩ := invariant.registered.targets published (targets ▸ List.mem_cons_self)
  have inside : id < state.connections.length := by
    simpa [Gateway.subscriptions] using (List.getElem?_eq_some_iff.mp target).1
  refine ⟨?_, ?_, ?_, ?_, ?_, ?_⟩
  · rw [Gateway.subscriptions,
      @map_modify_subscription _ _ _ (·.hand number publishing.event) fun _ => rfl]
    exact invariant.registered.hand published targets delivered
  · apply forall_modified invariant.lawful
    exact fun _ _ lawful => ⟨lawful.silent, lawful.greeted, lawful.named, lawful.seated⟩
  · intro place connection found
    obtain ⟨known, knownFound, same⟩ := getElem?_modify_eq_some.mp found
    obtain ⟨enqueued, handed, kept⟩ := invariant.flow knownFound
    rw [pendingFor_append]
    by_cases here : id = place
    · subst here
      rw [if_pos rfl] at same
      rw [← same]
      refine ⟨enqueued, ?_, kept⟩
      rw [← List.append_assoc, ← handed]
      simp [Connection.hand, Subscription.hand, pendingFor, sentAs, Publishing.message]
    · rw [if_neg here] at same
      rw [← same]
      refine ⟨enqueued, ?_, kept⟩
      rw [handed]
      simp [pendingFor, here]
  · apply forall_modified invariant.admitted
    exact fun _ _ admitted => admitted
  · intro callback member
    rw [List.length_modify]
    rcases List.mem_append.mp member with earlier | last
    · exact invariant.known callback earlier
    · rw [List.mem_singleton.mp last]
      exact inside
  · intro running
    apply forall_modified (invariant.left running)
    exact fun _ _ left => left

private theorem Invariant.called (invariant : Invariant legacyTestApi state) {id : ℕ}
    {message : Json}
    {rest : List (ℕ × Json)} (next : state.scheduled = (id, message) :: rest) :
    Invariant legacyTestApi { state with
      connections := state.connections.modify id (·.enqueue message)
      scheduled := rest } := by
  refine ⟨?_, ?_, ?_, ?_, ?_, ?_⟩
  · rw [Gateway.subscriptions, @map_modify_same _ _ (·.enqueue message) fun _ _ => rfl]
    exact invariant.registered
  · apply forall_modified invariant.lawful
    exact fun _ _ lawful => ⟨lawful.silent, lawful.greeted, lawful.named, lawful.seated⟩
  · intro place connection found
    obtain ⟨known, knownFound, same⟩ := getElem?_modify_eq_some.mp found
    obtain ⟨enqueued, handed, kept⟩ := invariant.flow knownFound
    rw [next] at handed
    by_cases here : id = place
    · subst here
      rw [if_pos rfl] at same
      rw [← same]
      refine ⟨enqueued ++ [message], ?_, kept.put (by decide) message⟩
      rw [show (known.enqueue message).subscription = known.subscription from rfl,
        List.append_assoc]
      simpa [pendingFor] using handed
    · rw [if_neg here] at same
      rw [← same]
      exact ⟨enqueued, by simpa [pendingFor, here] using handed, kept⟩
  · apply forall_modified invariant.admitted
    exact fun _ _ admitted => admitted
  · intro callback member
    rw [List.length_modify]
    exact invariant.known callback (next ▸ List.mem_cons_of_mem _ member)
  · intro running
    apply forall_modified (invariant.left running)
    exact fun _ _ left => left

private theorem Invariant.stepped (invariant : Invariant legacyTestApi state)
    (stepped : state.Stepped legacyTestApi next) : Invariant legacyTestApi next := by
  cases stepped with
  | connected channel actor running => exact invariant.connected channel actor running
  | subscribed id token connection running found accepting fresh =>
      exact invariant.subscribed found accepting fresh running
  | moved id move connection moved running found moves =>
      exact invariant.moved found moves running
  | closed id token connection running found named closing =>
      exact invariant.closed found named closing running
  | published event => exact invariant.published event
  | dropped number id token rest publishing stopped found targets =>
      exact invariant.dropped stopped found targets
  | handed number id token rest publishing running found targets =>
      exact invariant.handed found targets _
  | called id message rest running scheduled => exact invariant.called scheduled
  | stopped =>
      exact { invariant with
        registered := invariant.registered.stop
        left := fun running => (by cases running) }

end Steps

/-! ## Runs -/

/-- The states that steps lead to from `start`, each of them allowed. -/
inductive Reached (legacyTestApi : Bool) (allowed : Gateway → Prop) (start : Gateway) :
    Gateway → Prop
  | start : Reached legacyTestApi allowed start start
  | step {state next : Gateway} (before : Reached legacyTestApi allowed start state)
      (action : Action) (steps : state.step legacyTestApi action = some next)
      (isAllowed : allowed next) : Reached legacyTestApi allowed start next

/-- The actions one after the other, to allowed states. -/
def Gateway.runs (legacyTestApi : Bool) (allowed : Gateway → Bool) (state : Gateway) :
    List Action → Option Gateway
  | [] => some state
  | action :: rest =>
      match state.step legacyTestApi action with
      | none => none
      | some next => if allowed next then next.runs legacyTestApi allowed rest else none

/-- Any order of steps. -/
def Run (legacyTestApi : Bool) : Gateway → Gateway → Prop :=
  Reached legacyTestApi fun _ => True

section Runs

variable {legacyTestApi : Bool} {allowed : Gateway → Prop} {start state : Gateway}

theorem Reached.invariant (reached : Reached legacyTestApi allowed start state)
    (initially : Invariant legacyTestApi start) : Invariant legacyTestApi state := by
  induction reached with
  | start => exact initially
  | step _ action steps _ inductionHypothesis =>
      exact inductionHypothesis.stepped (Gateway.stepped_of_step steps)

private theorem Reached.trans {final : Gateway} (first : Reached legacyTestApi allowed start state)
    (second : Reached legacyTestApi allowed state final) :
    Reached legacyTestApi allowed start final := by
  induction second with
  | start => exact first
  | step _ action steps isAllowed inductionHypothesis =>
      exact inductionHypothesis.step action steps isAllowed

theorem reached_of_runs {check : Gateway → Bool} {actions : List Action} {final : Gateway}
    (runs : state.runs legacyTestApi check actions = some final) :
    Reached legacyTestApi (fun state => check state = true) state final := by
  induction actions generalizing state with
  | nil => exact Option.some.inj runs ▸ .start
  | cons action rest inductionHypothesis =>
      rw [Gateway.runs] at runs
      cases steps : state.step legacyTestApi action with
      | none =>
          rw [steps] at runs
          cases runs
      | some next =>
          simp only [steps] at runs
          split at runs
          · rename_i isAllowed
            exact (Reached.start.step action steps isAllowed).trans (inductionHypothesis runs)
          · cases runs

theorem run_of_reached (reached : Reached legacyTestApi allowed start state) :
    Run legacyTestApi start state := by
  induction reached with
  | start => exact .start
  | step _ action steps _ inductionHypothesis => exact inductionHypothesis.step action steps trivial

/-- A published event, by its number. -/
def Gateway.Published (state : Gateway) (number : ℕ) (event : RealtimeEvent) : Prop :=
  ∃ publishing, state.publishings[number]? = some publishing ∧ publishing.event = event

/-- What a client has been sent is the `ready` frame and then, in their order,
some of the events that its sink was handed. -/
theorem Invariant.frames (invariant : Invariant legacyTestApi state) {id : ℕ}
    {connection : Connection} (found : state.connections[id]? = some connection) :
    connection.frames = [] ∨ ∃ heard : List (ℕ × RealtimeEvent), connection.begun = true ∧
      connection.frames = readyFrame connection.subscription.channel :: heard.map sentAs ∧
        heard.Sublist connection.subscription.handed := by
  have lawful := invariant.lawful found
  cases begun : connection.begun with
  | false => exact .inl (lawful.silent begun).1
  | true =>
      right
      obtain ⟨messages, frames⟩ := lawful.greeted begun
      obtain ⟨enqueued, handed, kept⟩ := invariant.flow found
      have within : messages.Sublist (connection.taken ++ connection.queue) := by
        rw [Connection.taken, Connection.messages, frames, List.tail_cons, List.append_assoc]
        exact List.sublist_append_left _ _
      have sent : messages.Sublist (connection.subscription.handed.map sentAs) := by
        rw [handed]
        exact within.trans (kept.ordered.trans (List.sublist_append_left _ _))
      obtain ⟨heard, part, rfl⟩ := List.sublist_map_iff.mp sent
      exact ⟨heard, rfl, frames, part⟩

/-- The client has been sent nothing, or it is an operator's or an administrator's
and has been sent the `ready` frame and then messages of events that were
published on its own channel while it was subscribed, each of them once. -/
def Gateway.Hears (legacyTestApi : Bool) (state : Gateway) (connection : Connection) : Prop :=
  connection.frames = [] ∨ ∃ (user : User) (heard : List (ℕ × RealtimeEvent)),
    connection.actor = some user ∧
    (legacyTestApi = false → user.role = .operator ∨ user.role = .admin) ∧
    connection.frames = readyFrame connection.subscription.channel :: heard.map sentAs ∧
    (heard.map Prod.fst).Nodup ∧ ∀ number event, (number, event) ∈ heard →
      state.Published number event ∧ connection.subscription.Awaits number event

/-- In every state of every run no more than 64 messages wait for a client, and
it hears of nothing but what it is subscribed to. -/
theorem gateway_hears (run : Run legacyTestApi .initial state) {id : ℕ} {connection : Connection}
    (found : state.connections[id]? = some connection) :
    connection.queue.length ≤ QUEUE_DEPTH ∧ state.Hears legacyTestApi connection := by
  have invariant := run.invariant (.initial legacyTestApi)
  obtain ⟨_, _, kept⟩ := invariant.flow found
  refine ⟨kept.bounded, (invariant.frames found).imp_right ?_⟩
  rintro ⟨heard, begun, frames, part⟩
  obtain ⟨user, isUser⟩ : ∃ user, connection.actor = some user := by
    apply Option.ne_none_iff_exists'.mp
    rw [Ne, (invariant.lawful found).seated]
    intro refused
    simp [Connection.begun, refused] at begun
  have subscriptionFound := subscription_of_found found
  refine ⟨user, heard, isUser, ?_, frames, ?_, ?_⟩
  · rintro rfl
    have isAdmitted := invariant.admitted found
    rw [isUser] at isAdmitted
    rw [admitted, if_neg Bool.false_ne_true] at isAdmitted
    have passed := Option.filter_eq_some_iff.mp isAdmitted.symm
    simpa using passed.2
  · exact (invariant.registered.handedOnce subscriptionFound).sublist (part.map _)
  · intro number event member
    obtain ⟨publishing, published, isEvent, awaits, _⟩ :=
      invariant.registered.handed subscriptionFound (part.subset member)
    exact ⟨⟨publishing, published, isEvent⟩, awaits⟩

/-- An operator connects to the market, and is greeted. -/
def greeting : List Action :=
  [.connect .market (some ⟨5, .operator⟩), .subscribe 0 8, .move 0 .greets]

def tradeEvent : RealtimeEvent :=
  ⟨.tradeProposed, "trade", some 7, some 7, [("status", .str "proposed")], ⟨0, 0⟩, 9⟩

/-- And hears of a trade. -/
def oneTrade : List Action :=
  greeting ++ [.publish tradeEvent, .deliver 0, .callback, .move 0 .takes, .move 0 .sends]

/-- What the actions lead to, in a reader's words: the state and the connection. -/
theorem exists_of_runs {check : Gateway → Bool} {actions : List Action} {holds : Connection → Bool}
    (evaluated : ((Gateway.initial.runs legacyTestApi check actions).bind
      (·.connections[0]?)).any holds = true) :
    ∃ final connection, Gateway.initial.runs legacyTestApi check actions = some final ∧
      final.connections[0]? = some connection ∧ holds connection = true := by
  cases runs : Gateway.initial.runs legacyTestApi check actions with
  | none => simp [runs] at evaluated
  | some final =>
      cases found : final.connections[0]? with
      | none => simp [runs, found] at evaluated
      | some connection => exact ⟨final, connection, rfl, found, by simpa [runs, found] using evaluated⟩

theorem gateway_hears_sample : ∃ final connection,
    Gateway.initial.runs false (fun _ => true) oneTrade = some final ∧
      final.connections[0]? = some connection ∧ connection.frames.length = 2 ∧
        connection.queue.length ≤ QUEUE_DEPTH ∧ final.Hears false connection := by
  obtain ⟨final, connection, runs, found, frames⟩ :=
    @exists_of_runs false (fun _ => true) oneTrade (fun connection => connection.frames.length = 2)
      (by decide)
  exact ⟨final, connection, runs, found, of_decide_eq_true frames,
    gateway_hears (run_of_reached (reached_of_runs runs)) found⟩

/-- While the loop runs, a handle is in the registry exactly while its connection
is served, or for ever where the `ready` frame could not be sent. -/
theorem gateway_subscribed (run : Run legacyTestApi .initial state)
    (running : state.stopped = false) (channel : RealtimeChannel) (token : UUID) (id : ℕ) :
    (token, id) ∈ state.hub.targets channel ↔ ∃ connection,
      state.connections[id]? = some connection ∧ connection.subscription.channel = channel ∧
        connection.subscription.token = some token ∧
        (connection.phase = .greeting ∨ connection.phase = .serving ∨
          connection.phase = .closing ∨ connection.phase = .abandoned) := by
  have invariant := run.invariant (.initial legacyTestApi)
  have phases : ∀ {connection : Connection}, state.connections[id]? = some connection →
      connection.subscription.token = some token →
        (connection.subscription.left = none ↔ connection.phase = .greeting ∨
          connection.phase = .serving ∨ connection.phase = .closing ∨
            connection.phase = .abandoned) := by
    intro connection found isToken
    have named := (invariant.lawful found).named
    rw [isToken] at named
    rw [invariant.left running found]
    cases phase : connection.phase <;> simp [phase] at named ⊢
  rw [invariant.registered.listed]
  constructor
  · rintro ⟨subscription, found, isChannel, isToken, present⟩
    obtain ⟨connection, connectionFound, rfl⟩ :=
      Option.map_eq_some_iff.mp ((List.getElem?_map ..).symm.trans found)
    exact ⟨connection, connectionFound, isChannel, isToken,
      (phases connectionFound isToken).mp present⟩
  · rintro ⟨connection, found, isChannel, isToken, phase⟩
    exact ⟨connection.subscription, subscription_of_found found, isChannel, isToken,
      (phases found isToken).mpr phase⟩

theorem gateway_subscribed_sample : ∃ final connection,
    Gateway.initial.runs false (fun _ => true) greeting = some final ∧
      final.connections[0]? = some connection ∧ connection.phase = .serving ∧
        ∃ token, (token, 0) ∈ final.hub.targets .market := by
  obtain ⟨final, connection, runs, found, facts⟩ :=
    @exists_of_runs false (fun _ => true) greeting (fun connection =>
      connection.phase = .serving && connection.subscription.channel = .market &&
        connection.subscription.token = some 8) (by decide)
  simp only [Bool.and_eq_true, decide_eq_true_eq] at facts
  obtain ⟨⟨serving, isMarket⟩, isToken⟩ := facts
  have running : final.stopped = false := by
    have evaluated : (Gateway.initial.runs false (fun _ => true) greeting).all
        (fun state => !state.stopped) = true := by decide
    rw [runs] at evaluated
    simpa using evaluated
  exact ⟨final, connection, runs, found, serving, 8,
    (gateway_subscribed (run_of_reached (reached_of_runs runs)) running .market 8 0).mpr
      ⟨connection, found, isMarket, isToken, .inr (.inl serving)⟩⟩

end Runs

end UrjaSetu.Api.Ws
