import UrjaSetu.Api.Ws.Delivery

/-!
What a client misses: nothing while it keeps up, and never the newest events.

Owns: what is kept of the events that a connection awaits.
-/

namespace UrjaSetu.Api.Ws

open UrjaSetu.Domain UrjaSetu.Domain.Interfaces.Realtime UrjaSetu.Db.Models UrjaSetu.Library
  UrjaSetu.Services.RealtimeService

section Lossless

variable {legacyTestApi : Bool} {allowed : Gateway → Prop} {state next : Gateway} {id : ℕ}

/-- The connection has lost nothing. -/
def WholeAt (id : ℕ) (state : Gateway) : Prop :=
  ∀ {connection : Connection}, state.connections[id]? = some connection →
    connection.Whole (pendingFor id state.scheduled)

/-- Only a callback that finds the queue full loses a message. -/
theorem WholeAt.stepped (whole : WholeAt id state) (invariant : Invariant legacyTestApi state)
    (room : ∀ {connection : Connection}, state.connections[id]? = some connection →
      connection.queue.length < QUEUE_DEPTH)
    (stepped : state.Stepped legacyTestApi next) : WholeAt id next := by
  have modified : ∀ {place : ℕ} {change : Connection → Connection} {connection : Connection},
      (state.connections.modify place change)[id]? = some connection →
      (∀ known, state.connections[place]? = some known →
        (change known).taken ++ (change known).queue = known.taken ++ known.queue ∧
          (change known).subscription.handed = known.subscription.handed) →
        connection.Whole (pendingFor id state.scheduled) := by
    intro place change connection changed alike
    obtain ⟨known, knownFound, same⟩ := getElem?_modify_eq_some.mp changed
    have before := whole knownFound
    by_cases here : place = id
    · subst here
      rw [if_pos rfl] at same
      obtain ⟨sameQueue, sameHanded⟩ := alike known knownFound
      rw [← same, Connection.Whole, sameQueue, sameHanded]
      exact before
    · rw [if_neg here] at same
      rw [← same]
      exact before
  intro connection found
  cases stepped with
  | connected channel actor running =>
      rcases getElem?_concat_eq_some.mp found with earlier | ⟨rfl, rfl⟩
      · exact whole earlier
      · rw [Connection.Whole, pendingFor_unknown fun callback member =>
          (invariant.known callback member).ne]
        rfl
  | subscribed other token joined running joinedFound accepting fresh =>
      exact modified found fun _ _ => ⟨rfl, rfl⟩
  | moved other move before moved running beforeFound moves =>
      apply modified found
      intro known knownFound
      obtain rfl := Option.some.inj (beforeFound.symm.trans knownFound)
      have kept := Connection.moved (invariant.lawful beforeFound) moves
      exact ⟨kept.whole, by rw [kept.subscription]⟩
  | closed other token before running beforeFound named closing =>
      exact modified found fun _ _ => ⟨rfl, rfl⟩
  | published event => exact whole found
  | dropped number other token rest publishing stopped published targets =>
      exact modified found fun _ _ => ⟨rfl, rfl⟩
  | handed number other token rest publishing running published targets =>
      obtain ⟨known, knownFound, same⟩ := getElem?_modify_eq_some.mp found
      have before := whole knownFound
      rw [pendingFor_append]
      by_cases here : other = id
      · subst here
        rw [if_pos rfl] at same
        rw [← same, Connection.Whole, ← List.append_assoc]
        show known.taken ++ known.queue ++ pendingFor other state.scheduled ++ _ = _
        rw [before]
        simp [Connection.hand, Subscription.hand, pendingFor, sentAs, Publishing.message]
      · rw [if_neg here] at same
        rw [← same, Connection.Whole, ← before]
        simp [pendingFor, here]
  | called other message rest running scheduled =>
      obtain ⟨known, knownFound, same⟩ := getElem?_modify_eq_some.mp found
      have before := whole knownFound
      rw [scheduled] at before
      by_cases here : other = id
      · subst here
        rw [if_pos rfl] at same
        rw [← same, Connection.Whole]
        show known.taken ++ DropOldest.put QUEUE_DEPTH known.queue message ++ _ =
          known.subscription.handed.map sentAs
        rw [DropOldest.put_of_room (room knownFound), ← before]
        simp [pendingFor]
      · rw [if_neg here] at same
        rw [← same, Connection.Whole, ← before]
        simp [pendingFor, here]
  | stopped => exact whole found

private theorem Reached.whole (reached : Reached legacyTestApi allowed .initial state)
    (room : ∀ {earlier : Gateway} {connection : Connection}, allowed earlier →
      earlier.connections[id]? = some connection → connection.queue.length < QUEUE_DEPTH) :
    WholeAt id state := by
  -- a step is taken from the first state, or from an allowed one
  have roomy : WholeAt id state ∧ ∀ {connection : Connection},
      state.connections[id]? = some connection → connection.queue.length < QUEUE_DEPTH := by
    induction reached with
    | start =>
        constructor
        · intro connection found
          simp [Gateway.initial] at found
        · intro connection found
          simp [Gateway.initial] at found
    | step before action steps isAllowed inductionHypothesis =>
        obtain ⟨whole, hasRoom⟩ := inductionHypothesis
        exact ⟨whole.stepped (before.invariant (.initial legacyTestApi)) hasRoom
          (Gateway.stepped_of_step steps), room isAllowed⟩
  intro connection found
  exact roomy.1 found

/-- When all is handed over, run and taken, a connection was handed what it awaits,
each event once, and its client has been sent a part of that, in that order, with
the 64 it was handed last; and all of it where fewer than 64 messages waited for
it throughout. -/
theorem gateway_lossless (reached : Reached legacyTestApi allowed .initial state)
    (running : state.stopped = false) {connection : Connection}
    (found : state.connections[id]? = some connection) (begun : connection.begun = true)
    (delivered : ∀ publishing ∈ state.publishings, id ∉ publishing.targets.map Prod.snd)
    (called : ∀ callback ∈ state.scheduled, callback.1 ≠ id)
    (pumped : connection.queue = [] ∧ connection.pump = .idle) :
    (connection.subscription.handed.map Prod.fst).Nodup ∧
    (∀ number event, (number, event) ∈ connection.subscription.handed ↔
      state.Published number event ∧ connection.subscription.Awaits number event) ∧
    ∃ heard : List (ℕ × RealtimeEvent),
      connection.frames = readyFrame connection.subscription.channel :: heard.map sentAs ∧
      heard.Sublist connection.subscription.handed ∧
      DropOldest.latest QUEUE_DEPTH connection.subscription.handed <:+ heard ∧
      ((∀ {earlier : Gateway} {connection : Connection}, allowed earlier →
        earlier.connections[id]? = some connection → connection.queue.length < QUEUE_DEPTH) →
          heard = connection.subscription.handed) := by
  have invariant := reached.invariant (.initial legacyTestApi)
  have subscriptionFound := subscription_of_found found
  obtain ⟨sent, frames⟩ := (invariant.lawful found).greeted begun
  obtain ⟨enqueued, handed, kept⟩ := invariant.flow found
  have taken : connection.taken ++ connection.queue = sent := by
    simp [Connection.taken, Connection.messages, frames, pumped.1, pumped.2, Pump.held]
  rw [pendingFor_unknown called, List.append_nil] at handed
  refine ⟨invariant.registered.handedOnce subscriptionFound, ?_, ?_⟩
  · intro number event
    constructor
    · intro member
      obtain ⟨publishing, published, isEvent, awaits, _⟩ :=
        invariant.registered.handed subscriptionFound member
      exact ⟨⟨publishing, published, isEvent⟩, awaits⟩
    · rintro ⟨⟨publishing, published, rfl⟩, awaits⟩
      have notDue := delivered publishing (List.mem_of_getElem? published)
      rcases invariant.registered.due running subscriptionFound published awaits with done | waits
      · obtain ⟨⟨known, event⟩, member, rfl⟩ := List.mem_map.mp done
        obtain ⟨other, otherFound, isEvent, _⟩ :=
          invariant.registered.handed subscriptionFound member
        rw [published] at otherFound
        rw [Option.some.inj otherFound, isEvent]
        exact member
      · exact absurd waits notDue
  · have newest := kept.newest
    have ordered := kept.ordered
    rw [taken, ← handed] at newest ordered
    obtain ⟨heard, rfl, part, newest⟩ := DropOldest.exists_map_eq newest ordered
    refine ⟨heard, frames, part, newest, ?_⟩
    intro room
    have whole := reached.whole room found
    rw [Connection.Whole, pendingFor_unknown called, List.append_nil, taken] at whole
    apply part.eq_of_length
    simpa using congrArg List.length whole

end Lossless

/-- The queue of the first connection has room. -/
def firstHasRoom (state : Gateway) : Bool :=
  (state.connections[0]?.map fun connection =>
    decide (connection.queue.length < QUEUE_DEPTH)).getD true

theorem gateway_lossless_sample : ∃ final connection,
    Gateway.initial.runs false firstHasRoom oneTrade = some final ∧
    final.connections[0]? = some connection ∧ connection.frames.length = 2 ∧
    (∀ number event, (number, event) ∈ connection.subscription.handed ↔
      final.Published number event ∧ connection.subscription.Awaits number event) ∧
    connection.frames = readyFrame connection.subscription.channel ::
      connection.subscription.handed.map sentAs := by
  have evaluated : ((Gateway.initial.runs false firstHasRoom oneTrade).any fun final =>
      !final.stopped && final.scheduled.isEmpty && (final.publishings.all fun publishing =>
        publishing.targets.isEmpty) && final.connections[0]?.any fun connection =>
          connection.begun && connection.queue.isEmpty && connection.pump.held.isEmpty &&
            connection.frames.length = 2) = true := by decide
  obtain ⟨final, runs, facts⟩ := (Option.any_eq_true _ _).mp evaluated
  simp only [Bool.and_eq_true, Bool.not_eq_true', List.isEmpty_iff, List.all_eq_true] at facts
  obtain ⟨⟨⟨running, scheduled⟩, delivered⟩, present⟩ := facts
  obtain ⟨connection, found, more⟩ := (Option.any_eq_true _ _).mp present
  simp only [Bool.and_eq_true, List.isEmpty_iff, decide_eq_true_eq] at more
  obtain ⟨⟨⟨begun, queue⟩, held⟩, frames⟩ := more
  have idle : connection.pump = .idle := by
    cases pump : connection.pump with
    | idle => rfl
    | sending message => simp [pump, Pump.held] at held
    | failed message => simp [pump, Pump.held] at held
  obtain ⟨_, exactly, heard, isSent, _, _, whole⟩ := gateway_lossless (reached_of_runs runs)
    running found begun (fun publishing member => by simp [delivered publishing member])
    (fun callback member => by simp [scheduled] at member) ⟨queue, idle⟩
  refine ⟨final, connection, runs, found, frames, exactly, ?_⟩
  rw [isSent, whole]
  intro earlier known hasRoom knownFound
  simpa [firstHasRoom, knownFound] using hasRoom

end UrjaSetu.Api.Ws
