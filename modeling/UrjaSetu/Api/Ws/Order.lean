import UrjaSetu.Api.Ws.Delivery

/-!
In which order a client is sent what was published.

Owns: what a step adds to what a connection was handed, and that a client is sent
no event before one whose publication had ended.
-/

namespace UrjaSetu.Api.Ws

open UrjaSetu.Domain UrjaSetu.Domain.Interfaces.Realtime UrjaSetu.Db.Models UrjaSetu.Library
  UrjaSetu.Services.RealtimeService

section Order

variable {legacyTestApi : Bool} {state : Gateway}

/-- A step hands a connection at most one event, of a thread that still had
targets. -/
theorem handed_stepped {next : Gateway} (invariant : Invariant legacyTestApi state)
    (stepped : state.Stepped legacyTestApi next) {id : ℕ} {connection : Connection}
    (found : next.connections[id]? = some connection) :
    connection.subscription.handed = [] ∨ ∃ known added,
      state.connections[id]? = some known ∧
        connection.subscription.handed = known.subscription.handed ++ added ∧
          ∀ entry ∈ added, ∃ publishing, state.publishings[entry.1]? = some publishing ∧
            publishing.targets ≠ [] := by
  -- all but a delivery change no connection's history
  have modified : ∀ {place : ℕ} {change : Connection → Connection},
      (state.connections.modify place change)[id]? = some connection →
      (∀ known, state.connections[place]? = some known →
        (change known).subscription.handed = known.subscription.handed) →
        ∃ known added, state.connections[id]? = some known ∧
          connection.subscription.handed = known.subscription.handed ++ added ∧
            ∀ entry ∈ added, ∃ publishing, state.publishings[entry.1]? = some publishing ∧
              publishing.targets ≠ [] := by
    intro place change changed alike
    obtain ⟨known, knownFound, same⟩ := getElem?_modify_eq_some.mp changed
    refine ⟨known, [], knownFound, ?_, fun _ member => (by cases member)⟩
    rw [List.append_nil, ← same]
    split
    · rename_i here
      subst here
      exact alike known knownFound
    · rfl
  cases stepped with
  | connected channel actor running =>
      rcases getElem?_concat_eq_some.mp found with earlier | ⟨_, rfl⟩
      · exact .inr ⟨connection, [], earlier, (List.append_nil _).symm,
          fun _ member => (by cases member)⟩
      · exact .inl rfl
  | subscribed other token joined running joinedFound accepting fresh =>
      exact .inr (modified found fun _ _ => rfl)
  | moved other move before moved running beforeFound moves =>
      refine .inr (modified found ?_)
      intro known knownFound
      rw [(Connection.moved (invariant.lawful beforeFound) moves).subscription,
        Option.some.inj (beforeFound.symm.trans knownFound)]
  | closed other token before running beforeFound named closing =>
      exact .inr (modified found fun _ _ => rfl)
  | published event =>
      exact .inr ⟨connection, [], found, (List.append_nil _).symm,
        fun _ member => (by cases member)⟩
  | dropped number other token rest publishing stopped published targets =>
      exact .inr (modified found fun _ _ => rfl)
  | handed number other token rest publishing running published targets =>
      obtain ⟨known, knownFound, same⟩ := getElem?_modify_eq_some.mp found
      by_cases here : other = id
      · rw [if_pos here] at same
        refine .inr ⟨known, [(number, publishing.event)], knownFound, by rw [← same]; rfl, ?_⟩
        intro entry member
        rw [List.mem_singleton.mp member]
        exact ⟨publishing, published, by rw [targets]; exact List.cons_ne_nil _ _⟩
      · rw [if_neg here] at same
        exact .inr ⟨known, [], knownFound, by rw [← same, List.append_nil],
          fun _ member => (by cases member)⟩
  | called other message rest running scheduled =>
      exact .inr (modified found fun _ _ => rfl)
  | stopped =>
      exact .inr ⟨connection, [], found, (List.append_nil _).symm,
        fun _ member => (by cases member)⟩

/-- A thread that has ended stays as it is. -/
theorem ended_stepped {next : Gateway} (stepped : state.Stepped legacyTestApi next) {number : ℕ}
    {publishing : Publishing ℕ} (published : state.publishings[number]? = some publishing)
    (ended : publishing.targets = []) : next.publishings[number]? = some publishing := by
  have others : ∀ {place : ℕ} {target : UUID × ℕ} {rest : List (UUID × ℕ)}
      {running : Publishing ℕ} {change : Publishing ℕ → Publishing ℕ},
      state.publishings[place]? = some running → running.targets = target :: rest →
        (state.publishings.modify place change)[number]? = some publishing := by
    intro place target rest running change runningFound targets
    apply modified_elsewhere _ published
    rintro rfl
    rw [published] at runningFound
    rw [← Option.some.inj runningFound, ended] at targets
    cases targets
  cases stepped with
  | published event => exact getElem?_concat_eq_some.mpr (.inl published)
  | dropped place other token rest running stopped runningFound targets =>
      exact others runningFound targets
  | handed place other token rest running _ runningFound targets =>
      exact others runningFound targets
  | connected => exact published
  | subscribed => exact published
  | moved => exact published
  | closed => exact published
  | called => exact published
  | stopped => exact published

/-- What a connection was handed, in the events up to a moment and those after,
the first event being among the former only. -/
def Split (length first : ℕ) (handed : List (ℕ × RealtimeEvent)) : Prop :=
  ∃ early late, handed = early ++ late ∧ (∀ entry ∈ early, entry.1 < length) ∧
    ∀ entry ∈ late, entry.1 ≠ first

/-- Nothing that is split so has the first event after a later one. -/
theorem Split.ordered {length first later : ℕ} {handed : List (ℕ × RealtimeEvent)}
    (split : Split length first handed) (afterwards : length ≤ later) :
    ¬ [later, first].Sublist (handed.map Prod.fst) := by
  obtain ⟨early, late, rfl, before, after⟩ := split
  intro reversed
  rw [List.map_append, List.sublist_append_iff] at reversed
  obtain ⟨front, back, same, frontPart, backPart⟩ := reversed
  cases front with
  | nil =>
      rw [List.nil_append] at same
      have member : first ∈ late.map Prod.fst := backPart.subset (by rw [← same]; simp)
      obtain ⟨entry, entryMember, isFirst⟩ := List.mem_map.mp member
      exact after entry entryMember isFirst
  | cons head rest =>
      obtain rfl : later = head := (List.cons.inj same).1
      have member : later ∈ early.map Prod.fst := frontPart.subset List.mem_cons_self
      obtain ⟨entry, entryMember, isLater⟩ := List.mem_map.mp member
      have small := before entry entryMember
      omega

/-- Where the deliveries of one event ended before another was published, what a
client is sent are events it was handed, in that order, and so never the second
before the first. -/
theorem gateway_ordered {final : Gateway} (run : Run legacyTestApi .initial state) {first later : ℕ}
    {publishing : Publishing ℕ} (published : state.publishings[first]? = some publishing)
    (ended : publishing.targets = []) (afterwards : state.publishings.length ≤ later)
    (onward : Run legacyTestApi state final) {id : ℕ} {connection : Connection}
    (found : final.connections[id]? = some connection) :
    connection.frames = [] ∨ ∃ heard : List (ℕ × RealtimeEvent),
      connection.frames =
        readyFrame connection.subscription.channel :: heard.map sentAs ∧
      heard.Sublist connection.subscription.handed ∧
      (∀ number event, (number, event) ∈ heard → final.Published number event) ∧
      ¬ [later, first].Sublist (heard.map Prod.fst) := by
  have invariant := run.invariant (.initial legacyTestApi)
  have reached : final.publishings[first]? = some publishing ∧ ∀ {connection : Connection},
      final.connections[id]? = some connection →
        Split state.publishings.length first connection.subscription.handed := by
    clear found
    induction onward with
    | start =>
        refine ⟨published, ?_⟩
        intro connection found
        refine ⟨_, [], (List.append_nil _).symm, ?_, fun _ member => (by cases member)⟩
        rintro ⟨number, event⟩ member
        obtain ⟨known, knownFound, _⟩ :=
          invariant.registered.handed (subscription_of_found found) member
        exact (List.getElem?_eq_some_iff.mp knownFound).1
    | @step middle next before action steps _ inductionHypothesis =>
        obtain ⟨stillEnded, split⟩ := inductionHypothesis
        have stepped := Gateway.stepped_of_step steps
        refine ⟨ended_stepped stepped stillEnded ended, ?_⟩
        intro connection found
        rcases handed_stepped (before.invariant invariant) stepped found with
          none | ⟨known, added, knownFound, same, threads⟩
        · exact ⟨[], [], none, fun _ member => (by cases member),
            fun _ member => (by cases member)⟩
        · obtain ⟨early, late, parts, small, unlike⟩ := split knownFound
          refine ⟨early, late ++ added, by rw [same, parts, List.append_assoc], small, ?_⟩
          intro entry member
          rcases List.mem_append.mp member with known | new
          · exact unlike entry known
          · rintro rfl
            obtain ⟨thread, threadFound, targets⟩ := threads entry new
            rw [stillEnded] at threadFound
            exact targets (Option.some.inj threadFound ▸ ended)
  have lastly := onward.invariant invariant
  refine (lastly.frames found).imp_right ?_
  rintro ⟨heard, _, frames, part⟩
  refine ⟨heard, frames, part, ?_, ?_⟩
  · intro number event member
    obtain ⟨known, knownFound, isEvent, _⟩ :=
      lastly.registered.handed (subscription_of_found found) (part.subset member)
    exact ⟨known, knownFound, isEvent⟩
  · intro reversed
    exact (reached.2 found).ordered afterwards (reversed.trans (part.map _))

end Order

/-- The price of the trade changes after it was proposed. -/
def repricing : List Action :=
  [.publish { tradeEvent with eventType := .marketPriceChanged, eventId := 10 }, .deliver 1,
    .callback, .move 0 .takes, .move 0 .sends]

/-- The client has heard of the trade and then of its price. -/
theorem gateway_ordered_sample : ∃ state final connection,
    Gateway.initial.runs false (fun _ => true) oneTrade = some state ∧
      state.runs false (fun _ => true) repricing = some final ∧
      final.connections[0]? = some connection ∧ ∃ heard : List (ℕ × RealtimeEvent),
        connection.frames =
          readyFrame connection.subscription.channel :: heard.map sentAs ∧
        heard.length = 2 ∧ heard.Sublist connection.subscription.handed ∧
        (∀ number event, (number, event) ∈ heard → final.Published number event) ∧
        ¬ [1, 0].Sublist (heard.map Prod.fst) := by
  have evaluated : ((Gateway.initial.runs false (fun _ => true) oneTrade).any fun state =>
      state.publishings.length = 1 && (state.publishings[0]?.any fun publishing =>
        publishing.targets.isEmpty) && ((state.runs false (fun _ => true) repricing).any fun final =>
          final.connections[0]?.any fun connection => connection.frames.length = 3)) = true := by
    decide
  obtain ⟨state, first, facts⟩ := (Option.any_eq_true _ _).mp evaluated
  simp only [Bool.and_eq_true, decide_eq_true_eq] at facts
  obtain ⟨⟨length, ended⟩, onward⟩ := facts
  obtain ⟨publishing, published, noTargets⟩ := (Option.any_eq_true _ _).mp ended
  obtain ⟨final, second, served⟩ := (Option.any_eq_true _ _).mp onward
  obtain ⟨connection, found, three⟩ := (Option.any_eq_true _ _).mp served
  have frames : connection.frames.length = 3 := of_decide_eq_true three
  refine ⟨state, final, connection, first, second, found, ?_⟩
  rcases gateway_ordered (run_of_reached (reached_of_runs first)) published
      (List.isEmpty_iff.mp noTargets) length.le (run_of_reached (reached_of_runs second)) found with
    silent | ⟨heard, isSent, part, announced, ordered⟩
  · rw [silent] at frames
    cases frames
  · refine ⟨heard, isSent, ?_, part, announced, ordered⟩
    rw [isSent, List.length_cons, List.length_map] at frames
    exact Nat.succ.inj frames

end UrjaSetu.Api.Ws
