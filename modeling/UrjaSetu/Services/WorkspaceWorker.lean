import UrjaSetu.Library.RowLock
import UrjaSetu.Services.WorkspaceService.Clock

/-!
The sessions that change the simulation row: the worker's `cycle` of
`app/services/workspace_worker.py`, and the endpoints of `app/api/v1/workspace.py`
and `household.py` with the service functions they call.

A session is reduced to what it does with the simulation row. The other tables
enter through the environment: any call may raise, a delivery may find any
committed trades, the wall clock may read anything. Every number of workers is
allowed; the advisory lock only removes interleavings.

Owns: in which runs no committed mutation is lost.
-/

namespace UrjaSetu.Services.WorkspaceWorker

open UrjaSetu.Domain UrjaSetu.Domain.Policies.CommunityEnergy UrjaSetu.Db.Models
open UrjaSetu.Services.WorkspaceService UrjaSetu.Library.RowLock

/-- What a commit under the row lock belongs to. `cleanup` is the commit of the
worker's `finally` block. -/
inductive Mutation where
  | register
  | placeOrder
  | cancelOrder
  | acceptOffer
  | clearMarket
  | saveProfile
  | recoverMissing
  | control
  | enableLive
  | refreshWeather
  | publishReceipt
  | advance
  | tick
  | cleanup
deriving DecidableEq, Repr

/-- `advance` and `tick` move the clock with the simulation. -/
def Mutation.movesClock : Mutation → Bool
  | .advance | .tick => true
  | _ => false

/-- A transaction on the simulation row. The inputs are readings of the wall
clock. -/
abbrev Transaction := Program Simulation Instant Mutation

/-! ## `workspace_service` -/

/-- `state(db, True)`. -/
def stateLocked (next : Transaction) : Transaction := .selectForUpdate next

/-- `state(db)`. -/
def state (next : Transaction) : Transaction := .get next

/-- `bump(sim)`. -/
def bump (next : Transaction) : Transaction :=
  .assign (fun sim => { sim with revision := sim.revision + 1 }) next

/-- A call that touches the row only to lock it and bump it: `place_order`,
`cancel_order`, `clear_market`, `recover_missing`, `register`, `save_profile`. -/
def bumped (mutation : Mutation) (next : Transaction) : Transaction :=
  stateLocked (bump (.commit mutation next))

/-- `place_order(..., commit=False)`, and `clear_market(..., commit=False)`. -/
def bumpedUncommitted (next : Transaction) : Transaction := stateLocked (bump next)

/-- `accept_offer`: a retry and a refusal raise or return without a commit,
which the environment does at any point; `placesOwn` when no own order is
named. -/
def acceptOffer (placesOwn : Bool) (next : Transaction) : Transaction :=
  stateLocked (state (if placesOwn
    then bumpedUncommitted (bumpedUncommitted (.commit .acceptOffer next))
    else bumpedUncommitted (.commit .acceptOffer next)))

/-- `advance(db, intervals, deliver)`; `deliveryEnd` is the last delivery end of
the committed trades, when there are any. -/
def advance (intervals : ℤ) (deliver : Bool) (deliveryEnd : Option Instant) (next : Transaction) :
    Transaction :=
  stateLocked (.inspect fun sim =>
    if deliver then
      match deliveryEnd with
      | none => .raise
      | some target => move sim target
    else move sim (sim.clock + INTERVAL * intervals))
where
  move (sim : Simulation) (target : Instant) : Transaction :=
    if target > sim.clock + 2 * DAY then .raise
    else
      .assign (fun sim => { sim with clock := (passTo sim.clock target).2 })
        (.flush (bump (.commit .advance next)))

/-! ## `experience_service` -/

/-- `tick(db)`. -/
def tick (next : Transaction) : Transaction :=
  stateLocked (.ask fun now =>
    .assign (fun sim => { sim with clock := floorTime now 900 })
      (.flush (bump (.commit .tick next))))

/-- `enable_live(db)`. -/
def enableLive (next : Transaction) : Transaction :=
  stateLocked (.ask fun now =>
    .assign (fun sim => { sim with
        clock := floorTime now 900
        liveMode := true
        running := false
        scenario := .normal })
      (.flush (bump (.commit .enableLive next))))

/-! ## `workspace_worker` -/

/-- `refresh_weather(db)`, with the document it fetched. -/
def refreshWeather (weather : String) (next : Transaction) : Transaction :=
  stateLocked (.assign (fun sim => { sim with weather := weather })
    (bump (.commit .refreshWeather next)))

/-- The loop over the pending receipts. -/
def publishReceipts : ℕ → Transaction
  | 0 => .finished
  | receipts + 1 => bumped .publishReceipt (publishReceipts receipts)

/-- The rest of `cycle` after the simulation has moved. -/
def afterMove (weather : Option String) (receipts : ℕ) : Transaction :=
  match weather with
  | some document => refreshWeather document (publishReceipts receipts)
  | none => publishReceipts receipts

/-- `cycle(weather)`: its first read takes no lock. -/
def cycle (weather : Option String) (receipts : ℕ) : Transaction :=
  .get (.inspect fun sim =>
    if sim.liveMode then tick (afterMove weather receipts)
    else if sim.running then advance 1 false none (afterMove weather receipts)
    else afterMove weather receipts)

/-! ## The endpoints -/

/-- The requests that change the simulation row. -/
inductive Request where
  | register
  | placeOrder
  | cancelOrder
  | acceptOffer (placesOwn : Bool)
  | clearMarket
  | saveProfile
  | recover
  | step (deliver : Bool) (deliveryEnd : Option Instant)
  | live
  | weather (document : String)
  | scenario (chosen : Scenario)
  | play (running : Bool)

def Request.program : Request → Transaction
  | .register => bumped .register .finished
  | .placeOrder => bumped .placeOrder .finished
  | .cancelOrder => bumped .cancelOrder .finished
  | .acceptOffer placesOwn => WorkspaceWorker.acceptOffer placesOwn .finished
  | .clearMarket => bumped .clearMarket .finished
  | .saveProfile => bumped .saveProfile .finished
  | .recover => bumped .recoverMissing .finished
  | .step deliver deliveryEnd =>
      stateLocked (.assign (fun sim => { sim with liveMode := false })
        (advance 1 deliver deliveryEnd .finished))
  | .live => enableLive .finished
  | .weather document => refreshWeather document .finished
  | .scenario chosen =>
      stateLocked (.assign (fun sim => { sim with scenario := chosen })
        (bump (.commit .control .finished)))
  | .play running =>
      stateLocked (.assign (fun sim => { sim with liveMode := false, running := running })
        (bump (.commit .control .finished)))

/-- Who opens a session on the row. -/
inductive Client where
  | api (request : Request)
  | worker (weather : Option String) (receipts : ℕ)

/-- A request session is made by `get_session_factory` and closed on an
exception; the worker's `Session(bind=connection)` has the library's defaults,
and its `finally` block commits. -/
def Client.session : Client → Session Simulation Instant Mutation
  | .api request =>
      { program := request.program, onError := .finished, identity := none, expireOnCommit := false }
  | .worker weather receipts =>
      { program := cycle weather receipts
        onError := .commit .cleanup .finished
        identity := none
        expireOnCommit := true }

def workspace : Setting Client Simulation Instant Mutation where
  write := Simulation.update
  code := Client.session

/-! ## What each transaction may commit -/

section Conditions

variable {clockRuns : Bool}

/-- A commit raises the revision and, where the wall clock is known to run ahead
of the simulation, does not move the clock back. -/
def Mutated (clockRuns : Bool) (_ : Mutation) (before after : Simulation) : Prop :=
  before.revision < after.revision ∧ (clockRuns = true → before.clock ≤ after.clock)

/-- A reading of the wall clock, to a quarter of an hour, that is not before the
committed clock. -/
def wallClockAhead (sim : Simulation) (now : Instant) : Bool :=
  sim.clock ≤ floorTime now 900

/-- The condition on inputs, when `clockRuns` asks for one. -/
def reading (clockRuns : Bool) (sim : Simulation) (now : Instant) : Bool :=
  !clockRuns || wallClockAhead sim now

/-- `transaction` meets its condition from the start. -/
abbrev Commits (clockRuns : Bool) (transaction : Transaction) : Prop :=
  transaction.Meets (Mutated clockRuns) (reading clockRuns) .reading

private theorem finished_commits : Commits clockRuns .finished := trivial

private theorem bumped_commits (mutation : Mutation) {next : Transaction}
    (onward : Commits clockRuns next) :
    Commits clockRuns (bumped mutation next) := by
  intro sim
  exact ⟨⟨Nat.lt_succ_self _, fun _ => le_refl _⟩, onward⟩

private theorem acceptOffer_commits (placesOwn : Bool) {next : Transaction}
    (onward : Commits clockRuns next) : Commits clockRuns (acceptOffer placesOwn next) := by
  intro sim
  cases placesOwn with
  | true => exact ⟨⟨by show sim.revision < sim.revision + 1 + 1; omega, fun _ => le_refl _⟩, onward⟩
  | false => exact ⟨⟨Nat.lt_succ_self _, fun _ => le_refl _⟩, onward⟩

/-- `advance` on a row whose clock and revision are the committed ones. -/
theorem advance_meets {intervals : ℤ} {deliver : Bool} {deliveryEnd : Option Instant}
    {next : Transaction} (onward : Commits clockRuns next) {base current : Simulation}
    (clock : current.clock = base.clock) (revision : current.revision = base.revision) :
    (advance intervals deliver deliveryEnd next).Meets (Mutated clockRuns) (reading clockRuns)
      (.holding base current) := by
  have moved : ∀ target, (advance.move next current target).Meets (Mutated clockRuns)
      (reading clockRuns) (.holding base current) := by
    intro target
    unfold advance.move
    split
    · trivial
    · refine ⟨⟨?_, fun _ => ?_⟩, onward⟩
      · show base.revision < current.revision + 1
        omega
      · show base.clock ≤ (passTo current.clock target).2
        rw [← clock]
        exact passTo_clock current.clock target
  show Program.Meets _ _ (if deliver then _ else _) _
  cases deliver with
  | false => exact moved _
  | true =>
      cases deliveryEnd with
      | none => trivial
      | some target => exact moved target

private theorem advance_commits {intervals : ℤ} {deliver : Bool} {deliveryEnd : Option Instant}
    {next : Transaction} (onward : Commits clockRuns next) :
    Commits clockRuns (advance intervals deliver deliveryEnd next) :=
  fun _ => advance_meets onward rfl rfl

private theorem forward_of_reading {sim : Simulation} {now : Instant}
    (permitted : reading clockRuns sim now = true) (runs : clockRuns = true) :
    sim.clock ≤ floorTime now 900 := by
  simpa [reading, wallClockAhead, runs] using permitted

private theorem tick_commits {next : Transaction} (onward : Commits clockRuns next) :
    Commits clockRuns (tick next) := by
  intro sim now permitted
  exact ⟨⟨Nat.lt_succ_self _, forward_of_reading permitted⟩, onward⟩

private theorem enableLive_commits {next : Transaction} (onward : Commits clockRuns next) :
    Commits clockRuns (enableLive next) := by
  intro sim now permitted
  exact ⟨⟨Nat.lt_succ_self _, forward_of_reading permitted⟩, onward⟩

private theorem refreshWeather_commits (document : String) {next : Transaction}
    (onward : Commits clockRuns next) : Commits clockRuns (refreshWeather document next) := by
  intro sim
  exact ⟨⟨Nat.lt_succ_self _, fun _ => le_refl _⟩, onward⟩

private theorem publishReceipts_commits (receipts : ℕ) :
    Commits clockRuns (publishReceipts receipts) := by
  induction receipts with
  | zero => trivial
  | succ receipts inductionHypothesis => exact bumped_commits .publishReceipt inductionHypothesis

private theorem afterMove_commits (weather : Option String) (receipts : ℕ) :
    Commits clockRuns (afterMove weather receipts) := by
  cases weather with
  | none => exact publishReceipts_commits receipts
  | some document => exact refreshWeather_commits document (publishReceipts_commits receipts)

private theorem cycle_commits (weather : Option String) (receipts : ℕ) :
    Commits clockRuns (cycle weather receipts) := by
  intro sim
  have rest : Commits clockRuns (afterMove weather receipts) := afterMove_commits weather receipts
  dsimp only
  split
  · exact tick_commits rest
  · split
    · exact advance_commits rest
    · exact rest

private theorem request_commits (request : Request) : Commits clockRuns request.program := by
  cases request with
  | register => exact bumped_commits .register finished_commits
  | placeOrder => exact bumped_commits .placeOrder finished_commits
  | cancelOrder => exact bumped_commits .cancelOrder finished_commits
  | acceptOffer placesOwn => exact acceptOffer_commits placesOwn finished_commits
  | clearMarket => exact bumped_commits .clearMarket finished_commits
  | saveProfile => exact bumped_commits .saveProfile finished_commits
  | recover => exact bumped_commits .recoverMissing finished_commits
  | step deliver deliveryEnd =>
      intro sim
      exact advance_meets finished_commits rfl rfl
  | live => exact enableLive_commits finished_commits
  | weather document => exact refreshWeather_commits document finished_commits
  | scenario chosen =>
      intro sim
      exact ⟨⟨Nat.lt_succ_self _, fun _ => le_refl _⟩, finished_commits⟩
  | play running =>
      intro sim
      exact ⟨⟨Nat.lt_succ_self _, fun _ => le_refl _⟩, finished_commits⟩

private theorem client_meeting (client : Client) :
    Meeting (Mutated clockRuns) (reading clockRuns) (workspace.code client) := by
  cases client with
  | api request => exact ⟨request_commits request, trivial⟩
  | worker weather receipts => exact ⟨cycle_commits weather receipts, trivial⟩

end Conditions

/-! ## No committed mutation is lost -/

section Runs

variable {Name : Type} [DecidableEq Name]

/-- Every committed mutation raises the revision, and no `advance` or `tick`
leaves a clock before one that another has committed. -/
def NoLostMutation (history : List (Event Name Simulation Mutation)) : Prop :=
  (∀ event ∈ history, event.before.revision < event.after.revision) ∧
    history.Pairwise fun earlier later =>
      earlier.label.movesClock = true → later.label.movesClock = true →
        earlier.after.clock ≤ later.after.clock

/-- The row lock is taken on a fresh row, no exception strikes the worker under
it, and there the wall clock is not before the committed clock. -/
def orderly (system : System Name Simulation Instant Mutation)
    (action : Action Name Client Instant) : Bool :=
  freshLock system action && quietFailure system action && allowedInput wallClockAhead system action

variable {start : Simulation} {actions : List (Action Name Client Instant)}
  {final : System Name Simulation Instant Mutation}

private theorem orderly_mutated
    (reached : run workspace orderly (System.initial start) actions = some final) :
    ∀ event ∈ final.history, Mutated true event.label event.before event.after :=
  history_meets Simulation.update_loaded client_meeting reached

/-- The revision needs no condition on the wall clock. -/
theorem revision_increases (reached : run workspace
      (fun system action => freshLock system action && quietFailure system action)
        (System.initial start) actions = some final) :
    ∀ event ∈ final.history, event.before.revision < event.after.revision := by
  have anyInput : ∀ (system : System Name Simulation Instant Mutation)
      (action : Action Name Client Instant), allowedInput (reading false) system action = true := by
    intro system action
    unfold allowedInput
    split
    · split
      · simp [reading]
      · rfl
    · rfl
  have permitted := run_weaken (fun system action => freshLock system action &&
    quietFailure system action && allowedInput (reading false) system action)
      (fun system action condition => by simp [condition, anyInput]) reached
  intro event member
  exact (history_meets Simulation.update_loaded client_meeting permitted event member).1

/-- In an orderly run of any sessions no committed mutation is lost. -/
theorem no_lost_mutation (reached : run workspace orderly (System.initial start) actions = some final) :
    NoLostMutation final.history := by
  have mutated := orderly_mutated reached
  constructor
  · intro event member
    exact (mutated event member).1
  · have chain := history_chained reached
    have ordered := (chain.pairwise (fun before after => before.clock ≤ after.clock)
      (fun _ => le_refl _) (fun _ _ _ => le_trans)
      (fun event member => (mutated event member).2 rfl)).1
    apply List.Pairwise.imp_of_mem _ ordered
    intro earlier later _ member between _ _
    exact between.trans ((mutated later member).2 rfl)

end Runs

/-! ## Runs on fixed sessions -/

/-- A running simulation at its first revision. -/
def running : Simulation :=
  { clock := 0, running := true, scenario := .normal, revision := 0, weather := "", liveMode := false }

/-- `count` steps of one session. -/
def stepping (name : ℕ) (count : ℕ) : List (Action ℕ Client Instant) :=
  List.replicate count (.steps name 0)

/-- Two operator steps commit between the first read of a worker and its lock. -/
def overtakenWorker : List (Action ℕ Client Instant) :=
  .opens 0 (.worker none 0) :: stepping 0 2 ++
    .opens 1 (.api (.step false none)) :: stepping 1 8 ++
      .opens 2 (.api (.step false none)) :: stepping 2 8 ++ stepping 0 6

/-- An order is placed while an operator's step and an acceptance wait for the
row. -/
def queuedSessions : List (Action ℕ Client Instant) :=
  [.opens 1 (.api .placeOrder), .opens 2 (.api (.step false none)),
    .opens 3 (.api (.acceptOffer false)), .steps 1 0]

/-- The order commits, then the acceptance, then the step, and then a worker. -/
def orderlySessions : List (Action ℕ Client Instant) :=
  queuedSessions ++ stepping 1 2 ++ stepping 3 5 ++ stepping 2 8 ++
    .opens 0 (.worker none 0) :: stepping 0 8

/-- The worker, waiting for the lock with the row it read before, writes the
revision and the clock it computes from that row over two later commits. -/
theorem overtakenWorker_lost :
    ∃ final, run workspace (fun _ _ => true) (System.initial running) overtakenWorker = some final ∧
      (¬ ∀ event ∈ final.history, event.before.revision < event.after.revision) ∧
        ¬ final.history.Pairwise fun earlier later =>
          earlier.label.movesClock = true → later.label.movesClock = true →
            earlier.after.clock ≤ later.after.clock := by
  let moved (clock : Instant) (revision : ℕ) : Simulation :=
    { running with clock := clock, revision := revision }
  have history : (run workspace (fun _ _ => true) (System.initial running) overtakenWorker).map
      System.history = some
        [⟨1, .advance, moved 0 0, moved 900000000 1⟩,
          ⟨2, .advance, moved 900000000 1, moved 1800000000 2⟩,
          ⟨0, .advance, moved 1800000000 2, moved 900000000 1⟩] := by decide +kernel
  obtain ⟨final, reached, log⟩ := Option.map_eq_some_iff.mp history
  refine ⟨final, reached, ?_⟩
  rw [log]
  decide +kernel

theorem no_lost_mutation_sample :
    (run workspace (fun _ _ => true) (System.initial running)
      (queuedSessions ++ stepping 2 1)).isNone = true ∧
    ∃ final, run workspace orderly (System.initial running) orderlySessions = some final ∧
      final.history.map Event.label = [.placeOrder, .acceptOffer, .advance, .advance] ∧
      NoLostMutation final.history := by
  have commits : (run workspace orderly (System.initial running) orderlySessions).map
      (fun system => system.history.map Event.label) =
        some [.placeOrder, .acceptOffer, .advance, .advance] := by decide +kernel
  obtain ⟨final, reached, labels⟩ := Option.map_eq_some_iff.mp commits
  exact ⟨by decide +kernel, final, reached, labels, no_lost_mutation reached⟩

/-- An exception after `tick` has moved the clock: the `finally` block commits
the clock without its bump. -/
example : (run workspace (fun _ _ => true) (System.initial { running with liveMode := true })
    (.opens 0 (.worker none 0) :: stepping 0 3 ++
      .steps 0 900000000 :: stepping 0 2 ++ .raises 0 :: stepping 0 1)).map
        (fun system => system.history.map fun event =>
          (event.before.clock, event.after.clock, event.before.revision, event.after.revision)) =
    some [(0, 900000000, 0, 0)] := by decide +kernel

end UrjaSetu.Services.WorkspaceWorker
