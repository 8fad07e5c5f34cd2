import UrjaSetu.Services.MarketService.SerialOrderBook

/-!
The order book under transactions that overlap.

Nothing is locked, so a transaction can be overtaken between its reads and its
commit. Owns: which commits overtake (`ready`, `apart`), that the order book is
kept in every run without them, and a run in which one of them breaks it.
-/

namespace UrjaSetu.Services.MarketService

open UrjaSetu.Domain UrjaSetu.Domain.Interfaces UrjaSetu.Db UrjaSetu.Db.Models
open UrjaSetu.Domain.Policies.AuditChain UrjaSetu.Domain.Policies.MarketMatching
open UrjaSetu.Library UrjaSetu.Library.Transaction

/-- What a commit must still find: the order it cancels has not been filled, the
session it closes or clears has not been cleared. -/
def ready (db : Database) : Request → Bool
  | .cancelOrder orderId =>
      !db.orders.rows.any fun order => order.id = orderId && order.status = .filled
  | .closeSession marketSessionId _ | .clearSession marketSessionId _ =>
      !db.marketSessions.rows.any fun session =>
        session.id = marketSessionId && session.status = .cleared
  | _ => true

/-- No order is cancelled under a clearing of its session. -/
def apart (db : Database) : Request → Request → Bool
  | .cancelOrder orderId, .clearSession marketSessionId _ =>
      !db.orders.rows.any fun order =>
        order.id = orderId && order.marketSessionId = marketSessionId
  | _, _ => true

private theorem uncleared_of_ready {db : Database} {marketSessionId : UUID}
    (unclearedNow : (!db.marketSessions.rows.any fun session =>
      session.id = marketSessionId && session.status = .cleared) = true) :
    Uncleared db marketSessionId := by
  intro session stored named isCleared
  simp only [Bool.not_eq_true', List.any_eq_false, Bool.and_eq_true, decide_eq_true_eq] at unclearedNow
  exact unclearedNow session stored ⟨named, isCleared⟩

/-- How the others may change the database under a request. -/
structure Rely (request : Request) (db later : Database) : Prop where
  sessions : ∀ session ∈ db.marketSessions.rows, ∃ found ∈ later.marketSessions.rows,
    found.id = session.id
  orders : ∀ order ∈ db.orders.rows, ∃ found ∈ later.orders.rows, found.id = order.id
  undisturbed : ∀ marketSessionId, clears marketSessionId request = true →
    Undisturbed marketSessionId db later

private theorem Rely.refl (request : Request) (db : Database) : Rely request db db :=
  ⟨fun session stored => ⟨session, stored, rfl⟩, fun order stored => ⟨order, stored, rfl⟩,
    fun marketSessionId _ => Undisturbed.refl marketSessionId db⟩

private theorem Rely.trans {request : Request} {first second third : Database}
    (before : Rely request first second) (after : Rely request second third) :
    Rely request first third where
  sessions := by
    intro session stored
    obtain ⟨found, foundStored, same⟩ := before.sessions session stored
    obtain ⟨last, lastStored, lastSame⟩ := after.sessions found foundStored
    exact ⟨last, lastStored, lastSame.trans same⟩
  orders := by
    intro order stored
    obtain ⟨found, foundStored, same⟩ := before.orders order stored
    obtain ⟨last, lastStored, lastSame⟩ := after.orders found foundStored
    exact ⟨last, lastStored, lastSame.trans same⟩
  undisturbed := fun marketSessionId clearing =>
    (before.undisturbed marketSessionId clearing).trans (after.undisturbed marketSessionId clearing)

section Commits

variable {engine : BaselineMatchingEngine} {request other : Request} {response : Response}
  {db next : Database}

/-- A commit that finds what it must is a step of the order book. -/
theorem Effect.step_of_ready (effect : Effect Law (Rely request) engine request response db next)
    (law : Law db) (stillReady : ready db request = true) : Step request response db next := by
  cases effect with
  | opened opened => exact .opened opened
  | closed closed => exact .closed (uncleared_of_ready stillReady) closed.sessions closed.rest
  | placed placed =>
      obtain ⟨session, read, sessionRead, _⟩ := placed.read
      obtain ⟨orderId, createdAt, row⟩ := placed.row
      obtain ⟨found, foundStored, same⟩ := sessionRead.rely.sessions session sessionRead.stored
      exact .placed ⟨found, foundStored, same.trans sessionRead.named⟩ row placed.fresh
        placed.orders placed.rest
  | cancelled cancelled =>
      obtain ⟨order, read, _, rely, stored, named, _⟩ := cancelled.read
      obtain ⟨found, foundStored, same⟩ := rely.orders order stored
      apply Step.cancelled ⟨found, foundStored, same.trans named⟩ _ cancelled.orders cancelled.rest
      intro row rowStored isOrder filled
      simp only [ready, Bool.not_eq_true', List.any_eq_false, Bool.and_eq_true,
        decide_eq_true_eq] at stillReady
      exact stillReady row rowStored ⟨isOrder, filled⟩
  | cleared cleared =>
      apply Step.cleared
      apply cleared.clearing law (fun _ lawful => lawful)
      · exact fun read later rely => rely.undisturbed _ (decide_eq_true rfl)
      · exact uncleared_of_ready stillReady

/-- A step leaves alone what a transaction it is apart from relies on. -/
theorem Step.rely (step : Step request response db next) (kept : apart db request other = true) :
    Rely other db next where
  sessions := by
    intro session stored
    obtain ⟨later, laterStored, same, _⟩ := step.session_kept stored
    exact ⟨later, laterStored, same⟩
  orders := by
    intro order stored
    obtain ⟨later, laterStored, same, _⟩ := step.order_kept stored
    exact ⟨later, laterStored, same⟩
  undisturbed := by
    intro marketSessionId clearing
    refine ⟨fun session stored => step.session_kept stored, ?_⟩
    intro after order stored own active
    cases other with
    | openSession => cases clearing
    | placeOrder => cases clearing
    | cancelOrder => cases clearing
    | closeSession => cases clearing
    | clearSession clearedId at_ =>
        have same : clearedId = marketSessionId := of_decide_eq_true clearing
        subst same
        cases step with
        | opened opened =>
            rw [opened.rest]
            exact stored
        | closed _ _ rest =>
            rw [rest]
            exact stored
        | placed _ _ _ orders _ =>
            rw [orders]
            exact List.mem_append_left _ stored
        | @cancelled orderId _ _ _ _ _ orders _ =>
            have different : ¬ order.id = orderId := by
              intro isOrder
              simp only [apart, Bool.not_eq_true', List.any_eq_false, Bool.and_eq_true,
                decide_eq_true_eq] at kept
              exact kept order stored ⟨isOrder, own⟩
            rw [orders]
            apply List.mem_map.mpr
            exact ⟨order, stored, if_neg different⟩
        | cleared cleared =>
            rw [cleared.orders]
            apply List.mem_map.mpr
            refine ⟨order, stored, if_neg ?_⟩
            intro filled
            have session := (cleared.session stored filled).1
            have step : Step (.clearSession _ at_) _ db next := .cleared cleared
            have isCleared := (step.of_clears (decide_eq_true rfl)).2
            exact isCleared (session.symm.trans own ▸ after)

end Commits

def orderBookProtocol : Protocol Request Database Response where
  valid := Law
  rely := Rely
  guarantee := Step
  reflexive := Rely.refl
  transitive := fun _ _ _ _ => Rely.trans

private theorem orderBook_kept (platform : Platform) (engine : BaselineMatchingEngine) :
    orderBookProtocol.Kept (handle platform engine) ready apart where
  meets := by
    intro request
    apply (handle_wp platform engine request).mono
    intro response log known effect db next law learned stillReady replayed
    exact (effect db next law learned replayed).step_of_ready law stillReady
  keeps := fun _ _ _ _ law _ step => law.step step
  respects := fun _ _ _ _ _ _ _ kept step => step.rely kept

/-- In every run whose commits find what they must and stay apart, the order book
is kept in every committed state. -/
theorem run_orderBook (platform : Platform) (engine : BaselineMatchingEngine) {start : Database}
    (law : Law start) (noTrades : start.trades.rows = []) {actions : List (Action Request Supply)}
    {final : System Request Database Supply Failure Response}
    (reached : run (handle platform engine) (commitsWhen ready apart) ⟨start, [], []⟩ actions =
      some final) :
    (∀ order ∈ final.committed.orders.rows,
      order.matchedKwh = tradedKwh final.committed.trades.rows order.id ∧
      order.matchedKwh ≤ order.energyKwh ∧
      ¬ (order.matchedKwh = order.energyKwh ∧ order.status = .cancelled)) ∧
    (final.committed.trades.rows = final.history.flatMap fun commit => commit.value.created) ∧
    (∀ marketSessionId,
      (final.history.filter fun commit => clears marketSessionId commit.op).length ≤ 1) ∧
    (∀ commit ∈ final.history, ∀ trade ∈ commit.value.created, ∃ buy sell,
      Parties final.committed trade buy sell ∧ clears buy.marketSessionId commit.op = true) ∧
    final.history.Pairwise fun earlier later => ∀ orderId, earlier.op = .cancelOrder orderId →
      ∀ trade ∈ later.value.created, trade.buyOrderId ≠ orderId ∧ trade.sellOrderId ≠ orderId := by
  have sound := history_meets (orderBook_kept platform engine) law reached
  have history : History final.history final.committed := by
    apply sound.linked.preserves History (History.start law noTrades)
    intro earlier commit member kept
    exact kept.step (sound.history commit member).2.2
  refine ⟨?_, history.trades, history.clearedOnce, history.sessions, history.afterCancel⟩
  intro order stored
  refine ⟨history.law.matched order stored, (order_bounds stored).2.2, ?_⟩
  rintro ⟨full, isCancelled⟩
  exact ((history.law.status order stored).cancelled isCancelled).ne full

/-! ## A cancellation overtaken by a clearing -/

/-- A session with a buy order for 3 kWh and a sell order for 2 kWh. -/
def sampleBook (sessions : Table Models.marketSessions) : Database :=
  { sampleCommunity with
    marketSessions := sessions
    orders := ⟨[(sampleBuy 3).order 201 10, (sampleSell 2).order 301 20],
      by decide +kernel, by decide⟩ }

private theorem sampleBook_law {sessions : Table Models.marketSessions}
    (listed : ∃ session ∈ sessions.rows, session.id = 100) : Law (sampleBook sessions) where
  sessions := by
    intro order stored
    simp only [sampleBook, List.mem_cons, List.not_mem_nil, or_false] at stored
    rcases stored with rfl | rfl <;> exact listed
  columns := by
    intro order stored
    simp only [sampleBook, List.mem_cons, List.not_mem_nil, or_false] at stored
    rcases stored with rfl | rfl
    · refine ⟨by decide +kernel, by decide +kernel, ?_, ?_⟩
      · intro _ absurdity
        cases absurdity
      · intro _ bound
        cases bound
        decide +kernel
    · refine ⟨by decide +kernel, by decide +kernel, ?_, ?_⟩
      · intro _ bound
        cases bound
        decide +kernel
      · intro _ absurdity
        cases absurdity
  matched := by
    intro order stored
    simp only [sampleBook, List.mem_cons, List.not_mem_nil, or_false] at stored
    rcases stored with rfl | rfl <;> rfl
  status := by
    intro order stored
    simp only [sampleBook, List.mem_cons, List.not_mem_nil, or_false] at stored
    rcases stored with rfl | rfl <;> exact FillStatus.fresh rfl rfl (by decide +kernel)
  parties := by
    intro trade absurdity
    cases absurdity
  unmatched := by
    intro order stored _
    simp only [sampleBook, List.mem_cons, List.not_mem_nil, or_false] at stored
    rcases stored with rfl | rfl <;> rfl

def sampleEve : Database :=
  sampleBook ⟨[⟨100, 0, .dayAhead, .closed, some 5, some 30, none⟩], by decide, by decide⟩

private theorem sampleEve_law : Law sampleEve := sampleBook_law (by decide +kernel)

/-- Take `count` steps of a session. -/
def stepping (name count : ℕ) (supply : ℕ → Supply) : List (Action Request Supply) :=
  (List.range count).map fun index => .steps name (supply index)

/-- The sell order is read by its cancellation, filled by a clearing that commits,
and then cancelled. -/
def overtakenCancellation : List (Action Request Supply) :=
  .opens (.cancelOrder 301) :: stepping 0 1 (sampleSupply 600) ++
    .opens (.clearSession 100 (some 40)) :: stepping 1 17 (sampleSupply 500) ++
      stepping 0 2 (sampleSupply 700)

theorem run_orderBook_broken :
    Law sampleEve ∧ sampleEve.trades.rows = [] ∧
      ∃ final, run (handle samplePlatform {}) (fun _ _ => true) ⟨sampleEve, [], []⟩
          overtakenCancellation = some final ∧
        ∃ order ∈ final.committed.orders.rows,
          order.matchedKwh = order.energyKwh ∧ order.status = .cancelled := by
  have broken : ((run (handle samplePlatform {}) (fun _ _ => true) ⟨sampleEve, [], []⟩
      overtakenCancellation).map fun final => final.committed.orders.rows.any fun order =>
        order.matchedKwh = order.energyKwh && order.status = .cancelled) = some true := by
    unfold handle clearSession AuditService.append AuditService.sealedRow sealEvent
    rw [AuditService.eventFingerprint_head samplePlatform.sha256 fun _ => rfl]
    decide +kernel
  obtain ⟨final, reached, found⟩ := Option.map_eq_some_iff.mp broken
  obtain ⟨order, stored, both⟩ := List.any_eq_true.mp found
  rw [Bool.and_eq_true, decide_eq_true_eq, decide_eq_true_eq] at both
  exact ⟨sampleEve_law, rfl, final, reached, order, stored, both⟩

/-! ## Transactions that overlap and stay apart -/

def sampleMorning : Database :=
  sampleBook ⟨[⟨100, 0, .dayAhead, .open, some 5, none, none⟩], by decide, by decide⟩

private theorem sampleMorning_law : Law sampleMorning := sampleBook_law (by decide +kernel)

/-- An order finds the session open and is placed after a clearing of it has read the
book. While the clearing goes on a cancellation reads the order, and ends after it. -/
def lateOrder : List (Action Request Supply) :=
  .opens (.placeOrder (sampleBuy 1)) :: stepping 0 2 (sampleSupply 600) ++
    .opens (.closeSession 100 (some 30)) :: stepping 1 3 (sampleSupply 700) ++
      .opens (.clearSession 100 (some 40)) :: stepping 2 7 (sampleSupply 900) ++
        stepping 0 9 (sampleSupply 600) ++
          .opens (.cancelOrder 602) :: stepping 3 1 (sampleSupply 800) ++
            stepping 2 10 (sampleSupply 920) ++ stepping 3 2 (sampleSupply 950)

/-- All four commit, the clearing with a trade between the two earlier orders. -/
theorem run_orderBook_sample : ∃ final, run (handle samplePlatform {}) (commitsWhen ready apart)
      ⟨sampleMorning, [], []⟩ lateOrder = some final ∧
    final.history.map Commit.op = [.closeSession 100 (some 30), .placeOrder (sampleBuy 1),
      .clearSession 100 (some 40), .cancelOrder 602] ∧
    final.committed.trades.rows.map (fun trade =>
      (trade.buyOrderId, trade.sellOrderId, trade.quantityKwh)) = [(201, 301, 2)] ∧
    ∀ order ∈ final.committed.orders.rows,
      order.matchedKwh = tradedKwh final.committed.trades.rows order.id ∧
        ¬ (order.matchedKwh = order.energyKwh ∧ order.status = .cancelled) := by
  have ends : ((run (handle samplePlatform {}) (commitsWhen ready apart) ⟨sampleMorning, [], []⟩
      lateOrder).map fun final => (final.history.map Commit.op, final.committed.trades.rows.map
        fun trade => (trade.buyOrderId, trade.sellOrderId, trade.quantityKwh))) =
      some ([.closeSession 100 (some 30), .placeOrder (sampleBuy 1), .clearSession 100 (some 40),
        .cancelOrder 602], [(201, 301, 2)]) := by
    unfold handle placeOrder clearSession AuditService.append AuditService.sealedRow sealEvent
    rw [AuditService.eventFingerprint_head samplePlatform.sha256 fun _ => rfl]
    decide +kernel
  obtain ⟨final, reached, found⟩ := Option.map_eq_some_iff.mp ends
  obtain ⟨requests, trades⟩ := Prod.ext_iff.mp found
  refine ⟨final, reached, requests, trades, ?_⟩
  intro order stored
  obtain ⟨matched, _, notCancelled⟩ :=
    (run_orderBook samplePlatform {} sampleMorning_law rfl reached).1 order stored
  exact ⟨matched, notCancelled⟩

end UrjaSetu.Services.MarketService
