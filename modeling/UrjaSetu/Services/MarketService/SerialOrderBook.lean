import UrjaSetu.Services.MarketService.OrderBookHistory

/-!
The order book under requests served one after the other.
-/

namespace UrjaSetu.Services.MarketService

open UrjaSetu.Domain UrjaSetu.Domain.Interfaces UrjaSetu.Db UrjaSetu.Db.Models
open UrjaSetu.Domain.Policies.MarketMatching UrjaSetu.Library UrjaSetu.Library.Transaction

/-- The commits of requests served in turn, and the database they lead to. -/
def served (platform : Platform) (engine : BaselineMatchingEngine) (start : Database)
    (requests : List (Request × (ℕ → Supply))) : List (Commit Request Database Response) × Database :=
  serial (handle platform engine) start requests

/-- The ids of a session's orders, as they were placed. -/
def joined (db : Database) (marketSessionId : UUID) : List UUID :=
  (db.orders.rows.filter fun order => order.marketSessionId = marketSessionId).map Order.id

section Effects

variable {engine : BaselineMatchingEngine} {request : Request} {response : Response}
  {db next : Database} {marketSessionId : UUID}

private theorem uncleared_of_stored {session : MarketSession}
    (stored : session ∈ db.marketSessions.rows)
    (status : session.status ≠ .cleared) : Uncleared db session.id := by
  intro other otherStored same
  rw [sessions_eq otherStored stored same]
  exact status

/-- With no one else at work, what was read is what is committed to. -/
theorem Effect.step (effect : Effect Law Eq engine request response db next) (law : Law db) :
    Step request response db next := by
  cases effect with
  | opened opened => exact .opened opened
  | closed closed =>
      obtain ⟨session, read, sessionRead, isOpen⟩ := closed.read
      cases sessionRead.rely
      apply Step.closed _ closed.sessions closed.rest
      rw [← sessionRead.named]
      apply uncleared_of_stored sessionRead.stored
      rw [isOpen]
      nofun
  | placed placed =>
      obtain ⟨session, read, sessionRead, _⟩ := placed.read
      cases sessionRead.rely
      obtain ⟨orderId, createdAt, row⟩ := placed.row
      exact .placed ⟨session, sessionRead.stored, sessionRead.named⟩ row placed.fresh placed.orders
        placed.rest
  | cancelled cancelled =>
      obtain ⟨order, read, _, rely, stored, named, active⟩ := cancelled.read
      cases rely
      apply Step.cancelled ⟨order, stored, named⟩ _ cancelled.orders cancelled.rest
      intro other otherStored same
      rw [orders_eq otherStored stored (same.trans named.symm)]
      intro filled
      rw [filled] at active
      cases active
  | cleared cleared =>
      obtain ⟨session, read, bookRead, listRead, clearedAt, createdAt, result, proposedTrades,
        filled, sessionRead, isClosed, _⟩ := cleared.read
      apply Step.cleared
      apply cleared.clearing law fun _ lawful => lawful
      · intro read later same
        exact same ▸ Undisturbed.refl _ read
      · have same := sessionRead.rely
        subst same
        rw [← sessionRead.named]
        apply uncleared_of_stored sessionRead.stored
        rw [isClosed]
        nofun

private theorem joined_map {change : Order → Order}
    (orders : next.orders.rows = db.orders.rows.map change)
    (id : ∀ order, (change order).id = order.id)
    (session : ∀ order, (change order).marketSessionId = order.marketSessionId) :
    joined next marketSessionId = joined db marketSessionId := by
  have ids : Order.id ∘ change = Order.id := funext id
  have sessions : (fun order : Order => decide (order.marketSessionId = marketSessionId)) ∘ change =
      fun order => decide (order.marketSessionId = marketSessionId) := by
    funext order
    rw [Function.comp_apply, session]
  rw [joined, orders, List.filter_map, sessions, List.map_map, ids, joined]

/-- A session that is not open gets no order and is not opened again. -/
theorem Effect.joined_eq (effect : Effect Law Eq engine request response db next) (law : Law db)
    {session : MarketSession} (stored : session ∈ db.marketSessions.rows)
    (status : session.status ≠ .open) :
    joined next session.id = joined db session.id ∧
      ∃ later ∈ next.marketSessions.rows, later.id = session.id ∧ later.status ≠ .open := by
  have step := effect.step law
  cases effect with
  | opened opened =>
      refine ⟨?_, session, ?_, rfl, status⟩
      · rw [opened.rest]
        rfl
      · rw [opened.sessions]
        exact List.mem_append_left _ stored
  | @closed closedId _ _ _ _ closed =>
      refine ⟨?_, ?_⟩
      · rw [closed.rest]
        rfl
      · obtain ⟨later, laterStored, sameId, marked, unmarked⟩ := closed.sessions.stored stored
        refine ⟨later, laterStored, sameId, ?_⟩
        by_cases same : session.id = closedId
        · rw [marked same]
          nofun
        · rw [unmarked same]
          exact status
  | @placed placing order _ _ placed =>
      obtain ⟨read, _, sessionRead, isOpen⟩ := placed.read
      cases sessionRead.rely
      obtain ⟨orderId, createdAt, row⟩ := placed.row
      have other : order.marketSessionId ≠ session.id := by
        intro same
        have named : order.marketSessionId = placing.marketSessionId := by rw [row]; rfl
        have readSame := sessions_eq sessionRead.stored stored
          (sessionRead.named.trans (named.symm.trans same))
        exact status (readSame ▸ isOpen)
      obtain ⟨table, nextIs⟩ := placed.rest
      refine ⟨?_, session, ?_, rfl, status⟩
      · rw [joined, placed.orders, List.filter_append, List.filter_singleton,
          decide_eq_false other]
        exact congrArg _ (List.append_nil _)
      · rw [nextIs]
        exact stored
  | @cancelled orderId _ _ _ cancelled =>
      refine ⟨?_, session, ?_, rfl, status⟩
      · have orders : next.orders.rows = db.orders.rows.map (cancelledRow orderId) :=
          cancelled.orders
        exact joined_map orders (fun row => (cancelledRow_kept orderId row).1)
          fun row => (cancelledRow_kept orderId row).2.2.1
      · rw [cancelled.rest]
        exact stored
  | @cleared clearedId _ trades _ _ cleared =>
      cases step with
      | cleared clearing =>
          refine ⟨joined_map clearing.orders (filledWith_id trades)
            (filledWith_marketSessionId trades), ?_⟩
          obtain ⟨later, laterStored, sameId, marked, unmarked⟩ := clearing.sessions.stored stored
          refine ⟨later, laterStored, sameId, ?_⟩
          by_cases same : session.id = clearedId
          · rw [marked same]
            nofun
          · rw [unmarked same]
            exact status

end Effects

section Served

variable (platform : Platform) (engine : BaselineMatchingEngine)

/-- What is established of requests served in turn from a lawful database. -/
theorem served_meets {start : Database} (law : Law start)
    (requests : List (Request × (ℕ → Supply))) :
    Law (served platform engine start requests).2 ∧
      Linked start (served platform engine start requests).1
        (served platform engine start requests).2 ∧
      ∀ commit ∈ (served platform engine start requests).1, Law commit.before ∧
        Effect Law Eq engine commit.op commit.value commit.before commit.after :=
  serial_meets (handle_wp platform engine)
    (fun _ _ _ _ lawful effect => lawful.step (effect.step lawful)) law requests

private theorem served_history {start : Database} (noMarket : NoMarket start)
    (requests : List (Request × (ℕ → Supply))) :
    History (served platform engine start requests).1 (served platform engine start requests).2 := by
  have history := History.start noMarket.law noMarket.trades
  obtain ⟨_, linked, commits⟩ := served_meets platform engine history.law requests
  apply linked.preserves History history
  intro earlier commit member kept
  exact kept.step ((commits commit member).2.step kept.law)

/-- Requests served in turn keep the ids of the orders of a session that is not
open. -/
theorem served_joined {start : Database} (law : Law start)
    (requests : List (Request × (ℕ → Supply))) {session : MarketSession}
    (stored : session ∈ start.marketSessions.rows) (status : session.status ≠ .open) :
    joined (served platform engine start requests).2 session.id = joined start session.id := by
  obtain ⟨_, linked, commits⟩ := served_meets platform engine law requests
  have kept := linked.preserves (fun _ db => joined db session.id = joined start session.id ∧
    ∃ later ∈ db.marketSessions.rows, later.id = session.id ∧ later.status ≠ .open)
    ⟨rfl, session, stored, rfl, status⟩ ?_
  · exact kept.1
  · intro earlier commit member before
    obtain ⟨same, later, laterStored, named, notOpen⟩ := before
    obtain ⟨lawful, effect⟩ := commits commit member
    have after := effect.joined_eq lawful laterStored notOpen
    rw [named] at after
    exact ⟨after.1.trans same, after.2⟩

end Served

/-- Whatever the requests, the book is kept: every order has matched what its
trades amount to and has the status that goes with it, both sides of a session
have matched as much, every trade comes from the one clearing of its session,
and a session that is not open gets no order. -/
theorem served_orderBook (platform : Platform) (engine : BaselineMatchingEngine) {start : Database}
    (noMarket : NoMarket start) (requests : List (Request × (ℕ → Supply))) :
    let commits := (served platform engine start requests).1
    let final := (served platform engine start requests).2
    (∀ order ∈ final.orders.rows,
      order.matchedKwh = tradedKwh final.trades.rows order.id ∧
      0 ≤ order.matchedKwh ∧ order.matchedKwh ≤ order.energyKwh ∧
      (order.status ≠ .cancelled →
        (order.status = .filled ↔ order.matchedKwh = order.energyKwh) ∧
        (order.status = .partiallyFilled ↔
          0 < order.matchedKwh ∧ order.matchedKwh < order.energyKwh) ∧
        (order.status = .open ↔ order.matchedKwh = 0))) ∧
    (∀ marketSessionId,
      matchedKwhOf final marketSessionId .buy = matchedKwhOf final marketSessionId .sell) ∧
    (final.trades.rows = commits.flatMap fun commit => commit.value.created) ∧
    (∀ marketSessionId,
      (commits.filter fun commit => clears marketSessionId commit.op).length ≤ 1) ∧
    (∀ commit ∈ commits, ∀ trade ∈ commit.value.created, ∃ buy sell, Parties final trade buy sell ∧
      clears buy.marketSessionId commit.op = true) ∧
    ∀ earlier later, requests = earlier ++ later →
      ∀ session ∈ (served platform engine start earlier).2.marketSessions.rows,
        session.status ≠ .open →
          joined final session.id = joined (served platform engine start earlier).2 session.id := by
  have history := served_history platform engine noMarket requests
  refine ⟨?_, history.law.balance, history.trades, history.clearedOnce, history.sessions, ?_⟩
  · intro order stored
    have status := history.law.status order stored
    obtain ⟨_, nonneg, within⟩ := order_bounds stored
    exact ⟨history.law.matched order stored, nonneg, within, fun notCancelled =>
      ⟨status.filled notCancelled, status.partiallyFilled notCancelled, status.open_ notCancelled⟩⟩
  · intro earlier later split session stored status
    have lawful := (served_history platform engine noMarket earlier).law
    have onward : (served platform engine start requests).2 =
        (served platform engine (served platform engine start earlier).2 later).2 := by
      rw [split, served, serial_append]
      rfl
    rw [onward]
    exact served_joined platform engine lawful later stored status

/-! ## A market day -/

/-- A stand-in for the digest: the head of the text, with the `entity_id`. -/
def sampleDigest (text : String) : String :=
  String.ofList ((text.toByteArray.data.toList.take 110).map fun byte => Char.ofNat byte.toNat)

def samplePlatform : Platform := ⟨sampleDigest, fun _ _ _ => .ok ⟨true, true, []⟩⟩

def sampleForecast (runId : UUID) (predictedKw : ℚ) : Models.ForecastPoint :=
  ⟨runId, 21, 0, 3600000000, some predictedKw, none, none, none, none⟩

/-- Two households, of which the one at site 21 is forecast a surplus of 3 kWh. -/
def sampleCommunity : Database :=
  { Database.initial ⟨0, false, .normal, 0, "", false⟩
      ⟨[], [⟨21, 11, none⟩, ⟨22, 12, none⟩], [], [], []⟩ with
    forecastRuns := ⟨[⟨41, .solar, 0, 3600000000, 0, .completed, "baseline", "1.0.0", none⟩,
      ⟨42, .load, 0, 3600000000, 0, .completed, "baseline", "1.0.0", none⟩], by decide, by decide⟩
    forecastPoints := ⟨[sampleForecast 41 4, sampleForecast 42 1], by decide, by decide⟩ }

/-- The values a request draws. -/
def sampleSupply (first index : ℕ) : Supply := ⟨Fin.ofNat (2 ^ 128) (first + index), first, first⟩

def sampleBuy (energyKwh : ℚ) : OrderRequest where
  marketSessionId := 100
  userId := 12
  siteId := 22
  side := .buy
  energyKwh := energyKwh
  deliveryStart := 0
  deliveryEnd := 3600000000
  maxPriceInrPerKwh := some 6
  at_ := some 10

def sampleSell (energyKwh : ℚ) : OrderRequest where
  marketSessionId := 100
  userId := 11
  siteId := 21
  side := .sell
  energyKwh := energyKwh
  deliveryStart := 0
  deliveryEnd := 3600000000
  minPriceInrPerKwh := some 4
  at_ := some 20

def sampleDay : List (Request × (ℕ → Supply)) :=
  [(.openSession 0 .dayAhead (some 5), sampleSupply 100),
    (.placeOrder (sampleBuy 3), sampleSupply 200),
    (.placeOrder (sampleSell 2), sampleSupply 300),
    (.closeSession 100 (some 30), sampleSupply 400),
    (.clearSession 100 (some 40), sampleSupply 500)]

theorem served_orderBook_sample :
    NoMarket sampleCommunity ∧
      (∀ order ∈ (served samplePlatform {} sampleCommunity sampleDay).2.orders.rows,
        order.matchedKwh =
          tradedKwh (served samplePlatform {} sampleCommunity sampleDay).2.trades.rows order.id) ∧
      matchedKwhOf (served samplePlatform {} sampleCommunity sampleDay).2 100 .buy =
        matchedKwhOf (served samplePlatform {} sampleCommunity sampleDay).2 100 .sell := by
  have noMarket : NoMarket sampleCommunity := ⟨rfl, rfl, rfl⟩
  have kept := served_orderBook samplePlatform {} noMarket sampleDay
  exact ⟨noMarket, fun order stored => (kept.1 order stored).1, kept.2.1 100⟩

end UrjaSetu.Services.MarketService
