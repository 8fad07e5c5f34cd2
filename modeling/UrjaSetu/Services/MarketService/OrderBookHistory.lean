import UrjaSetu.Services.MarketService.ClearingCommit

/-!
Histories of commits that keep the law of the order book.

Owns: the commit of each request (`Step`), what a history of such commits has
made of sessions, orders and trades (`History`), and that what is matched on the
two sides of a session balances.
-/

namespace UrjaSetu.Services.MarketService

open UrjaSetu.Domain UrjaSetu.Domain.Interfaces UrjaSetu.Db UrjaSetu.Db.Models
open UrjaSetu.Library UrjaSetu.Library.Transaction

/-! ## Commits -/

/-- The commit of a request that nobody has overtaken. -/
inductive Step : Request → Response → Database → Database → Prop where
  | opened {marketDate marketType at_ session db next} : Opened session db next →
      Step (.openSession marketDate marketType at_) (.session session) db next
  | closed {marketSessionId at_ session db next} : Uncleared db marketSessionId →
      Marked marketSessionId .closed db next →
      next = { db with marketSessions := next.marketSessions } →
      Step (.closeSession marketSessionId at_) (.session session) db next
  | placed {request orderId createdAt db next} {order : Order} :
      (∃ session ∈ db.marketSessions.rows, session.id = request.marketSessionId) →
      order = (request.order orderId createdAt).asStored →
      (∀ other ∈ db.orders.rows, other.id ≠ order.id) →
      next.orders.rows = db.orders.rows ++ [order] →
      Audited { db with orders := next.orders } next →
      Step (.placeOrder request) (.order order) db next
  | cancelled {orderId order db next} :
      (∃ stored ∈ db.orders.rows, stored.id = orderId) →
      (∀ stored ∈ db.orders.rows, stored.id = orderId → stored.status ≠ .filled) →
      next.orders.rows = db.orders.rows.map (cancelledRow orderId) →
      next = { db with orders := next.orders } →
      Step (.cancelOrder orderId) (.order order) db next
  | cleared {marketSessionId at_ trades db next} : Clearing marketSessionId trades db next →
      Step (.clearSession marketSessionId at_) (.trades trades) db next

variable {request : Request} {response : Response} {db next : Database}

theorem Law.step (law : Law db) (step : Step request response db next) : Law next := by
  cases step with
  | opened opened => exact law.opened opened
  | closed uncleared marked rest => exact law.closed uncleared marked rest
  | placed session row fresh orders rest => exact law.placed session row fresh orders rest
  | cancelled _ unfilled orders rest => exact law.cancelled unfilled orders rest
  | cleared clearing => exact law.cleared clearing

/-- The request clears this session. -/
def clears (marketSessionId : UUID) : Request → Bool
  | .clearSession cleared _ => cleared = marketSessionId
  | _ => false

/-! ## What a commit keeps -/

namespace Step

/-- An order stays what it is, a cancelled one also cancelled. -/
theorem order_kept (step : Step request response db next) {order : Order}
    (stored : order ∈ db.orders.rows) : ∃ later ∈ next.orders.rows, later.id = order.id ∧
      later.side = order.side ∧ later.marketSessionId = order.marketSessionId ∧
        (order.status = .cancelled → later.status = .cancelled) := by
  cases step with
  | opened opened =>
      refine ⟨order, ?_, rfl, rfl, rfl, id⟩
      rw [opened.rest]
      exact stored
  | closed _ _ rest =>
      refine ⟨order, ?_, rfl, rfl, rfl, id⟩
      rw [rest]
      exact stored
  | placed _ _ _ orders _ =>
      exact ⟨order, orders ▸ List.mem_append_left _ stored, rfl, rfl, rfl, id⟩
  | @cancelled orderId _ _ _ _ _ orders _ =>
      refine ⟨_, orders ▸ List.mem_map_of_mem stored, (cancelledRow_kept orderId order).1,
        (cancelledRow_kept orderId order).2.1, (cancelledRow_kept orderId order).2.2.1, ?_⟩
      intro already
      unfold cancelledRow
      split
      · rfl
      · exact already
  | cleared clearing =>
      refine ⟨_, clearing.orders ▸ List.mem_map_of_mem stored, filledWith_id _ _,
        filledWith_side _ _, filledWith_marketSessionId _ _, ?_⟩
      intro already
      unfold filledWith
      split
      · rename_i filled
        have active := (clearing.session stored filled).2
        rw [already] at active
        cases active
      · exact already

/-- A cleared session stays cleared. -/
theorem uncleared (step : Step request response db next) {marketSessionId : UUID}
    (after : Uncleared next marketSessionId) : Uncleared db marketSessionId := by
  cases step with
  | opened opened =>
      intro session stored
      exact after session (opened.sessions ▸ List.mem_append_left _ stored)
  | @closed closedId _ _ _ _ before marked _ =>
      by_cases same : marketSessionId = closedId
      · exact same ▸ before
      · exact marked.uncleared same after
  | placed _ _ _ _ rest =>
      obtain ⟨table, nextIs⟩ := rest
      rw [nextIs] at after
      exact after
  | cancelled _ _ _ rest =>
      rw [rest] at after
      exact after
  | @cleared clearedId _ _ _ _ clearing =>
      by_cases same : marketSessionId = clearedId
      · exact same ▸ clearing.uncleared
      · exact clearing.sessions.uncleared same after

theorem session_kept (step : Step request response db next) {session : MarketSession}
    (stored : session ∈ db.marketSessions.rows) : ∃ later ∈ next.marketSessions.rows,
      later.id = session.id ∧ (session.status = .cleared → later.status = .cleared) := by
  cases step with
  | opened opened => exact ⟨session, opened.sessions ▸ List.mem_append_left _ stored, rfl, id⟩
  | closed before marked _ =>
      obtain ⟨later, laterStored, sameId, _, unmarked⟩ := marked.stored stored
      refine ⟨later, laterStored, sameId, ?_⟩
      intro already
      have other : session.id ≠ _ := fun same => before session stored same already
      rw [unmarked other]
      exact already
  | placed _ _ _ _ rest =>
      obtain ⟨table, nextIs⟩ := rest
      exact ⟨session, by rw [nextIs]; exact stored, rfl, id⟩
  | cancelled _ _ _ rest => exact ⟨session, by rw [rest]; exact stored, rfl, id⟩
  | @cleared clearedId _ _ _ _ clearing =>
      obtain ⟨later, laterStored, sameId, marked, unmarked⟩ := clearing.sessions.stored stored
      refine ⟨later, laterStored, sameId, ?_⟩
      intro already
      by_cases same : session.id = clearedId
      · exact marked same
      · rw [unmarked same]
        exact already

/-- Trades are only ever added, by the response that names them. -/
theorem trades_rows (step : Step request response db next) :
    next.trades.rows = db.trades.rows ++ response.created := by
  cases step with
  | opened opened =>
      rw [opened.rest]
      exact (List.append_nil _).symm
  | closed _ _ rest =>
      rw [rest]
      exact (List.append_nil _).symm
  | placed _ _ _ _ rest =>
      obtain ⟨table, nextIs⟩ := rest
      rw [nextIs]
      exact (List.append_nil _).symm
  | cancelled _ _ _ rest =>
      rw [rest]
      exact (List.append_nil _).symm
  | cleared clearing => exact clearing.trades

/-- A request that creates a trade clears the session of the trade's orders. -/
theorem created_parties (step : Step request response db next) {trade : Trade}
    (member : trade ∈ response.created) : ∃ buy sell, Parties db trade buy sell ∧
      clears buy.marketSessionId request = true ∧ buy.status.isActive = true ∧
        sell.status.isActive = true := by
  cases step with
  | opened => cases member
  | closed => cases member
  | placed => cases member
  | cancelled => cases member
  | cleared clearing =>
      obtain ⟨buy, sell, parties, session, buyActive, sellActive⟩ := clearing.parties trade member
      exact ⟨buy, sell, parties, decide_eq_true session.symm, buyActive, sellActive⟩

private theorem parties_kept (step : Step request response db next) {trade : Trade}
    {buy sell : Order}
    (parties : Parties db trade buy sell) : ∃ laterBuy laterSell,
      Parties next trade laterBuy laterSell ∧ laterBuy.marketSessionId = buy.marketSessionId := by
  obtain ⟨laterBuy, buyStored, buyId, buySide, buySession, _⟩ := step.order_kept parties.buyStored
  obtain ⟨laterSell, sellStored, sellId, sellSide, sellSession, _⟩ :=
    step.order_kept parties.sellStored
  exact ⟨laterBuy, laterSell,
    { buyStored
      sellStored
      buyId := buyId.trans parties.buyId
      sellId := sellId.trans parties.sellId
      buySide := buySide.trans parties.buySide
      sellSide := sellSide.trans parties.sellSide
      oneSession := buySession.trans (parties.oneSession.trans sellSession.symm) }, buySession⟩

/-- A clearing starts from an uncleared session and leaves it cleared. -/
theorem of_clears (step : Step request response db next) {marketSessionId : UUID}
    (clearing : clears marketSessionId request = true) :
    Uncleared db marketSessionId ∧ ¬ Uncleared next marketSessionId := by
  cases step with
  | opened => cases clearing
  | closed => cases clearing
  | placed => cases clearing
  | cancelled => cases clearing
  | cleared cleared =>
      have same := of_decide_eq_true clearing
      subst same
      refine ⟨cleared.uncleared, ?_⟩
      intro absurdity
      obtain ⟨session, stored, named⟩ := cleared.stored
      obtain ⟨later, laterStored, sameId, isCleared, _⟩ := cleared.sessions.stored stored
      exact absurdity later laterStored (sameId.trans named) (isCleared named)

private theorem of_cancels (step : Step request response db next) {orderId : UUID}
    (cancels : request = .cancelOrder orderId) :
    ∃ order ∈ next.orders.rows, order.id = orderId ∧ order.status = .cancelled := by
  cases step with
  | opened => cases cancels
  | closed => cases cancels
  | placed => cases cancels
  | cleared => cases cancels
  | cancelled existing _ orders _ =>
      cases cancels
      obtain ⟨order, stored, named⟩ := existing
      refine ⟨_, orders ▸ List.mem_map_of_mem stored,
        (cancelledRow_kept orderId order).1.trans named, ?_⟩
      rw [cancelledRow, if_pos named]

end Step

/-! ## Histories -/

/-- What a history of commits has made of the order book. -/
structure History (commits : List (Commit Request Database Response)) (db : Database) : Prop where
  law : Law db
  trades : db.trades.rows = commits.flatMap fun commit => commit.value.created
  clearedOnce : ∀ marketSessionId,
    (commits.filter fun commit => clears marketSessionId commit.op).length ≤ 1
  cleared : ∀ commit ∈ commits, ∀ marketSessionId, clears marketSessionId commit.op = true →
    ¬ Uncleared db marketSessionId
  sessions : ∀ commit ∈ commits, ∀ trade ∈ commit.value.created, ∃ buy sell,
    Parties db trade buy sell ∧ clears buy.marketSessionId commit.op = true
  cancelled : ∀ commit ∈ commits, ∀ orderId, commit.op = .cancelOrder orderId →
    ∃ order ∈ db.orders.rows, order.id = orderId ∧ order.status = .cancelled
  afterCancel : commits.Pairwise fun earlier later => ∀ orderId, earlier.op = .cancelOrder orderId →
    ∀ trade ∈ later.value.created, trade.buyOrderId ≠ orderId ∧ trade.sellOrderId ≠ orderId

/-- One commit more. -/
theorem History.step {commits : List (Commit Request Database Response)}
    {commit : Commit Request Database Response} (history : History commits commit.before)
    (step : Step commit.op commit.value commit.before commit.after) :
    History (commits ++ [commit]) commit.after where
  law := history.law.step step
  trades := by
    rw [step.trades_rows, history.trades, List.flatMap_append, List.flatMap_singleton]
  clearedOnce := by
    intro marketSessionId
    rw [List.filter_append, List.length_append]
    by_cases clearing : clears marketSessionId commit.op = true
    · have none : (commits.filter fun earlier => clears marketSessionId earlier.op) = [] := by
        apply List.filter_eq_nil_iff.mpr
        intro earlier member again
        exact history.cleared earlier member marketSessionId again (step.of_clears clearing).1
      rw [none, List.length_nil, zero_add]
      exact List.length_filter_le _ _
    · have none : ([commit].filter fun last => clears marketSessionId last.op) = [] := by
        simp [clearing]
      rw [none]
      exact history.clearedOnce marketSessionId
  cleared := by
    intro earlier member marketSessionId clearing after
    rcases List.mem_append.mp member with before | last
    · exact history.cleared earlier before marketSessionId clearing (step.uncleared after)
    · rw [List.mem_singleton.mp last] at clearing
      exact (step.of_clears clearing).2 after
  sessions := by
    intro earlier member trade created
    rcases List.mem_append.mp member with before | last
    · obtain ⟨buy, sell, parties, clearing⟩ := history.sessions earlier before trade created
      obtain ⟨laterBuy, laterSell, laterParties, same⟩ := step.parties_kept parties
      exact ⟨laterBuy, laterSell, laterParties, same ▸ clearing⟩
    · rw [List.mem_singleton.mp last] at created ⊢
      obtain ⟨buy, sell, parties, clearing, _⟩ := step.created_parties created
      obtain ⟨laterBuy, laterSell, laterParties, same⟩ := step.parties_kept parties
      exact ⟨laterBuy, laterSell, laterParties, same ▸ clearing⟩
  cancelled := by
    intro earlier member orderId cancels
    rcases List.mem_append.mp member with before | last
    · obtain ⟨order, stored, named, already⟩ := history.cancelled earlier before orderId cancels
      obtain ⟨later, laterStored, same, _, _, kept⟩ := step.order_kept stored
      exact ⟨later, laterStored, same.trans named, kept already⟩
    · rw [List.mem_singleton.mp last] at cancels
      exact step.of_cancels cancels
  afterCancel := by
    rw [List.pairwise_append]
    refine ⟨history.afterCancel, List.pairwise_singleton _ _, ?_⟩
    intro earlier before last lastMember orderId cancels trade created
    rw [List.mem_singleton.mp lastMember] at created
    obtain ⟨order, stored, named, already⟩ := history.cancelled earlier before orderId cancels
    obtain ⟨buy, sell, parties, _, buyActive, sellActive⟩ := step.created_parties created
    constructor
    · intro same
      have own := orders_eq parties.buyStored stored ((parties.buyId.trans same).trans named.symm)
      rw [own, already] at buyActive
      cases buyActive
    · intro same
      have own := orders_eq parties.sellStored stored ((parties.sellId.trans same).trans named.symm)
      rw [own, already] at sellActive
      cases sellActive

/-- A lawful database without trades has a history from here on. -/
theorem History.start (law : Law db) (noTrades : db.trades.rows = []) : History [] db where
  law := law
  trades := noTrades
  clearedOnce := by
    intro _
    exact Nat.zero_le 1
  cleared := by
    intro _ absurdity
    cases absurdity
  sessions := by
    intro _ absurdity
    cases absurdity
  cancelled := by
    intro _ absurdity
    cases absurdity
  afterCancel := List.Pairwise.nil

/-- A database in which no market has been opened. -/
structure NoMarket (db : Database) : Prop where
  sessions : db.marketSessions.rows = []
  orders : db.orders.rows = []
  trades : db.trades.rows = []

theorem NoMarket.law (noMarket : NoMarket db) : Law db := by
  obtain ⟨_, orders, trades⟩ := noMarket
  refine ⟨?_, ?_, ?_, ?_, ?_, ?_⟩ <;> simp [orders, trades]

/-! ## Balance -/

/-- One side of a session. -/
def sideOf (db : Database) (marketSessionId : UUID) (side : OrderSide) : List Order :=
  db.orders.rows.filter fun order => order.marketSessionId = marketSessionId && order.side = side

/-- The total matched over one side of a session. -/
def matchedKwhOf (db : Database) (marketSessionId : UUID) (side : OrderSide) : ℚ :=
  ((sideOf db marketSessionId side).map Order.matchedKwh).sum

private theorem mem_sideOf {marketSessionId : UUID} {side : OrderSide} {order : Order} :
    order ∈ sideOf db marketSessionId side ↔
      order ∈ db.orders.rows ∧ order.marketSessionId = marketSessionId ∧ order.side = side := by
  rw [sideOf, List.mem_filter, Bool.and_eq_true, decide_eq_true_eq, decide_eq_true_eq]

/-- Where an order of a side is in a trade as `party`, the total matched over the
side is that of the trades whose `party` is on it. -/
theorem Law.matched_side (law : Law db) (marketSessionId : UUID) (side : OrderSide)
    (party : Trade → UUID)
    (own : ∀ order ∈ db.orders.rows, order.side = side → ∀ trade ∈ db.trades.rows,
      ((trade.buyOrderId = order.id ∨ trade.sellOrderId = order.id) ↔ party trade = order.id)) :
    matchedKwhOf db marketSessionId side = ((db.trades.rows.filter fun trade =>
      party trade ∈ (sideOf db marketSessionId side).map Order.id).map Trade.quantityKwh).sum := by
  have distinct : ((sideOf db marketSessionId side).map Order.id).Nodup :=
    (db.orders.nodup_column Order.id fun _ _ same => decide_eq_true same).sublist
      (List.filter_sublist.map Order.id)
  rw [← sum_of_keys party Trade.quantityKwh distinct, List.map_map, matchedKwhOf]
  congr 1
  apply List.map_congr_left
  intro order member
  obtain ⟨stored, _, orderSide⟩ := mem_sideOf.mp member
  rw [law.matched order stored, tradedKwh, tradesOf, Function.comp_apply]
  congr 2
  apply List.filter_congr
  intro trade tradeStored
  exact decide_eq_decide.mpr (own order stored orderSide trade tradeStored)

theorem Law.balance (law : Law db) (marketSessionId : UUID) :
    matchedKwhOf db marketSessionId .buy = matchedKwhOf db marketSessionId .sell := by
  rw [law.matched_side marketSessionId .buy Trade.buyOrderId,
    law.matched_side marketSessionId .sell Trade.sellOrderId]
  · congr 2
    apply List.filter_congr
    intro trade stored
    obtain ⟨buy, sell, parties⟩ := law.parties trade stored
    apply decide_eq_decide.mpr
    rw [← parties.buyId, ← parties.sellId]
    constructor
    · intro listed
      obtain ⟨order, member, same⟩ := List.mem_map.mp listed
      obtain ⟨orderStored, session, _⟩ := mem_sideOf.mp member
      rw [orders_eq orderStored parties.buyStored same] at session
      exact List.mem_map_of_mem (mem_sideOf.mpr
        ⟨parties.sellStored, parties.oneSession ▸ session, parties.sellSide⟩)
    · intro listed
      obtain ⟨order, member, same⟩ := List.mem_map.mp listed
      obtain ⟨orderStored, session, _⟩ := mem_sideOf.mp member
      rw [orders_eq orderStored parties.sellStored same] at session
      exact List.mem_map_of_mem (mem_sideOf.mpr
        ⟨parties.buyStored, parties.oneSession.trans session, parties.buySide⟩)
  · intro order stored isSell trade tradeStored
    obtain ⟨buy, sell, parties⟩ := law.parties trade tradeStored
    refine ⟨fun named => named.resolve_left fun isBuy => ?_, .inr⟩
    have same := orders_eq parties.buyStored stored (parties.buyId.trans isBuy)
    rw [← same, parties.buySide] at isSell
    cases isSell
  · intro order stored isBuy trade tradeStored
    obtain ⟨buy, sell, parties⟩ := law.parties trade tradeStored
    refine ⟨fun named => named.resolve_right fun isSell => ?_, .inl⟩
    have same := orders_eq parties.sellStored stored (parties.sellId.trans isSell)
    rw [← same, parties.sellSide] at isBuy
    cases isBuy

end UrjaSetu.Services.MarketService
