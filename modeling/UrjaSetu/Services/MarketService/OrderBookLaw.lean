import UrjaSetu.Library.Aggregate
import UrjaSetu.Services.MarketService.Effects

/-!
The law of the order book: what ties orders, trades and sessions together in
every committed state.

Owns: the law, the steps that keep it (`Step`), and that the commit of a request
is such a step when what it read has not been overtaken.
Does not own: why nothing is overtaken, which differs between requests served in
turn and requests that overlap.
-/

namespace UrjaSetu.Services.MarketService

open UrjaSetu.Domain UrjaSetu.Domain.Interfaces UrjaSetu.Db UrjaSetu.Db.Models
open UrjaSetu.Domain.Policies.ClearingPrice UrjaSetu.Domain.Policies.MarketMatching
open UrjaSetu.Domain.Policies.MatchingGuarantees UrjaSetu.Library UrjaSetu.Library.Rounding
open UrjaSetu.Repositories.Market

/-! ## What the trades of a clearing make of an order -/

def fillSide (orderId : UUID) (quantityKwh : ℚ) (order : Order) : Order :=
  if order.id = orderId then applyFill order quantityKwh else order

def fillOne (order : Order) (trade : ProposedTrade) : Order :=
  fillSide trade.sellOrderId trade.quantityKwh (fillSide trade.buyOrderId trade.quantityKwh order)

def fillAll (trades : List ProposedTrade) (order : Order) : Order := trades.foldl fillOne order

/-- Some trade is with the order. -/
def Named (trades : List ProposedTrade) (orderId : UUID) : Prop :=
  ∃ trade ∈ trades, orderId = trade.buyOrderId ∨ orderId = trade.sellOrderId

/-- The order with `quantityKwh` more of it matched. -/
def filledBy (order : Order) (quantityKwh : ℚ) : Order :=
  { order with
    matchedKwh := order.matchedKwh + quantityKwh
    status := if order.energyKwh ≤ order.matchedKwh + quantityKwh then .filled else .partiallyFilled }

section Fills

variable {trades : List ProposedTrade} {order : Order}

private theorem fillOrder_ok {orderId : UUID} {quantityKwh : ℚ} {orders filled : List Order}
    (ended : fillOrder orderId quantityKwh orders = .ok filled) :
    filled = orders.map (fillSide orderId quantityKwh) := by
  unfold fillOrder at ended
  split at ended
  · cases ended
    rfl
  · cases ended

theorem foldlM_fillTrade {loaded filled : List Order}
    (ended : trades.foldlM fillTrade loaded = .ok filled) : filled = loaded.map (fillAll trades) := by
  induction trades generalizing loaded with
  | nil =>
      cases ended
      exact (List.map_id _).symm
  | cons trade rest inductionHypothesis =>
      rw [List.foldlM_cons] at ended
      obtain ⟨middle, first, later⟩ := bind_eq_ok.mp ended
      unfold fillTrade at first
      obtain ⟨bought, buyFill, sellFill⟩ := bind_eq_ok.mp first
      rw [inductionHypothesis later, fillOrder_ok sellFill, fillOrder_ok buyFill, List.map_map,
        List.map_map]
      rfl

/-- What one trade takes from an order. -/
def taken (trade : ProposedTrade) (orderId : UUID) : ℚ :=
  (if orderId = trade.buyOrderId then trade.quantityKwh else 0) +
    if orderId = trade.sellOrderId then trade.quantityKwh else 0

private theorem fillOne_of_apart {trade : ProposedTrade} (buy : order.id ≠ trade.buyOrderId)
    (sell : order.id ≠ trade.sellOrderId) : fillOne order trade = order := by
  rw [fillOne, fillSide, fillSide, if_neg buy, if_neg sell]

private theorem fillOne_of_named {trade : ProposedTrade}
    (named : order.id = trade.buyOrderId ∨ order.id = trade.sellOrderId) :
    fillOne order trade = filledBy order (taken trade order.id) := by
  have filledId : (applyFill order trade.quantityKwh).id = order.id := rfl
  by_cases isBuy : order.id = trade.buyOrderId
  · rw [fillOne, fillSide, fillSide, if_pos isBuy, filledId, taken, if_pos isBuy]
    by_cases isSell : order.id = trade.sellOrderId
    · rw [if_pos isSell, if_pos isSell]
      simp only [applyFill, filledBy, add_assoc]
    · rw [if_neg isSell, if_neg isSell, add_zero]
      rfl
  · have isSell := named.resolve_left isBuy
    rw [fillOne, fillSide, fillSide, if_neg isBuy, if_pos isSell, taken, if_neg isBuy,
      if_pos isSell, zero_add]
    rfl

private theorem filledBy_id (quantityKwh : ℚ) : (filledBy order quantityKwh).id = order.id := rfl

private theorem filledBy_filledBy (first second : ℚ) :
    filledBy (filledBy order first) second = filledBy order (first + second) := by
  simp only [filledBy, add_assoc]

private theorem not_named_nil (orderId : UUID) : ¬ Named [] orderId := by
  rintro ⟨trade, absurdity, _⟩
  cases absurdity

private theorem named_concat {trade : ProposedTrade} {orderId : UUID} :
    Named (trades ++ [trade]) orderId ↔
      Named trades orderId ∨ orderId = trade.buyOrderId ∨ orderId = trade.sellOrderId := by
  constructor
  · rintro ⟨other, member, same⟩
    rcases List.mem_append.mp member with earlier | last
    · exact .inl ⟨other, earlier, same⟩
    · rw [List.mem_singleton.mp last] at same
      exact .inr same
  · rintro (⟨other, member, same⟩ | same)
    · exact ⟨other, List.mem_append_left _ member, same⟩
    · exact ⟨trade, List.mem_append_right _ (List.mem_singleton.mpr rfl), same⟩

theorem takenKwh_of_not_named {orderId : UUID} (unnamed : ¬ Named trades orderId) :
    takenKwh trades orderId = 0 := by
  have bought : boughtKwh trades orderId = 0 :=
    boughtKwh_of_absent fun trade member same => unnamed ⟨trade, member, .inl same.symm⟩
  have sold : soldKwh trades orderId = 0 :=
    soldKwh_of_absent fun trade member same => unnamed ⟨trade, member, .inr same.symm⟩
  rw [takenKwh, bought, sold, add_zero]

theorem takenKwh_pos (positive : ∀ trade ∈ trades, 0 < trade.quantityKwh) {orderId : UUID}
    (named : Named trades orderId) : 0 < takenKwh trades orderId := by
  have amounts : ∀ wanted : ProposedTrade → Bool,
      ∀ quantity ∈ (trades.filter wanted).map ProposedTrade.quantityKwh, 0 < quantity := by
    intro wanted quantity member
    obtain ⟨trade, selected, rfl⟩ := List.mem_map.mp member
    exact positive trade (List.mem_filter.mp selected).1
  have bought : 0 ≤ boughtKwh trades orderId :=
    List.sum_nonneg fun quantity member => (amounts _ quantity member).le
  have sold : 0 ≤ soldKwh trades orderId :=
    List.sum_nonneg fun quantity member => (amounts _ quantity member).le
  obtain ⟨trade, member, isBuy | isSell⟩ := named
  · have own : trade.quantityKwh ≤ boughtKwh trades orderId := by
      apply List.single_le_sum fun quantity member => (amounts _ quantity member).le
      exact List.mem_map_of_mem (List.mem_filter.mpr ⟨member, decide_eq_true isBuy.symm⟩)
    rw [takenKwh]
    linarith [positive trade member]
  · have own : trade.quantityKwh ≤ soldKwh trades orderId := by
      apply List.single_le_sum fun quantity member => (amounts _ quantity member).le
      exact List.mem_map_of_mem (List.mem_filter.mpr ⟨member, decide_eq_true isSell.symm⟩)
    rw [takenKwh]
    linarith [positive trade member]

/-- An order that no trade names is left as it was; one that is named has all
that is taken from it matched at once. -/
theorem fillAll_eq (trades : List ProposedTrade) (order : Order) :
    (¬ Named trades order.id → fillAll trades order = order) ∧
      (Named trades order.id → fillAll trades order = filledBy order (takenKwh trades order.id)) := by
  induction trades using List.reverseRecOn with
  | nil => exact ⟨fun _ => rfl, fun named => absurd named (not_named_nil _)⟩
  | append_singleton front trade inductionHypothesis =>
      have last : fillAll (front ++ [trade]) order = fillOne (fillAll front order) trade :=
        List.foldl_concat ..
      rw [last, named_concat]
      by_cases earlier : Named front order.id
      · rw [inductionHypothesis.2 earlier]
        refine ⟨fun absurdity => absurd (.inl earlier) absurdity, fun _ => ?_⟩
        rw [takenKwh_append]
        by_cases named : order.id = trade.buyOrderId ∨ order.id = trade.sellOrderId
        · rw [fillOne_of_named (by rwa [filledBy_id]), filledBy_filledBy, filledBy_id, taken]
        · rw [not_or] at named
          rw [if_neg named.1, if_neg named.2, add_zero, add_zero]
          apply fillOne_of_apart
          · exact named.1
          · exact named.2
      · rw [inductionHypothesis.1 earlier]
        constructor
        · intro unnamed
          rw [not_or, not_or] at unnamed
          exact fillOne_of_apart unnamed.2.1 unnamed.2.2
        · intro named
          have lastNamed := named.resolve_left earlier
          rw [fillOne_of_named lastNamed, takenKwh_append, takenKwh_of_not_named earlier, zero_add,
            taken]

end Fills

/-! ## The total of an order's trades -/

/-- The trades an order takes part in. -/
def tradesOf (trades : List Trade) (orderId : UUID) : List Trade :=
  trades.filter fun trade => trade.buyOrderId = orderId ∨ trade.sellOrderId = orderId

def tradedKwh (trades : List Trade) (orderId : UUID) : ℚ :=
  ((tradesOf trades orderId).map Trade.quantityKwh).sum

/-- An order after a clearing has created `created`. -/
def filledWith (created : List Trade) (order : Order) : Order :=
  if 0 < tradedKwh created order.id then filledBy order (tradedKwh created order.id) else order

section Totals

variable {trades created : List Trade} {orderId : UUID}

theorem tradedKwh_append (trades created : List Trade) (orderId : UUID) :
    tradedKwh (trades ++ created) orderId = tradedKwh trades orderId + tradedKwh created orderId := by
  unfold tradedKwh tradesOf
  rw [List.filter_append, List.map_append, List.sum_append]

private theorem tradedKwh_of_absent
    (absent : ∀ trade ∈ trades, trade.buyOrderId ≠ orderId ∧ trade.sellOrderId ≠ orderId) :
    tradedKwh trades orderId = 0 := by
  have none : tradesOf trades orderId = [] := by
    apply List.filter_eq_nil_iff.mpr
    intro trade member selected
    rcases of_decide_eq_true selected with isBuy | isSell
    · exact (absent trade member).1 isBuy
    · exact (absent trade member).2 isSell
  rw [tradedKwh, none]
  rfl

private theorem tradedKwh_nonneg (positive : ∀ trade ∈ trades, 0 < trade.quantityKwh) :
    0 ≤ tradedKwh trades orderId := by
  apply List.sum_nonneg
  intro quantity member
  obtain ⟨trade, selected, rfl⟩ := List.mem_map.mp member
  exact (positive trade (List.mem_filter.mp selected).1).le

@[simp] theorem filledWith_id (created : List Trade) (order : Order) :
    (filledWith created order).id = order.id := by
  unfold filledWith
  split <;> rfl

@[simp] theorem filledWith_side (created : List Trade) (order : Order) :
    (filledWith created order).side = order.side := by
  unfold filledWith
  split <;> rfl

@[simp] theorem filledWith_marketSessionId (created : List Trade) (order : Order) :
    (filledWith created order).marketSessionId = order.marketSessionId := by
  unfold filledWith
  split <;> rfl

private theorem filledWith_matchedKwh (nonneg : ∀ orderId, 0 ≤ tradedKwh created orderId)
    (order : Order) :
    (filledWith created order).matchedKwh = order.matchedKwh + tradedKwh created order.id := by
  unfold filledWith
  split
  · rfl
  · rename_i nothing
    have zero : tradedKwh created order.id = 0 := le_antisymm (not_lt.mp nothing) (nonneg order.id)
    rw [zero, add_zero]

end Totals

/-! ## The law -/

/-- How the status of an order follows from what is matched of it. -/
structure FillStatus (order : Order) : Prop where
  filled : order.status ≠ .cancelled →
    (order.status = .filled ↔ order.matchedKwh = order.energyKwh)
  partiallyFilled : order.status ≠ .cancelled →
    (order.status = .partiallyFilled ↔
      0 < order.matchedKwh ∧ order.matchedKwh < order.energyKwh)
  open_ : order.status ≠ .cancelled → (order.status = .open ↔ order.matchedKwh = 0)
  cancelled : order.status = .cancelled → order.matchedKwh < order.energyKwh

theorem FillStatus.fresh {order : Order} (isOpen : order.status = .open)
    (nothing : order.matchedKwh = 0) (positive : 0 < order.energyKwh) : FillStatus order where
  filled := by
    intro _
    rw [isOpen, nothing]
    exact ⟨nofun, fun same => absurd same positive.ne⟩
  partiallyFilled := by
    intro _
    rw [isOpen, nothing]
    exact ⟨nofun, fun absurdity => absurd absurdity.1 (lt_irrefl _)⟩
  open_ := by
    intro _
    rw [isOpen, nothing]
    exact ⟨fun _ => rfl, fun _ => rfl⟩
  cancelled := by
    rw [isOpen]
    nofun

/-- A fill within what was left sets the status that goes with it. -/
theorem FillStatus.filledBy {order : Order} {quantityKwh : ℚ}
    (matched : 0 ≤ order.matchedKwh) (positive : 0 < quantityKwh)
    (within : quantityKwh ≤ order.remainingKwh) :
    FillStatus (MarketService.filledBy order quantityKwh) := by
  unfold Order.remainingKwh at within
  by_cases full : order.energyKwh ≤ order.matchedKwh + quantityKwh
  · have same : order.matchedKwh + quantityKwh = order.energyKwh := by linarith
    have more : 0 < order.matchedKwh + quantityKwh := by linarith
    refine ⟨?_, ?_, ?_, ?_⟩ <;> simp [MarketService.filledBy, same, same ▸ more.ne']
  · have part : order.matchedKwh + quantityKwh < order.energyKwh := not_le.mp full
    have more : 0 < order.matchedKwh + quantityKwh := by linarith
    refine ⟨?_, ?_, ?_, ?_⟩ <;> simp [MarketService.filledBy, full, part.ne, part, more, more.ne']

/-- The two orders of a trade. -/
structure Parties (db : Database) (trade : Trade) (buy sell : Order) : Prop where
  buyStored : buy ∈ db.orders.rows
  sellStored : sell ∈ db.orders.rows
  buyId : buy.id = trade.buyOrderId
  sellId : sell.id = trade.sellOrderId
  buySide : buy.side = .buy
  sellSide : sell.side = .sell
  oneSession : buy.marketSessionId = sell.marketSessionId

/-- Every amount of an order has the four places of its column. -/
structure OnColumns (order : Order) : Prop where
  energy : OnGrid 4 order.energyKwh
  matched : OnGrid 4 order.matchedKwh
  minPrice : ∀ price, order.minPriceInrPerKwh = some price → OnGrid 4 price
  maxPrice : ∀ price, order.maxPriceInrPerKwh = some price → OnGrid 4 price

/-- A session with this id that has not been cleared. -/
def Uncleared (db : Database) (marketSessionId : UUID) : Prop :=
  ∀ session ∈ db.marketSessions.rows, session.id = marketSessionId → session.status ≠ .cleared

structure Law (db : Database) : Prop where
  sessions : ∀ order ∈ db.orders.rows, ∃ session ∈ db.marketSessions.rows,
    session.id = order.marketSessionId
  columns : ∀ order ∈ db.orders.rows, OnColumns order
  matched : ∀ order ∈ db.orders.rows, order.matchedKwh = tradedKwh db.trades.rows order.id
  status : ∀ order ∈ db.orders.rows, FillStatus order
  parties : ∀ trade ∈ db.trades.rows, ∃ buy sell, Parties db trade buy sell
  unmatched : ∀ order ∈ db.orders.rows, Uncleared db order.marketSessionId → order.matchedKwh = 0

section Rows

variable {db : Database} {order : Order}

/-- What the CHECK constraints say of the quantities of an order. -/
theorem order_bounds (stored : order ∈ db.orders.rows) :
    0 < order.energyKwh ∧ 0 ≤ order.matchedKwh ∧ order.matchedKwh ≤ order.energyKwh := by
  have check := db.orders.checked order stored
  simp only [Models.orders, Bool.and_eq_true, decide_eq_true_eq] at check
  exact ⟨check.1.1.1.1.1.1.1, check.1.1.1.1.1.2, check.1.1.1.1.2⟩

theorem orders_eq {left right : Order} (leftStored : left ∈ db.orders.rows)
    (rightStored : right ∈ db.orders.rows) (same : left.id = right.id) : left = right :=
  db.orders.eq_of_column Order.id (fun _ _ same => decide_eq_true same) leftStored rightStored same

theorem sessions_eq {left right : MarketSession} (leftStored : left ∈ db.marketSessions.rows)
    (rightStored : right ∈ db.marketSessions.rows) (same : left.id = right.id) : left = right :=
  db.marketSessions.eq_of_column MarketSession.id (fun _ _ same => decide_eq_true (.inl same))
    leftStored rightStored same

end Rows

/-! ## Steps that keep it -/

/-- What a clearing of a session does. -/
structure Clearing (marketSessionId : UUID) (created : List Trade) (db next : Database) :
    Prop where
  stored : ∃ session ∈ db.marketSessions.rows, session.id = marketSessionId
  uncleared : Uncleared db marketSessionId
  parties : ∀ trade ∈ created, ∃ buy sell, Parties db trade buy sell ∧
    buy.marketSessionId = marketSessionId ∧
      buy.status.isActive = true ∧ sell.status.isActive = true
  quantities : ∀ trade ∈ created, 0 < trade.quantityKwh ∧ OnGrid 4 trade.quantityKwh
  within : ∀ order ∈ db.orders.rows, 0 < tradedKwh created order.id →
    tradedKwh created order.id ≤ order.remainingKwh
  orders : next.orders.rows = db.orders.rows.map (filledWith created)
  trades : next.trades.rows = db.trades.rows ++ created
  sessions : Marked marketSessionId .cleared db next
  rest : Audited { db with
    trades := next.trades
    orders := next.orders
    marketSessions := next.marketSessions } next

section Steps

variable {db next : Database} {marketSessionId : UUID}

theorem Marked.stored {status : MarketSessionStatus}
    (marked : Marked marketSessionId status db next) {session : MarketSession}
    (stored : session ∈ db.marketSessions.rows) :
    ∃ later ∈ next.marketSessions.rows, later.id = session.id ∧
      (session.id = marketSessionId → later.status = status) ∧
      (session.id ≠ marketSessionId → later = session) := by
  obtain ⟨change, marks, rows⟩ := marked
  refine ⟨_, rows ▸ List.mem_map_of_mem stored, ?_⟩
  by_cases same : session.id = marketSessionId
  · rw [if_pos same]
    exact ⟨(marks session).1, fun _ => (marks session).2, fun other => absurd same other⟩
  · rw [if_neg same]
    exact ⟨rfl, fun absurdity => absurd absurdity same, fun _ => rfl⟩

/-- A session that is uncleared once another has been marked was so before. -/
theorem Marked.uncleared {status : MarketSessionStatus} (marked : Marked marketSessionId status db next)
    {other : UUID} (different : other ≠ marketSessionId) (uncleared : Uncleared next other) :
    Uncleared db other := by
  intro session stored named
  obtain ⟨later, laterStored, sameId, _, unchanged⟩ := marked.stored stored
  have apart : session.id ≠ marketSessionId := named ▸ different
  have same := unchanged apart
  subst same
  exact uncleared _ laterStored named

/-- Sessions alone have changed. -/
theorem Law.of_sessions (law : Law db) (orders : next.orders = db.orders)
    (trades : next.trades = db.trades)
    (sessions : ∀ session ∈ db.marketSessions.rows, ∃ later ∈ next.marketSessions.rows,
      later.id = session.id)
    (uncleared : ∀ other, Uncleared next other → Uncleared db other) : Law next where
  sessions := by
    rw [orders]
    intro order stored
    obtain ⟨session, sessionStored, named⟩ := law.sessions order stored
    obtain ⟨later, laterStored, sameId⟩ := sessions session sessionStored
    exact ⟨later, laterStored, sameId.trans named⟩
  columns := by
    rw [orders]
    exact law.columns
  matched := by
    rw [orders, trades]
    exact law.matched
  status := by
    rw [orders]
    exact law.status
  parties := by
    rw [trades]
    intro trade stored
    obtain ⟨buy, sell, parties⟩ := law.parties trade stored
    exact ⟨buy, sell,
      { parties with
        buyStored := orders ▸ parties.buyStored
        sellStored := orders ▸ parties.sellStored }⟩
  unmatched := by
    rw [orders]
    exact fun order stored later => law.unmatched order stored (uncleared _ later)

theorem Law.opened {session : MarketSession} (law : Law db) (opened : Opened session db next) :
    Law next := by
  have rest := opened.rest
  have kept : ∀ session ∈ db.marketSessions.rows, session ∈ next.marketSessions.rows := by
    intro other stored
    rw [opened.sessions]
    exact List.mem_append_left _ stored
  apply law.of_sessions
  · rw [rest]
  · rw [rest]
  · exact fun other stored => ⟨other, kept other stored, rfl⟩
  · exact fun other later row stored => later row (kept row stored)

theorem Law.closed (law : Law db) (uncleared : Uncleared db marketSessionId)
    (marked : Marked marketSessionId .closed db next)
    (rest : next = { db with marketSessions := next.marketSessions }) : Law next := by
  apply law.of_sessions
  · rw [rest]
  · rw [rest]
  · intro session stored
    obtain ⟨later, laterStored, sameId, _⟩ := marked.stored stored
    exact ⟨later, laterStored, sameId⟩
  · intro other later
    by_cases same : other = marketSessionId
    · exact same ▸ uncleared
    · exact marked.uncleared same later

theorem Law.placed {request : OrderRequest} {order : Order} (law : Law db)
    (session : ∃ session ∈ db.marketSessions.rows, session.id = request.marketSessionId)
    {orderId : UUID} {createdAt : Instant} (row : order = (request.order orderId createdAt).asStored)
    (fresh : ∀ other ∈ db.orders.rows, other.id ≠ order.id)
    (orders : next.orders.rows = db.orders.rows ++ [order])
    (rest : Audited { db with orders := next.orders } next) : Law next := by
  obtain ⟨table, nextIs⟩ := rest
  have sessions : next.marketSessions = db.marketSessions := by rw [nextIs]
  have trades : next.trades = db.trades := by rw [nextIs]
  have members : ∀ other ∈ next.orders.rows, other ∈ db.orders.rows ∨ other = order := by
    intro other stored
    rw [orders] at stored
    exact (List.mem_append.mp stored).imp id List.mem_singleton.mp
  have orderSession : order.marketSessionId = request.marketSessionId := by rw [row]; rfl
  have nothing : order.matchedKwh = 0 := by
    rw [row]
    exact quantize_of_onGrid halfUp OnGrid.zero
  have placed : order ∈ next.orders.rows := by
    rw [orders]
    exact List.mem_append_right _ (List.mem_singleton.mpr rfl)
  have positive : 0 < order.energyKwh := (order_bounds placed).1
  have isOpen : order.status = .open := by rw [row]; rfl
  refine ⟨?_, ?_, ?_, ?_, ?_, ?_⟩
  · rw [sessions]
    intro other stored
    rcases members other stored with earlier | rfl
    · exact law.sessions other earlier
    · rw [orderSession]
      exact session
  · intro other stored
    rcases members other stored with earlier | rfl
    · exact law.columns other earlier
    · rw [row]
      refine ⟨quantize_onGrid .., quantize_onGrid .., ?_, ?_⟩
      · intro price found
        obtain ⟨asked, _, rfl⟩ := Option.map_eq_some_iff.mp found
        exact quantize_onGrid ..
      · intro price found
        obtain ⟨offered, _, rfl⟩ := Option.map_eq_some_iff.mp found
        exact quantize_onGrid ..
  · rw [trades]
    intro other stored
    rcases members other stored with earlier | rfl
    · exact law.matched other earlier
    · rw [nothing, tradedKwh_of_absent]
      intro trade tradeStored
      obtain ⟨buy, sell, parties⟩ := law.parties trade tradeStored
      exact ⟨parties.buyId ▸ fresh buy parties.buyStored,
        parties.sellId ▸ fresh sell parties.sellStored⟩
  · intro other stored
    rcases members other stored with earlier | rfl
    · exact law.status other earlier
    · exact FillStatus.fresh isOpen nothing positive
  · rw [trades]
    intro trade stored
    obtain ⟨buy, sell, parties⟩ := law.parties trade stored
    exact ⟨buy, sell,
      { parties with
        buyStored := orders ▸ List.mem_append_left _ parties.buyStored
        sellStored := orders ▸ List.mem_append_left _ parties.sellStored }⟩
  · intro other stored uncleared
    rcases members other stored with earlier | rfl
    · apply law.unmatched other earlier
      unfold Uncleared at uncleared ⊢
      rwa [sessions] at uncleared
    · exact nothing

/-- Orders alone have changed, each in a way that keeps what identifies it. -/
theorem Parties.of_orders {trade : Trade} {buy sell : Order} {change : Order → Order}
    (parties : Parties db trade buy sell) (orders : next.orders.rows = db.orders.rows.map change)
    (id : ∀ order, (change order).id = order.id) (side : ∀ order, (change order).side = order.side)
    (session : ∀ order, (change order).marketSessionId = order.marketSessionId) :
    Parties next trade (change buy) (change sell) where
  buyStored := orders ▸ List.mem_map_of_mem parties.buyStored
  sellStored := orders ▸ List.mem_map_of_mem parties.sellStored
  buyId := (id buy).trans parties.buyId
  sellId := (id sell).trans parties.sellId
  buySide := (side buy).trans parties.buySide
  sellSide := (side sell).trans parties.sellSide
  oneSession := by rw [session, session, parties.oneSession]

/-- The row of an order after its cancellation. -/
def cancelledRow (orderId : UUID) (row : Order) : Order :=
  if row.id = orderId then { row with status := .cancelled } else row

theorem cancelledRow_kept (orderId : UUID) (row : Order) :
    (cancelledRow orderId row).id = row.id ∧ (cancelledRow orderId row).side = row.side ∧
      (cancelledRow orderId row).marketSessionId = row.marketSessionId ∧
      (cancelledRow orderId row).energyKwh = row.energyKwh ∧
      (cancelledRow orderId row).matchedKwh = row.matchedKwh := by
  unfold cancelledRow
  split <;> exact ⟨rfl, rfl, rfl, rfl, rfl⟩

/-- An order that has not been filled can be cancelled. -/
theorem Law.cancelled {orderId : UUID} (law : Law db)
    (unfilled : ∀ order ∈ db.orders.rows, order.id = orderId → order.status ≠ .filled)
    (orders : next.orders.rows = db.orders.rows.map (cancelledRow orderId))
    (rest : next = { db with orders := next.orders }) : Law next := by
  have sessions : next.marketSessions = db.marketSessions := by rw [rest]
  have trades : next.trades = db.trades := by rw [rest]
  refine ⟨?_, ?_, ?_, ?_, ?_, ?_⟩
  · rw [sessions, orders]
    intro order stored
    obtain ⟨row, rowStored, rfl⟩ := List.mem_map.mp stored
    rw [(cancelledRow_kept orderId row).2.2.1]
    exact law.sessions row rowStored
  · rw [orders]
    intro order stored
    obtain ⟨row, rowStored, rfl⟩ := List.mem_map.mp stored
    have columns := law.columns row rowStored
    unfold cancelledRow
    split
    · exact ⟨columns.energy, columns.matched, columns.minPrice, columns.maxPrice⟩
    · exact columns
  · rw [orders, trades]
    intro order stored
    obtain ⟨row, rowStored, rfl⟩ := List.mem_map.mp stored
    rw [(cancelledRow_kept orderId row).1, (cancelledRow_kept orderId row).2.2.2.2]
    exact law.matched row rowStored
  · rw [orders]
    intro order stored
    obtain ⟨row, rowStored, rfl⟩ := List.mem_map.mp stored
    have status := law.status row rowStored
    unfold cancelledRow
    split
    · rename_i same
      refine ⟨fun absurdity => absurd rfl absurdity, fun absurdity => absurd rfl absurdity,
        fun absurdity => absurd rfl absurdity, fun _ => ?_⟩
      by_cases already : row.status = .cancelled
      · exact status.cancelled already
      · have notFull : row.matchedKwh ≠ row.energyKwh :=
          fun full => unfilled row rowStored same ((status.filled already).mpr full)
        exact lt_of_le_of_ne (order_bounds rowStored).2.2 notFull
    · exact status
  · rw [trades]
    intro trade stored
    obtain ⟨buy, sell, parties⟩ := law.parties trade stored
    exact ⟨_, _, parties.of_orders orders (fun row => (cancelledRow_kept orderId row).1)
      (fun row => (cancelledRow_kept orderId row).2.1)
      (fun row => (cancelledRow_kept orderId row).2.2.1)⟩
  · rw [orders]
    intro order stored uncleared
    obtain ⟨row, rowStored, rfl⟩ := List.mem_map.mp stored
    rw [(cancelledRow_kept orderId row).2.2.1] at uncleared
    rw [(cancelledRow_kept orderId row).2.2.2.2]
    apply law.unmatched row rowStored
    unfold Uncleared at uncleared ⊢
    rwa [sessions] at uncleared

/-- A clearing only fills orders of its own session. -/
theorem Clearing.session {created : List Trade} (clearing : Clearing marketSessionId created db next)
    {order : Order} (stored : order ∈ db.orders.rows) (filled : 0 < tradedKwh created order.id) :
    order.marketSessionId = marketSessionId ∧ order.status.isActive = true := by
  by_contra other
  apply filled.ne'
  apply tradedKwh_of_absent
  intro trade member
  obtain ⟨buy, sell, parties, session, buyActive, sellActive⟩ := clearing.parties trade member
  constructor
  · intro same
    have own := orders_eq parties.buyStored stored (parties.buyId.trans same)
    subst own
    exact other ⟨session, buyActive⟩
  · intro same
    have own := orders_eq parties.sellStored stored (parties.sellId.trans same)
    subst own
    exact other ⟨parties.oneSession ▸ session, sellActive⟩

theorem tradedKwh_onGrid {trades : List Trade} {orderId : UUID}
    (onGrid : ∀ trade ∈ trades, OnGrid 4 trade.quantityKwh) : OnGrid 4 (tradedKwh trades orderId) := by
  apply OnGrid.sum
  intro value member
  obtain ⟨trade, selected, rfl⟩ := List.mem_map.mp member
  exact onGrid trade (List.mem_filter.mp selected).1

theorem Law.cleared {created : List Trade} (law : Law db)
    (clearing : Clearing marketSessionId created db next) : Law next := by
  have nonneg : ∀ orderId, 0 ≤ tradedKwh created orderId :=
    fun _ => tradedKwh_nonneg fun trade member => (clearing.quantities trade member).1
  have rows : ∀ order ∈ next.orders.rows, ∃ row ∈ db.orders.rows, filledWith created row = order := by
    rw [clearing.orders]
    exact fun order stored => List.mem_map.mp stored
  refine ⟨?_, ?_, ?_, ?_, ?_, ?_⟩
  · intro order stored
    obtain ⟨row, rowStored, rfl⟩ := rows order stored
    obtain ⟨session, sessionStored, named⟩ := law.sessions row rowStored
    obtain ⟨later, laterStored, sameId, _⟩ := clearing.sessions.stored sessionStored
    rw [filledWith_marketSessionId]
    exact ⟨later, laterStored, sameId.trans named⟩
  · intro order stored
    obtain ⟨row, rowStored, rfl⟩ := rows order stored
    have columns := law.columns row rowStored
    unfold filledWith
    split
    · have traded : OnGrid 4 (tradedKwh created row.id) :=
        tradedKwh_onGrid fun trade member => (clearing.quantities trade member).2
      exact ⟨columns.energy, columns.matched.add traded, columns.minPrice, columns.maxPrice⟩
    · exact columns
  · intro order stored
    obtain ⟨row, rowStored, rfl⟩ := rows order stored
    rw [filledWith_matchedKwh nonneg, filledWith_id, clearing.trades, tradedKwh_append,
      law.matched row rowStored]
  · intro order stored
    obtain ⟨row, rowStored, rfl⟩ := rows order stored
    unfold filledWith
    split
    · rename_i filled
      exact FillStatus.filledBy (order_bounds rowStored).2.1 filled
        (clearing.within row rowStored filled)
    · exact law.status row rowStored
  · intro trade stored
    rw [clearing.trades] at stored
    rcases List.mem_append.mp stored with earlier | new
    · obtain ⟨buy, sell, parties⟩ := law.parties trade earlier
      exact ⟨_, _, parties.of_orders clearing.orders (filledWith_id created)
        (filledWith_side created) (filledWith_marketSessionId created)⟩
    · obtain ⟨buy, sell, parties, _⟩ := clearing.parties trade new
      exact ⟨_, _, parties.of_orders clearing.orders (filledWith_id created)
        (filledWith_side created) (filledWith_marketSessionId created)⟩
  · intro order stored uncleared
    obtain ⟨row, rowStored, rfl⟩ := rows order stored
    rw [filledWith_marketSessionId] at uncleared
    obtain ⟨session, sessionStored, named⟩ := law.sessions row rowStored
    obtain ⟨later, laterStored, sameId, isCleared, _⟩ := clearing.sessions.stored sessionStored
    have other : row.marketSessionId ≠ marketSessionId := by
      intro own
      exact uncleared later laterStored (sameId.trans named) (isCleared (named.trans own))
    have unfilled : ¬ 0 < tradedKwh created row.id :=
      fun filled => other (clearing.session rowStored filled).1
    rw [filledWith, if_neg unfilled]
    exact law.unmatched row rowStored (clearing.sessions.uncleared other uncleared)

end Steps

end UrjaSetu.Services.MarketService
