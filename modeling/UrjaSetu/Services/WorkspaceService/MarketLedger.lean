import UrjaSetu.Services.WorkspaceService.MarketRun

/-!
What every run of the workspace keeps of its orders and trades.

Owns: the ledger of orders against their trades, the evidence behind every trade
that stands, and that no move breaks either.
-/

namespace UrjaSetu.Services.WorkspaceService

open UrjaSetu.Domain UrjaSetu.Domain.Interfaces UrjaSetu.Db UrjaSetu.Db.Models UrjaSetu.Library

/-! ## The ledger -/

/-- A trade that was committed, and was not taken back. -/
def stands (trade : Trade) : Bool := trade.status = .committed || trade.status = .settled

/-- Whether the trade draws on the order. -/
def drawsOn (orderId : UUID) (trade : Trade) : Bool :=
  trade.buyOrderId = orderId || trade.sellOrderId = orderId

/-- What the standing trades take of an order. -/
def standingKwh (orderId : UUID) (trades : List Trade) : ℚ :=
  ((trades.filter fun trade => stands trade && drawsOn orderId trade).map Trade.quantityKwh).sum

/-- What the status of an order says of its matched energy. -/
def StatusLaw (status : OrderStatus) (matchedKwh energyKwh : ℚ) : Prop :=
  match status with
  | .open | .cancelled => matchedKwh = 0
  | .partiallyFilled => 0 < matchedKwh ∧ matchedKwh < energyKwh
  | .filled => matchedKwh = energyKwh
  | .rejected => True

/-- The price of a trade is within the limits of both its orders. -/
def PriceWithin (buy sell : Order) (price : PriceComponents) : Prop :=
  ∃ floor ceiling, sell.minPriceInrPerKwh = some floor ∧ buy.maxPriceInrPerKwh = some ceiling ∧
    floor ≤ price.finalPrice ∧ price.finalPrice ≤ ceiling

/-- The orders a trade is of. -/
structure TradeOrders (db : Database) (trade : Trade) (buy sell : Order) : Prop where
  buyStored : buy ∈ db.orders.rows
  sellStored : sell ∈ db.orders.rows
  buyId : buy.id = trade.buyOrderId
  sellId : sell.id = trade.sellOrderId
  buySide : buy.side = .buy
  sellSide : sell.side = .sell
  users : buy.userId ≠ sell.userId
  buyStart : buy.deliveryStart = trade.deliveryStart
  sellStart : sell.deliveryStart = trade.deliveryStart

/-- What is stored behind a trade that stands: a safe and accepted grid run, and
a price within both limits. -/
structure Evidence (db : Database) (trade : Trade) (buy sell : Order) : Prop where
  grid : ∃ run ∈ db.gridRuns.rows, trade.gridValidationId = some run.id ∧ run.status = .safe ∧
    run.decision = .accept
  priced : ∃ price ∈ db.prices.rows, price.tradeId = trade.id
  price : ∀ price ∈ db.prices.rows, price.tradeId = trade.id → PriceWithin buy sell price

/-- The ledger of a state. -/
structure Ledger (db : Database) : Prop where
  onGrid : OnGridOrders db
  matched : ∀ order ∈ db.orders.rows, order.matchedKwh = standingKwh order.id db.trades.rows
  status : ∀ order ∈ db.orders.rows, StatusLaw order.status order.matchedKwh order.energyKwh
  ends : ∀ trade ∈ db.trades.rows,
    trade.deliveryEnd = trade.deliveryStart + Policies.CommunityEnergy.INTERVAL
  traded : ∀ trade ∈ db.trades.rows, ∃ buy sell, TradeOrders db trade buy sell ∧
    (stands trade = true → Evidence db trade buy sell)
  prices : ∀ price ∈ db.prices.rows, ∃ trade ∈ db.trades.rows, trade.id = price.tradeId
  pricedOnce : (db.prices.rows.map PriceComponents.tradeId).Nodup

/-! ## What stays -/

/-- Orders keep their terms, and grid runs stay. -/
structure Grown (db next : Database) : Prop where
  orders : ∀ order ∈ db.orders.rows, ∃ later ∈ next.orders.rows, terms later = terms order
  gridRuns : ∀ run ∈ db.gridRuns.rows, run ∈ next.gridRuns.rows

section Grown

variable {db next : Database} {trade : Trade} {buy sell laterBuy laterSell : Order}

/-- The orders of a trade, as they are later. -/
theorem TradeOrders.grown (orders : TradeOrders db trade buy sell)
    (buyStored : laterBuy ∈ next.orders.rows) (sellStored : laterSell ∈ next.orders.rows)
    (sameBuy : terms laterBuy = terms buy) (sameSell : terms laterSell = terms sell) :
    TradeOrders next trade laterBuy laterSell where
  buyStored := buyStored
  sellStored := sellStored
  buyId := (congrArg Order.id sameBuy :).trans orders.buyId
  sellId := (congrArg Order.id sameSell :).trans orders.sellId
  buySide := (congrArg Order.side sameBuy :).trans orders.buySide
  sellSide := (congrArg Order.side sameSell :).trans orders.sellSide
  users := by
    have buyUser : laterBuy.userId = buy.userId := (congrArg Order.userId sameBuy :)
    have sellUser : laterSell.userId = sell.userId := (congrArg Order.userId sameSell :)
    rw [buyUser, sellUser]
    exact orders.users
  buyStart := (congrArg Order.deliveryStart sameBuy :).trans orders.buyStart
  sellStart := (congrArg Order.deliveryStart sameSell :).trans orders.sellStart

theorem PriceWithin.grown {price : PriceComponents} (within : PriceWithin buy sell price)
    (sameBuy : terms laterBuy = terms buy) (sameSell : terms laterSell = terms sell) :
    PriceWithin laterBuy laterSell price := by
  have floor : laterSell.minPriceInrPerKwh = sell.minPriceInrPerKwh :=
    (congrArg Order.minPriceInrPerKwh sameSell :)
  have ceiling : laterBuy.maxPriceInrPerKwh = buy.maxPriceInrPerKwh :=
    (congrArg Order.maxPriceInrPerKwh sameBuy :)
  unfold PriceWithin
  rw [floor, ceiling]
  exact within

/-- The evidence of a trade stays where no price of it is added. -/
theorem Evidence.grown (evidence : Evidence db trade buy sell) (grown : Grown db next)
    (kept : ∀ price ∈ db.prices.rows, price ∈ next.prices.rows)
    (others : ∀ price ∈ next.prices.rows, price.tradeId = trade.id → price ∈ db.prices.rows)
    (sameBuy : terms laterBuy = terms buy) (sameSell : terms laterSell = terms sell) :
    Evidence next trade laterBuy laterSell := by
  refine ⟨?_, ?_, ?_⟩
  · obtain ⟨run, stored, accepted⟩ := evidence.grid
    exact ⟨run, grown.gridRuns run stored, accepted⟩
  · obtain ⟨price, stored, isIts⟩ := evidence.priced
    exact ⟨price, kept price stored, isIts⟩
  · intro price stored isIts
    exact (evidence.price price (others price stored isIts) isIts).grown sameBuy sameSell

/-- What is behind a trade stays where no price of it is added. -/
theorem traded_grown (grown : Grown db next)
    (kept : ∀ price ∈ db.prices.rows, price ∈ next.prices.rows)
    (others : ∀ price ∈ next.prices.rows, price.tradeId = trade.id → price ∈ db.prices.rows)
    (traded : ∃ buy sell, TradeOrders db trade buy sell ∧
      (stands trade = true → Evidence db trade buy sell)) :
    ∃ buy sell, TradeOrders next trade buy sell ∧
      (stands trade = true → Evidence next trade buy sell) := by
  obtain ⟨buy, sell, orders, evidence⟩ := traded
  obtain ⟨laterBuy, laterBuyStored, sameBuy⟩ := grown.orders buy orders.buyStored
  obtain ⟨laterSell, laterSellStored, sameSell⟩ := grown.orders sell orders.sellStored
  exact ⟨laterBuy, laterSell, orders.grown laterBuyStored laterSellStored sameBuy sameSell,
    fun standing => (evidence standing).grown grown kept others sameBuy sameSell⟩

end Grown

/-! ## Standing quantities -/

section Standing

variable {orderId : UUID} {trades : List Trade} {trade : Trade}

private theorem standingKwh_append_of_counted
    (counted : stands trade = true ∧ drawsOn orderId trade = true) :
    standingKwh orderId (trades ++ [trade]) = standingKwh orderId trades + trade.quantityKwh := by
  unfold standingKwh
  rw [List.filter_append, List.map_append, List.sum_append]
  congr 1
  simp [counted.1, counted.2]

private theorem standingKwh_append_of_not
    (uncounted : ¬ (stands trade = true ∧ drawsOn orderId trade = true)) :
    standingKwh orderId (trades ++ [trade]) = standingKwh orderId trades := by
  unfold standingKwh
  rw [List.filter_append, List.filter_cons, if_neg, List.filter_nil, List.append_nil]
  rwa [Bool.and_eq_true]

/-- No trade draws on the order. -/
theorem standingKwh_of_absent (absent : ∀ trade ∈ trades, drawsOn orderId trade = false) :
    standingKwh orderId trades = 0 := by
  have none : trades.filter (fun trade => stands trade && drawsOn orderId trade) = [] := by
    rw [List.filter_eq_nil_iff]
    intro trade member
    simp [absent trade member]
  unfold standingKwh
  rw [none]
  rfl

/-- A change of rows that keeps what a trade draws keeps the sum. -/
theorem standingKwh_map {change : Trade → Trade}
    (same : ∀ trade ∈ trades, stands (change trade) = stands trade ∧
      drawsOn orderId (change trade) = drawsOn orderId trade ∧
        (change trade).quantityKwh = trade.quantityKwh) :
    standingKwh orderId (trades.map change) = standingKwh orderId trades := by
  have selected : trades.filter ((fun trade => stands trade && drawsOn orderId trade) ∘ change) =
      trades.filter fun trade => stands trade && drawsOn orderId trade := by
    apply List.filter_congr
    intro trade member
    rw [Function.comp_apply, (same trade member).1, (same trade member).2.1]
  unfold standingKwh
  rw [List.filter_map, selected, List.map_map]
  congr 1
  apply List.map_congr_left
  intro trade member
  exact (same trade (List.mem_filter.mp member).1).2.2

end Standing

/-! ## Moves keep the ledger -/

section Moves

variable {engines : Engines} {db next : Database}

/-- The law of one order against the trades. -/
structure OrderLaw (trades : List Trade) (order : Order) : Prop where
  onGrid : OnQuantityGrid order
  matched : order.matchedKwh = standingKwh order.id trades
  status : StatusLaw order.status order.matchedKwh order.energyKwh

private theorem Ledger.order (ledger : Ledger db) {order : Order}
    (stored : order ∈ db.orders.rows) :
    OrderLaw db.trades.rows order :=
  ⟨ledger.onGrid order stored, ledger.matched order stored, ledger.status order stored⟩

/-- A move that changes no trade and no price has to keep the law of each order. -/
theorem Ledger.reordered (ledger : Ledger db) (grown : Grown db next)
    (sameTrades : next.trades = db.trades) (samePrices : next.prices = db.prices)
    (each : ∀ order ∈ next.orders.rows, OrderLaw db.trades.rows order) : Ledger next := by
  refine ⟨fun order stored => (each order stored).onGrid, ?_,
    fun order stored => (each order stored).status, ?_, ?_, ?_, ?_⟩
  · rw [sameTrades]
    exact fun order stored => (each order stored).matched
  · rw [sameTrades]
    exact ledger.ends
  · rw [sameTrades]
    intro trade stored
    apply traded_grown grown _ _ (ledger.traded trade stored)
    · rw [samePrices]
      exact fun _ priceStored => priceStored
    · rw [samePrices]
      exact fun _ priceStored _ => priceStored
  · rw [samePrices, sameTrades]
    exact ledger.prices
  · rw [samePrices]
    exact ledger.pricedOnce

theorem Beside.grown (beside : Beside db next) : Grown db next := by
  constructor
  · intro order stored
    rw [beside.orders]
    exact ⟨order, stored, rfl⟩
  · intro run stored
    obtain ⟨added, rows⟩ := beside.gridRuns
    rw [rows]
    exact List.mem_append_left _ stored

private theorem Ledger.beside (ledger : Ledger db) (beside : Beside db next) : Ledger next := by
  apply ledger.reordered beside.grown beside.sameTrades beside.prices
  rw [beside.orders]
  exact fun order => ledger.order

private theorem Ledger.answered {action : MarketplaceAction} (ledger : Ledger db)
    (answered : Answered engines action db next) : Ledger next := by
  rw [answered.frame]
  exact ledger.reordered ⟨fun order stored => ⟨order, stored, rfl⟩, fun _ stored => stored⟩ rfl rfl
    fun order => ledger.order

/-- An order that is not stored is drawn on by no trade. -/
theorem Ledger.undrawn (ledger : Ledger db) {orderId : UUID}
    (absent : ∀ order ∈ db.orders.rows, order.id ≠ orderId) :
    ∀ trade ∈ db.trades.rows, drawsOn orderId trade = false := by
  intro trade stored
  obtain ⟨buy, sell, orders, _⟩ := ledger.traded trade stored
  have notBuy := absent buy orders.buyStored
  have notSell := absent sell orders.sellStored
  rw [orders.buyId] at notBuy
  rw [orders.sellId] at notSell
  simp [drawsOn, notBuy, notSell]

private theorem Placed.fresh {order : Order} (placed : Placed order db next) :
    ∀ other ∈ db.orders.rows, other.id ≠ order.id := by
  have distinct : (next.orders.rows.map Order.id).Nodup :=
    Table.nodup_column Order.id fun _ _ equal => decide_eq_true equal
  rw [placed.orders, List.map_append, List.nodup_append] at distinct
  intro other stored
  exact distinct.2.2 _ (List.mem_map_of_mem stored) _ (List.mem_singleton.mpr rfl)

theorem Placed.grown {order : Order} (placed : Placed order db next) : Grown db next := by
  constructor
  · intro other stored
    rw [placed.orders]
    exact ⟨other, List.mem_append_left _ stored, rfl⟩
  · rw [placed.frame]
    exact fun _ stored => stored

private theorem Ledger.placed {order : Order} (ledger : Ledger db) (placed : Placed order db next) :
    Ledger next := by
  apply ledger.reordered placed.grown
  · rw [placed.frame]
  · rw [placed.frame]
  · rw [placed.orders]
    intro other stored
    rcases List.mem_append.mp stored with earlier | isNew
    · exact ledger.order earlier
    · rw [List.mem_singleton.mp isNew]
      refine ⟨placed.onGrid, ?_, ?_⟩
      · rw [placed.unmatched, standingKwh_of_absent (ledger.undrawn placed.fresh)]
      · rw [placed.opened]
        exact placed.unmatched

theorem Withdrawn.grown {order : Order} (withdrawn : Withdrawn order db next) : Grown db next := by
  constructor
  · intro other stored
    refine ⟨if other.id = order.id then { other with status := .cancelled } else other, ?_, ?_⟩
    · rw [withdrawn.orders]
      exact List.mem_map_of_mem stored
    · split
      · rfl
      · rfl
  · rw [withdrawn.frame]
    exact fun _ stored => stored

private theorem Ledger.withdrawn {order : Order} (ledger : Ledger db)
    (withdrawn : Withdrawn order db next) : Ledger next := by
  obtain ⟨orderStored, _⟩ := orderOf_mem withdrawn.stored
  apply ledger.reordered withdrawn.grown
  · rw [withdrawn.frame]
  · rw [withdrawn.frame]
  · rw [withdrawn.orders]
    intro other stored
    obtain ⟨row, rowStored, rfl⟩ := List.mem_map.mp stored
    have law := ledger.order rowStored
    split
    · rename_i isIt
      have isOrder : row = order :=
        Table.eq_of_column Order.id (fun _ _ equal => decide_eq_true equal) rowStored orderStored isIt
      refine ⟨⟨law.onGrid.energy, law.onGrid.matched⟩, law.matched, ?_⟩
      rw [isOrder]
      exact withdrawn.unmatched
    · exact law

theorem trade_eq_of_id {left right : Trade} (leftStored : left ∈ db.trades.rows)
    (rightStored : right ∈ db.trades.rows) (same : left.id = right.id) : left = right :=
  Table.eq_of_column Trade.id (fun _ _ equal => decide_eq_true (Or.inl equal)) leftStored rightStored
    same

/-- The row of a delivered trade. -/
def deliveredRow (tradeId : UUID) (row : Trade) : Trade :=
  if row.id = tradeId then { row with status := .settled } else row

/-- Only a standing trade is delivered, and it goes on standing. -/
theorem Delivery.Recorded.row_stands {delivery : Delivery} (recorded : delivery.Recorded engines db next)
    {row : Trade} (stored : row ∈ db.trades.rows) :
    stands (deliveredRow delivery.trade.id row) = stands row := by
  unfold deliveredRow
  split
  · rename_i isIt
    rw [trade_eq_of_id stored recorded.read.stored isIt]
    have due := recorded.read.due
    simp only [isDue, Bool.and_eq_true, decide_eq_true_eq] at due
    simp [stands, due.1]
  · rfl

theorem deliveredRow_same (tradeId : UUID) (row : Trade) :
    ∃ status, deliveredRow tradeId row = { row with status := status } := by
  unfold deliveredRow
  split
  · exact ⟨.settled, rfl⟩
  · exact ⟨row.status, rfl⟩

private theorem Ledger.delivered {delivery : Delivery} (ledger : Ledger db)
    (recorded : delivery.Recorded engines db next) : Ledger next := by
  have rows : next.trades.rows = db.trades.rows.map (deliveredRow delivery.trade.id) :=
    recorded.added.trades
  have sameOrders : next.orders = db.orders := by rw [recorded.added.frame]
  have samePrices : next.prices = db.prices := by rw [recorded.added.frame]
  have sameRuns : next.gridRuns = db.gridRuns := by rw [recorded.added.frame]
  have standing : ∀ orderId, standingKwh orderId next.trades.rows =
      standingKwh orderId db.trades.rows := by
    intro orderId
    rw [rows]
    apply standingKwh_map
    intro row stored
    obtain ⟨status, same⟩ := deliveredRow_same delivery.trade.id row
    exact ⟨recorded.row_stands stored, by rw [same]; rfl, by rw [same]⟩
  refine ⟨?_, ?_, ?_, ?_, ?_, ?_, ?_⟩
  · unfold OnGridOrders
    rw [sameOrders]
    exact ledger.onGrid
  · rw [sameOrders]
    intro order stored
    rw [standing]
    exact ledger.matched order stored
  · rw [sameOrders]
    exact ledger.status
  · rw [rows]
    intro trade stored
    obtain ⟨row, rowStored, rfl⟩ := List.mem_map.mp stored
    obtain ⟨status, same⟩ := deliveredRow_same delivery.trade.id row
    rw [same]
    exact ledger.ends row rowStored
  · rw [rows]
    intro trade stored
    obtain ⟨row, rowStored, rfl⟩ := List.mem_map.mp stored
    obtain ⟨buy, sell, orders, evidence⟩ := ledger.traded row rowStored
    obtain ⟨status, same⟩ := deliveredRow_same delivery.trade.id row
    refine ⟨buy, sell, ?_, ?_⟩
    · rw [same]
      exact ⟨sameOrders ▸ orders.buyStored, sameOrders ▸ orders.sellStored, orders.buyId,
        orders.sellId, orders.buySide, orders.sellSide, orders.users, orders.buyStart,
        orders.sellStart⟩
    · rw [recorded.row_stands rowStored, same]
      intro standing
      exact ⟨sameRuns ▸ (evidence standing).grid, samePrices ▸ (evidence standing).priced,
        samePrices ▸ (evidence standing).price⟩
  · rw [samePrices, rows]
    intro price stored
    obtain ⟨row, rowStored, isIts⟩ := ledger.prices price stored
    obtain ⟨status, same⟩ := deliveredRow_same delivery.trade.id row
    exact ⟨_, List.mem_map_of_mem rowStored, by rw [same]; exact isIts⟩
  · rw [samePrices]
    exact ledger.pricedOnce

section Decided

variable {decision : Decision}

private theorem Decision.Recorded.buy_stored (recorded : decision.Recorded db next) :
    decision.buy ∈ db.orders.rows ∧ decision.buy.id = decision.proposal.buyOrderId :=
  orderOf_mem recorded.read.buy

private theorem Decision.Recorded.sell_stored (recorded : decision.Recorded db next) :
    decision.sell ∈ db.orders.rows ∧ decision.sell.id = decision.proposal.sellOrderId :=
  orderOf_mem recorded.read.sell

private theorem Decision.Recorded.trade_stored (recorded : decision.Recorded db next) :
    decision.trade.asStored ∈ next.trades.rows := by
  rw [recorded.trades]
  exact List.mem_append_right _ (List.mem_singleton.mpr rfl)

/-- The proposal's quantity is stored as it is. -/
theorem Decision.Recorded.quantity (recorded : decision.Recorded db next) :
    decision.trade.asStored.quantityKwh = decision.proposal.quantityKwh :=
  Rounding.quantize_of_onGrid _ recorded.read.onGrid

theorem Decision.Recorded.positive (recorded : decision.Recorded db next) :
    0 < decision.proposal.quantityKwh := by
  have checked := next.trades.checked _ recorded.trade_stored
  simp only [Models.trades, Bool.and_eq_true, decide_eq_true_eq] at checked
  rw [← recorded.quantity]
  exact checked.1.1.1

/-- The new trade's identifier is new. -/
theorem Decision.Recorded.fresh (recorded : decision.Recorded db next) :
    ∀ trade ∈ db.trades.rows, trade.id ≠ decision.tradeId := by
  have distinct : (next.trades.rows.map Trade.id).Nodup :=
    Table.nodup_column Trade.id fun _ _ equal => decide_eq_true (Or.inl equal)
  rw [recorded.trades, List.map_append, List.nodup_append] at distinct
  intro trade stored
  exact distinct.2.2 _ (List.mem_map_of_mem stored) _ (List.mem_singleton.mpr rfl)

theorem Decision.Recorded.grown (recorded : decision.Recorded db next) : Grown db next := by
  constructor
  · intro order stored
    refine ⟨decision.order order, ?_, decision.terms_order order⟩
    rw [recorded.orders]
    exact List.mem_map_of_mem stored
  · rw [recorded.frame]
    exact fun _ stored => stored

private theorem Decision.stands_trade (decision : Decision) :
    stands decision.trade.asStored = decision.accepted := by
  cases accepted : decision.accepted with
  | true => simp [stands, Trade.asStored, Decision.trade, tradeRow, accepted]
  | false => simp [stands, Trade.asStored, Decision.trade, tradeRow, accepted]

/-- Whether the decision is about the order. -/
def Decision.About (decision : Decision) (order : Order) : Prop :=
  order.id = decision.buy.id ∨ order.id = decision.sell.id

private theorem Decision.Recorded.drawsOn_iff (recorded : decision.Recorded db next)
    (order : Order) :
    drawsOn order.id decision.trade.asStored = true ↔ decision.About order := by
  unfold drawsOn Decision.About
  rw [recorded.buy_stored.2, recorded.sell_stored.2, Bool.or_eq_true, decide_eq_true_eq,
    decide_eq_true_eq]
  exact ⟨Or.imp Eq.symm Eq.symm, Or.imp Eq.symm Eq.symm⟩

theorem Decision.order_of_not_about {order : Order} (elsewhere : ¬ decision.About order) :
    decision.order order = order := if_neg elsewhere

theorem Decision.order_of_about {order : Order} (about : decision.About order) :
    decision.order order = decidedOrder decision.accepted decision.proposal.quantityKwh order :=
  if_pos about

/-- Only orders that are neither withdrawn nor rejected are decided on. -/
theorem Decision.Recorded.about_stands (recorded : decision.Recorded db next) {order : Order}
    (stored : order ∈ db.orders.rows) (about : decision.About order) :
    order.status ≠ .cancelled ∧ order.status ≠ .rejected := by
  have one : ∀ other ∈ db.orders.rows, order.id = other.id → order = other :=
    fun other otherStored same => Table.eq_of_column Order.id
      (fun _ _ equal => decide_eq_true equal) stored otherStored same
  rcases about with isBuy | isSell
  · rw [one _ recorded.buy_stored.1 isBuy]
    exact recorded.read.buyStands
  · rw [one _ recorded.sell_stored.1 isSell]
    exact recorded.read.sellStands

/-- What an order has matched after a decision is within its energy. -/
theorem Decision.Recorded.within (recorded : decision.Recorded db next) {order : Order}
    (stored : order ∈ db.orders.rows) :
    0 ≤ order.matchedKwh ∧ (decision.order order).matchedKwh ≤ (decision.order order).energyKwh := by
  have before := db.orders.checked order stored
  have after := next.orders.checked (decision.order order) (by
    rw [recorded.orders]
    exact List.mem_map_of_mem stored)
  simp only [Models.orders, Bool.and_eq_true, decide_eq_true_eq] at before after
  exact ⟨before.1.1.1.1.1.2, after.1.1.1.1.2⟩

/-- The status a fill leaves. -/
theorem filled_status {matchedKwh energyKwh quantityKwh : ℚ} (nonneg : 0 ≤ matchedKwh)
    (positive : 0 < quantityKwh) (within : matchedKwh + quantityKwh ≤ energyKwh) :
    StatusLaw (if energyKwh - (matchedKwh + quantityKwh) = 0 then .filled else .partiallyFilled)
      (matchedKwh + quantityKwh) energyKwh := by
  split
  · rename_i full
    show matchedKwh + quantityKwh = energyKwh
    linarith
  · rename_i notFull
    have different : matchedKwh + quantityKwh ≠ energyKwh := by
      intro same
      exact notFull (by rw [same, sub_self])
    exact ⟨by linarith, lt_of_le_of_ne within different⟩

private theorem Decision.Recorded.orderLaw (recorded : decision.Recorded db next) {order : Order}
    (stored : order ∈ db.orders.rows) (law : OrderLaw db.trades.rows order) :
    OrderLaw next.trades.rows (decision.order order) := by
  have sameId : (decision.order order).id = order.id :=
    (congrArg Order.id (decision.terms_order order) :)
  refine ⟨decision.order_onGrid law.onGrid recorded.read.onGrid, ?_, ?_⟩
  · rw [sameId, recorded.trades]
    by_cases about : decision.About order
    · have draws := (recorded.drawsOn_iff order).mpr about
      rw [decision.order_of_about about]
      cases accepted : decision.accepted with
      | true =>
          rw [standingKwh_append_of_counted ⟨decision.stands_trade.trans accepted, draws⟩,
            recorded.quantity, ← law.matched]
          rfl
      | false =>
          rw [standingKwh_append_of_not, ← law.matched]
          · rfl
          · rw [decision.stands_trade, accepted]
            exact fun both => Bool.noConfusion both.1
    · rw [decision.order_of_not_about about, standingKwh_append_of_not, ← law.matched]
      exact fun both => about ((recorded.drawsOn_iff order).mp both.2)
  · by_cases about : decision.About order
    · obtain ⟨nonneg, within⟩ := recorded.within stored
      rw [decision.order_of_about about] at within ⊢
      cases accepted : decision.accepted with
      | true =>
          rw [accepted] at within
          exact filled_status nonneg recorded.positive within
      | false => exact trivial
    · rw [decision.order_of_not_about about]
      exact law.status

/-- The orders of a decided trade. -/
theorem Decision.Recorded.tradeOrders (recorded : decision.Recorded db next) :
    TradeOrders next decision.trade.asStored (decision.order decision.buy)
      (decision.order decision.sell) := by
  have found : TradeOrders db decision.trade.asStored decision.buy decision.sell :=
    { buyStored := recorded.buy_stored.1
      sellStored := recorded.sell_stored.1
      buyId := recorded.buy_stored.2
      sellId := recorded.sell_stored.2
      buySide := recorded.read.buySide
      sellSide := recorded.read.sellSide
      users := recorded.read.users
      buyStart := recorded.read.buyStart
      sellStart := recorded.read.sellStart }
  refine found.grown ?_ ?_ (decision.terms_order _) (decision.terms_order _)
  · rw [recorded.orders]
    exact List.mem_map_of_mem recorded.buy_stored.1
  · rw [recorded.orders]
    exact List.mem_map_of_mem recorded.sell_stored.1

/-- No price was stored of the new trade before. -/
theorem Decision.Recorded.unpriced (recorded : decision.Recorded db next) (ledger : Ledger db) :
    ∀ price ∈ db.prices.rows, price.tradeId ≠ decision.tradeId := by
  intro price stored same
  obtain ⟨trade, tradeStored, isIts⟩ := ledger.prices price stored
  exact recorded.fresh trade tradeStored (isIts.trans same)

/-- An accepted proposal has its evidence. -/
theorem Decision.Recorded.evidence (recorded : decision.Recorded db next) (ledger : Ledger db)
    (accepted : decision.accepted = true) :
    Evidence next decision.trade.asStored (decision.order decision.buy)
      (decision.order decision.sell) := by
  unfold Decision.accepted accepts at accepted
  rw [Bool.and_eq_true, decide_eq_true_eq] at accepted
  obtain ⟨safe, limits⟩ := accepted
  refine ⟨?_, ?_, ?_⟩
  · have stored : decision.grid.asStored ∈ next.gridRuns.rows :=
      recorded.grown.gridRuns _ recorded.read.grid
    have checked := next.gridRuns.checked _ stored
    simp only [gridValidationRuns, Bool.and_eq_true, decide_eq_true_eq] at checked
    exact ⟨decision.grid.asStored, stored, rfl, safe, checked.1.mp safe⟩
  · refine ⟨decision.price, ?_, rfl⟩
    rw [recorded.prices]
    exact List.mem_append_right _ (List.mem_singleton.mpr rfl)
  · intro price stored isIts
    rw [recorded.prices] at stored
    rcases List.mem_append.mp stored with earlier | isNew
    · exact absurd isIts (recorded.unpriced ledger price earlier)
    · rw [List.mem_singleton.mp isNew]
      have within : PriceWithin decision.buy decision.sell decision.price := by
        unfold withinLimits at limits
        split at limits
        · rename_i floor ceiling sellFloor buyCeiling
          rw [Bool.and_eq_true, decide_eq_true_eq, decide_eq_true_eq] at limits
          exact ⟨floor, ceiling, sellFloor, buyCeiling, limits.1, limits.2⟩
        · cases limits
      exact within.grown (decision.terms_order _) (decision.terms_order _)

private theorem Ledger.decided (ledger : Ledger db) (recorded : decision.Recorded db next) :
    Ledger next := by
  have each : ∀ order ∈ next.orders.rows, OrderLaw next.trades.rows order := by
    rw [recorded.orders]
    intro order stored
    obtain ⟨row, rowStored, rfl⟩ := List.mem_map.mp stored
    exact recorded.orderLaw rowStored (ledger.order rowStored)
  refine ⟨fun order stored => (each order stored).onGrid,
    fun order stored => (each order stored).matched,
    fun order stored => (each order stored).status, ?_, ?_, ?_, ?_⟩
  · rw [recorded.trades]
    intro trade stored
    rcases List.mem_append.mp stored with earlier | isNew
    · exact ledger.ends trade earlier
    · rw [List.mem_singleton.mp isNew]
      rfl
  · rw [recorded.trades]
    intro trade stored
    rcases List.mem_append.mp stored with earlier | isNew
    · apply traded_grown recorded.grown _ _ (ledger.traded trade earlier)
      · rw [recorded.prices]
        exact fun _ priceStored => List.mem_append_left _ priceStored
      · rw [recorded.prices]
        intro price priceStored isIts
        rcases List.mem_append.mp priceStored with known | isNew
        · exact known
        · rw [List.mem_singleton.mp isNew] at isIts
          exact absurd isIts.symm (recorded.fresh trade earlier)
    · rw [List.mem_singleton.mp isNew]
      refine ⟨_, _, recorded.tradeOrders, ?_⟩
      rw [decision.stands_trade]
      exact recorded.evidence ledger
  · rw [recorded.prices, recorded.trades]
    intro price stored
    rcases List.mem_append.mp stored with earlier | isNew
    · obtain ⟨trade, tradeStored, isIts⟩ := ledger.prices price earlier
      exact ⟨trade, List.mem_append_left _ tradeStored, isIts⟩
    · rw [List.mem_singleton.mp isNew]
      exact ⟨decision.trade.asStored, List.mem_append_right _ (List.mem_singleton.mpr rfl), rfl⟩
  · rw [recorded.prices, List.map_append, List.nodup_append]
    refine ⟨ledger.pricedOnce, List.nodup_singleton _, ?_⟩
    intro tradeId known other isNew
    obtain ⟨price, stored, rfl⟩ := List.mem_map.mp known
    rw [List.mem_singleton.mp isNew]
    exact recorded.unpriced ledger price stored

end Decided

/-- Every move keeps the ledger. -/
theorem Ledger.moved (ledger : Ledger db) (move : Move engines db next) : Ledger next := by
  cases move with
  | placed order placed => exact ledger.placed placed
  | withdrawn order withdrawn => exact ledger.withdrawn withdrawn
  | decided decision recorded => exact ledger.decided recorded
  | answered action answered => exact ledger.answered answered
  | delivered delivery recorded => exact ledger.delivered recorded
  | beside beside => exact ledger.beside beside

end Moves

/-! ## Runs -/

/-- A workspace before its first order. -/
structure Unopened (db : Database) : Prop where
  orders : db.orders.rows = []
  trades : db.trades.rows = []
  prices : db.prices.rows = []

theorem Unopened.ledger {db : Database} (unopened : Unopened db) : Ledger db := by
  obtain ⟨orders, trades, prices⟩ := unopened
  refine ⟨?_, ?_, ?_, ?_, ?_, ?_, ?_⟩
  · simp [OnGridOrders, orders]
  · simp [orders]
  · simp [orders]
  · simp [trades]
  · simp [trades]
  · simp [prices]
  · simp [prices]

theorem MarketRun.ledger {engines : Engines} {start db : Database} (unopened : Unopened start)
    (run : MarketRun engines start db) : Ledger db :=
  run.keeps unopened.ledger (fun _ ledger => ledger.onGrid) fun _ _ ledger move => ledger.moved move

/-- An order's matched energy is what its standing trades take, within its
energy, and its status says how much that is. -/
structure Balanced (db : Database) (order : Order) : Prop where
  matched : order.matchedKwh = standingKwh order.id db.trades.rows
  nonneg : 0 ≤ order.matchedKwh
  within : order.matchedKwh ≤ order.energyKwh
  cancelled : order.status = .cancelled → order.matchedKwh = 0
  filled_iff : order.status ≠ .cancelled → order.status ≠ .rejected →
    (order.status = .filled ↔ order.matchedKwh = order.energyKwh)
  partiallyFilled_iff : order.status ≠ .cancelled → order.status ≠ .rejected →
    (order.status = .partiallyFilled ↔
      0 < order.matchedKwh ∧ order.matchedKwh < order.energyKwh)
  open_iff : order.status ≠ .cancelled → order.status ≠ .rejected →
    (order.status = .open ↔ order.matchedKwh = 0)

theorem Ledger.balanced {db : Database} (ledger : Ledger db) {order : Order}
    (stored : order ∈ db.orders.rows) : Balanced db order := by
  have checked := db.orders.checked order stored
  simp only [Models.orders, Bool.and_eq_true, decide_eq_true_eq] at checked
  obtain ⟨⟨⟨⟨⟨⟨⟨positive, _⟩, nonneg⟩, within⟩, _⟩, _⟩, _⟩, _⟩ := checked
  have law := ledger.status order stored
  cases status : order.status with
  | «open» =>
      rw [status] at law
      have unmatched : order.matchedKwh = 0 := law
      refine ⟨ledger.matched order stored, nonneg, within, fun _ => unmatched, ?_, ?_, ?_⟩
      · simp [status, unmatched, positive.ne]
      · simp [status, unmatched]
      · simp [status, unmatched]
  | cancelled =>
      rw [status] at law
      refine ⟨ledger.matched order stored, nonneg, within, fun _ => law, ?_, ?_, ?_⟩
      · simp [status]
      · simp [status]
      · simp [status]
  | rejected =>
      refine ⟨ledger.matched order stored, nonneg, within, ?_, ?_, ?_, ?_⟩
      · simp [status]
      · simp [status]
      · simp [status]
      · simp [status]
  | partiallyFilled =>
      rw [status] at law
      have partly : 0 < order.matchedKwh ∧ order.matchedKwh < order.energyKwh := law
      refine ⟨ledger.matched order stored, nonneg, within, ?_, ?_, ?_, ?_⟩
      · simp [status]
      · simp [status, partly.2.ne]
      · simp [status, partly]
      · simp [status, partly.1.ne']
  | filled =>
      rw [status] at law
      have full : order.matchedKwh = order.energyKwh := law
      refine ⟨ledger.matched order stored, nonneg, within, ?_, ?_, ?_, ?_⟩
      · simp [status]
      · simp [status, full]
      · simp [status, full]
      · simp [status, full, positive.ne']

/-- The price stored of a trade is the only one. -/
theorem Ledger.priced {db : Database} (ledger : Ledger db) {trade : Trade} {buy sell : Order}
    (evidence : Evidence db trade buy sell) :
    ∃! price, price ∈ db.prices.rows ∧ price.tradeId = trade.id := by
  obtain ⟨price, stored, isIts⟩ := evidence.priced
  refine ⟨price, ⟨stored, isIts⟩, ?_⟩
  rintro other ⟨otherStored, isItsToo⟩
  exact List.inj_on_of_nodup_map ledger.pricedOnce otherStored stored (isItsToo.trans isIts.symm)

/-- In every state of every run each order is balanced, and every trade that
stands has both its orders, its safe grid run and one price, within both limits. -/
theorem marketRun_balanced (engines : Engines) (start db : Database) (unopened : Unopened start)
    (run : MarketRun engines start db) :
    (∀ order ∈ db.orders.rows, Balanced db order) ∧
      ∀ trade ∈ db.trades.rows, stands trade = true →
        ∃ buy sell, TradeOrders db trade buy sell ∧ Evidence db trade buy sell ∧
          ∃! price, price ∈ db.prices.rows ∧ price.tradeId = trade.id := by
  have ledger := run.ledger unopened
  refine ⟨fun order stored => ledger.balanced stored, ?_⟩
  intro trade stored standing
  obtain ⟨buy, sell, orders, evidence⟩ := ledger.traded trade stored
  exact ⟨buy, sell, orders, evidence standing, ledger.priced (evidence standing)⟩

/-! ## Two households -/

open Policies.CommunityEnergy

/-- A reading of the first quarter of an hour of tomorrow. -/
def morningReading (id meterId : UUID) (importKw exportKw : ℚ) : TelemetryReading :=
  simulatedReading id meterId DAY (quarterHour 0 0 importKw exportKw)

def morningForecast (runId siteId : UUID) (predictedKw : ℚ) : Models.ForecastPoint :=
  ⟨runId, siteId, DAY, DAY + INTERVAL, some predictedKw, some (predictedKw / 4), none, none, none⟩

def morningRun (id : UUID) (kind : ForecastType) : ForecastRun :=
  ⟨id, kind, DAY - IST, 2 * DAY - IST, 0, .completed, "baseline", "1", none⟩

/-- A prosumer with 2 kWh to sell of that quarter, a consumer who needs 2 kWh, and
what their meters will read. -/
def morningTwin : Database :=
  { Database.initial ⟨0, false, .normal, 0, "", false⟩
      ⟨[⟨1, .substation, 11, none, some FEEDER, none⟩,
          ⟨2, .transformer, 2 / 5, some 1, some FEEDER, some 100⟩,
          ⟨3, .connectionPoint, 2 / 5, some 2, some FEEDER, some 20⟩],
        [⟨21, 11, some 3⟩, ⟨22, 12, some 3⟩], [⟨61, 21⟩, ⟨62, 22⟩], [], []⟩ with
    readings :=
      ⟨[morningReading 71 61 0 4, morningReading 72 62 8 0], by decide +kernel, by decide +kernel⟩
    forecastRuns :=
      ⟨[morningRun 91 .solar, morningRun 92 .load], by decide +kernel, by decide +kernel⟩
    forecastPoints := ⟨[morningForecast 91 21 12, morningForecast 92 21 4,
      morningForecast 91 22 0, morningForecast 92 22 8], by decide +kernel, by decide +kernel⟩ }

/-- A hash that keeps of each audit record what tells those of the sample apart,
and every other text. -/
def shortHash (text : String) : String :=
  let bytes := text.toByteArray.data.toList
  if bytes.head? = some 123
  then String.ofList (((bytes.drop 50).take 4 ++ (bytes.drop 139).take 4).map fun byte =>
    Char.ofNat byte.toNat)
  else text

/-- A content network, and short hashes. -/
def textEngines : Engines := { contentEngines with sha256 := shortHash }

def morningQuantity : QuantityInput :=
  ⟨Decimal.ofUnits 1 0, by decide +kernel, by decide +kernel, by decide +kernel⟩

def morningFloor : PriceInput :=
  ⟨Decimal.ofUnits 2 0, by decide +kernel, by decide +kernel, by decide +kernel⟩

def morningCeiling : PriceInput :=
  ⟨Decimal.ofUnits 10 0, by decide +kernel, by decide +kernel, by decide +kernel⟩

/-- The prosumer offers a kilowatt-hour. -/
def morningOffer : MarketOperation :=
  .placeOrder ⟨11, .prosumer⟩ DAY .sell morningQuantity morningFloor

/-- The consumer takes it. -/
def morningAcceptance : MarketOperation :=
  .acceptOffer ⟨12, .consumer⟩ 1001 morningQuantity morningCeiling 77 none

/-- What an operation leaves, given identifiers from the first on. -/
def served (operation : MarketOperation) (first : ℕ) (db : Database) : Database :=
  (operation.serve textEngines db (countingOutside first)).2.1

theorem MarketRun.served {start db : Database} (run : MarketRun textEngines start db)
    (operation : MarketOperation) (first : ℕ) :
    MarketRun textEngines start (served operation first db) :=
  .operation operation (countingOutside first) run

def offered : Database := served morningOffer 1000 morningTwin

def taken : Database := served morningAcceptance 2000 offered

theorem morningTwin_unopened : Unopened morningTwin := ⟨rfl, rfl, rfl⟩

theorem offered_run : MarketRun textEngines morningTwin offered :=
  MarketRun.start.served morningOffer 1000

theorem taken_run : MarketRun textEngines morningTwin taken :=
  offered_run.served morningAcceptance 2000

theorem marketRun_balanced_sample :
    (∀ order ∈ taken.orders.rows, Balanced taken order) ∧
      ∀ trade ∈ taken.trades.rows, stands trade = true →
        ∃ buy sell, TradeOrders taken trade buy sell ∧ Evidence taken trade buy sell ∧
          ∃! price, price ∈ taken.prices.rows ∧ price.tradeId = trade.id :=
  marketRun_balanced textEngines morningTwin taken morningTwin_unopened taken_run

end UrjaSetu.Services.WorkspaceService
