import UrjaSetu.Services.WorkspaceService.ClearingBook
import UrjaSetu.Services.WorkspaceService.DeliveryEffects
import UrjaSetu.Services.WorkspaceService.StandingForecast

/-!
What `place_order`, `cancel_order`, `clear_market` and `accept_offer` do to the
database.

Owns: an order placed or withdrawn, a proposal decided and a request answered as
transitions of the database, and that the operations are sequences of these.
Does not own: what the sequences preserve.
-/

namespace UrjaSetu.Services.WorkspaceService

open UrjaSetu.Domain UrjaSetu.Domain.Interfaces UrjaSetu.Db UrjaSetu.Db.Models UrjaSetu.Library
open UrjaSetu.Domain.Policies.CommunityEnergy UrjaSetu.Domain.Policies.DynamicPricing
open UrjaSetu.Domain.Policies.MarketMatching

theorem orderOf_mem {id : UUID} {order : Order} {db : Database}
    (found : orderOf id db = some order) : order ∈ db.orders.rows ∧ order.id = id := by
  obtain ⟨stored, isIt⟩ := Table.find?_mem found
  exact ⟨stored, of_decide_eq_true isIt⟩

/-- Rows are found by their identifier. -/
theorem orderOf_eq_some {order : Order} {db : Database} (stored : order ∈ db.orders.rows) :
    orderOf order.id db = some order := by
  apply Table.find?_of_only stored (decide_eq_true rfl)
  intro other otherStored sameId
  exact Table.eq_of_column Order.id (fun _ _ equal => decide_eq_true equal) otherStored stored
    (of_decide_eq_true sameId)

/-! ## Transitions -/

/-- A new order, and what was found for it. -/
structure Placed (order : Order) (db next : Database) : Prop where
  opened : order.status = .open
  unmatched : order.matchedKwh = 0
  onGrid : OnQuantityGrid order
  ends : order.deliveryEnd = order.deliveryStart + INTERVAL
  tomorrow : localDate order.deliveryStart = localDate db.simulation.clock + 1
  owned : ∃ site ∈ db.community.sites, site.id = order.siteId ∧ site.ownerUserId = order.userId
  forecast : ∃ basis available, prediction? db order.siteId order.deliveryStart = some basis ∧
    surplus basis = some available ∧ (order.side = .sell →
      order.energyKwh ≤ available - reserved db order.siteId order.deliveryStart)
  orders : next.orders.rows = db.orders.rows ++ [order]
  frame : next = { db with
    orders := next.orders
    marketSessions := next.marketSessions
    audit := next.audit }

/-- An order nothing was matched of is withdrawn. -/
structure Withdrawn (order : Order) (db next : Database) : Prop where
  stored : orderOf order.id db = some order
  opened : order.status = .open
  unmatched : order.matchedKwh = 0
  orders : next.orders.rows = db.orders.rows.map fun row =>
    if row.id = order.id then { row with status := .cancelled } else row
  frame : next = { db with orders := next.orders, audit := next.audit }

/-- What of an order no transition changes. -/
def terms (order : Order) : Order := { order with status := .open, matchedKwh := 0 }

/-- A proposal and what was found and drawn for it. -/
structure Decision where
  clock : Instant
  start : Instant
  engine : BaselineMatchingEngine
  grid : GridValidationRun
  proposal : ProposedTrade
  buy : Order
  sell : Order
  quote : PricingResult
  tradeId : UUID
  fillSequence : ℤ
  priceId : UUID
  createdAt : Instant

namespace Decision

variable (decision : Decision)

def accepted : Bool := accepts decision.grid decision.buy decision.sell decision.quote.finalPrice

def trade : Trade :=
  tradeRow decision.tradeId decision.fillSequence decision.createdAt decision.clock decision.engine
    decision.grid decision.start decision.proposal decision.accepted

def price : PriceComponents :=
  priceRow decision.priceId decision.tradeId decision.createdAt decision.quote

/-- The order of the proposal, or another one. -/
def order (row : Order) : Order :=
  if row.id = decision.buy.id ∨ row.id = decision.sell.id then
    decidedOrder decision.accepted decision.proposal.quantityKwh row
  else row

/-- What the decision was taken on. -/
structure Read (db : Database) : Prop where
  buy : orderOf decision.proposal.buyOrderId db = some decision.buy
  sell : orderOf decision.proposal.sellOrderId db = some decision.sell
  buyStands : decision.buy.status ≠ .cancelled ∧ decision.buy.status ≠ .rejected
  sellStands : decision.sell.status ≠ .cancelled ∧ decision.sell.status ≠ .rejected
  buySide : decision.buy.side = .buy
  sellSide : decision.sell.side = .sell
  buyStart : decision.buy.deliveryStart = decision.start
  sellStart : decision.sell.deliveryStart = decision.start
  users : decision.buy.userId ≠ decision.sell.userId
  onGrid : Rounding.OnGrid 4 decision.proposal.quantityKwh
  grid : decision.grid.asStored ∈ db.gridRuns.rows
  quote : ∃ confidence,
    defaultQuote (priceRequest decision.proposal decision.start decision.grid confidence) =
      .ok decision.quote

end Decision

/-- A decision as a transition. -/
structure Decision.Recorded (decision : Decision) (db next : Database) : Prop where
  read : decision.Read db
  trades : next.trades.rows = db.trades.rows ++ [decision.trade.asStored]
  prices : next.prices.rows = db.prices.rows ++ [decision.price]
  orders : next.orders.rows = db.orders.rows.map decision.order
  frame : next = { db with
    orders := next.orders
    trades := next.trades
    prices := next.prices
    audit := next.audit }

/-- A request answered by a trade of the offer, of the quantity it asked for. -/
structure Answered (engines : Engines) (action : MarketplaceAction) (db next : Database) :
    Prop where
  request : ∃ offerId quantity price ownOrderId,
    action.bodyHash = bodyHashOf engines offerId quantity price ownOrderId ∧
      ∃ trade ∈ db.trades.rows, trade.id = action.tradeId ∧ trade.status = .committed ∧
        trade.quantityKwh = quantity.toRat ∧
          (trade.buyOrderId = offerId ∨ trade.sellOrderId = offerId)
  actions : next.actions.rows = db.actions.rows ++ [action]
  frame : next = { db with actions := next.actions }

/-- What leaves the market alone: orders, trades, prices and answers are what
they were, grid runs are only added, and forecasts stand. The community may
grow. -/
structure Beside (db next : Database) : Prop extends Aside db next where
  orders : next.orders = db.orders
  sameTrades : next.trades = db.trades
  prices : next.prices = db.prices
  actions : next.actions = db.actions
  gridRuns : ∃ added, next.gridRuns.rows = db.gridRuns.rows ++ added
  forecasts : Lasting db next

theorem Beside.refl (db : Database) : Beside db db :=
  ⟨Aside.refl db, rfl, rfl, rfl, rfl, ⟨[], (List.append_nil _).symm⟩, Lasting.refl db⟩

theorem Beside.trans {db middle next : Database} (first : Beside db middle)
    (second : Beside middle next) : Beside db next := by
  refine ⟨first.toAside.trans second.toAside, second.orders.trans first.orders,
    second.sameTrades.trans first.sameTrades, second.prices.trans first.prices,
    second.actions.trans first.actions, ?_,
    first.forecasts.trans second.forecasts⟩
  obtain ⟨added, middleRows⟩ := first.gridRuns
  obtain ⟨further, rows⟩ := second.gridRuns
  exact ⟨added ++ further, by rw [rows, middleRows, List.append_assoc]⟩

instance : Std.Refl Beside := ⟨Beside.refl⟩

instance : IsTrans Database Beside := ⟨fun _ _ _ => Beside.trans⟩

/-- One transition of the workspace. -/
inductive Move (engines : Engines) (db next : Database) : Prop where
  | placed (order : Order) (placed : Placed order db next)
  | withdrawn (order : Order) (withdrawn : Withdrawn order db next)
  | decided (decision : Decision) (recorded : decision.Recorded db next)
  | answered (action : MarketplaceAction) (answered : Answered engines action db next)
  | delivered (delivery : Delivery) (recorded : delivery.Recorded engines db next)
  | beside (beside : Beside db next)

/-- Transitions one after the other. -/
def Moves (engines : Engines) : Database → Database → Prop := Relation.ReflTransGen (Move engines)

/-! ## What a clearing relies on -/

/-- These orders are stored with their terms, and none is withdrawn. -/
def Standing (orders : List Order) (db : Database) : Prop :=
  ∀ order ∈ orders, ∃ row ∈ db.orders.rows, terms row = terms order ∧ row.status ≠ .cancelled

def OnGridOrders (db : Database) : Prop := ∀ order ∈ db.orders.rows, OnQuantityGrid order

private theorem terms_decidedOrder (accepted : Bool) (quantityKwh : ℚ) (order : Order) :
    terms (decidedOrder accepted quantityKwh order) = terms order := by
  cases accepted with
  | true => rfl
  | false => rfl

private theorem decidedOrder_stands (accepted : Bool) (quantityKwh : ℚ) (order : Order) :
    (decidedOrder accepted quantityKwh order).status ≠ .cancelled := by
  cases accepted with
  | true =>
      unfold decidedOrder
      rw [if_pos rfl]
      dsimp only
      split
      · exact OrderStatus.noConfusion
      · exact OrderStatus.noConfusion
  | false => exact OrderStatus.noConfusion

theorem Decision.terms_order (decision : Decision) (row : Order) :
    terms (decision.order row) = terms row := by
  unfold Decision.order
  split
  · exact terms_decidedOrder _ _ row
  · rfl

theorem Decision.order_onGrid (decision : Decision) {row : Order} (onGrid : OnQuantityGrid row)
    (quantity : Rounding.OnGrid 4 decision.proposal.quantityKwh) :
    OnQuantityGrid (decision.order row) := by
  unfold Decision.order
  split
  · cases accepted : decision.accepted with
    | true => exact ⟨onGrid.energy, onGrid.matched.add quantity⟩
    | false => exact ⟨onGrid.energy, onGrid.matched⟩
  · exact onGrid

section Kept

variable {decision : Decision} {orders : List Order} {db next : Database}

private theorem Decision.Recorded.standing (recorded : decision.Recorded db next)
    (standing : Standing orders db) : Standing orders next := by
  intro order member
  obtain ⟨row, stored, sameTerms, stands⟩ := standing order member
  refine ⟨decision.order row, ?_, (decision.terms_order row).trans sameTerms, ?_⟩
  · rw [recorded.orders]
    exact List.mem_map_of_mem stored
  · unfold Decision.order
    split
    · exact decidedOrder_stands _ _ row
    · exact stands

private theorem Decision.Recorded.onGridOrders (recorded : decision.Recorded db next)
    (onGrid : OnGridOrders db) : OnGridOrders next := by
  intro order member
  rw [recorded.orders] at member
  obtain ⟨row, stored, rfl⟩ := List.mem_map.mp member
  exact decision.order_onGrid (onGrid row stored) recorded.read.onGrid

private theorem Beside.standing (beside : Beside db next) (standing : Standing orders db) :
    Standing orders next := by
  unfold Standing
  rw [beside.orders]
  exact standing

private theorem Beside.onGridOrders (beside : Beside db next) (onGrid : OnGridOrders db) :
    OnGridOrders next := by
  unfold OnGridOrders
  rw [beside.orders]
  exact onGrid

private theorem Standing.found (standing : Standing orders db) {order : Order}
    (member : order ∈ orders) :
    ∃ row, orderOf order.id db = some row ∧ terms row = terms order ∧ row.status ≠ .cancelled := by
  obtain ⟨row, stored, sameTerms, stands⟩ := standing order member
  have sameId : (terms row).id = (terms order).id := congrArg Order.id sameTerms
  refine ⟨row, ?_, sameTerms, stands⟩
  rw [show order.id = row.id from sameId.symm]
  exact orderOf_eq_some stored

/-- The orders of one delivery start. -/
def slotOrders (orders : List Order) (start : Instant) (db : Database) : List Order :=
  (refreshed orders db).filter fun order => order.deliveryStart = start

/-- What a clearing of `orders` has done. -/
structure Cleared (engines : Engines) (orders : List Order) (db next : Database) : Prop where
  moves : Moves engines db next
  standing : Standing orders next
  onGrid : OnGridOrders next

/-- The trade is stored, and is one the engine proposed of the book. -/
def Issued (book : OrderBook) (trade : Trade) (db : Database) : Prop :=
  trade.asStored ∈ db.trades.rows ∧ ∃ proposal ∈ (clearing book).fills.map tradeOf,
    trade.buyOrderId = proposal.buyOrderId ∧ trade.sellOrderId = proposal.sellOrderId ∧
      trade.quantityKwh = proposal.quantityKwh

private theorem Decision.Recorded.cleared {engines : Engines} {first : Database}
    (recorded : decision.Recorded db next) (cleared : Cleared engines orders first db) :
    Cleared engines orders first next :=
  ⟨cleared.moves.tail (.decided decision recorded), recorded.standing cleared.standing,
    recorded.onGridOrders cleared.onGrid⟩

private theorem Decision.Recorded.issued (recorded : decision.Recorded db next) {book : OrderBook}
    {trade : Trade} (issued : Issued book trade db) : Issued book trade next := by
  refine ⟨?_, issued.2⟩
  rw [recorded.trades]
  exact List.mem_append_left _ issued.1

/-- Orders of the table with their terms stand, as they are now. -/
theorem Standing.refreshed (standing : Standing orders db) :
    Standing (refreshed orders db) db := by
  intro order member
  obtain ⟨earlier, earlierMember, found⟩ := List.mem_filterMap.mp member
  obtain ⟨row, stored, sameTerms, stands⟩ := standing earlier earlierMember
  obtain ⟨orderStored, sameId⟩ := orderOf_mem found
  have isRow : order = row :=
    Table.eq_of_column Order.id (fun _ _ equal => decide_eq_true equal) orderStored stored
      (sameId.trans (congrArg Order.id sameTerms).symm)
  subst isRow
  exact ⟨order, stored, rfl, stands⟩

end Kept

/-! ## Statements -/

/-- What holds of a call that returns; one that raises has published nothing. -/
def Returns {α : Type} (published : Database) (call : Call α) (unit : Session)
    (returns : α → Session → Prop) : Prop :=
  Work.Ensures call unit returns fun _ after => after.committed = published

/-- The end of a call on a session with nothing published before: what it wrote
is published, or not yet. -/
structure Ended (published : Database) (commit : Bool) (unit : Session) : Prop where
  published : unit.committed = if commit then unit.working else published
  flushed : unit.pending = []
  manual : unit.autoflush = false

theorem Ended.between {published : Database} {unit : Session} (ended : Ended published false unit) :
    Between published unit :=
  ⟨ended.published, ended.flushed, ended.manual⟩

/-- The database with the revision counted up. -/
def bumped (db : Database) : Database :=
  { db with simulation := { db.simulation with revision := db.simulation.revision + 1 } }

section Statements

variable {α β : Type} {published : Database} {unit : Session} {engines : Engines}

theorem returns_bind {call : Call β} {next : β → Call α} {returns : α → Session → Prop} :
    Returns published (call >>= next) unit returns ↔
      Returns published call unit fun value after => Returns published (next value) after returns :=
  Work.ensures_bind call next

theorem returns_pure {value : α} {returns : α → Session → Prop} :
    Returns published (pure value) unit returns ↔ returns value unit := Iff.rfl

theorem returns_read {view : Database → α} {returns : α → Session → Prop} :
    Returns published (Work.read view) unit returns ↔ returns (view unit.working) unit := Iff.rfl

theorem returns_raise {error : Failure} {returns : α → Session → Prop} :
    Returns published (Work.raise error) unit returns ↔ unit.committed = published := Iff.rfl

theorem Returns.mono {call : Call α} {returns weaker : α → Session → Prop}
    (first : Returns published call unit returns)
    (onReturn : ∀ value after, returns value after → weaker value after) :
    Returns published call unit weaker :=
  Work.Ensures.mono first onReturn fun _ _ unpublished => unpublished

private theorem Between.ensures_draw {next : Outside → α × Outside} {returns : α → Session → Prop}
    (between : Between published unit)
    (onward : ∀ value after, Between published after → after.working = unit.working →
      returns value after) : Returns published (Work.draw next) unit returns :=
  onward _ _ ⟨between.unpublished, between.flushed, between.manual⟩ rfl

private theorem Between.ensures_lift {outcome : Except Failure α} {returns : α → Session → Prop}
    (between : Between published unit) (onward : ∀ value, outcome = .ok value → returns value unit) :
    Returns published (Work.lift outcome) unit returns := by
  unfold Returns
  rw [Work.ensures_lift]
  exact ⟨onward, fun _ _ => between.unpublished⟩

private theorem Between.ensures_execute {statement : Database → Except Failure Database}
    {returns : Unit → Session → Prop} (between : Between published unit)
    (onward : ∀ after, Between published after → statement unit.working = .ok after.working →
      returns () after) : Returns published (Work.execute statement) unit returns := by
  unfold Returns
  rw [Work.ensures_execute]
  constructor
  · exact fun next executed =>
      onward _ ⟨between.unpublished, between.flushed, between.manual⟩ executed
  · exact fun _ _ => between.unpublished

/-- `if commit: db.commit()`. -/
theorem Between.ensures_finish {commit : Bool} {returns : Unit → Session → Prop}
    (between : Between published unit)
    (onward : ∀ after, Ended published commit after → after.working = unit.working →
      returns () after) : Returns published (finish commit) unit returns := by
  unfold Returns finish
  cases commit with
  | true =>
      rw [if_pos rfl, Work.ensures_commit_of_flushed between.flushed]
      exact onward _ ⟨rfl, between.flushed, between.manual⟩ rfl
  | false => exact onward unit ⟨between.unpublished, between.flushed, between.manual⟩ rfl

theorem Between.ensures_commit {returns : Unit → Session → Prop} (between : Between published unit)
    (onward : ∀ after, Ended published true after → after.working = unit.working →
      returns () after) : Returns published Work.commit unit returns := by
  unfold Returns
  rw [Work.ensures_commit_of_flushed between.flushed]
  exact onward _ ⟨rfl, between.flushed, between.manual⟩ rfl

/-- A loop, whose invariant speaks of the items still to come. -/
theorem Returns.foldItems {ι : Type} {body : β → ι → Call β} {items : List ι} {initial : β}
    {returns : β → Session → Prop} (invariant : List ι → β → Session → Prop)
    (initially : invariant items initial unit)
    (step : ∀ item rest accumulated before, invariant (item :: rest) accumulated before →
      Returns published (body accumulated item) before
        fun next after => invariant rest next after)
    (finally_ : ∀ accumulated after, invariant [] accumulated after → returns accumulated after) :
    Returns published (Work.foldItems body initial items) unit returns :=
  Work.Ensures.foldItems invariant initially step finally_

theorem returns_iff_ensures {call : Call α} {returns : α → Session → Prop} :
    Returns published call unit returns ↔
      Work.Ensures call unit returns fun _ after => after.committed = published := Iff.rfl

-- From here on these rules are all that is known of it, so that no tactic runs a program.
attribute [irreducible] Returns

namespace Between

variable {returns : Unit → Session → Prop} (between : Between published unit)

include between

theorem ensures_require {condition : Bool} {status : ℕ} {detail : String}
    (onward : condition = true → returns () unit) :
    Returns published (require condition status detail) unit returns := by
  unfold require
  split
  · rename_i holds
    exact returns_pure.mpr (onward holds)
  · exact returns_raise.mpr between.unpublished

theorem ensures_orHttp {returns : α → Session → Prop} {value : Option α} {status : ℕ}
    {detail : String} (onward : ∀ found, value = some found → returns found unit) :
    Returns published (orHttp value status detail) unit returns := by
  unfold orHttp
  split
  · rename_i found
    exact returns_pure.mpr (onward found rfl)
  · exact returns_raise.mpr between.unpublished

private theorem ensures_prediction {returns : Basis → Session → Prop} {siteId : UUID}
    {start : Instant}
    (onward : ∀ basis, prediction? unit.working siteId start = some basis → returns basis unit) :
    Returns published (prediction siteId start) unit returns := by
  rw [prediction, returns_bind, returns_read]
  exact between.ensures_orHttp onward

theorem ensures_insert {Row : Type} {schema : Schema Row} {relation : Relation schema} {row : Row}
    (onward : ∀ after table, Between published after →
      (relation.get unit.working).insert row = some table →
        after.working = relation.set unit.working table → returns () after) :
    Returns published (Work.execute (relation.insert row)) unit returns := by
  apply between.ensures_execute
  intro after afterBetween executed
  obtain ⟨table, inserted, same⟩ := Relation.insert_ok executed
  exact onward after table afterBetween inserted same

private theorem ensures_modify {Row : Type} {schema : Schema Row} {relation : Relation schema}
    {selected : Row → Bool} {change : Row → Row}
    (onward : ∀ after table, Between published after →
      (relation.get unit.working).modify selected change = some table →
        after.working = relation.set unit.working table → returns () after) :
    Returns published (Work.execute (relation.modify selected change)) unit returns := by
  apply between.ensures_execute
  intro after afterBetween executed
  obtain ⟨table, modified, same⟩ := Relation.modify_ok executed
  exact onward after table afterBetween modified same

private theorem ensures_audit {kind : AuditEventType} {entity : AuditEntityType} {entityId : UUID}
    {payload : List (String × Value)} {actor : Option UUID}
    (onward : ∀ after, Between published after → Audited unit.working after.working →
      returns () after) :
    Returns published (addAudit engines kind entity entityId payload actor) unit returns := by
  rw [addAudit, state, returns_bind, returns_read, returns_bind]
  apply between.ensures_draw
  intro eventId drawn drawnBetween drawnSame
  rw [returns_bind]
  apply drawnBetween.ensures_draw
  intro recordedAt dated datedBetween datedSame
  apply datedBetween.ensures_execute
  intro after afterBetween executed
  apply onward after afterBetween
  rw [datedSame, drawnSame] at executed
  exact recordStatement_audited executed

private theorem ensures_bump
    (onward : ∀ after, Between published after → after.working = bumped unit.working →
      returns () after) : Returns published bump unit returns := by
  rw [bump, setSimulation]
  apply between.ensures_execute
  intro after afterBetween executed
  exact onward after afterBetween (Except.ok.inj executed).symm

end Between

/-- A change of the simulation row, the sessions and the log alone. -/
theorem beside_of_same {db next : Database} (frame : next = { db with
      simulation := next.simulation
      marketSessions := next.marketSessions
      audit := next.audit }) : Beside db next := by
  rw [frame]
  exact ⟨Aside.of_same rfl rfl rfl rfl rfl rfl rfl, rfl, rfl, rfl, rfl,
    ⟨[], (List.append_nil _).symm⟩, Lasting.of_same rfl rfl⟩

/-! ## Orders -/

private theorem marketSession_ensures {day : ℤ} {openedAt : Instant}
    (between : Between published unit) :
    Returns published (marketSession day openedAt) unit fun _ after => Between published after ∧
      after.working = { unit.working with marketSessions := after.working.marketSessions } := by
  rw [marketSession, returns_bind, returns_read]
  split
  · exact returns_pure.mpr ⟨between, rfl⟩
  · rw [returns_bind]
    apply between.ensures_draw
    intro id drawn drawnBetween same
    rw [returns_bind]
    apply drawnBetween.ensures_insert
    intro inserted table insertedBetween _ executed
    rw [returns_pure]
    refine ⟨insertedBetween, ?_⟩
    rw [executed, same]
    rfl

theorem placeOrder_ensures {user : User} {start : Instant} {side : OrderSide}
    {quantity : QuantityInput} {price : PriceInput} {commit : Bool}
    (between : Between published unit) :
    Returns published (placeOrder engines user start side quantity price commit) unit
      fun order after => Ended published commit after ∧
        (order.userId = user.id ∧ order.side = side ∧ order.deliveryStart = start ∧
          order.energyKwh = quantity.toRat) ∧
        ∃ placed, Placed order unit.working placed ∧ after.working = bumped placed := by
  unfold placeOrder
  rw [state, returns_bind, returns_read, returns_bind]
  apply between.ensures_require
  intro _
  rw [returns_bind]
  apply between.ensures_require
  intro isTomorrow
  rw [returns_bind, returns_read, returns_bind]
  apply between.ensures_orHttp
  intro site siteFound
  rw [returns_bind]
  apply between.ensures_prediction
  intro basis basisFound
  rw [returns_bind]
  apply between.ensures_orHttp
  intro available isAvailable
  rw [returns_bind, returns_read, returns_bind]
  apply between.ensures_require
  intro enough
  rw [returns_bind]
  apply (marketSession_ensures between).mono
  rintro market opened ⟨openedBetween, openedFrame⟩
  rw [returns_bind]
  apply openedBetween.ensures_draw
  intro orderId drawn drawnBetween drawnSame
  rw [returns_bind]
  apply drawnBetween.ensures_draw
  intro createdAt dated datedBetween datedSame
  rw [returns_bind]
  apply datedBetween.ensures_insert
  intro inserted table insertedBetween accepted executed
  rw [returns_bind]
  apply insertedBetween.ensures_audit
  intro audited auditedBetween isAudited
  rw [returns_bind]
  apply auditedBetween.ensures_bump
  intro counted countedBetween isBumped
  rw [returns_bind]
  apply countedBetween.ensures_finish
  intro after ended same
  rw [returns_pure]
  refine ⟨ended, ⟨rfl, rfl, rfl, rfl⟩, audited.working, ?_, same.trans isBumped⟩
  obtain ⟨siteStored, _⟩ := Option.filter_eq_some_iff.mp siteFound
  have isOwner := List.find?_some siteStored
  obtain ⟨log, auditedIs⟩ := isAudited
  rw [auditedIs, executed, datedSame, drawnSame, openedFrame]
  rw [datedSame, drawnSame, openedFrame] at accepted
  refine
    { opened := rfl
      unmatched := rfl
      onGrid := ⟨quantity.onGrid, Rounding.OnGrid.zero⟩
      ends := rfl
      tomorrow := of_decide_eq_true isTomorrow
      owned := ⟨site, List.mem_of_find?_eq_some siteStored, rfl, of_decide_eq_true isOwner⟩
      forecast := ⟨basis, available, basisFound, isAvailable, ?_⟩
      orders := (Table.insert_eq_some accepted).1
      frame := rfl }
  intro isSell
  simp only [Bool.or_eq_true, decide_eq_true_eq] at enough
  exact enough.resolve_left fun other => other isSell

theorem cancelOrder_ensures {user : User} {orderId : UUID} (between : Between published unit) :
    Returns published (cancelOrder engines user orderId) unit fun _ after =>
      Ended published true after ∧
        ∃ order withdrawn, order.id = orderId ∧ order.userId = user.id ∧
          Withdrawn order unit.working withdrawn ∧ after.working = bumped withdrawn := by
  unfold cancelOrder
  rw [state, returns_bind, returns_read, returns_bind, returns_read, returns_bind]
  apply between.ensures_orHttp
  intro order found
  obtain ⟨stored, isOwner⟩ := Option.filter_eq_some_iff.mp found
  obtain ⟨_, isIt⟩ := orderOf_mem stored
  subst isIt
  rw [returns_bind]
  apply between.ensures_require
  intro untouched
  rw [Bool.and_eq_true, decide_eq_true_eq, decide_eq_true_eq] at untouched
  rw [returns_bind]
  apply between.ensures_modify
  intro changed table changedBetween modified executed
  rw [returns_bind]
  apply changedBetween.ensures_audit
  intro audited auditedBetween isAudited
  rw [returns_bind]
  apply auditedBetween.ensures_bump
  intro counted countedBetween isBumped
  apply countedBetween.ensures_commit
  intro after ended same
  refine ⟨ended, order, audited.working, rfl, of_decide_eq_true isOwner, ?_, same.trans isBumped⟩
  obtain ⟨log, auditedIs⟩ := isAudited
  have rows := Table.modify_eq_some modified
  simp only [decide_eq_true_eq] at rows
  rw [auditedIs, executed]
  exact ⟨stored, untouched.1, untouched.2, rows, rfl⟩

/-! ## Clearing -/

private theorem validateGrid_beside {sim : Simulation} {start : Instant}
    (between : Between published unit) :
    Returns published (validateGrid engines sim start) unit fun run after =>
      Between published after ∧ run.asStored ∈ after.working.gridRuns.rows ∧
        Beside unit.working after.working := by
  unfold validateGrid
  rw [returns_bind, returns_read, returns_bind]
  apply between.ensures_lift
  intro request _
  rw [returns_bind]
  apply between.ensures_draw
  intro id drawn drawnBetween drawnSame
  rw [returns_bind]
  apply drawnBetween.ensures_draw
  intro createdAt dated datedBetween datedSame
  rw [returns_bind]
  apply datedBetween.ensures_insert
  intro after table afterBetween inserted executed
  rw [returns_pure]
  rw [datedSame, drawnSame] at inserted executed
  have rows : table.rows = unit.working.gridRuns.rows ++ _ := (Table.insert_eq_some inserted).1
  rw [executed]
  refine ⟨afterBetween, ?_, Aside.of_same rfl rfl rfl rfl rfl rfl rfl, rfl, rfl, rfl, rfl,
    ⟨_, rows⟩, Lasting.of_same rfl rfl⟩
  show _ ∈ table.rows
  rw [rows]
  exact List.mem_append_right _ (List.mem_singleton.mpr rfl)

private theorem recordProposal_ensures {sim : Simulation} {start : Instant}
    {engine : BaselineMatchingEngine}
    {grid : GridValidationRun} {proposal : ProposedTrade} {buy sell : Order} {quote : PricingResult}
    (between : Between published unit)
    (read : ∀ tradeId fillSequence priceId createdAt, Decision.Read ⟨sim.clock, start, engine, grid,
      proposal, buy, sell, quote, tradeId, fillSequence, priceId, createdAt⟩ unit.working) :
    Returns published (recordProposal engines sim start engine grid proposal buy sell quote) unit
      fun trade after => Between published after ∧ ∃ decision : Decision,
        decision.proposal = proposal ∧ decision.trade = trade ∧
          decision.Recorded unit.working after.working := by
  unfold recordProposal
  rw [returns_bind, returns_read, returns_bind]
  apply between.ensures_draw
  intro tradeId identified identifiedBetween identifiedSame
  rw [returns_bind]
  apply identifiedBetween.ensures_draw
  intro createdAt dated datedBetween datedSame
  rw [returns_bind]
  apply datedBetween.ensures_insert
  intro traded trades tradedBetween tradeInserted tradeExecuted
  rw [returns_bind]
  apply tradedBetween.ensures_draw
  intro priceId named namedBetween namedSame
  rw [returns_bind]
  apply namedBetween.ensures_insert
  intro priced prices pricedBetween priceInserted priceExecuted
  rw [returns_bind]
  apply pricedBetween.ensures_audit
  intro audited auditedBetween isAudited
  rw [returns_bind]
  apply auditedBetween.ensures_modify
  intro after orders afterBetween ordersModified ordersExecuted
  rw [returns_pure]
  refine ⟨afterBetween, ⟨sim.clock, start, engine, grid, proposal, buy, sell, quote, tradeId,
    nextFill buy.id sell.id start unit.working, priceId, createdAt⟩, rfl, rfl, ?_⟩
  rw [datedSame, identifiedSame] at tradeInserted tradeExecuted
  rw [namedSame, tradeExecuted] at priceInserted priceExecuted
  rw [priceExecuted] at isAudited
  obtain ⟨log, auditedIs⟩ := isAudited
  rw [auditedIs] at ordersModified ordersExecuted
  have orderRows := Table.modify_eq_some ordersModified
  simp only [Bool.or_eq_true, decide_eq_true_eq] at orderRows
  rw [ordersExecuted]
  exact ⟨read _ _ _ _, (Table.insert_eq_some tradeInserted).1, (Table.insert_eq_some priceInserted).1,
    orderRows, rfl⟩

/-- A proposal is passed over, or decided. -/
theorem decideProposal_ensures {sim : Simulation} {start : Instant} {engine : BaselineMatchingEngine}
    {grid : GridValidationRun} {proposal : ProposedTrade} {group : List Order}
    (between : Between published unit) (standing : Standing group unit.working)
    (starts : ∀ order ∈ group, order.deliveryStart = start) (proposable : Proposable group proposal)
    (validated : grid.asStored ∈ unit.working.gridRuns.rows) :
    Returns published (decideProposal engines sim start engine grid proposal) unit
      fun decided after => Between published after ∧
        (decided = none ∧ after.working = unit.working ∨ ∃ decision : Decision,
          decision.proposal = proposal ∧ decided = some decision.trade ∧
            decision.Recorded unit.working after.working) := by
  have skipped : Between published unit ∧ ((none : Option Trade) = none ∧
      unit.working = unit.working ∨ ∃ decision : Decision, decision.proposal = proposal ∧
        none = some decision.trade ∧ decision.Recorded unit.working unit.working) :=
    ⟨between, Or.inl ⟨rfl, rfl⟩⟩
  obtain ⟨buyTerms, buyMember, buyId, isBuy⟩ := proposable.buy
  obtain ⟨sellTerms, sellMember, sellId, isSell⟩ := proposable.sell
  obtain ⟨buy, buyFound, buySame, buyStands⟩ := standing.found buyMember
  obtain ⟨sell, sellFound, sellSame, sellStands⟩ := standing.found sellMember
  rw [buyId] at buyFound
  rw [sellId] at sellFound
  unfold decideProposal
  rw [returns_bind, returns_read, returns_bind, returns_read, buyFound, sellFound]
  dsimp only
  split
  · exact returns_pure.mpr skipped
  · rename_i neitherRejected
    rw [not_or] at neitherRejected
    split
    · exact returns_pure.mpr skipped
    · rename_i otherUsers
      rw [returns_bind]
      apply between.ensures_prediction
      intro basis _
      rw [returns_bind]
      apply between.ensures_lift
      intro quote quoted
      rw [returns_bind]
      apply (recordProposal_ensures between ?_).mono
      · rintro trade after ⟨afterBetween, decision, isProposal, isTrade, recorded⟩
        rw [returns_pure]
        exact ⟨afterBetween, Or.inr ⟨decision, isProposal, congrArg some isTrade.symm, recorded⟩⟩
      · intro tradeId fillSequence priceId createdAt
        exact
          { buy := buyFound
            sell := sellFound
            buyStands := ⟨buyStands, neitherRejected.1⟩
            sellStands := ⟨sellStands, neitherRejected.2⟩
            buySide := (congrArg Order.side buySame).trans isBuy
            sellSide := (congrArg Order.side sellSame).trans isSell
            buyStart := (congrArg Order.deliveryStart buySame).trans (starts buyTerms buyMember)
            sellStart := (congrArg Order.deliveryStart sellSame).trans (starts sellTerms sellMember)
            users := otherUsers
            onGrid := proposable.onGrid
            grid := validated
            quote := ⟨basis.solar.confidence, mapError_eq_ok.mp quoted⟩ }

private theorem clearSlot_ensures {sim : Simulation} {quantityCap : Option ℚ} {orders : List Order}
    {trades : List Trade} {start : Instant} (between : Between published unit)
    (standing : Standing orders unit.working) (onGrid : OnGridOrders unit.working)
    (capOnGrid : ∀ cap, quantityCap = some cap → Rounding.OnGrid 4 cap) :
    Returns published (clearSlot engines sim quantityCap orders trades start) unit
      fun next after => Between published after ∧
        Cleared engines orders unit.working after.working ∧ ∀ trade ∈ next, trade ∈ trades ∨
          Issued (clearingBook quantityCap start (slotOrders orders start unit.working)) trade
            after.working := by
  have untouched : Cleared engines orders unit.working unit.working :=
    ⟨Relation.ReflTransGen.refl, standing, onGrid⟩
  unfold clearSlot
  rw [returns_bind, returns_read, returns_bind]
  apply between.ensures_lift
  intro result matched
  have proposals : result.trades = (clearing (clearingBook quantityCap start
    (slotOrders orders start unit.working))).fills.map tradeOf := matchBook_trades matched
  have grouped : Standing (slotOrders orders start unit.working) unit.working :=
    fun order member => standing.refreshed order (List.mem_filter.mp member).1
  have starts : ∀ order ∈ slotOrders orders start unit.working, order.deliveryStart = start :=
    fun order member => of_decide_eq_true (List.mem_filter.mp member).2
  have groupOnGrid : ∀ order ∈ slotOrders orders start unit.working, OnQuantityGrid order := by
    intro order member
    obtain ⟨earlier, _, found⟩ := List.mem_filterMap.mp (List.mem_filter.mp member).1
    exact onGrid order (orderOf_mem found).1
  split
  · exact returns_pure.mpr ⟨between, untouched, fun trade member => Or.inl member⟩
  · rw [returns_bind]
    apply (validateGrid_beside between).mono
    rintro grid validated ⟨validatedBetween, stored, beside⟩
    apply Returns.foldItems fun rest next after => Between published after ∧
      Cleared engines orders unit.working after.working ∧
        Standing (slotOrders orders start unit.working) after.working ∧
          grid.asStored ∈ after.working.gridRuns.rows ∧ rest ⊆ result.trades ∧
            ∀ trade ∈ next, trade ∈ trades ∨ Issued (clearingBook quantityCap start
              (slotOrders orders start unit.working)) trade after.working
    · refine ⟨validatedBetween, ⟨.single (.beside beside), beside.standing standing,
        beside.onGridOrders onGrid⟩, beside.standing grouped, stored, List.Subset.refl _, ?_⟩
      exact fun trade member => Or.inl member
    · rintro proposal rest next before ⟨beforeBetween, cleared, stands, gridStored, within, issued⟩
      have member : proposal ∈ (clearing (clearingBook quantityCap start
          (slotOrders orders start unit.working))).fills.map tradeOf := by
        rw [← proposals]
        exact within List.mem_cons_self
      rw [returns_bind]
      apply (decideProposal_ensures beforeBetween stands starts
        (proposable_of_trade groupOnGrid capOnGrid member) gridStored).mono
      rintro decided after ⟨afterBetween, unchanged | ⟨decision, isProposal, isDecided, recorded⟩⟩
      · rw [returns_pure, unchanged.1, unchanged.2, Option.toList_none, List.append_nil]
        exact ⟨afterBetween, cleared, stands, gridStored, (List.cons_subset.mp within).2, issued⟩
      · rw [returns_pure, isDecided, Option.toList_some]
        refine ⟨afterBetween, recorded.cleared cleared, recorded.standing stands, ?_,
          (List.cons_subset.mp within).2, ?_⟩
        · rw [congrArg Database.gridRuns recorded.frame]
          exact gridStored
        · intro trade tradeMember
          rcases List.mem_append.mp tradeMember with earlier | isNew
          · exact (issued trade earlier).imp_right recorded.issued
          · rw [List.mem_singleton.mp isNew]
            refine Or.inr ⟨?_, proposal, member, ?_, ?_, ?_⟩
            · rw [recorded.trades]
              exact List.mem_append_right _ (List.mem_singleton.mpr rfl)
            · rw [← isProposal]
              rfl
            · rw [← isProposal]
              rfl
            · rw [← isProposal]
              rfl
    · rintro next after ⟨afterBetween, cleared, _, _, _, issued⟩
      exact ⟨afterBetween, cleared, issued⟩

private theorem openOrders_standing (clock : Instant) (orderIds : Option (List UUID))
    (db : Database) :
    Standing (openOrders clock orderIds db) db := by
  intro order member
  obtain ⟨stored, isOpen⟩ := Table.mem_where.mp (List.mem_filter.mp member).1
  refine ⟨order, stored, rfl, ?_⟩
  intro isCancelled
  rw [isCancelled] at isOpen
  cases isOpen

theorem openOrders_stored {clock : Instant} {orderIds : Option (List UUID)} {db : Database}
    {order : Order} (member : order ∈ openOrders clock orderIds db) : order ∈ db.orders.rows :=
  (Table.mem_where.mp (List.mem_filter.mp member).1).1

/-- The revision and the commit at the end of a clearing. -/
theorem concludeClearing_ensures {commit : Bool} {trades : List Trade}
    {returns : List Trade → Session → Prop} (between : Between published unit)
    (onward : ∀ after, Ended published commit after → after.working = bumped unit.working →
      returns trades after) :
    Returns published (do
      bump
      finish commit
      pure trades) unit returns := by
  rw [returns_bind]
  apply between.ensures_bump
  intro counted countedBetween isBumped
  rw [returns_bind]
  apply countedBetween.ensures_finish
  intro after ended same
  exact returns_pure.mpr (onward after ended (same.trans isBumped))

theorem clearMarket_ensures {orderIds : Option (List UUID)} {quantityCap : Option ℚ} {commit : Bool}
    (between : Between published unit) (onGrid : OnGridOrders unit.working)
    (capOnGrid : ∀ cap, quantityCap = some cap → Rounding.OnGrid 4 cap) :
    Returns published (clearMarket engines orderIds quantityCap commit) unit fun _ after =>
      Ended published commit after ∧ ∃ cleared, Cleared engines
        (openOrders unit.working.simulation.clock orderIds unit.working) unit.working cleared ∧
          after.working = bumped cleared := by
  unfold clearMarket
  rw [state, returns_bind, returns_read, returns_bind, returns_read, returns_bind]
  apply Returns.foldItems fun _ _ after => Between published after ∧ Cleared engines
    (openOrders unit.working.simulation.clock orderIds unit.working) unit.working after.working
  · exact ⟨between, Relation.ReflTransGen.refl, openOrders_standing _ _ _, onGrid⟩
  · rintro start rest trades before ⟨beforeBetween, cleared⟩
    apply (clearSlot_ensures beforeBetween cleared.standing cleared.onGrid capOnGrid).mono
    rintro next after ⟨afterBetween, further, _⟩
    exact ⟨afterBetween, cleared.moves.trans further.moves, further.standing, further.onGrid⟩
  · rintro trades after ⟨afterBetween, cleared⟩
    apply concludeClearing_ensures afterBetween
    exact fun ended isEnded same => ⟨isEnded, after.working, cleared, same⟩

private theorem slotsOf_single {orders : List Order} {start : Instant}
    (single : ∀ order ∈ orders, order.deliveryStart = start) :
    slotsOf orders = [] ∨ slotsOf orders = [start] := by
  cases orders with
  | nil => exact Or.inl rfl
  | cons order rest =>
      have all : (order :: rest).map Order.deliveryStart =
          List.replicate (rest.length + 1) start := by
        rw [List.eq_replicate_iff]
        refine ⟨by simp, ?_⟩
        intro moment member
        obtain ⟨other, otherMember, rfl⟩ := List.mem_map.mp member
        exact single other otherMember
      right
      rw [slotsOf, all, List.replicate_dedup (Nat.succ_ne_zero _)]
      rfl

/-- A clearing of one delivery start: its trades are what the engine proposed of
the orders there were. -/
theorem clearSingle_ensures {orderIds : Option (List UUID)} {quantityCap : Option ℚ} {commit : Bool}
    {start : Instant} (between : Between published unit) (onGrid : OnGridOrders unit.working)
    (capOnGrid : ∀ cap, quantityCap = some cap → Rounding.OnGrid 4 cap)
    (single : ∀ order ∈ openOrders unit.working.simulation.clock orderIds unit.working,
      order.deliveryStart = start) :
    Returns published (clearMarket engines orderIds quantityCap commit) unit fun trades after =>
      Ended published commit after ∧ ∃ cleared, Cleared engines
        (openOrders unit.working.simulation.clock orderIds unit.working) unit.working cleared ∧
          after.working = bumped cleared ∧ ∀ trade ∈ trades, Issued (clearingBook quantityCap start
            (slotOrders (openOrders unit.working.simulation.clock orderIds unit.working) start
              unit.working)) trade cleared := by
  have standing := openOrders_standing unit.working.simulation.clock orderIds unit.working
  unfold clearMarket
  rw [state, returns_bind, returns_read, returns_bind, returns_read, returns_bind]
  rcases slotsOf_single single with none | only
  · rw [none, Work.foldItems, returns_pure]
    apply concludeClearing_ensures between
    intro after ended same
    exact ⟨ended, unit.working, ⟨Relation.ReflTransGen.refl, standing, onGrid⟩, same, by simp⟩
  · rw [only, Work.foldItems, returns_bind]
    apply (clearSlot_ensures between standing onGrid capOnGrid).mono
    rintro trades after ⟨afterBetween, cleared, issued⟩
    rw [Work.foldItems, returns_pure]
    apply concludeClearing_ensures afterBetween
    intro ended isEnded same
    refine ⟨isEnded, after.working, cleared, same, ?_⟩
    exact fun trade member => (issued trade member).resolve_left List.not_mem_nil

end Statements

end UrjaSetu.Services.WorkspaceService
