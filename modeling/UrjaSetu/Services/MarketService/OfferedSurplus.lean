import UrjaSetu.Services.MarketService.SerialOrderBook

/-!
How much of a forecast surplus is on offer.

A placement is checked against the whole surplus of its window, whatever the site
has already offered there. Owns: what a site has on offer (`offeredKwh`), how
each request changes it, and that it stays within the surplus exactly when every
sell placement leaves room for what was on offer before it.
-/

namespace UrjaSetu.Services.MarketService

open UrjaSetu.Domain UrjaSetu.Domain.Interfaces UrjaSetu.Db UrjaSetu.Db.Models
open UrjaSetu.Domain.Policies.AuditChain UrjaSetu.Domain.Policies.MarketMatching
open UrjaSetu.Library UrjaSetu.Library.Rounding
open UrjaSetu.Library.Transaction UrjaSetu.Repositories.Forecasting

/-- A sell order of the site for the window. -/
def sells (siteId : UUID) (start end_ : Instant) (order : Order) : Bool :=
  order.side = .sell && order.siteId = siteId && order.deliveryStart = start &&
    order.deliveryEnd = end_

/-- What is matched of an order, and what is left of it while it is active. -/
def orderOfferedKwh (order : Order) : ℚ :=
  order.matchedKwh + if order.status.isActive then order.remainingKwh else 0

/-- What a site has on offer or sold for a window. -/
def offeredKwh (db : Database) (siteId : UUID) (start end_ : Instant) : ℚ :=
  ((db.orders.rows.filter (sells siteId start end_)).map orderOfferedKwh).sum

/-- Nothing is on offer beyond the forecast surplus. -/
def WithinSurplus (db : Database) : Prop :=
  ∀ siteId start end_, offeredKwh db siteId start end_ ≤ exportableKwh db siteId start end_

/-- A sell placement leaves room for what the site already has on offer. -/
def LeavesRoom (db : Database) : Request → Prop
  | .placeOrder request => request.side = .sell →
      offeredKwh db request.siteId request.deliveryStart request.deliveryEnd +
        numeric4 request.energyKwh ≤
          exportableKwh db request.siteId request.deliveryStart request.deliveryEnd
  | _ => True

section Steps

variable {request : Request} {response : Response} {db next : Database} {siteId : UUID}
  {start end_ : Instant}

/-- Orders have changed, each to one that offers no more. -/
theorem offeredKwh_map {change : Order → Order} (orders : next.orders.rows = db.orders.rows.map change)
    (selected : ∀ order, sells siteId start end_ (change order) = sells siteId start end_ order)
    (less : ∀ order ∈ db.orders.rows, orderOfferedKwh (change order) ≤ orderOfferedKwh order) :
    offeredKwh next siteId start end_ ≤ offeredKwh db siteId start end_ := by
  have same : sells siteId start end_ ∘ change = sells siteId start end_ := funext selected
  rw [offeredKwh, orders, List.filter_map, same, List.map_map, offeredKwh]
  apply List.sum_le_sum
  intro order member
  exact less order (List.mem_filter.mp member).1

private theorem orderOfferedKwh_bounds {order : Order}
    (within : order.matchedKwh ≤ order.energyKwh) :
    order.matchedKwh ≤ orderOfferedKwh order ∧ orderOfferedKwh order ≤ order.energyKwh := by
  unfold orderOfferedKwh Order.remainingKwh
  split <;> constructor <;> linarith

private theorem offeredKwh_cancelledRow (orderId : UUID) {order : Order}
    (stored : order ∈ db.orders.rows) :
    orderOfferedKwh (cancelledRow orderId order) ≤ orderOfferedKwh order := by
  unfold cancelledRow
  split
  · have matched : orderOfferedKwh { order with status := .cancelled } = order.matchedKwh :=
      add_zero order.matchedKwh
    rw [matched]
    exact (orderOfferedKwh_bounds (order_bounds stored).2.2).1
  · exact le_rfl

/-- A clearing only moves what is left of an order to what is matched of it. -/
theorem Clearing.offeredKwh_filledWith {marketSessionId : UUID} {created : List Trade}
    (clearing : Clearing marketSessionId created db next) {order : Order}
    (stored : order ∈ db.orders.rows) :
    orderOfferedKwh (filledWith created order) ≤ orderOfferedKwh order := by
  unfold filledWith
  split
  · rename_i filled
    have active := (clearing.session stored filled).2
    have within := clearing.within order stored filled
    have before : orderOfferedKwh order = order.energyKwh := by
      simp [orderOfferedKwh, active, Order.remainingKwh]
    rw [before]
    apply (orderOfferedKwh_bounds _).2
    show order.matchedKwh + tradedKwh created order.id ≤ order.energyKwh
    unfold Order.remainingKwh at within
    linarith
  · exact le_rfl

private theorem offeredKwh_placed {placed : OrderRequest} {orderId : UUID} {createdAt : Instant}
    {order : Order} (row : order = (placed.order orderId createdAt).asStored)
    (orders : next.orders.rows = db.orders.rows ++ [order]) :
    offeredKwh next siteId start end_ = offeredKwh db siteId start end_ +
      if sells siteId start end_ order then numeric4 placed.energyKwh else 0 := by
  have whole : orderOfferedKwh order = numeric4 placed.energyKwh := by
    have nothing : numeric4 0 = 0 := quantize_of_onGrid halfUp OnGrid.zero
    rw [row]
    simp [orderOfferedKwh, Order.remainingKwh, Order.asStored, OrderRequest.order, nothing,
      OrderStatus.isActive]
  rw [offeredKwh, orders, List.filter_append, List.map_append, List.sum_append, offeredKwh]
  by_cases selected : sells siteId start end_ order = true
  · simp [selected, whole]
  · simp [selected]

/-- Forecasts are fixed. -/
theorem Step.exportableKwh_eq (step : Step request response db next) (siteId : UUID)
    (start end_ : Instant) :
    exportableKwh next siteId start end_ = exportableKwh db siteId start end_ := by
  cases step with
  | opened opened =>
      rw [opened.rest]
      rfl
  | closed _ _ rest =>
      rw [rest]
      rfl
  | placed _ _ _ _ rest =>
      obtain ⟨table, nextIs⟩ := rest
      rw [nextIs]
      rfl
  | cancelled _ _ _ rest =>
      rw [rest]
      rfl
  | cleared clearing =>
      obtain ⟨table, nextIs⟩ := clearing.rest
      rw [nextIs]
      rfl

/-- A commit stays within the surplus exactly when it is no placement that leaves
too little room. -/
theorem Step.withinSurplus_iff (step : Step request response db next) (within : WithinSurplus db) :
    WithinSurplus next ↔ LeavesRoom db request := by
  have offersNoMore : (∀ siteId start end_,
      offeredKwh next siteId start end_ ≤ offeredKwh db siteId start end_) → WithinSurplus next := by
    intro less siteId start end_
    rw [step.exportableKwh_eq]
    exact (less siteId start end_).trans (within siteId start end_)
  cases step with
  | opened opened =>
      refine ⟨fun _ => trivial, fun _ => offersNoMore fun siteId start end_ => ?_⟩
      rw [opened.rest]
      exact le_rfl
  | closed _ _ rest =>
      refine ⟨fun _ => trivial, fun _ => offersNoMore fun siteId start end_ => ?_⟩
      rw [rest]
      exact le_rfl
  | @placed placed orderId createdAt _ _ order session row fresh orders rest =>
      have exportable := (Step.placed session row fresh orders rest).exportableKwh_eq
      have side : order.side = placed.side := by rw [row]; rfl
      have window : order.siteId = placed.siteId ∧ order.deliveryStart = placed.deliveryStart ∧
          order.deliveryEnd = placed.deliveryEnd := by
        rw [row]
        exact ⟨rfl, rfl, rfl⟩
      constructor
      · intro after isSell
        have own := after placed.siteId placed.deliveryStart placed.deliveryEnd
        have selected : sells placed.siteId placed.deliveryStart placed.deliveryEnd order = true := by
          simp [sells, side, isSell, window]
        rw [offeredKwh_placed row orders, if_pos selected, exportable] at own
        exact own
      · intro leavesRoom siteId start end_
        rw [offeredKwh_placed row orders, exportable]
        by_cases selected : sells siteId start end_ order = true
        · rw [if_pos selected]
          simp only [sells, Bool.and_eq_true, decide_eq_true_eq, side, window] at selected
          obtain ⟨⟨⟨isSell, rfl⟩, rfl⟩, rfl⟩ := selected
          exact leavesRoom isSell
        · rw [if_neg selected, add_zero]
          exact within siteId start end_
  | @cancelled orderId _ _ _ _ _ orders _ =>
      refine ⟨fun _ => trivial, fun _ => offersNoMore fun siteId start end_ => ?_⟩
      apply offeredKwh_map orders
      · intro order
        unfold cancelledRow
        split <;> rfl
      · exact fun order stored => offeredKwh_cancelledRow orderId stored
  | cleared clearing =>
      refine ⟨fun _ => trivial, fun _ => offersNoMore fun siteId start end_ => ?_⟩
      apply offeredKwh_map clearing.orders
      · intro order
        unfold filledWith
        split <;> rfl
      · exact fun order stored => clearing.offeredKwh_filledWith stored

end Steps

/-- What is on offer stays within the surplus throughout exactly when every
placement leaves room for what is on offer before it. -/
theorem served_withinSurplus_iff (platform : Platform) (engine : BaselineMatchingEngine)
    {start : Database} (noMarket : NoMarket start) (requests : List (Request × (ℕ → Supply))) :
    (WithinSurplus start ∧ WithinSurplus (served platform engine start requests).2 ∧
        ∀ commit ∈ (served platform engine start requests).1, WithinSurplus commit.after) ↔
      ∀ commit ∈ (served platform engine start requests).1, LeavesRoom commit.before commit.op := by
  obtain ⟨_, linked, commits⟩ := served_meets platform engine noMarket.law requests
  have steps : ∀ commit ∈ (served platform engine start requests).1,
      Step commit.op commit.value commit.before commit.after :=
    fun commit member => (commits commit member).2.step (commits commit member).1
  have initially : WithinSurplus start := by
    intro siteId start end_
    rw [offeredKwh, noMarket.orders]
    exact exportableKwh_nonneg _ siteId start end_
  constructor
  · rintro ⟨_, _, after⟩ commit member
    have before := (linked.before initially after).2 commit member
    exact ((steps commit member).withinSurplus_iff before).mp (after commit member)
  · intro leavesRoom
    have kept := linked.preserves
      (fun earlier db => WithinSurplus db ∧ ∀ commit ∈ earlier, WithinSurplus commit.after)
      ⟨initially, fun commit absurdity => absurd absurdity List.not_mem_nil⟩ ?_
    · exact ⟨initially, kept⟩
    · intro earlier commit member before
      have after := ((steps commit member).withinSurplus_iff before.1).mpr (leavesRoom commit member)
      refine ⟨after, ?_⟩
      intro other otherMember
      rcases List.mem_append.mp otherMember with earlierMember | last
      · exact before.2 other earlierMember
      · rw [List.mem_singleton.mp last]
        exact after

/-! ## One surplus offered twice -/

/-- Both placements fit in the surplus of 3 kWh, together they do not. -/
def offeredTwice : List (Request × (ℕ → Supply)) :=
  [(.openSession 0 .dayAhead (some 5), sampleSupply 100),
    (.placeOrder (sampleSell 2), sampleSupply 200), (.placeOrder (sampleSell 2), sampleSupply 300)]

theorem served_withinSurplus_broken : NoMarket sampleCommunity ∧
    exportableKwh sampleCommunity 21 0 3600000000 = 3 ∧
      offeredKwh (served samplePlatform {} sampleCommunity offeredTwice).2 21 0 3600000000 = 4 :=
  ⟨⟨rfl, rfl, rfl⟩, by decide +kernel, by
    unfold served handle placeOrder AuditService.append AuditService.sealedRow sealEvent
    rw [AuditService.eventFingerprint_head samplePlatform.sha256 fun _ => rfl]
    decide +kernel⟩

theorem served_withinSurplus_iff_sample :
    (WithinSurplus sampleCommunity ∧
        WithinSurplus (served samplePlatform {} sampleCommunity sampleDay).2 ∧
        ∀ commit ∈ (served samplePlatform {} sampleCommunity sampleDay).1,
          WithinSurplus commit.after) ↔
      ∀ commit ∈ (served samplePlatform {} sampleCommunity sampleDay).1,
        LeavesRoom commit.before commit.op :=
  served_withinSurplus_iff samplePlatform {} ⟨rfl, rfl, rfl⟩ sampleDay

end UrjaSetu.Services.MarketService
