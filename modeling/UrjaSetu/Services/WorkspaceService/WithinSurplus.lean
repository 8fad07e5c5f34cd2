import UrjaSetu.Services.WorkspaceService.MarketLedger

/-!
No site sells more of an interval than its forecast surplus: what its sell orders
have matched, with what they may still match, stays within it on every run.

Owns: how each move changes what an interval has reserved, and the bound.
-/

namespace UrjaSetu.Services.WorkspaceService

open UrjaSetu.Domain UrjaSetu.Domain.Interfaces UrjaSetu.Db UrjaSetu.Db.Models UrjaSetu.Library

/-! ## What an interval has reserved -/

/-- Whether the order sells of the interval of the site. -/
def sellsOf (siteId : UUID) (start : Instant) (order : Order) : Bool :=
  order.siteId = siteId && order.deliveryStart = start && order.side = .sell

section Reserved

variable {siteId : UUID} {start : Instant} {db next : Database} {order : Order}

private theorem reserved_eq : reserved db siteId start =
    ((db.orders.rows.filter (sellsOf siteId start)).map reservedKwh).sum := rfl

private theorem reserved_of_same (same : next.orders = db.orders) :
    reserved next siteId start = reserved db siteId start := by
  rw [reserved_eq, reserved_eq, same]

private theorem reserved_of_none
    (none : ∀ order ∈ db.orders.rows, sellsOf siteId start order = false) :
    reserved db siteId start = 0 := by
  have filtered : db.orders.rows.filter (sellsOf siteId start) = [] := by
    rw [List.filter_eq_nil_iff]
    intro order stored
    rw [none order stored]
    exact Bool.false_ne_true
  rw [reserved_eq, filtered]
  rfl

private theorem reserved_of_added (rows : next.orders.rows = db.orders.rows ++ [order]) :
    reserved next siteId start = reserved db siteId start +
      if sellsOf siteId start order = true then reservedKwh order else 0 := by
  rw [reserved_eq, reserved_eq, rows, List.filter_append, List.map_append, List.sum_append]
  congr 1
  by_cases sells : sellsOf siteId start order = true
  · rw [if_pos sells, List.filter_cons_of_pos sells]
    simp
  · rw [if_neg sells, List.filter_cons_of_neg sells]
    rfl

/-- A change of rows that lowers what each reserves lowers the sum. -/
theorem reserved_of_changed {change : Order → Order}
    (rows : next.orders.rows = db.orders.rows.map change)
    (sameTerms : ∀ order ∈ db.orders.rows, terms (change order) = terms order)
    (lower : ∀ order ∈ db.orders.rows, reservedKwh (change order) ≤ reservedKwh order) :
    reserved next siteId start ≤ reserved db siteId start := by
  have selected : db.orders.rows.filter (sellsOf siteId start ∘ change) =
      db.orders.rows.filter (sellsOf siteId start) := by
    apply List.filter_congr
    intro order stored
    have same := sameTerms order stored
    have site : (change order).siteId = order.siteId := (congrArg Order.siteId same :)
    have starts : (change order).deliveryStart = order.deliveryStart :=
      (congrArg Order.deliveryStart same :)
    have side : (change order).side = order.side := (congrArg Order.side same :)
    rw [Function.comp_apply, sellsOf, sellsOf, site, starts, side]
  rw [reserved_eq, reserved_eq, rows, List.filter_map, selected, List.map_map]
  apply List.sum_le_sum
  intro order member
  exact lower order (List.mem_filter.mp member).1

end Reserved

/-! ## What one order reserves -/

private theorem reservedKwh_of_active {order : Order} (active : order.status.isActive = true) :
    reservedKwh order = order.energyKwh := by
  rw [reservedKwh, if_pos active, Order.remainingKwh, add_sub_cancel]

private theorem reservedKwh_of_inactive {order : Order} (inactive : order.status.isActive = false) :
    reservedKwh order = order.matchedKwh := by
  rw [reservedKwh, inactive, if_neg Bool.false_ne_true, add_zero]

private theorem matchedKwh_le_reservedKwh {order : Order}
    (within : order.matchedKwh ≤ order.energyKwh) :
    order.matchedKwh ≤ reservedKwh order := by
  cases active : order.status.isActive with
  | true =>
      rw [reservedKwh_of_active active]
      exact within
  | false => rw [reservedKwh_of_inactive active]

private theorem reservedKwh_le {order : Order} (within : order.matchedKwh ≤ order.energyKwh) :
    reservedKwh order ≤ order.energyKwh := by
  cases active : order.status.isActive with
  | true => rw [reservedKwh_of_active active]
  | false =>
      rw [reservedKwh_of_inactive active]
      exact within

section Moves

variable {engines : Engines} {db next : Database} {decision : Decision} {order : Order}

/-- A decision never raises what an order reserves: an accepted one moves it from
what is left to what is matched, and a refused one gives up what is left. -/
theorem Decision.Recorded.reservedKwh_le (recorded : decision.Recorded db next) (ledger : Ledger db)
    (stored : order ∈ db.orders.rows) : reservedKwh (decision.order order) ≤ reservedKwh order := by
  have balanced := ledger.balanced stored
  by_cases about : decision.About order
  · have within := (recorded.within stored).2
    obtain ⟨notCancelled, notRejected⟩ := recorded.about_stands stored about
    rw [decision.order_of_about about] at within ⊢
    cases accepted : decision.accepted with
    | true =>
        rw [accepted] at within
        have active : order.status.isActive = true := by
          have notFilled : order.status ≠ .filled := by
            intro filled
            have full := (balanced.filled_iff notCancelled notRejected).mp filled
            have above : order.matchedKwh + decision.proposal.quantityKwh ≤ order.energyKwh := within
            have positive := recorded.positive
            linarith
          cases status : order.status with
          | «open» => rfl
          | partiallyFilled => rfl
          | filled => exact absurd status notFilled
          | cancelled => exact absurd status notCancelled
          | rejected => exact absurd status notRejected
        rw [reservedKwh_of_active active]
        exact WorkspaceService.reservedKwh_le within
    | false =>
        have rejected : (decidedOrder false decision.proposal.quantityKwh
            order).status.isActive = false := rfl
        rw [reservedKwh_of_inactive rejected]
        exact matchedKwh_le_reservedKwh balanced.within
  · rw [decision.order_of_not_about about]

end Moves

/-! ## The bound -/

/-- Every sell order has a forecast behind it, whose surplus covers what the
interval has reserved. -/
structure Backed (db : Database) : Prop where
  forecasted : Forecasted db
  covered : ∀ order ∈ db.orders.rows, order.side = .sell → ∃ basis available,
    prediction? db order.siteId order.deliveryStart = some basis ∧
      surplus basis = some available ∧ reserved db order.siteId order.deliveryStart ≤ available

section Bound

variable {engines : Engines} {db next : Database}

/-- A move that keeps the terms of the orders and the predictions, and reserves
no more, keeps the bound. -/
theorem Backed.lowered (backed : Backed db) (forecasts : Lasting db next)
    (orders : ∀ order ∈ next.orders.rows, ∃ earlier ∈ db.orders.rows, terms order = terms earlier)
    (lower : ∀ siteId start, reserved next siteId start ≤ reserved db siteId start) :
    Backed next := by
  obtain ⟨forecasted, kept⟩ := forecasts backed.forecasted
  refine ⟨forecasted, ?_⟩
  intro order stored isSell
  obtain ⟨earlier, earlierStored, same⟩ := orders order stored
  have site : order.siteId = earlier.siteId := (congrArg Order.siteId same :)
  have start : order.deliveryStart = earlier.deliveryStart := (congrArg Order.deliveryStart same :)
  have side : order.side = earlier.side := (congrArg Order.side same :)
  rw [side] at isSell
  obtain ⟨basis, available, found, isAvailable, within⟩ := backed.covered earlier earlierStored isSell
  rw [site, start]
  exact ⟨basis, available, kept _ _ _ found, isAvailable, (lower _ _).trans within⟩

private theorem Placed.lasting {order : Order} (placed : Placed order db next) :
    Lasting db next := by
  rw [placed.frame]
  exact Lasting.of_same rfl rfl

/-- A new sell order is covered when it is placed, and the others of its interval
with it. -/
theorem Backed.placed {order : Order} (backed : Backed db) (placed : Placed order db next) :
    Backed next := by
  obtain ⟨forecasted, kept⟩ := placed.lasting backed.forecasted
  obtain ⟨basis, available, found, isAvailable, enough⟩ := placed.forecast
  have active : order.status.isActive = true := by rw [placed.opened]; rfl
  have covers : ∀ siteId start, sellsOf siteId start order = true → ∃ basis available,
      prediction? next siteId start = some basis ∧ surplus basis = some available ∧
        reserved next siteId start ≤ available := by
    intro siteId start sells
    have ofInterval := sells
    simp only [sellsOf, Bool.and_eq_true, decide_eq_true_eq] at ofInterval
    obtain ⟨⟨rfl, rfl⟩, isSell⟩ := ofInterval
    refine ⟨basis, available, kept _ _ _ found, isAvailable, ?_⟩
    rw [reserved_of_added placed.orders, if_pos sells, reservedKwh_of_active active]
    have room := enough isSell
    linarith
  refine ⟨forecasted, ?_⟩
  intro other stored isSell
  by_cases sells : sellsOf other.siteId other.deliveryStart order = true
  · exact covers _ _ sells
  · rw [placed.orders] at stored
    rcases List.mem_append.mp stored with earlier | isNew
    · obtain ⟨otherBasis, otherAvailable, otherFound, otherIs, within⟩ :=
        backed.covered other earlier isSell
      refine ⟨otherBasis, otherAvailable, kept _ _ _ otherFound, otherIs, ?_⟩
      rw [reserved_of_added placed.orders, if_neg sells, add_zero]
      exact within
    · rw [List.mem_singleton.mp isNew] at isSell sells
      simp [sellsOf, isSell] at sells

private theorem Backed.moved (backed : Backed db) (ledger : Ledger db)
    (move : Move engines db next) :
    Backed next := by
  cases move with
  | placed order placed => exact backed.placed placed
  | withdrawn order withdrawn =>
      have same : ∀ row : Order, terms (if row.id = order.id then
          { row with status := .cancelled } else row) = terms row := by
        intro row
        split
        · rfl
        · rfl
      apply backed.lowered
      · rw [withdrawn.frame]
        exact Lasting.of_same rfl rfl
      · rw [withdrawn.orders]
        intro other stored
        obtain ⟨row, rowStored, rfl⟩ := List.mem_map.mp stored
        exact ⟨row, rowStored, same row⟩
      · intro siteId start
        apply reserved_of_changed withdrawn.orders
        · exact fun row _ => same row
        · intro row rowStored
          split
          · have given : reservedKwh { row with status := .cancelled } = row.matchedKwh :=
              reservedKwh_of_inactive rfl
            rw [given]
            exact matchedKwh_le_reservedKwh (ledger.balanced rowStored).within
          · exact le_refl _
  | decided decision recorded =>
      apply backed.lowered
      · rw [recorded.frame]
        exact Lasting.of_same rfl rfl
      · rw [recorded.orders]
        intro other stored
        obtain ⟨row, rowStored, rfl⟩ := List.mem_map.mp stored
        exact ⟨row, rowStored, decision.terms_order row⟩
      · intro siteId start
        apply reserved_of_changed recorded.orders
        · exact fun row _ => decision.terms_order row
        · exact fun row rowStored => recorded.reservedKwh_le ledger rowStored
  | answered action answered =>
      rw [answered.frame]
      exact ⟨backed.forecasted, backed.covered⟩
  | delivered delivery recorded =>
      have sameOrders : next.orders = db.orders := by rw [recorded.added.frame]
      apply backed.lowered
      · rw [recorded.added.frame]
        exact Lasting.of_same rfl rfl
      · rw [sameOrders]
        exact fun order stored => ⟨order, stored, rfl⟩
      · exact fun siteId start => (reserved_of_same sameOrders).le
  | beside beside =>
      apply backed.lowered beside.forecasts
      · rw [beside.orders]
        exact fun order stored => ⟨order, stored, rfl⟩
      · exact fun siteId start => (reserved_of_same beside.orders).le

private theorem surplus_nonneg {basis : Basis} {available : ℚ}
    (isAvailable : surplus basis = some available) :
    0 ≤ available := by
  unfold surplus at isAvailable
  split at isAvailable
  · cases isAvailable
    exact le_max_left _ _
  · cases isAvailable

/-- What covers each order covers each interval. -/
theorem Backed.reserved_le (backed : Backed db) {siteId : UUID} {start : Instant} {basis : Basis}
    {available : ℚ} (found : prediction? db siteId start = some basis)
    (isAvailable : surplus basis = some available) : reserved db siteId start ≤ available := by
  by_cases some_ : ∃ order ∈ db.orders.rows, sellsOf siteId start order = true
  · obtain ⟨order, stored, sells⟩ := some_
    simp only [sellsOf, Bool.and_eq_true, decide_eq_true_eq] at sells
    obtain ⟨⟨rfl, rfl⟩, isSell⟩ := sells
    obtain ⟨otherBasis, otherAvailable, otherFound, otherIs, within⟩ :=
      backed.covered order stored isSell
    rw [found] at otherFound
    cases otherFound
    rw [isAvailable] at otherIs
    cases otherIs
    exact within
  · rw [reserved_of_none]
    · exact surplus_nonneg isAvailable
    · intro order stored
      rw [← Bool.not_eq_true]
      exact fun sells => some_ ⟨order, stored, sells⟩

/-- What standing trades have taken of an interval's sell orders. -/
def soldOf (db : Database) (siteId : UUID) (start : Instant) : ℚ :=
  ((sellOrders db siteId start).map fun order => standingKwh order.id db.trades.rows).sum

private theorem soldOf_le_reserved (ledger : Ledger db) (siteId : UUID) (start : Instant) :
    soldOf db siteId start ≤ reserved db siteId start := by
  apply List.sum_le_sum
  intro order member
  have stored := (Table.mem_where.mp member).1
  rw [← ledger.matched order stored]
  exact matchedKwh_le_reservedKwh (ledger.balanced stored).within

end Bound

/-- In every state of every run, what the sell orders of an interval have sold,
and what they may still sell, is within the surplus forecast for it; every sell
order has such a forecast. -/
theorem marketRun_withinSurplus (engines : Engines) (start db : Database)
    (unopened : Unopened start) (forecasted : Forecasted start)
    (run : MarketRun engines start db) :
    (∀ siteId moment basis available, prediction? db siteId moment = some basis →
      surplus basis = some available → soldOf db siteId moment ≤ reserved db siteId moment ∧
        reserved db siteId moment ≤ available) ∧
    ∀ order ∈ db.orders.rows, order.side = .sell →
      ∃ basis available, prediction? db order.siteId order.deliveryStart = some basis ∧
        surplus basis = some available := by
  have initially : Ledger start ∧ Backed start :=
    ⟨unopened.ledger, forecasted, by simp [unopened.orders]⟩
  obtain ⟨ledger, backed⟩ : Ledger db ∧ Backed db := by
    apply run.keeps initially
    · exact fun _ both => both.1.onGrid
    · exact fun _ _ both move => ⟨both.1.moved move, both.2.moved both.1 move⟩
  constructor
  · intro siteId moment basis available found isAvailable
    exact ⟨soldOf_le_reserved ledger siteId moment, backed.reserved_le found isAvailable⟩
  · intro order stored isSell
    obtain ⟨basis, available, found, isAvailable, _⟩ := backed.covered order stored isSell
    exact ⟨basis, available, found, isAvailable⟩

open Policies.CommunityEnergy

private theorem morningTwin_forecasted : Forecasted morningTwin := by
  have all : ∀ point ∈ morningTwin.forecastPoints.rows, morningTwin.forecastRuns.rows.any
      (fun run => run.id = point.forecastRunId && run.horizonStart = dayStart point.intervalStart) =
        true := by decide +kernel
  intro point stored
  obtain ⟨run, runStored, isIts⟩ := List.any_eq_true.mp (all point stored)
  simp only [Bool.and_eq_true, decide_eq_true_eq] at isIts
  exact ⟨run, runStored, isIts.1, isIts.2⟩

theorem marketRun_withinSurplus_sample :
    (prediction? morningTwin 21 DAY).bind surplus = some 2 ∧
    (∀ siteId moment basis available, prediction? taken siteId moment = some basis →
      surplus basis = some available → soldOf taken siteId moment ≤ reserved taken siteId moment ∧
        reserved taken siteId moment ≤ available) ∧
    ∀ order ∈ taken.orders.rows, order.side = .sell →
      ∃ basis available, prediction? taken order.siteId order.deliveryStart = some basis ∧
        surplus basis = some available :=
  ⟨by decide +kernel, marketRun_withinSurplus textEngines morningTwin taken
    morningTwin_unopened morningTwin_forecasted taken_run⟩

end UrjaSetu.Services.WorkspaceService
