import UrjaSetu.Services.MarketService.OrderBookLaw

/-!
The commit of a clearing whose book nobody has overtaken.

Owns: that the book of a lawful database is storable, and that such a commit is
a `Clearing` of what is committed.
Does not own: when a book is overtaken.
-/

namespace UrjaSetu.Services.MarketService

open UrjaSetu.Domain UrjaSetu.Domain.Interfaces UrjaSetu.Db UrjaSetu.Db.Models
open UrjaSetu.Domain.Policies.ClearingPrice UrjaSetu.Domain.Policies.MarketMatching
open UrjaSetu.Domain.Policies.MatchingGuarantees UrjaSetu.Library UrjaSetu.Library.Rounding
open UrjaSetu.Repositories.Market

/-- From a read of a clearing to its commit: sessions stay, and a session that has
not been cleared keeps its active orders as they were. -/
structure Undisturbed (marketSessionId : UUID) (read later : Database) : Prop where
  sessions : ∀ session ∈ read.marketSessions.rows, ∃ found ∈ later.marketSessions.rows,
    found.id = session.id ∧ (session.status = .cleared → found.status = .cleared)
  orders : Uncleared later marketSessionId → ∀ order ∈ read.orders.rows,
    order.marketSessionId = marketSessionId → order.status.isActive = true →
      order ∈ later.orders.rows

namespace Undisturbed

variable {marketSessionId : UUID} {read middle later : Database}

theorem refl (marketSessionId : UUID) (read : Database) : Undisturbed marketSessionId read read :=
  ⟨fun session stored => ⟨session, stored, rfl, id⟩, fun _ _ stored _ _ => stored⟩

private theorem uncleared (undisturbed : Undisturbed marketSessionId read later) {other : UUID}
    (after : Uncleared later other) : Uncleared read other := by
  intro session stored named isCleared
  obtain ⟨found, foundStored, same, cleared⟩ := undisturbed.sessions session stored
  exact after found foundStored (same.trans named) (cleared isCleared)

theorem trans (first : Undisturbed marketSessionId read middle)
    (second : Undisturbed marketSessionId middle later) :
    Undisturbed marketSessionId read later where
  sessions := by
    intro session stored
    obtain ⟨found, foundStored, same, cleared⟩ := first.sessions session stored
    obtain ⟨last, lastStored, lastSame, lastCleared⟩ := second.sessions found foundStored
    exact ⟨last, lastStored, lastSame.trans same, fun before => lastCleared (cleared before)⟩
  orders := by
    intro after order stored own active
    exact second.orders after order (first.orders (second.uncleared after) order stored own active)
      own active

end Undisturbed

/-! ## The book -/

section Book

variable {db : Database} {session : MarketSession} {marketSessionId : UUID}

private theorem toEntry_storable (law : Law db) {order : Order} (stored : order ∈ db.orders.rows) :
    Storable (toEntry order) := by
  have columns := law.columns order stored
  have check := db.orders.checked order stored
  simp only [Models.orders, Bool.and_eq_true, Bool.or_eq_true, decide_eq_true_eq] at check
  obtain ⟨⟨⟨⟨⟨⟨⟨_, window⟩, _⟩, within⟩, buyPriced⟩, sellPriced⟩, minSound⟩, maxSound⟩ := check
  refine ⟨sub_nonneg.mpr within, ?_, window⟩
  show ∃ limit, (if order.side = .buy then order.maxPriceInrPerKwh else order.minPriceInrPerKwh) =
    some limit ∧ _
  by_cases isBuy : order.side = .buy
  · rw [if_pos isBuy]
    obtain ⟨limit, found⟩ := Option.isSome_iff_exists.mp (buyPriced.resolve_left fun other => other isBuy)
    rw [found] at maxSound
    exact ⟨limit, found, of_decide_eq_true maxSound, columns.maxPrice limit found⟩
  · rw [if_neg isBuy]
    have isSell : order.side = .sell := by
      cases side : order.side with
      | buy => exact absurd side isBuy
      | sell => rfl
    obtain ⟨limit, found⟩ :=
      Option.isSome_iff_exists.mp (sellPriced.resolve_left fun other => other isSell)
    rw [found] at minSound
    exact ⟨limit, found, of_decide_eq_true minSound, columns.minPrice limit found⟩

private theorem mem_buys {orders : List Order} {entry : OrderBookEntry} :
    entry ∈ (orderBook session orders).buys ↔
      ∃ order ∈ orders, order.side = .buy ∧ toEntry order = entry := by
  show entry ∈ (orders.map toEntry).filter _ ↔ _
  rw [List.mem_filter, List.mem_map, decide_eq_true_eq]
  constructor
  · rintro ⟨⟨order, member, rfl⟩, side⟩
    exact ⟨order, member, side, rfl⟩
  · rintro ⟨order, member, side, rfl⟩
    exact ⟨⟨order, member, rfl⟩, side⟩

private theorem mem_sells {orders : List Order} {entry : OrderBookEntry} :
    entry ∈ (orderBook session orders).sells ↔
      ∃ order ∈ orders, order.side = .sell ∧ toEntry order = entry := by
  show entry ∈ (orders.map toEntry).filter _ ↔ _
  rw [List.mem_filter, List.mem_map, decide_eq_true_eq]
  constructor
  · rintro ⟨⟨order, member, rfl⟩, side⟩
    exact ⟨order, member, side, rfl⟩
  · rintro ⟨order, member, side, rfl⟩
    exact ⟨⟨order, member, rfl⟩, side⟩

private theorem orderBook_distinct {orders : List Order} (distinct : (orders.map Order.id).Nodup) :
    (orderBook session orders).DistinctIds := by
  have sides : (fun entry : OrderBookEntry => decide (entry.side = .sell)) =
      fun entry => !decide (entry.side = .buy) := by
    funext entry
    cases side : entry.side <;> simp
  have split : ((orderBook session orders).buys ++ (orderBook session orders).sells).Perm
      (orders.map toEntry) := by
    show ((orders.map toEntry).filter _ ++ (orders.map toEntry).filter _).Perm _
    rw [sides]
    exact List.filter_append_perm _ _
  apply (split.map OrderBookEntry.orderId).nodup_iff.mpr
  rw [List.map_map]
  exact distinct

private theorem listActive_distinct :
    ((listActiveForSession db marketSessionId).map Order.id).Nodup := by
  apply ((sortBy_perm _ _).map Order.id).nodup_iff.mpr
  apply List.Nodup.sublist ((List.filter_sublist).map Order.id)
  exact db.orders.nodup_column Order.id fun _ _ same => decide_eq_true same

private theorem storable_of_law (law : Law db) :
    StorableBook (orderBook session (listActiveForSession db marketSessionId)) where
  distinct := orderBook_distinct listActive_distinct
  buys := by
    intro buy member
    obtain ⟨order, listed, side, rfl⟩ := mem_buys.mp member
    exact ⟨side, toEntry_storable law (mem_listActiveForSession.mp listed).1⟩
  sells := by
    intro sell member
    obtain ⟨order, listed, side, rfl⟩ := mem_sells.mp member
    exact ⟨side, toEntry_storable law (mem_listActiveForSession.mp listed).1⟩

end Book

/-! ## What is flushed -/

section Flush

variable {db : Database} {loaded listed : List Order}

private theorem instances_eq (loadedStored : ∀ order ∈ loaded, order ∈ db.orders.rows)
    (listedStored : ∀ order ∈ listed, order ∈ db.orders.rows) : instances loaded listed = listed := by
  have each : ∀ row ∈ listed, (loaded.find? fun order => order.id = row.id).getD row = row := by
    intro row member
    cases found : loaded.find? fun order => order.id = row.id with
    | none => rfl
    | some order =>
        have same : order.id = row.id := by simpa using List.find?_some found
        exact orders_eq (loadedStored order (List.mem_of_find?_eq_some found))
          (listedStored row member) same
  unfold instances
  rw [List.map_congr_left each, List.map_id']

/-- A flush of instances that hold what is stored writes what they have become. -/
theorem flushedRow_eq (listedStored : ∀ order ∈ listed, order ∈ db.orders.rows)
    (change : Order → Order) {row : Order} (stored : row ∈ db.orders.rows) :
    flushedRow (listed.zip (listed.map change)) row =
      if row ∈ listed then orderFlushed row (change row) row else row := by
  have pairs : listed.zip (listed.map change) = listed.map fun order => (order, change order) := by
    conv_lhs => rw [← List.map_id' listed]
    rw [List.map_map, List.zip_map']
    rfl
  unfold flushedRow
  rw [pairs, List.find?_map]
  by_cases member : row ∈ listed
  · rw [if_pos member]
    cases found : listed.find? ((fun order : Order × Order => decide (order.1.id = row.id)) ∘
        fun order => (order, change order)) with
    | none =>
        have missing := List.find?_eq_none.mp found row member
        exact absurd (decide_eq_true rfl) missing
    | some order =>
        have same : order.id = row.id := by simpa using List.find?_some found
        have own := orders_eq (listedStored order (List.mem_of_find?_eq_some found)) stored same
        rw [Option.map_some, own]
  · rw [if_neg member]
    cases found : listed.find? ((fun order : Order × Order => decide (order.1.id = row.id)) ∘
        fun order => (order, change order)) with
    | none => rfl
    | some order =>
        have same : order.id = row.id := by simpa using List.find?_some found
        have orderMember := List.mem_of_find?_eq_some found
        have own := orders_eq (listedStored order orderMember) stored same
        exact absurd (own ▸ orderMember) member

/-- A column that is written only when it differs holds the new value. -/
theorem flushed_column {Value : Type} [DecidableEq Value] {loaded current written : Value}
    (same : written = current) : (if current = loaded then loaded else written) = current := by
  split
  · rename_i unchanged
    exact unchanged.symm
  · exact same

private theorem orderFlushed_filledBy {order : Order} {quantityKwh : ℚ}
    (matched : OnGrid 4 order.matchedKwh)
    (quantity : OnGrid 4 quantityKwh) :
    orderFlushed order (filledBy order quantityKwh) order = filledBy order quantityKwh := by
  have stored : numeric4 (order.matchedKwh + quantityKwh) = order.matchedKwh + quantityKwh :=
    quantize_of_onGrid halfUp (matched.add quantity)
  unfold orderFlushed
  rw [filledBy, Order.mk.injEq]
  refine ⟨rfl, rfl, rfl, rfl, rfl, rfl, rfl, rfl, rfl, rfl, rfl, rfl, ?_, ?_, rfl⟩
  · exact flushed_column rfl
  · exact flushed_column stored

private theorem orderFlushed_self (order : Order) : orderFlushed order order order = order := by
  simp [orderFlushed]

end Flush

/-! ## What is created -/

section Created

variable {result : MatchingResult} {createdAt : Instant} {proposedTrades : List ProposedTrade}
  {rows : List Trade}

/-- Each stored trade comes from a proposed one. -/
theorem created_of_proposed (rowsOf : List.Forall₂ (fun proposed trade => ∃ tradeId,
      trade = tradeRow result proposed tradeId createdAt) proposedTrades rows)
    (onGrid : ∀ proposed ∈ proposedTrades, OnGrid 4 proposed.quantityKwh) {trade : Trade}
    (member : trade ∈ rows.map Trade.asStored) :
    ∃ proposed ∈ proposedTrades, trade.buyOrderId = proposed.buyOrderId ∧
      trade.sellOrderId = proposed.sellOrderId ∧ trade.quantityKwh = proposed.quantityKwh := by
  induction rowsOf with
  | nil => cases member
  | cons named rest inductionHypothesis =>
      obtain ⟨tradeId, rfl⟩ := named
      rw [List.map_cons] at member
      rcases List.mem_cons.mp member with rfl | later
      · exact ⟨_, List.mem_cons_self, rfl, rfl,
          quantize_of_onGrid halfUp (onGrid _ List.mem_cons_self)⟩
      · obtain ⟨proposed, proposedMember, same⟩ := inductionHypothesis
          (fun other otherMember => onGrid other (List.mem_cons_of_mem _ otherMember)) later
        exact ⟨proposed, List.mem_cons_of_mem _ proposedMember, same⟩

/-- The stored trades take from an order what the proposed ones do. -/
theorem tradedKwh_created (rowsOf : List.Forall₂ (fun proposed trade => ∃ tradeId,
      trade = tradeRow result proposed tradeId createdAt) proposedTrades rows)
    (onGrid : ∀ proposed ∈ proposedTrades, OnGrid 4 proposed.quantityKwh)
    (apart : ∀ proposed ∈ proposedTrades, proposed.buyOrderId ≠ proposed.sellOrderId)
    (orderId : UUID) :
    tradedKwh (rows.map Trade.asStored) orderId = takenKwh proposedTrades orderId := by
  induction rowsOf with
  | nil => simp [tradedKwh, tradesOf, takenKwh, boughtKwh, soldKwh]
  | @cons proposed trade proposedRest tradeRest named rest inductionHypothesis =>
      obtain ⟨tradeId, rfl⟩ := named
      have later := inductionHypothesis
        (fun other member => onGrid other (List.mem_cons_of_mem _ member))
        (fun other member => apart other (List.mem_cons_of_mem _ member))
      have quantity : numeric4 proposed.quantityKwh = proposed.quantityKwh :=
        quantize_of_onGrid halfUp (onGrid proposed List.mem_cons_self)
      have different := apart proposed List.mem_cons_self
      have head : tradedKwh [(tradeRow result proposed tradeId createdAt).asStored] orderId =
          takenKwh [proposed] orderId := by
        by_cases isBuy : proposed.buyOrderId = orderId
        · have notSell : ¬ proposed.sellOrderId = orderId :=
            fun isSell => different (isBuy.trans isSell.symm)
          simp [tradedKwh, tradesOf, takenKwh, boughtKwh, soldKwh, tradeRow, Trade.asStored,
            isBuy, notSell, quantity]
        · by_cases isSell : proposed.sellOrderId = orderId <;>
            simp [tradedKwh, tradesOf, takenKwh, boughtKwh, soldKwh, tradeRow, Trade.asStored,
              isBuy, isSell, quantity]
      have split : takenKwh (proposed :: proposedRest) orderId =
          takenKwh [proposed] orderId + takenKwh proposedRest orderId := by
        have parts : proposed :: proposedRest = [proposed] ++ proposedRest := rfl
        rw [parts]
        simp only [takenKwh, boughtKwh, soldKwh, List.filter_append, List.map_append,
          List.sum_append]
        ring
      rw [split, ← head, ← later, ← tradedKwh_append]
      rfl

end Created

/-! ## What the engine proposes -/

/-- The trades an engine proposes for the orders in `loaded`. -/
structure Proposals (loaded : List Order) (proposed : List ProposedTrade) : Prop where
  partners : ∀ trade ∈ proposed, ∃ buy ∈ loaded, ∃ sell ∈ loaded,
    buy.id = trade.buyOrderId ∧ sell.id = trade.sellOrderId ∧ buy.side = .buy ∧ sell.side = .sell
  apart : ∀ trade ∈ proposed, trade.buyOrderId ≠ trade.sellOrderId
  positive : ∀ trade ∈ proposed, 0 < trade.quantityKwh
  onGrid : ∀ trade ∈ proposed, OnGrid 4 trade.quantityKwh
  within : ∀ order ∈ loaded, takenKwh proposed order.id ≤ order.remainingKwh

/-- What the baseline engine proposes for the book of a lawful database. -/
theorem proposals_of_match {read : Database} {session : MarketSession} {marketSessionId : UUID}
    {clearedAt : Instant} {engine : BaselineMatchingEngine} {result : MatchingResult} (law : Law read)
    (returned : engine.matchRequest
      ⟨orderBook session (listActiveForSession read marketSessionId), clearedAt⟩ = .ok result) :
    Proposals (listActiveForSession read marketSessionId) result.trades := by
  let loaded := listActiveForSession read marketSessionId
  have stored : ∀ order ∈ loaded, order ∈ read.orders.rows :=
    fun order member => (mem_listActiveForSession.mp member).1
  obtain ⟨safeResult, safeReturned, safe, within, _⟩ :=
    matchRequest_safe engine ⟨orderBook session loaded, clearedAt⟩ (storable_of_law law)
  have sameResult : safeResult = result := Except.ok.inj (safeReturned.symm.trans returned)
  subst sameResult
  have partners : ∀ trade ∈ safeResult.trades, ∃ buy ∈ loaded, ∃ sell ∈ loaded,
      buy.id = trade.buyOrderId ∧ sell.id = trade.sellOrderId ∧ buy.side = .buy ∧
        sell.side = .sell := by
    intro trade member
    obtain ⟨buy, buyMember, sell, sellMember, safeTrade⟩ := safe trade member
    obtain ⟨buyOrder, buyLoaded, buySide, rfl⟩ := mem_buys.mp buyMember
    obtain ⟨sellOrder, sellLoaded, sellSide, rfl⟩ := mem_sells.mp sellMember
    exact ⟨buyOrder, buyLoaded, sellOrder, sellLoaded, safeTrade.buyOrder.symm,
      safeTrade.sellOrder.symm, buySide, sellSide⟩
  have remaining : ∀ order ∈ loaded, OnGrid 4 (toEntry order).remainingKwh := by
    intro order member
    have columns := law.columns order (stored order member)
    exact columns.energy.sub columns.matched
  refine ⟨partners, ?_, ?_, ?_, ?_⟩
  · intro trade member same
    obtain ⟨buy, buyLoaded, sell, sellLoaded, buyId, sellId, buySide, sellSide⟩ :=
      partners trade member
    have one := orders_eq (stored buy buyLoaded) (stored sell sellLoaded)
      (buyId.trans (same.trans sellId.symm))
    rw [one, sellSide] at buySide
    cases buySide
  · intro trade member
    obtain ⟨buy, _, sell, _, safeTrade⟩ := safe trade member
    exact safeTrade.quantity
  · obtain ⟨other, otherReturned, fills⟩ :=
      matchRequest_refines engine ⟨orderBook session loaded, clearedAt⟩
    have same : other = safeResult := Except.ok.inj (otherReturned.symm.trans returned)
    rw [← same, fills]
    apply trades_closed (OnGrid 4) OnGrid.zero fun _ _ left right => left.sub right
    · intro buy member
      obtain ⟨order, orderMember, _, rfl⟩ := mem_buys.mp member
      exact remaining order orderMember
    · intro sell member
      obtain ⟨order, orderMember, _, rfl⟩ := mem_sells.mp member
      exact remaining order orderMember
  · intro order member
    apply within (toEntry order)
    cases side : order.side with
    | buy => exact List.mem_append_left _ (mem_buys.mpr ⟨order, member, side, rfl⟩)
    | sell => exact List.mem_append_right _ (mem_sells.mpr ⟨order, member, side, rfl⟩)

/-- An order that a proposed trade names has been loaded. -/
theorem Proposals.loaded_of_named {db : Database} {loaded : List Order}
    {proposed : List ProposedTrade} (proposals : Proposals loaded proposed)
    (loadedStored : ∀ order ∈ loaded, order ∈ db.orders.rows) {order : Order}
    (stored : order ∈ db.orders.rows) (named : Named proposed order.id) : order ∈ loaded := by
  obtain ⟨trade, member, isBuy | isSell⟩ := named
  · obtain ⟨buy, buyLoaded, _, _, buyId, _⟩ := proposals.partners trade member
    exact orders_eq (loadedStored buy buyLoaded) stored (buyId.trans isBuy.symm) ▸ buyLoaded
  · obtain ⟨_, _, sell, sellLoaded, _, sellId, _⟩ := proposals.partners trade member
    exact orders_eq (loadedStored sell sellLoaded) stored (sellId.trans isSell.symm) ▸ sellLoaded

/-! ## The commit -/

/-- A clearing whose reads are undisturbed clears what is committed. -/
theorem Cleared.clearing {valid : Database → Prop} {rely : Database → Database → Prop}
    {engine : BaselineMatchingEngine} {marketSessionId : UUID} {trades : List Trade}
    {db next : Database} (cleared : Cleared valid rely engine marketSessionId trades db next)
    (law : Law db) (lawful : ∀ read, valid read → Law read)
    (relied : ∀ read later, rely read later → Undisturbed marketSessionId read later)
    (uncleared : Uncleared db marketSessionId) : Clearing marketSessionId trades db next := by
  obtain ⟨session, read, bookRead, listRead, clearedAt, createdAt, result, proposedTrades, filled,
    sessionRead, _, bookValid, bookRely, _, listRely, readRely, returned, rowsOf, tradesEq, filledEq,
    orders⟩ := cleared.read
  let loaded := listActiveForSession bookRead marketSessionId
  let listed := listActiveForSession listRead marketSessionId
  have proposals : Proposals loaded result.trades := proposals_of_match (lawful bookRead bookValid)
    returned
  have loadedStored : ∀ order ∈ loaded, order ∈ db.orders.rows := by
    intro order member
    obtain ⟨stored, own, active⟩ := mem_listActiveForSession.mp member
    exact (relied bookRead db bookRely).orders uncleared order stored own active
  have listedStored : ∀ order ∈ listed, order ∈ db.orders.rows := by
    intro order member
    obtain ⟨stored, own, active⟩ := mem_listActiveForSession.mp member
    exact (relied listRead db listRely).orders uncleared order stored own active
  have loadedListed : ∀ order ∈ loaded, order ∈ listed := by
    intro order member
    obtain ⟨stored, own, active⟩ := mem_listActiveForSession.mp member
    have listUncleared := (relied listRead db listRely).uncleared uncleared
    exact mem_listActiveForSession.mpr
      ⟨(relied bookRead listRead readRely).orders listUncleared order stored own active, own, active⟩
  have traded : ∀ orderId, tradedKwh trades orderId = takenKwh result.trades orderId := by
    intro orderId
    rw [tradesEq]
    exact tradedKwh_created rowsOf proposals.onGrid proposals.apart orderId
  have named_iff : ∀ orderId, 0 < tradedKwh trades orderId ↔ Named result.trades orderId := by
    intro orderId
    rw [traded]
    refine ⟨?_, takenKwh_pos proposals.positive⟩
    intro positive
    by_contra unnamed
    exact absurd (takenKwh_of_not_named unnamed) positive.ne'
  have created : ∀ trade ∈ trades, ∃ proposed ∈ result.trades,
      trade.buyOrderId = proposed.buyOrderId ∧ trade.sellOrderId = proposed.sellOrderId ∧
        trade.quantityKwh = proposed.quantityKwh := by
    intro trade member
    rw [tradesEq] at member
    exact created_of_proposed rowsOf proposals.onGrid member
  have quantities : ∀ trade ∈ trades, 0 < trade.quantityKwh ∧ OnGrid 4 trade.quantityKwh := by
    intro trade member
    obtain ⟨proposed, proposedMember, _, _, quantity⟩ := created trade member
    rw [quantity]
    exact ⟨proposals.positive proposed proposedMember, proposals.onGrid proposed proposedMember⟩
  refine ⟨?_, uncleared, ?_, quantities, ?_, ?_, cleared.trades, cleared.sessions, cleared.rest⟩
  · obtain ⟨found, foundStored, same, _⟩ :=
      (relied read db sessionRead.rely).sessions session sessionRead.stored
    exact ⟨found, foundStored, same.trans sessionRead.named⟩
  · intro trade member
    obtain ⟨proposed, proposedMember, buyEq, sellEq, _⟩ := created trade member
    obtain ⟨buy, buyLoaded, sell, sellLoaded, buyId, sellId, buySide, sellSide⟩ :=
      proposals.partners proposed proposedMember
    obtain ⟨_, buyOwn, buyActive⟩ := mem_listActiveForSession.mp buyLoaded
    obtain ⟨_, sellOwn, sellActive⟩ := mem_listActiveForSession.mp sellLoaded
    exact ⟨buy, sell,
      ⟨loadedStored buy buyLoaded, loadedStored sell sellLoaded, buyId.trans buyEq.symm,
        sellId.trans sellEq.symm, buySide, sellSide, buyOwn.trans sellOwn.symm⟩,
      buyOwn, buyActive, sellActive⟩
  · intro order stored positive
    rw [traded]
    apply proposals.within order
    exact proposals.loaded_of_named loadedStored stored ((named_iff order.id).mp positive)
  · rw [orders]
    apply List.map_congr_left
    intro order stored
    have sameInstances : instances loaded listed = listed := instances_eq loadedStored listedStored
    have filledRows : filled = listed.map (fillAll result.trades) := by
      apply foldlM_fillTrade
      rw [← sameInstances]
      exact filledEq
    show flushedRow ((instances loaded listed).zip filled) order = _
    rw [sameInstances, filledRows, flushedRow_eq listedStored _ stored]
    by_cases named : Named result.trades order.id
    · have listedOrder := loadedListed order (proposals.loaded_of_named loadedStored stored named)
      rw [if_pos listedOrder, (fillAll_eq _ order).2 named, ← traded, filledWith,
        if_pos ((named_iff order.id).mpr named)]
      apply orderFlushed_filledBy (law.columns order stored).matched
      exact tradedKwh_onGrid fun trade member => (quantities trade member).2
    · rw [(fillAll_eq _ order).1 named, orderFlushed_self, ite_self, filledWith,
        if_neg fun positive => named ((named_iff order.id).mp positive)]

end UrjaSetu.Services.MarketService
