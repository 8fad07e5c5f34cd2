import UrjaSetu.Services.WorkspaceService.GrossAmount
import UrjaSetu.Services.WorkspaceService.MarketLedger

/-!
From an order to the money: what every settlement on a run of the workspace pays
for, and who for whom.

Owns: that each settled trade is paid once, for energy that was allocated to it,
at a price within the limits of both its orders.
-/

namespace UrjaSetu.Services.WorkspaceService

open UrjaSetu.Domain UrjaSetu.Domain.Interfaces UrjaSetu.Db UrjaSetu.Db.Models UrjaSetu.Library
open UrjaSetu.Library.Rounding UrjaSetu.Library.DecimalContext

/-! ## The law -/

/-- A settlement pays for what was allocated to its trade, between the users of
its orders, at the price that was stored with it. -/
structure Paid (db : Database) (settlement : Settlement) (trade : Trade) (buy sell : Order)
    (price : PriceComponents) : Prop where
  stored : trade ∈ db.trades.rows
  ofTrade : trade.id = settlement.tradeId
  settled : trade.status = .settled
  orders : TradeOrders db trade buy sell
  priceStored : price ∈ db.prices.rows
  priceOfTrade : price.tradeId = trade.id
  within : PriceWithin buy sell price
  buyer : settlement.buyerUserId = buy.userId
  seller : settlement.sellerUserId = sell.userId
  allocated : ∃ allocation ∈ db.allocations.rows, allocation.tradeId = trade.id ∧
    allocation.energyKwh = settlement.settledKwh
  nonneg : 0 ≤ settlement.settledKwh
  delivered : settlement.settledKwh ≤ trade.quantityKwh
  gross : settlement.grossAmountInr = grossInr settlement.settledKwh price.finalPrice
  credited : settlement.sellerCreditInr = settlement.grossAmountInr
  debited : settlement.buyerDebitInr = settlement.grossAmountInr

/-- Every settlement is paid, and every settled trade has one. -/
structure Settlements (db : Database) : Prop where
  paid : ∀ settlement ∈ db.settlements.rows, ∃ trade buy sell price,
    Paid db settlement trade buy sell price
  settled : ∀ trade ∈ db.trades.rows, trade.status = .settled →
    ∃ settlement ∈ db.settlements.rows, settlement.tradeId = trade.id

/-- The limits of both orders bound the amount, rounded as it is. -/
theorem Paid.gross_within {db : Database} {settlement : Settlement} {trade : Trade}
    {buy sell : Order} {price : PriceComponents} (paid : Paid db settlement trade buy sell price) :
    ∃ floor ceiling, sell.minPriceInrPerKwh = some floor ∧ buy.maxPriceInrPerKwh = some ceiling ∧
      grossInr settlement.settledKwh floor ≤ settlement.sellerCreditInr ∧
        settlement.buyerDebitInr ≤ grossInr settlement.settledKwh ceiling := by
  obtain ⟨floor, ceiling, sellFloor, buyCeiling, above, below⟩ := paid.within
  refine ⟨floor, ceiling, sellFloor, buyCeiling, ?_, ?_⟩
  · rw [paid.credited, paid.gross]
    exact quantize_mono halfEven
      (contextRound_mono (mul_le_mul_of_nonneg_left above paid.nonneg))
  · rw [paid.debited, paid.gross]
    exact quantize_mono halfEven
      (contextRound_mono (mul_le_mul_of_nonneg_left below paid.nonneg))

/-! ## Moves keep it -/

section Moves

variable {engines : Engines} {db next : Database} {settlement : Settlement} {trade : Trade}
  {buy sell : Order} {price : PriceComponents}

private theorem Paid.kept (paid : Paid db settlement trade buy sell price) (grown : Grown db next)
    (stored : trade ∈ next.trades.rows) (prices : db.prices.rows ⊆ next.prices.rows)
    (allocations : db.allocations.rows ⊆ next.allocations.rows) :
    ∃ trade buy sell price, Paid next settlement trade buy sell price := by
  obtain ⟨laterBuy, buyStored, sameBuy⟩ := grown.orders buy paid.orders.buyStored
  obtain ⟨laterSell, sellStored, sameSell⟩ := grown.orders sell paid.orders.sellStored
  have buyUser : laterBuy.userId = buy.userId := (congrArg Order.userId sameBuy :)
  have sellUser : laterSell.userId = sell.userId := (congrArg Order.userId sameSell :)
  obtain ⟨allocation, allocationStored, isAllocation⟩ := paid.allocated
  exact ⟨trade, laterBuy, laterSell, price,
    { stored := stored
      ofTrade := paid.ofTrade
      settled := paid.settled
      orders := paid.orders.grown buyStored sellStored sameBuy sameSell
      priceStored := prices paid.priceStored
      priceOfTrade := paid.priceOfTrade
      within := paid.within.grown sameBuy sameSell
      buyer := paid.buyer.trans buyUser.symm
      seller := paid.seller.trans sellUser.symm
      allocated := ⟨allocation, allocations allocationStored, isAllocation⟩
      nonneg := paid.nonneg
      delivered := paid.delivered
      gross := paid.gross
      credited := paid.credited
      debited := paid.debited }⟩

/-- A move that settles nothing keeps the law. -/
theorem Settlements.kept (settlements : Settlements db) (grown : Grown db next)
    (trades : db.trades.rows ⊆ next.trades.rows)
    (unsettled : ∀ trade ∈ next.trades.rows, trade.status = .settled → trade ∈ db.trades.rows)
    (prices : db.prices.rows ⊆ next.prices.rows) (sameSettlements : next.settlements = db.settlements)
    (sameAllocations : next.allocations = db.allocations) : Settlements next := by
  constructor
  · rw [sameSettlements]
    intro settlement stored
    obtain ⟨trade, buy, sell, price, paid⟩ := settlements.paid settlement stored
    apply paid.kept grown (trades paid.stored) prices
    rw [sameAllocations]
    exact List.Subset.refl _
  · rw [sameSettlements]
    exact fun trade stored isSettled =>
      settlements.settled trade (unsettled trade stored isSettled) isSettled

private theorem Delivery.Recorded.grown {delivery : Delivery}
    (recorded : delivery.Recorded engines db next) : Grown db next := by
  rw [recorded.added.frame]
  exact ⟨fun order stored => ⟨order, stored, rfl⟩, fun _ stored => stored⟩

/-- A trade that was settled is not delivered again. -/
theorem Delivery.Recorded.settled_kept {delivery : Delivery}
    (recorded : delivery.Recorded engines db next) {trade : Trade} (stored : trade ∈ db.trades.rows)
    (isSettled : trade.status = .settled) : trade ∈ next.trades.rows := by
  have other : trade.id ≠ delivery.trade.id := by
    intro same
    have due := recorded.read.due
    rw [← trade_eq_of_id stored recorded.read.stored same] at due
    simp [isDue, isSettled] at due
  have rows : next.trades.rows = db.trades.rows.map (deliveredRow delivery.trade.id) :=
    recorded.added.trades
  rw [rows]
  refine List.mem_map.mpr ⟨trade, stored, ?_⟩
  unfold deliveredRow
  rw [if_neg other]

/-- What a delivery pays. -/
theorem Delivery.Recorded.paid {delivery : Delivery} (recorded : delivery.Recorded engines db next)
    (ledger : Ledger db) : ∃ trade buy sell price,
      Paid next delivery.settlement.asStored trade buy sell price := by
  obtain ⟨buy, sell, orders, evidence⟩ := ledger.traded delivery.trade recorded.read.stored
  have due := recorded.read.due
  simp only [isDue, Bool.and_eq_true, decide_eq_true_eq] at due
  have standing : stands delivery.trade = true := by simp [stands, due.1]
  obtain ⟨priceStored, isIts⟩ := Table.find?_mem recorded.read.price
  obtain ⟨buyFound, buyId⟩ := orderOf_mem recorded.read.buy
  obtain ⟨sellFound, sellId⟩ := orderOf_mem recorded.read.sell
  have isBuy : delivery.buy = buy :=
    Table.eq_of_column Order.id (fun _ _ equal => decide_eq_true equal) buyFound orders.buyStored
      (buyId.trans orders.buyId.symm)
  have isSell : delivery.sell = sell :=
    Table.eq_of_column Order.id (fun _ _ equal => decide_eq_true equal) sellFound orders.sellStored
      (sellId.trans orders.sellId.symm)
  have kwh := recorded.read.kwh_le
  have priceOfTrade := of_decide_eq_true isIts
  have samePrices : next.prices = db.prices := by rw [recorded.added.frame]
  have sameOrders : next.orders = db.orders := by rw [recorded.added.frame]
  have rows : next.trades.rows = db.trades.rows.map (deliveredRow delivery.trade.id) :=
    recorded.added.trades
  refine ⟨{ delivery.trade with status := .settled }, buy, sell, delivery.price, ?_⟩
  refine
    { stored := ?_
      ofTrade := rfl
      settled := rfl
      orders := ⟨sameOrders ▸ orders.buyStored, sameOrders ▸ orders.sellStored, orders.buyId,
        orders.sellId, orders.buySide, orders.sellSide, orders.users, orders.buyStart,
        orders.sellStart⟩
      priceStored := samePrices ▸ priceStored
      priceOfTrade := priceOfTrade
      within := (evidence standing).price delivery.price priceStored priceOfTrade
      buyer := congrArg Order.userId isBuy
      seller := congrArg Order.userId isSell
      allocated := ⟨delivery.allocation, ?_, rfl, (asStored_settledKwh delivery).symm⟩
      nonneg := (asStored_settledKwh delivery).symm ▸ kwh.1
      delivered := (asStored_settledKwh delivery).symm ▸ kwh.2.1
      gross := ?_
      credited := rfl
      debited := rfl }
  · rw [rows]
    refine List.mem_map.mpr ⟨delivery.trade, recorded.read.stored, ?_⟩
    unfold deliveredRow
    rw [if_pos rfl]
  · rw [recorded.added.allocations]
    exact List.mem_append_right _ (List.mem_singleton.mpr rfl)
  · rw [asStored_settledKwh]
    exact asStored_grossAmountInr delivery

private theorem Settlements.delivered {delivery : Delivery} (settlements : Settlements db)
    (ledger : Ledger db) (recorded : delivery.Recorded engines db next) : Settlements next := by
  have rows : next.trades.rows = db.trades.rows.map (deliveredRow delivery.trade.id) :=
    recorded.added.trades
  constructor
  · rw [recorded.added.settlements]
    intro settlement stored
    rcases List.mem_append.mp stored with earlier | isNew
    · obtain ⟨trade, buy, sell, price, paid⟩ := settlements.paid settlement earlier
      apply paid.kept recorded.grown (recorded.settled_kept paid.stored paid.settled)
      · rw [recorded.added.frame]
        exact List.Subset.refl _
      · rw [recorded.added.allocations]
        exact List.subset_append_left _ _
    · rw [List.mem_singleton.mp isNew]
      exact recorded.paid ledger
  · rw [rows, recorded.added.settlements]
    intro trade stored isSettled
    obtain ⟨row, rowStored, rfl⟩ := List.mem_map.mp stored
    unfold deliveredRow at isSettled ⊢
    split at isSettled
    · rename_i isIt
      rw [if_pos isIt]
      exact ⟨delivery.settlement.asStored, List.mem_append_right _ (List.mem_singleton.mpr rfl),
        isIt.symm⟩
    · rename_i other
      rw [if_neg other]
      obtain ⟨settlement, settlementStored, isIts⟩ := settlements.settled row rowStored isSettled
      exact ⟨settlement, List.mem_append_left _ settlementStored, isIts⟩

private theorem Settlements.moved (settlements : Settlements db) (ledger : Ledger db)
    (move : Move engines db next) : Settlements next := by
  cases move with
  | placed order placed =>
      have grown := placed.grown
      rw [placed.frame] at grown ⊢
      exact settlements.kept grown (List.Subset.refl _) (fun _ stored _ => stored)
        (List.Subset.refl _) rfl rfl
  | withdrawn order withdrawn =>
      have grown := withdrawn.grown
      rw [withdrawn.frame] at grown ⊢
      exact settlements.kept grown (List.Subset.refl _) (fun _ stored _ => stored)
        (List.Subset.refl _) rfl rfl
  | decided decision recorded =>
      apply settlements.kept recorded.grown
      · rw [recorded.trades]
        exact List.subset_append_left _ _
      · rw [recorded.trades]
        intro trade stored isSettled
        rcases List.mem_append.mp stored with earlier | isNew
        · exact earlier
        · rw [List.mem_singleton.mp isNew] at isSettled
          have unsettled : decision.trade.asStored.status ≠ .settled := by
            unfold Trade.asStored Decision.trade tradeRow
            dsimp only
            split
            · exact TradeStatus.noConfusion
            · exact TradeStatus.noConfusion
          exact absurd isSettled unsettled
      · rw [recorded.prices]
        exact List.subset_append_left _ _
      · rw [recorded.frame]
      · rw [recorded.frame]
  | answered action answered =>
      rw [answered.frame]
      exact settlements.kept ⟨fun order stored => ⟨order, stored, rfl⟩, fun _ stored => stored⟩
        (List.Subset.refl _) (fun _ stored _ => stored) (List.Subset.refl _) rfl rfl
  | delivered delivery recorded => exact settlements.delivered ledger recorded
  | beside beside =>
      apply settlements.kept beside.grown
      · rw [beside.sameTrades]
        exact List.Subset.refl _
      · rw [beside.sameTrades]
        exact fun _ stored _ => stored
      · rw [beside.prices]
        exact List.Subset.refl _
      · exact beside.settlements
      · exact beside.allocations

/-- Every move is a step of the delivery evidence. -/
theorem Move.step (move : Move engines db next) : Step engines db next := by
  cases move with
  | placed order placed =>
      apply Step.aside
      rw [placed.frame]
      exact Aside.of_same rfl rfl rfl rfl rfl rfl rfl
  | withdrawn order withdrawn =>
      apply Step.aside
      rw [withdrawn.frame]
      exact Aside.of_same rfl rfl rfl rfl rfl rfl rfl
  | decided decision recorded =>
      have rows := recorded.trades
      apply Step.aside
      rw [recorded.frame]
      refine { Aside.refl db with trades := ?_ }
      intro trade stored
      refine ⟨trade, ?_, rfl, rfl⟩
      show trade ∈ next.trades.rows
      rw [rows]
      exact List.mem_append_left _ stored
  | answered action answered =>
      apply Step.aside
      rw [answered.frame]
      exact Aside.of_same rfl rfl rfl rfl rfl rfl rfl
  | delivered delivery recorded => exact Step.delivery delivery recorded
  | beside beside => exact Step.aside beside.toAside

end Moves

/-! ## Runs -/

/-- In every state of every run each settlement pays for energy that was
allocated to its trade, at a price within both orders' limits; each settled trade
is paid exactly once, and what is allocated of a reading was measured. -/
theorem marketRun_settlements (engines : Engines) (start db : Database)
    (unopened : Unopened start) (undelivered : Undelivered start)
    (run : MarketRun engines start db) :
    Conserved db ∧
      (∀ settlement ∈ db.settlements.rows, ∃ trade buy sell price,
        Paid db settlement trade buy sell price ∧ ∃ floor ceiling,
          sell.minPriceInrPerKwh = some floor ∧ buy.maxPriceInrPerKwh = some ceiling ∧
            grossInr settlement.settledKwh floor ≤ settlement.sellerCreditInr ∧
              settlement.buyerDebitInr ≤ grossInr settlement.settledKwh ceiling) ∧
      ∀ trade ∈ db.trades.rows, trade.status = .settled →
        ∃! settlement, settlement ∈ db.settlements.rows ∧ settlement.tradeId = trade.id := by
  have initially : Ledger start ∧ Settlements start ∧ Accounted start := by
    refine ⟨unopened.ledger, ⟨?_, ?_⟩, undelivered.accounted⟩
    · simp [undelivered.settlements]
    · simp [unopened.trades]
  obtain ⟨_, settlements, accounted⟩ : Ledger db ∧ Settlements db ∧ Accounted db := by
    apply run.keeps initially
    · exact fun _ all => all.1.onGrid
    · intro state next all move
      refine ⟨all.1.moved move, all.2.1.moved all.1 move, ?_⟩
      exact all.2.2.progress (Relation.ReflTransGen.single move.step)
  refine ⟨accounted.toConserved, ?_, ?_⟩
  · intro settlement stored
    obtain ⟨trade, buy, sell, price, paid⟩ := settlements.paid settlement stored
    exact ⟨trade, buy, sell, price, paid, paid.gross_within⟩
  intro trade stored isSettled
  obtain ⟨settlement, settlementStored, isIts⟩ := settlements.settled trade stored isSettled
  refine ⟨settlement, ⟨settlementStored, isIts⟩, ?_⟩
  rintro other ⟨otherStored, otherIts⟩
  exact List.inj_on_of_nodup_map accounted.settlements otherStored settlementStored
    (otherIts.trans isIts.symm)

open Policies.CommunityEnergy

/-- The clock moves on. -/
def atClock (clock : Instant) (db : Database) : Database :=
  { db with simulation := { db.simulation with clock } }

private theorem atClock_beside (clock : Instant) (db : Database) : Beside db (atClock clock db) :=
  beside_of_same rfl

/-- The quarter of an hour is over. -/
def delivered : Database := atClock (DAY + INTERVAL) taken

/-- And it is settled. -/
def settledMorning : Database := served (.deliver .reconcileDue) 3000 delivered

private theorem settledMorning_run : MarketRun textEngines morningTwin settledMorning :=
  (MarketRun.elsewhere taken_run (atClock_beside _ _)).served (.deliver .reconcileDue) 3000

theorem marketRun_settlements_sample :
    settledMorning.trades.rows.map Trade.status = [.settled] ∧
    Conserved settledMorning ∧
      (∀ settlement ∈ settledMorning.settlements.rows, ∃ trade buy sell price,
        Paid settledMorning settlement trade buy sell price ∧ ∃ floor ceiling,
          sell.minPriceInrPerKwh = some floor ∧ buy.maxPriceInrPerKwh = some ceiling ∧
            grossInr settlement.settledKwh floor ≤ settlement.sellerCreditInr ∧
              settlement.buyerDebitInr ≤ grossInr settlement.settledKwh ceiling) ∧
      ∀ trade ∈ settledMorning.trades.rows, trade.status = .settled →
        ∃! settlement, settlement ∈ settledMorning.settlements.rows ∧
          settlement.tradeId = trade.id := by
  refine ⟨by decide +kernel, ?_⟩
  apply marketRun_settlements textEngines morningTwin settledMorning morningTwin_unopened
  · exact ⟨by decide +kernel, rfl, rfl, rfl⟩
  · exact settledMorning_run

end UrjaSetu.Services.WorkspaceService
