import UrjaSetu.Services.WorkspaceService.ClearingEffects

/-!
What `accept_offer` does to the database.

Owns: the two ways a request is answered, that a fresh one is answered by a
trade of exactly the requested quantity, and that a repeated one changes nothing.
-/

namespace UrjaSetu.Services.WorkspaceService

open UrjaSetu.Domain UrjaSetu.Domain.Interfaces UrjaSetu.Db UrjaSetu.Db.Models UrjaSetu.Library
open UrjaSetu.Domain.Policies.MarketMatching UrjaSetu.Domain.Policies.MatchingGuarantees

/-- The request was answered before, with this trade. -/
structure Retried (action : MarketplaceAction) (trade : Trade) (db : Database) : Prop where
  actionStored : action ∈ db.actions.rows
  tradeStored : trade ∈ db.trades.rows
  same : trade.id = action.tradeId

/-- The request is answered now: it was not before, and the offer was matched
with an order of its user for exactly the quantity. -/
structure Taken (engines : Engines) (offerId : UUID) (quantity : ℚ) (action : MarketplaceAction)
    (trade : Trade) (db next : Database) : Prop where
  unanswered : ∀ earlier ∈ db.actions.rows,
    ¬ (earlier.userId = action.userId ∧ earlier.requestId = action.requestId)
  answered : ∃ matched, Moves engines db matched ∧ Answered engines action matched next
  same : trade.id = action.tradeId
  stored : trade.asStored ∈ next.trades.rows
  committed : trade.status = .committed
  exact : trade.quantityKwh = quantity
  offer : trade.buyOrderId = offerId ∨ trade.sellOrderId = offerId

/-- An order of `user` that takes the offer. -/
structure Taker (user : User) (offer : Order) (quantity : ℚ) (own : Order) (db : Database) :
    Prop where
  stored : own ∈ db.orders.rows
  owner : own.userId = user.id
  side : own.side = oppositeSide offer.side
  start : own.deliveryStart = offer.deliveryStart
  enough : quantity ≤ own.remainingKwh

private theorem oppositeSide_ne (side : OrderSide) : oppositeSide side ≠ side := by
  cases side with
  | buy => exact OrderSide.noConfusion
  | sell => exact OrderSide.noConfusion

private theorem refreshed_of_stored {orders : List Order} {db : Database}
    (stored : ∀ order ∈ orders, order ∈ db.orders.rows) : refreshed orders db = orders := by
  have found : ∀ order ∈ orders, orderOf order.id db = some order :=
    fun order member => orderOf_eq_some (stored order member)
  unfold refreshed
  rw [List.filterMap_congr found, List.filterMap_some]

section Pair

variable {clock : Instant} {own offer : Order} {db : Database}

private theorem openOrders_named {order : Order} (ownStored : own ∈ db.orders.rows)
    (offerStored : offer ∈ db.orders.rows)
    (member : order ∈ openOrders clock (some [own.id, offer.id]) db) :
    order = own ∨ order = offer := by
  have stored := openOrders_stored member
  have isNamed : order.id ∈ [own.id, offer.id] := of_decide_eq_true (List.mem_filter.mp member).2
  rcases List.mem_cons.mp isNamed with isOwn | isOffer
  · exact Or.inl (Table.eq_of_column Order.id (fun _ _ equal => decide_eq_true equal) stored
      ownStored isOwn)
  · exact Or.inr (Table.eq_of_column Order.id (fun _ _ equal => decide_eq_true equal) stored
      offerStored (List.mem_singleton.mp isOffer))

/-- A trade of the clearing of an offer with the order that takes it is of the
two, and of exactly the quantity. -/
theorem issued_exact {user : User} {quantity : ℚ} {trade : Trade} {later : Database}
    (taker : Taker user offer quantity own db) (offerStored : offer ∈ db.orders.rows)
    (offerEnough : quantity ≤ offer.remainingKwh) (onGrid : OnGridOrders db)
    (capOnGrid : Rounding.OnGrid 4 quantity)
    (issued : Issued (clearingBook (some quantity) offer.deliveryStart
      (slotOrders (openOrders clock (some [own.id, offer.id]) db) offer.deliveryStart db)) trade
        later) :
    trade.quantityKwh = quantity ∧ (trade.buyOrderId = offer.id ∨ trade.sellOrderId = offer.id) := by
  obtain ⟨_, proposal, proposed, buyId, sellId, sameQuantity⟩ := issued
  have two : ∀ order ∈ slotOrders (openOrders clock (some [own.id, offer.id]) db)
      offer.deliveryStart db, order = own ∨ order = offer := by
    intro order member
    have refreshedMember := (List.mem_filter.mp member).1
    rw [refreshed_of_stored fun order => openOrders_stored] at refreshedMember
    exact openOrders_named taker.stored offerStored refreshedMember
  have sides : own.side ≠ offer.side := by
    rw [taker.side]
    exact oppositeSide_ne offer.side
  have groupOnGrid : ∀ order ∈ slotOrders (openOrders clock (some [own.id, offer.id]) db)
      offer.deliveryStart db, OnQuantityGrid order := by
    intro order member
    rcases two order member with rfl | rfl
    · exact onGrid _ taker.stored
    · exact onGrid _ offerStored
  constructor
  · rw [sameQuantity]
    refine quantity_of_pair ?_ ?_ ?_ proposed
    · unfold slotOrders
      rw [refreshed_of_stored fun order => openOrders_stored]
      have ids : (db.orders.rows.map Order.id).Nodup :=
        Table.nodup_column Order.id fun _ _ equal => decide_eq_true equal
      have among : ((openOrders clock (some [own.id, offer.id]) db).filter fun order =>
          order.deliveryStart = offer.deliveryStart).Sublist db.orders.rows :=
        List.filter_sublist.trans (List.filter_sublist.trans List.filter_sublist)
      exact ids.sublist (among.map Order.id)
    · intro order member
      rcases two order member with rfl | rfl
      · exact taker.enough
      · exact offerEnough
    · intro left leftMember right rightMember sameSide
      rcases two left leftMember with rfl | rfl
      · rcases two right rightMember with rfl | rfl
        · rfl
        · exact absurd sameSide sides
      · rcases two right rightMember with rfl | rfl
        · exact absurd sameSide.symm sides
        · rfl
  · obtain ⟨buy, buyMember, isBuy, buySide⟩ := (proposable_of_trade groupOnGrid
      (fun _ same => Option.some.inj same ▸ capOnGrid) proposed).buy
    obtain ⟨sell, sellMember, isSell, sellSide⟩ := (proposable_of_trade groupOnGrid
      (fun _ same => Option.some.inj same ▸ capOnGrid) proposed).sell
    rw [buyId, sellId, ← isBuy, ← isSell]
    rcases two buy buyMember with rfl | rfl
    · rcases two sell sellMember with rfl | rfl
      · rw [buySide] at sellSide
        cases sellSide
      · exact Or.inr rfl
    · exact Or.inl rfl

end Pair

/-! ## The operation -/

section Operation

variable {published : Database} {unit : Session} {engines : Engines} {user : User} {offer : Order}
  {quantity : QuantityInput} {price : PriceInput} {ownOrderId : Option UUID}

private theorem acceptingOrder_ensures (between : Between published unit)
    (offerStored : offer ∈ unit.working.orders.rows) (onGrid : OnGridOrders unit.working) :
    Returns published (acceptingOrder engines user offer quantity price ownOrderId) unit
      fun own after => Between published after ∧ Moves engines unit.working after.working ∧
        OnGridOrders after.working ∧ offer ∈ after.working.orders.rows ∧
          Taker user offer quantity.toRat own after.working := by
  unfold acceptingOrder
  split
  · rename_i ownOrderId
    rw [returns_bind, returns_read, returns_bind]
    apply between.ensures_orHttp
    intro own found
    obtain ⟨stored, isOwner⟩ := Option.filter_eq_some_iff.mp found
    rw [returns_bind]
    apply between.ensures_require
    intro suits
    simp only [Bool.and_eq_true, decide_eq_true_eq] at suits
    obtain ⟨⟨⟨_, side⟩, start⟩, enough⟩ := suits
    exact returns_pure.mpr ⟨between, Relation.ReflTransGen.refl, onGrid, offerStored,
      (orderOf_mem stored).1, of_decide_eq_true isOwner, side, start, enough⟩
  · apply (placeOrder_ensures between).mono
    rintro own after ⟨ended, ⟨owner, side, start, energy⟩, placed, isPlaced, same⟩
    have beside : Beside placed (bumped placed) := beside_of_same rfl
    have rows : after.working.orders.rows = unit.working.orders.rows ++ [own] := by
      rw [same]
      exact isPlaced.orders
    refine ⟨ended.between, ?_, ?_, ?_, ?_, owner, side, start, ?_⟩
    · rw [same]
      exact (Relation.ReflTransGen.single (.placed own isPlaced)).tail (.beside beside)
    · intro order member
      rw [rows] at member
      rcases List.mem_append.mp member with stored | isNew
      · exact onGrid order stored
      · rw [List.mem_singleton.mp isNew]
        exact isPlaced.onGrid
    · rw [rows]
      exact List.mem_append_left _ offerStored
    · rw [rows]
      exact List.mem_append_right _ (List.mem_singleton.mpr rfl)
    · rw [Order.remainingKwh, isPlaced.unmatched, sub_zero, energy]

theorem acceptOffer_ensures {offerId requestId : UUID} (between : Between published unit)
    (onGrid : OnGridOrders unit.working) :
    Returns published (acceptOffer engines user offerId quantity price requestId ownOrderId) unit
      fun trade after =>
        (after.committed = published ∧ Retried ⟨user.id, requestId,
            bodyHashOf engines offerId quantity price ownOrderId, trade.id⟩ trade unit.working) ∨
          after.committed = after.working ∧ Taken engines offerId quantity.toRat ⟨user.id, requestId,
            bodyHashOf engines offerId quantity price ownOrderId, trade.id⟩ trade unit.working
              after.working := by
  unfold acceptOffer
  rw [state, returns_bind, returns_read, returns_bind, returns_read]
  split
  · rename_i previous found
    obtain ⟨previousStored, isPrevious⟩ := Table.find?_mem found
    simp only [Bool.and_eq_true, decide_eq_true_eq] at isPrevious
    unfold repeated
    rw [returns_bind]
    apply between.ensures_require
    intro sameBody
    rw [returns_bind, returns_read]
    split
    · rename_i trade tradeFound
      obtain ⟨tradeStored, isTrade⟩ := Table.find?_mem tradeFound
      have sameId := of_decide_eq_true isTrade
      rw [returns_pure]
      refine Or.inl ⟨between.unpublished, ?_, tradeStored, rfl⟩
      have isAction : previous = ⟨user.id, requestId,
          bodyHashOf engines offerId quantity price ownOrderId, trade.id⟩ := by
        rw [sameId, ← isPrevious.1, ← isPrevious.2]
        rw [show bodyHashOf engines offerId quantity price ownOrderId = previous.bodyHash from
          (of_decide_eq_true sameBody).symm]
      rw [← isAction]
      exact previousStored
    · exact returns_raise.mpr between.unpublished
  · rename_i absent
    rw [returns_bind, returns_read, returns_bind]
    apply between.ensures_orHttp
    intro offer found
    obtain ⟨offerFound, isOffered⟩ := Option.filter_eq_some_iff.mp found
    obtain ⟨offerStored, isOffer⟩ := orderOf_mem offerFound
    rw [returns_bind]
    apply between.ensures_require
    intro _
    rw [returns_bind]
    apply between.ensures_require
    intro offerEnough
    rw [returns_bind]
    apply (acceptingOrder_ensures between offerStored onGrid).mono
    rintro own prepared ⟨preparedBetween, moves, preparedOnGrid, offerKept, taker⟩
    rw [returns_bind]
    have single : ∀ order ∈ openOrders prepared.working.simulation.clock (some [own.id, offer.id])
        prepared.working, order.deliveryStart = offer.deliveryStart := by
      intro order member
      rcases openOrders_named taker.stored offerKept member with rfl | rfl
      · exact taker.start
      · rfl
    have capOnGrid : ∀ cap, some quantity.toRat = some cap → Rounding.OnGrid 4 cap :=
      fun _ same => Option.some.inj same ▸ quantity.onGrid
    apply (clearSingle_ensures preparedBetween preparedOnGrid capOnGrid single).mono
    rintro trades after ⟨ended, cleared, isCleared, same, issued⟩
    rw [returns_bind]
    apply ended.between.ensures_orHttp
    intro trade isFirst
    obtain ⟨first, isCommitted⟩ := Option.filter_eq_some_iff.mp isFirst
    have issuedTrade := issued trade (List.mem_of_head? first)
    obtain ⟨exact_, ofOffer⟩ := issued_exact taker offerKept (of_decide_eq_true offerEnough)
      preparedOnGrid quantity.onGrid issuedTrade
    rw [returns_bind]
    apply ended.between.ensures_insert
    intro recorded table recordedBetween inserted executed
    rw [returns_bind]
    apply recordedBetween.ensures_commit
    intro final finalEnded finalSame
    rw [returns_pure]
    refine Or.inr ⟨finalEnded.published, ?_⟩
    have storedCleared : trade.asStored ∈ after.working.trades.rows := by
      rw [same]
      exact issuedTrade.1
    have storedQuantity : trade.asStored.quantityKwh = quantity.toRat := by
      unfold Trade.asStored
      rw [exact_]
      exact Rounding.quantize_of_onGrid _ quantity.onGrid
    rw [finalSame, executed]
    exact
      { unanswered := by
          rintro earlier stored ⟨sameUser, sameRequest⟩
          have present := List.find?_eq_none.mp absent earlier stored
          simp [sameUser, sameRequest] at present
        answered := ⟨after.working, by
          rw [same]
          exact (moves.trans isCleared.moves).tail (.beside (beside_of_same rfl)),
          ⟨offerId, quantity, price, ownOrderId, rfl, trade.asStored, storedCleared, rfl,
            of_decide_eq_true isCommitted, storedQuantity, isOffer ▸ ofOffer⟩,
          (Table.insert_eq_some inserted).1, rfl⟩
        same := rfl
        stored := storedCleared
        committed := of_decide_eq_true isCommitted
        exact := exact_
        offer := isOffer ▸ ofOffer }

end Operation

end UrjaSetu.Services.WorkspaceService
