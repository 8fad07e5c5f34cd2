import UrjaSetu.Services.WorkspaceService.Acceptance
import UrjaSetu.Services.WorkspaceService.DeliveryMoves

/-!
Runs of the workspace: its operations in any order, each in its own transaction
under the row lock, and rolled back where it raises.

Owns: that every operation is a sequence of moves.
-/

namespace UrjaSetu.Services.WorkspaceService

open UrjaSetu.Domain UrjaSetu.Domain.Interfaces UrjaSetu.Db UrjaSetu.Db.Models UrjaSetu.Library

/-- What a request or the worker asks of the workspace. -/
inductive MarketOperation where
  | placeOrder (user : User) (start : Instant) (side : OrderSide) (quantity : QuantityInput)
      (price : PriceInput)
  | cancelOrder (user : User) (orderId : UUID)
  | acceptOffer (user : User) (offerId : UUID) (quantity : QuantityInput) (price : PriceInput)
      (requestId : UUID) (ownOrderId : Option UUID)
  | clearMarket
  | deliver (operation : Operation)

def MarketOperation.perform (engines : Engines) : MarketOperation → Call Unit
  | .placeOrder user start side quantity price => do
      let _ ← WorkspaceService.placeOrder engines user start side quantity price true
      pure ()
  | .cancelOrder user orderId => WorkspaceService.cancelOrder engines user orderId
  | .acceptOffer user offerId quantity price requestId ownOrderId => do
      let _ ← WorkspaceService.acceptOffer engines user offerId quantity price requestId ownOrderId
      pure ()
  | .clearMarket => do
      let _ ← WorkspaceService.clearMarket engines none none true
      pure ()
  | .deliver operation => WorkspaceService.perform engines operation

section Operations

variable {published : Database} {unit : Session} {engines : Engines}

private theorem Taken.moves {offerId : UUID} {quantity : ℚ} {action : MarketplaceAction}
    {trade : Trade}
    {db next : Database} (taken : Taken engines offerId quantity action trade db next) :
    Moves engines db next := by
  obtain ⟨matched, reached, answered⟩ := taken.answered
  exact reached.tail (.answered action answered)

/-- An operation that returns has published a sequence of moves. -/
theorem MarketOperation.perform_ensures (operation : MarketOperation)
    (between : Between published unit) (onGrid : OnGridOrders unit.working)
    (fresh : unit.working = published) :
    Returns published (operation.perform engines) unit
      fun _ after => Moves engines published after.committed := by
  cases operation with
  | placeOrder user start side quantity price =>
      rw [perform, returns_bind]
      apply (placeOrder_ensures between).mono
      rintro order after ⟨ended, _, placed, isPlaced, same⟩
      rw [returns_pure, ended.published, if_pos rfl, same]
      rw [fresh] at isPlaced
      exact (Relation.ReflTransGen.single (.placed order isPlaced)).tail
        (.beside (beside_of_same rfl))
  | cancelOrder user orderId =>
      rw [perform]
      apply (cancelOrder_ensures between).mono
      rintro _ after ⟨ended, order, withdrawn, _, _, isWithdrawn, same⟩
      rw [ended.published, if_pos rfl, same]
      rw [fresh] at isWithdrawn
      exact (Relation.ReflTransGen.single (.withdrawn order isWithdrawn)).tail
        (.beside (beside_of_same rfl))
  | acceptOffer user offerId quantity price requestId ownOrderId =>
      rw [perform, returns_bind]
      apply (acceptOffer_ensures between onGrid).mono
      rintro trade after (⟨unchanged, _⟩ | ⟨ended, taken⟩)
      · rw [returns_pure, unchanged]
        exact Relation.ReflTransGen.refl
      · rw [returns_pure, ended, ← fresh]
        exact taken.moves
  | clearMarket =>
      rw [perform, returns_bind]
      apply (clearMarket_ensures between onGrid fun _ absurdity => by cases absurdity).mono
      rintro trades after ⟨ended, cleared, isCleared, same⟩
      rw [returns_pure, ended.published, if_pos rfl, same, ← fresh]
      exact isCleared.moves.tail (.beside (beside_of_same rfl))
  | deliver operation =>
      rw [perform]
      have moves := @perform_moves _ _ engines operation between
      rw [fresh] at moves
      exact returns_iff_ensures.mpr moves

end Operations

/-- One operation, on its own session. -/
def MarketOperation.serve (engines : Engines) (operation : MarketOperation) (db : Database)
    (outside : Outside) : Except Failure Unit × Database × Outside :=
  Work.serve (operation.perform engines) db outside

theorem between_begin (db : Database) (outside : Outside) : Between db (Work.begin_ db outside) :=
  ⟨rfl, rfl, rfl⟩

private theorem MarketOperation.serve_moves (engines : Engines) (operation : MarketOperation)
    (db : Database) (outside : Outside) (onGrid : OnGridOrders db) :
    Moves engines db (operation.serve engines db outside).2.1 := by
  have returned := @perform_ensures _ _ engines operation (between_begin db outside) onGrid rfl
  have ensured := returns_iff_ensures.mp returned
  unfold serve
  rcases ended : operation.perform engines (Work.begin_ db outside) with ⟨outcome, after⟩
  rw [Work.serve_of_run ended]
  cases outcome with
  | ok value => exact ensured.returned ended
  | error error =>
      rw [show after.committed = db from ensured.raised ended]
      exact Relation.ReflTransGen.refl

/-- The operations in any order, and between them whatever leaves the market and
the deliveries alone: telemetry, the scenario, the clock of the worker. -/
inductive MarketRun (engines : Engines) (start : Database) : Database → Prop
  | start : MarketRun engines start start
  | operation {db : Database} (operation : MarketOperation) (outside : Outside)
      (before : MarketRun engines start db) :
      MarketRun engines start (operation.serve engines db outside).2.1
  | elsewhere {db next : Database} (before : MarketRun engines start db) (beside : Beside db next) :
      MarketRun engines start next

/-- What every move keeps holds in every state of every run. -/
theorem MarketRun.keeps {engines : Engines} {start db : Database} {holds : Database → Prop}
    (run : MarketRun engines start db) (initially : holds start)
    (onGrid : ∀ state, holds state → OnGridOrders state)
    (step : ∀ state next, holds state → Move engines state next → holds next) : holds db := by
  have reached : ∀ state next, holds state → Moves engines state next → holds next := by
    intro state next held moves
    induction moves with
    | refl => exact held
    | tail _ move inductionHypothesis => exact step _ _ inductionHypothesis move
  induction run with
  | start => exact initially
  | operation operation outside _ inductionHypothesis =>
      exact reached _ _ inductionHypothesis
        (operation.serve_moves engines _ outside (onGrid _ inductionHypothesis))
  | elsewhere _ beside inductionHypothesis =>
      exact step _ _ inductionHypothesis (.beside beside)

end UrjaSetu.Services.WorkspaceService
