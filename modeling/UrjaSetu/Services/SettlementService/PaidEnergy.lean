import UrjaSetu.Services.SettlementService.StandingSettlement

/-!
What is paid for of the energy a site was measured to deliver.

Each trade is settled against the whole measurement of its seller's site in its
window, whatever the site's other trades have been settled for.

Owns: the energy paid for in a window, exactly when serial settlements keep it
within the measurement, and two trades that are paid for the same energy.
-/

namespace UrjaSetu.Services.SettlementService

open UrjaSetu.Core UrjaSetu.Domain UrjaSetu.Domain.Interfaces UrjaSetu.Db UrjaSetu.Db.Models
open UrjaSetu.Domain.Policies.AuditChain UrjaSetu.Domain.Policies.Settlement UrjaSetu.Library
open UrjaSetu.Library.Transaction
open UrjaSetu.Library.Rounding

/-- A delivery window of a seller's site. -/
structure Window where
  siteId : UUID
  start : Instant
  end_ : Instant
deriving DecidableEq

/-- The window a trade is delivered in. -/
def windowOf (db : Database) (tradeId : UUID) : Option Window := do
  let trade ← db.trades.find? fun row => row.id = tradeId
  let sell ← db.orders.find? fun row => row.id = trade.sellOrderId
  pure ⟨sell.siteId, trade.deliveryStart, trade.deliveryEnd⟩

/-- What the site was measured to deliver. -/
def Window.measured (window : Window) (db : Database) : ℚ :=
  (measuredKwh db window.siteId window.start window.end_).getD 0

/-- The energy of the standing settlements of a window, of the trades in
`counted`. -/
def paidKwh (db : Database) (counted : UUID → Bool) (window : Window) : ℚ :=
  ((db.settlements.rows.filter fun row => row.status = .settled &&
    windowOf db row.tradeId = some window && counted row.tradeId).map Settlement.settledKwh).sum

/-- No measured energy is paid for twice. -/
def PaidOnce (db : Database) : Prop :=
  ∀ window, paidKwh db (fun _ => true) window ≤ window.measured db

/-- What is left of the measurement covers the smaller of the quantity of the trade
and the measurement. -/
def Covered : Request → Database → Prop
  | .reconcileTrade _ _, _ => True
  | .settleTrade _ tradeId _, db =>
      ∀ trade ∈ db.trades.find? fun row => row.id = tradeId,
        ∀ window ∈ windowOf db tradeId, ∀ actual ∈ deliveredKwh db tradeId,
          paidKwh db (fun other => other ≠ tradeId) window +
            numeric4 (min trade.quantityKwh actual) ≤ window.measured db

section

variable {calculator : StandardSettlementCalculator} {tradeId : UUID} {result : SettlementResult}
  {request : Request} {response : Response} {db next : Database} {trade : Trade} {buy sell : Order}
  {price : PriceComponents} {actual : ActualEnergy}

private theorem Parties.windowOf_eq (parties : Parties db tradeId trade buy sell) :
    windowOf db tradeId = some ⟨sell.siteId, trade.deliveryStart, trade.deliveryEnd⟩ := by
  unfold windowOf
  rw [parties.tradeFound, Option.bind_eq_bind, Option.bind_some, parties.sellFound]
  rfl

private theorem Parties.deliveredKwh_eq (parties : Parties db tradeId trade buy sell) :
    deliveredKwh db tradeId =
      measuredKwh db sell.siteId trade.deliveryStart trade.deliveryEnd := by
  unfold deliveredKwh
  rw [parties.tradeFound, Option.bind_eq_bind, Option.bind_some, parties.sellFound]
  rfl

private theorem Undisturbed.windowOf_eq (same : Undisturbed db next) (tradeId : UUID) :
    windowOf next tradeId = windowOf db tradeId := by
  unfold windowOf
  rw [same.trades, same.orders]

private theorem Undisturbed.measured_eq (same : Undisturbed db next) (window : Window) :
    window.measured next = window.measured db := by
  unfold Window.measured measuredKwh energiesWithin
  rw [same.community, same.readings]

/-- A trade that is not of the window is paid for nothing of it. -/
theorem paidKwh_of_other {window : Window} (other : windowOf db tradeId ≠ some window) :
    paidKwh db (fun row => row ≠ tradeId) window = paidKwh db (fun _ => true) window := by
  unfold paidKwh
  congr 2
  apply List.filter_congr
  intro row _
  by_cases own : row.tradeId = tradeId
  · rw [own, decide_eq_false other, Bool.and_false, Bool.false_and, Bool.false_and]
  · dsimp only
    rw [decide_eq_true (show row.tradeId ≠ tradeId from own)]

/-- The standing settlement of the trade gives way to the new one. -/
theorem SettledBy.paidKwh_eq {row : Settlement} (tradeIdIs : result.tradeId = tradeId)
    (settledBy : SettledBy calculator tradeId result row db next) (same : Undisturbed db next)
    (window : Window) :
    paidKwh next (fun _ => true) window = paidKwh db (fun other => other ≠ tradeId) window +
      if windowOf db tradeId = some window then row.settledKwh else 0 := by
  obtain ⟨id, moment, rowIs⟩ := settledBy.made
  have ofTrade : row.tradeId = tradeId := by rw [rowIs]; exact tradeIdIs
  have stands : row.status = .settled := by rw [rowIs]; rfl
  have kept : ∀ row : Settlement, (superseded tradeId row).settledKwh = row.settledKwh := by
    intro row
    unfold superseded
    split
    · rfl
    · rfl
  unfold paidKwh
  simp only [same.windowOf_eq]
  rw [settledBy.settlements, List.filter_append, List.filter_map, List.map_append, List.map_map,
    List.sum_append]
  congr 1
  · congr 1
    rw [show Settlement.settledKwh ∘ superseded tradeId = Settlement.settledKwh from funext kept]
    congr 1
    apply List.filter_congr
    intro earlier _
    have standsAfter := superseded_standing tradeId earlier.tradeId earlier
    rw [superseded_tradeId] at standsAfter
    simp only [true_and] at standsAfter
    simp only [Function.comp_apply, superseded_tradeId, Bool.and_true]
    rw [Bool.eq_iff_iff]
    simp only [Bool.and_eq_true, decide_eq_true_eq, standsAfter]
    tauto
  · rw [List.filter_singleton, stands, ofTrade]
    by_cases own : windowOf db tradeId = some window
    · simp [own]
    · simp [own]

private theorem Calculated.settledKwh_eq {measured : ℚ}
    (calculated : Calculated calculator db tradeId result trade buy sell price actual)
    (isMeasured : actual.quantityKwh = some measured) :
    numeric4 result.settledQuantityKwh = numeric4 (min trade.quantityKwh measured) := by
  have settled : result.settledQuantityKwh =
      min (energyOf trade.quantityKwh) (energyOf measured) := by
    obtain ⟨figures, _, accounted⟩ := settle_measured isMeasured calculated.settled
    exact accounted.settled
  have monotone : Monotone energyOf := fun _ _ below => quantize_mono halfUp below
  rw [settled, ← monotone.map_min]
  exact quantize_of_onGrid halfUp (quantize_onGrid halfUp _ _)

/-- A commit keeps the energy paid for once exactly where it was covered. -/
theorem Effect.paidOnce_iff (effect : Effect request response db next) (paidOnce : PaidOnce db) :
    PaidOnce next ↔ Covered request db := by
  have unsettledKeeps : ∀ {calculator tradeId result},
      Compared calculator tradeId result db next → next.settlements = db.settlements →
        PaidOnce next := by
    intro calculator tradeId result compared unsettled window
    have same := compared.undisturbed
    unfold paidKwh
    simp only [same.windowOf_eq, same.measured_eq, unsettled]
    exact paidOnce window
  cases effect with
  | compared compared unsettled => exact ⟨fun _ => trivial, fun _ => unsettledKeeps compared unsettled⟩
  | @refused _ tradeId _ _ _ _ _ compared incomplete unsettled =>
      refine ⟨?_, fun _ => unsettledKeeps compared unsettled⟩
      obtain ⟨trade, buy, sell, price, actual, calculated⟩ := compared.calculated
      intro _ _ _ _ _ measured isMeasured
      rw [calculated.isComplete_iff, Option.mem_def.mp isMeasured] at incomplete
      cases incomplete
  | @settled _ tradeId _ _ row _ _ compared complete settledBy =>
      obtain ⟨trade, buy, sell, price, actual, calculated⟩ := compared.calculated
      have same := compared.undisturbed
      have own := calculated.toParties.windowOf_eq
      rw [calculated.isComplete_iff] at complete
      obtain ⟨delivered, isDelivered⟩ := Option.isSome_iff_exists.mp complete
      have isMeasured : actual.quantityKwh = some delivered := by
        rw [calculated.measured, ← calculated.toParties.deliveredKwh_eq, isDelivered]
      have rowKwh : row.settledKwh = numeric4 (min trade.quantityKwh delivered) := by
        obtain ⟨id, moment, rowIs⟩ := settledBy.made
        rw [rowIs, ← calculated.settledKwh_eq isMeasured]
        rfl
      have paid := settledBy.paidKwh_eq calculated.tradeId_eq same
      constructor
      · intro paidAfter otherTrade isTrade window isWindow measured isThat
        rw [Option.mem_def, calculated.tradeFound] at isTrade
        cases isTrade
        rw [Option.mem_def, isDelivered] at isThat
        cases isThat
        have within := paidAfter window
        rw [paid window, if_pos (Option.mem_def.mp isWindow), rowKwh,
          same.measured_eq] at within
        exact within
      · intro covered window
        rw [paid window, same.measured_eq]
        by_cases isWindow : windowOf db tradeId = some window
        · rw [if_pos isWindow, rowKwh]
          exact covered trade calculated.tradeFound window isWindow delivered isDelivered
        · rw [if_neg isWindow, add_zero, paidKwh_of_other isWindow]
          exact paidOnce window

end

private theorem Window.measured_nonneg (window : Window) (db : Database) :
    0 ≤ window.measured db := by
  unfold Window.measured measuredKwh
  rw [sumPresent_getD]
  apply List.sum_nonneg
  intro value member
  obtain ⟨energy, isEnergy, rfl⟩ := List.mem_map.mp member
  obtain ⟨reading, selected, rfl⟩ := List.mem_map.mp isEnergy
  have checked := db.readings.checked reading (List.mem_of_mem_filter selected)
  simp only [telemetryReadings, TelemetryReading.checks, Bool.and_eq_true] at checked
  have nonneg := checked.1.2
  cases isStored : reading.energyKwh with
  | none => exact le_rfl
  | some value =>
      rw [isStored] at nonneg
      exact of_decide_eq_true nonneg

private theorem paidOnce_of_unsettled {db : Database} (unsettled : db.settlements.rows = []) :
    PaidOnce db := by
  intro window
  unfold paidKwh
  rw [unsettled]
  exact window.measured_nonneg db

/-- The states that settlements served one after the other pass through. -/
def servedTo (sha256 : String → String) (start : Database) (requests : List (Request × (ℕ → Supply))) :
    Database :=
  (serial (handle sha256) start requests).2

private theorem servedTo_eq (sha256 : String → String) (start : Database)
    (requests : List (Request × (ℕ → Supply))) :
    servedTo sha256 start requests = (serial (handle sha256) start requests).2 := rfl

/-- Settlements served in turn never pay for measured energy twice exactly where
each of them that commits is covered by what the others have left. -/
theorem served_paidOnce_iff (sha256 : String → String) {start : Database} (lawful : Lawful start)
    (paidOnce : PaidOnce start) (requests : List (Request × (ℕ → Supply))) :
    (∀ earlier later, requests = earlier ++ later → PaidOnce (servedTo sha256 start earlier)) ↔
      ∀ commit ∈ (serial (handle sha256) start requests).1, Covered commit.op commit.before := by
  have alone : Others Lawful Eq :=
    { undisturbed := by
        intro db later same
        rw [same]
        exact (Rely.refl later).undisturbed
      exclusive := fun _ _ _ _ _ same _ _ => same.symm
      linked := fun _ lawful => lawful.linked }
  exact serial_always_iff (handle_wp sha256 alone) (fun _ _ _ _ lawful effect => effect.lawful lawful)
    (fun _ _ _ _ effect paid => effect.paidOnce_iff paid) lawful paidOnce requests

/-! ## Two trades of one quarter of an hour -/

/-- Two trades of 1 kWh each, and 1 kWh measured at their seller's meter. -/
def sharedQuarter : Database :=
  WorkspaceService.twoHouseholds measuredReadings
    ⟨[WorkspaceService.quarterTrade 41 1 1, WorkspaceService.quarterTrade 42 2 1],
      by decide +kernel, by decide +kernel⟩
    ⟨[WorkspaceService.flatPrice 81 41 5, WorkspaceService.flatPrice 82 42 5], by decide +kernel,
      by decide +kernel⟩

def settleBoth : List (Request × (ℕ → Supply)) :=
  [(.settleTrade {} 41 (some 1000), quarterSupply 100),
    (.settleTrade {} 42 (some 2000), quarterSupply 200)]

private theorem sharedQuarter_lawful : Lawful sharedQuarter := ⟨trivial, fun _ => Nat.zero_le 1⟩

/-- Both are settled for the one kilowatt-hour. -/
theorem sharedQuarter_paidTwice :
    Lawful sharedQuarter ∧ PaidOnce sharedQuarter ∧
      ¬ PaidOnce (servedTo quarterDigest sharedQuarter settleBoth) := by
  refine ⟨sharedQuarter_lawful, paidOnce_of_unsettled rfl, ?_⟩
  intro paidOnce
  have within := paidOnce ⟨21, 0, 900000000⟩
  revert within
  rw [servedTo_eq]
  unfold handle settleTrade recordReconciliation recordSettlement AuditService.append
    AuditService.sealedRow sealEvent
  rw [AuditService.eventFingerprint_head quarterDigest fun _ => rfl]
  decide +kernel

/-- Two trades of half a kilowatt-hour each. -/
def sharedHalves : Database :=
  WorkspaceService.twoHouseholds measuredReadings
    ⟨[WorkspaceService.quarterTrade 41 1 (1 / 2), WorkspaceService.quarterTrade 42 2 (1 / 2)],
      by decide +kernel, by decide +kernel⟩
    ⟨[WorkspaceService.flatPrice 81 41 5, WorkspaceService.flatPrice 82 42 5], by decide +kernel,
      by decide +kernel⟩

private theorem covered_of_found {calculator : StandardSettlementCalculator} {tradeId : UUID}
    {at_ : Option Instant} {db : Database} {trade : Trade} {window : Window} {actual : ℚ}
    (found : db.trades.find? (fun row => row.id = tradeId) = some trade ∧
      windowOf db tradeId = some window ∧ deliveredKwh db tradeId = some actual ∧
      paidKwh db (fun other => other ≠ tradeId) window + numeric4 (min trade.quantityKwh actual) ≤
        window.measured db) :
    Covered (.settleTrade calculator tradeId at_) db := by
  obtain ⟨traded, ofWindow, delivered, room⟩ := found
  intro trade isTrade window isWindow actual isActual
  cases traded.symm.trans isTrade
  cases ofWindow.symm.trans isWindow
  cases delivered.symm.trans isActual
  exact room

/-- Both halves are settled, and paid for out of the one kilowatt-hour. -/
theorem served_paidOnce_sample :
    (servedTo quarterDigest sharedHalves settleBoth).settlements.rows.map Settlement.settledKwh =
        [1 / 2, 1 / 2] ∧
      ∀ earlier later, settleBoth = earlier ++ later →
        PaidOnce (servedTo quarterDigest sharedHalves earlier) := by
  have lawful : Lawful sharedHalves := ⟨trivial, fun _ => Nat.zero_le 1⟩
  constructor
  · rw [servedTo_eq]
    unfold handle settleTrade recordReconciliation recordSettlement AuditService.append
      AuditService.sealedRow sealEvent
    rw [AuditService.eventFingerprint_head quarterDigest fun _ => rfl]
    decide +kernel
  apply (served_paidOnce_iff quarterDigest lawful (paidOnce_of_unsettled rfl) _).mpr
  intro commit member
  rcases mem_serial_cons member with ⟨ofOp, onStart⟩ | second
  · rw [ofOp, onStart]
    exact @covered_of_found _ _ _ _ (WorkspaceService.quarterTrade 41 1 (1 / 2))
      ⟨21, 0, 900000000⟩ 1 (by decide +kernel)
  · rcases mem_serial_cons second with ⟨ofOp, onFirst⟩ | others
    · rw [ofOp, onFirst]
      apply @covered_of_found _ _ _ _ (WorkspaceService.quarterTrade 42 2 (1 / 2))
        ⟨21, 0, 900000000⟩ 1
      unfold handle settleTrade recordReconciliation recordSettlement AuditService.append
        AuditService.sealedRow sealEvent
      rw [AuditService.eventFingerprint_head quarterDigest fun _ => rfl]
      decide +kernel
    · cases others

end UrjaSetu.Services.SettlementService
