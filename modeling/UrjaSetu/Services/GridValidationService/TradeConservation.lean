import UrjaSetu.Adapters.PowerGridModel.Clearance
import UrjaSetu.Adapters.PowerGridModel.Conservation
import UrjaSetu.Services.GridValidationService

/-!
What the power flow of an accepted trade was solved for
(`validate_trade` of `app/services/grid_validation_service.py` with the adapter
of `app/adapters/grid/power_grid_model_adapter.py`).

The network is filtered by feeder, the injections are not.

Owns: when every injection of an accepted trade reaches the solver.
-/

namespace UrjaSetu.Services.GridValidationService

open UrjaSetu.Core UrjaSetu.Domain UrjaSetu.Domain.Interfaces.Grid UrjaSetu.Db
open UrjaSetu.Db.Models UrjaSetu.Domain.Policies.GridLimits UrjaSetu.Library
open UrjaSetu.Library.Calendar UrjaSetu.Library.Transaction UrjaSetu.Adapters.PowerGridModel

section

variable (sha256 : String → String)

private theorem alone_require_bind {α : Type} {condition : Bool} {error : UrjaSetuError}
    {next : Unit → Txn α} {inputs : ℕ → Supply} {db : Database} {outcome : α × Database}
    (returned : (Txn.require condition error >>= next).alone inputs db = .ok outcome) :
    condition = true ∧ (next ()).alone inputs db = .ok outcome := by
  cases condition with
  | false => cases returned
  | true => exact ⟨rfl, returned⟩

/-- A trade that is judged is a scenario on the projected twin. -/
theorem validateTrade_returned {engine : GridEngine} {tradeId sellerNodeId buyerNodeId : UUID}
    {quantityKwh : Decimal} {deliveryStart deliveryEnd : AwareDatetime} {feederId : Option String}
    {baselineInjections : List NodeInjection} {limits : Interfaces.Grid.GridLimits}
    {at_ : Option Instant} {inputs : ℕ → Supply} {db next : Database} {run : GridValidationRun}
    (returned : (validateTrade sha256 engine tradeId sellerNodeId buyerNodeId quantityKwh
      deliveryStart deliveryEnd feederId baselineInjections limits at_).alone inputs db =
        .ok (.ok run, next)) :
    ∃ result, RunOf sha256 engine (tradeRequest (buildNetwork feederId db) sellerNodeId buyerNodeId
      quantityKwh deliveryStart deliveryEnd baselineInjections limits) run result := by
  unfold validateTrade at returned
  obtain ⟨_, returned⟩ := alone_require_bind returned
  obtain ⟨_, returned⟩ := alone_require_bind returned
  rw [alone_query_bind] at returned
  have scenario : ∃ snapshot : Option GridSnapshot, (validateScenario sha256 engine
      (tradeRequest (buildNetwork feederId db) sellerNodeId buyerNodeId quantityKwh deliveryStart
        deliveryEnd baselineInjections limits) (some tradeId) (snapshot.map GridSnapshot.id)
        at_).alone inputs db = .ok (.ok run, next) := by
    cases feederId with
    | none => exact ⟨none, returned⟩
    | some feeder =>
        dsimp only at returned
        split at returned
        · exact ⟨none, returned⟩
        · exact ⟨latestForFeeder feeder db, returned⟩
  obtain ⟨snapshot, returned⟩ := scenario
  exact (validateScenario_returned sha256 returned).2

/-- Where the adapter judged a trade, the trade is accepted when the network is
rated throughout and no reading breaches. -/
theorem adapter_accept_iff {version : String} {solve : Solver} {request : GridValidationRequest}
    {run : GridValidationRun} {result : GridValidationResult}
    (judged : RunOf sha256 (adapter version solve) request run result) :
    ∃ built output, buildPgmDataset request.network request.combinedInjections = .ok built ∧
      solve built.inputData = .ok output ∧
      (run.decision = .accept ↔ request.network.unratedElements = [] ∧
        Unbreached request.network request.limits built.edgeIds output) := by
  obtain ⟨built, output, datasetBuilds, solverAnswers⟩ := validate_ok version judged.answered
  obtain ⟨other, returned, safe, silent⟩ := validate_answered version datasetBuilds solverAnswers
  have same : other = result := Except.ok.inj (returned.symm.trans judged.answered)
  rw [same] at safe silent
  refine ⟨built, output, datasetBuilds, solverAnswers, ?_⟩
  rw [judged.accept_iff, safe]
  constructor
  · intro accepted
    exact ⟨accepted.2.1, accepted.1⟩
  · intro accepted
    refine ⟨accepted.2, accepted.1, ?_⟩
    unfold GridValidationResult.causedViolations
    rw [silent (safe.mpr accepted.2)]
    rfl

/-- What a trade injects on top of a baseline: the power of its energy over the
interval at the seller's node, and as much out at the buyer's. -/
def withTransfer (baselineInjections : List NodeInjection) (sellerNodeId buyerNodeId : UUID)
    (quantityKwh : Decimal) (interval : ℤ) : List NodeInjection :=
  let hours := (Decimal.ofDouble (totalSeconds interval)).div (Decimal.ofUnits 3600 0)
  let powerKw := quantityKwh.div hours
  baselineInjections ++ [⟨sellerNodeId, powerKw⟩, ⟨buyerNodeId, powerKw.neg⟩]

/-- The baseline and the transfer of an accepted trade reach the solver exactly when the
trade is not accepted for other reasons, or what they come to outside the projected
network is zero at each node. -/
theorem validateTrade_conserved_iff {version : String} {solve : Solver}
    {tradeId sellerNodeId buyerNodeId : UUID} {quantityKwh : Decimal}
    {deliveryStart deliveryEnd : AwareDatetime} {feederId : Option String}
    {baselineInjections : List NodeInjection} {limits : Interfaces.Grid.GridLimits}
    {at_ : Option Instant} {inputs : ℕ → Supply} {db next : Database} {run : GridValidationRun}
    {request : GridValidationRequest} {injections : List NodeInjection}
    (asked : request = tradeRequest (buildNetwork feederId db) sellerNodeId buyerNodeId quantityKwh
      deliveryStart deliveryEnd baselineInjections limits)
    (injected : injections = withTransfer baselineInjections sellerNodeId buyerNodeId quantityKwh
      (deliveryEnd.instant - deliveryStart.instant))
    (returned : (validateTrade sha256 (adapter version solve) tradeId sellerNodeId buyerNodeId
      quantityKwh deliveryStart deliveryEnd feederId baselineInjections limits at_).alone inputs db =
        .ok (.ok run, next)) :
    ∃ built output, buildPgmDataset request.network request.combinedInjections = .ok built ∧
      solve built.inputData = .ok output ∧
      ((run.decision = .accept → Conserved built injections) ↔
        request.network.unratedElements ≠ [] ∨
          ¬ Unbreached request.network request.limits built.edgeIds output ∨
          ∀ nodeId, nodeId ∈ (buildNetwork feederId db).nodeIds ∨
            (totalAt injections nodeId).toRat = 0) := by
  obtain ⟨result, judged⟩ := validateTrade_returned sha256 returned
  rw [← asked] at judged
  obtain ⟨built, output, datasetBuilds, solverAnswers, accepted⟩ := adapter_accept_iff sha256 judged
  have same : injections = request.baselineInjections ++ request.proposedInjections := by
    rw [injected, asked]
    rfl
  have network : buildNetwork feederId db = request.network := by rw [asked]; rfl
  refine ⟨built, output, datasetBuilds, solverAnswers, ?_⟩
  rw [accepted, same, conserved_iff datasetBuilds, network]
  constructor
  · intro placed
    by_cases rated : request.network.unratedElements = []
    · by_cases unbreached : Unbreached request.network request.limits built.edgeIds output
      · exact Or.inr (Or.inr (placed ⟨rated, unbreached⟩))
      · exact Or.inr (Or.inl unbreached)
    · exact Or.inl rated
  · intro condition both
    rcases condition with unrated | breached | placed
    · exact absurd both.1 unrated
    · exact absurd both.2 breached
    · exact placed

end

/-! ## A buyer on the feeder, and one on another -/

/-- A twin with a line on one feeder and a node on another. -/
def twoFeeders : Database :=
  Database.initial ⟨0, false, .normal, 0, "", false⟩
    ⟨[⟨1, .feeder, 11, none, some "north", none⟩,
      ⟨2, .connectionPoint, 11, some 1, some "north", some 50⟩,
      ⟨3, .feeder, 11, none, some "south", none⟩], [], [], [], []⟩

/-- What the first household draws before the trade. -/
def drawn : List NodeInjection := [⟨2, Decimal.ofUnits (-15) 1⟩]

/-- The request of a trade of one kWh from the first node within an hour. -/
def hourRequest (buyerNodeId : UUID) : GridValidationRequest :=
  tradeRequest (buildNetwork (some "north") twoFeeders) 1 buyerNodeId (Decimal.ofUnits 1 0)
    ⟨1709229600000000, 0⟩ ⟨1709233200000000, 0⟩ drawn DEFAULT_LIMITS

/-- What it is to inject. -/
def hourInjections (buyerNodeId : UUID) : List NodeInjection :=
  withTransfer drawn 1 buyerNodeId (Decimal.ofUnits 1 0) 3600000000

/-- Its validation with a solver that finds the feeder at its nominal voltage. -/
def hourTrade (buyerNodeId : UUID) : Txn (Except UrjaSetuError GridValidationRun) :=
  validateTrade id (adapter "1.13" fun _ =>
      .ok { node := [⟨1, some 1⟩, ⟨2, some 1⟩], line := [⟨3, some (1 / 4)⟩] }) 5 1 buyerNodeId
    (Decimal.ofUnits 1 0) ⟨1709229600000000, 0⟩ ⟨1709233200000000, 0⟩ (some "north") drawn

private theorem hourTrade_accepted (buyerNodeId : UUID)
    (accepted : ((hourTrade buyerNodeId).alone (fun _ => ⟨7, 0, 0⟩) twoFeeders).map
      (fun outcome => outcome.1.map GridValidationRun.decision) = .ok (.ok .accept)) :
    ∃ run next, (hourTrade buyerNodeId).alone (fun _ => ⟨7, 0, 0⟩) twoFeeders =
      .ok (.ok run, next) ∧ run.decision = .accept := by
  cases ended : (hourTrade buyerNodeId).alone (fun _ => ⟨7, 0, 0⟩) twoFeeders with
  | error failure =>
      rw [ended] at accepted
      cases accepted
  | ok outcome =>
      rw [ended] at accepted
      obtain ⟨value, next⟩ := outcome
      cases value with
      | error error => cases accepted
      | ok run => exact ⟨run, next, rfl, Except.ok.inj (Except.ok.inj accepted)⟩

/-- Sold to the household of the feeder, the kilowatt and what it draws are placed. -/
theorem validateTrade_conserved_sample : ∃ run next built,
    (hourTrade 2).alone (fun _ => ⟨7, 0, 0⟩) twoFeeders = .ok (.ok run, next) ∧
      run.decision = .accept ∧
      buildPgmDataset (hourRequest 2).network (hourRequest 2).combinedInjections = .ok built ∧
      Conserved built (hourInjections 2) ∧
      (totalAt (hourInjections 2) 1).toRat = 1 ∧ (totalAt (hourInjections 2) 2).toRat = -5 / 2 := by
  obtain ⟨run, next, returned, accepted⟩ := hourTrade_accepted 2 (by decide +kernel)
  obtain ⟨built, output, builds, _, conserved⟩ :=
    @validateTrade_conserved_iff id _ _ _ _ _ _ _ _ _ _ _ _ _ _ _ _ (hourRequest 2)
      (hourInjections 2) rfl rfl returned
  refine ⟨run, next, built, returned, accepted, builds, conserved.mpr (.inr (.inr ?_)) accepted,
    by decide +kernel, by decide +kernel⟩
  intro nodeId
  by_cases seller : nodeId = 1
  · rw [seller]
    decide +kernel
  · by_cases buyer : nodeId = 2
    · rw [buyer]
      decide +kernel
    · right
      rw [totalAt_of_absent]
      · decide +kernel
      · simp [hourInjections, withTransfer, drawn, seller, buyer]

/-- Sold to the other feeder, the withdrawal reaches no solver, and the trade is
accepted. -/
theorem other_feeder_dropped : ∃ run next built,
    (hourTrade 3).alone (fun _ => ⟨7, 0, 0⟩) twoFeeders = .ok (.ok run, next) ∧
      buildPgmDataset (hourRequest 3).network (hourRequest 3).combinedInjections = .ok built ∧
      run.decision = .accept ∧ ¬ Conserved built (hourInjections 3) := by
  obtain ⟨run, next, returned, accepted⟩ := hourTrade_accepted 3 (by decide +kernel)
  obtain ⟨result, judged⟩ := validateTrade_returned id returned
  obtain ⟨built, _, datasetBuilds, _⟩ := validate_ok "1.13" judged.answered
  refine ⟨run, next, built, returned, datasetBuilds, accepted, ?_⟩
  intro conserved
  have outside : ¬ ((3 : UUID) ∈ (hourRequest 3).network.nodeIds ∨
      (totalAt (hourInjections 3) 3).toRat = 0) := by decide +kernel
  exact outside ((@conserved_iff (hourRequest 3) 0 built datasetBuilds).mp conserved 3)

end UrjaSetu.Services.GridValidationService
