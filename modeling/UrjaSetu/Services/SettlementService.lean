import UrjaSetu.Core.Errors
import UrjaSetu.Library.Exceptions
import UrjaSetu.Domain.Policies.Settlement

/-!
The boundary check of `app/services/settlement_service.py` on a calculator's
result, and what the standard calculator delivers to it.
-/

namespace UrjaSetu.Services.SettlementService

open UrjaSetu.Core UrjaSetu.Domain UrjaSetu.Domain.Interfaces
open UrjaSetu.Domain.Policies.Settlement UrjaSetu.Library
open UrjaSetu.Library.Rounding UrjaSetu.Library.DecimalContext

/-- A settlement could not be produced, or a calculator misbehaved. -/
def settlementError (message : String) (details : List (String × DetailValue)) : UrjaSetuError :=
  unprocessableError "SETTLEMENT_FAILED" message details

/-- Check a calculator's output before any money is recorded. -/
def validateResult (result : SettlementResult) (calculator : String) : Except UrjaSetuError Unit :=
  if ¬ result.ledgerBalances then
    .error (settlementError "Calculator returned a settlement whose ledger does not balance."
      [("calculator", .text calculator), ("buyer_debit_inr", .decimal result.buyerDebitInr),
        ("seller_credit_inr", .decimal result.sellerCreditInr),
        ("retained_inr", .decimal result.platformRetainedInr)])
  else if result.settledQuantityKwh < 0 ∨ result.grossAmountInr < 0 then
    .error (settlementError "Calculator returned a negative settled quantity or gross amount."
      [("calculator", .text calculator)])
  else if result.reconciliation.status ≠ .reconciled then
    .error (settlementError "Calculator returned a final settlement for an unreconciled trade."
      [("calculator", .text calculator)])
  else if result.policyVersion = "" then
    .error (settlementError "Calculator returned a settlement with no policy version."
      [("calculator", .text calculator)])
  else .ok ()

/-- What the check asks of a result. -/
theorem validateResult_ok_iff {result : SettlementResult} {calculator : String} :
    validateResult result calculator = .ok () ↔
      result.buyerDebitInr = contextRound (result.sellerCreditInr + result.platformRetainedInr) ∧
        0 ≤ result.settledQuantityKwh ∧ 0 ≤ result.grossAmountInr ∧
        result.reconciliation.status = .reconciled ∧ result.policyVersion ≠ "" := by
  unfold validateResult
  by_cases balances : result.ledgerBalances = true
  · rw [if_neg (not_not.mpr balances)]
    have ledger : result.buyerDebitInr =
        contextRound (result.sellerCreditInr + result.platformRetainedInr) :=
      of_decide_eq_true balances
    split_ifs with negative unreconciled unversioned
    · apply iff_of_false not_false
      intro accepted
      exact negative.elim accepted.2.1.not_gt accepted.2.2.1.not_gt
    · apply iff_of_false not_false
      intro accepted
      exact unreconciled accepted.2.2.2.1
    · apply iff_of_false not_false
      intro accepted
      exact accepted.2.2.2.2 unversioned
    · rw [not_or, not_lt, not_lt] at negative
      exact iff_of_true rfl ⟨ledger, negative.1, negative.2, not_not.mp unreconciled, unversioned⟩
  · rw [if_pos balances]
    apply iff_of_false error_ne_ok
    intro accepted
    exact balances (decide_eq_true accepted.1)

/-! ## The standard calculator passes -/

/-- The amounts of a measured settlement: they balance to the paisa, none is
negative, what is settled is the smaller quantity, and what is balanced is the
rest of the commitment when a shortfall breached the tolerance. -/
structure SoundSettlement (policy : SettlementPolicy) (committed actual : ℚ)
    (result : SettlementResult) : Prop where
  balances : result.buyerDebitInr =
    result.sellerCreditInr + result.platformFeeInr + result.balancingChargeInr
  debit : 0 ≤ result.buyerDebitInr
  fee : 0 ≤ result.platformFeeInr
  charge : 0 ≤ result.balancingChargeInr
  settled : result.settledQuantityKwh = min committed actual
  within : result.settledQuantityKwh + result.reconciliation.balancingKwh ≤ committed
  breached : contextRound (committed * policy.toleranceFraction) < committed - actual →
    result.settledQuantityKwh + result.reconciliation.balancingKwh = committed

/-- A settlement of a delivery that was not measured carries no figures. -/
structure AwaitingSettlement (result : SettlementResult) : Prop where
  pending : result.status = .pending
  awaiting : result.reconciliation.status = .awaitingTelemetry
  unsettled : result.reconciliation.settledQuantityKwh = none
  gross : result.grossAmountInr = 0
  fee : result.platformFeeInr = 0
  charge : result.balancingChargeInr = 0
  debit : result.buyerDebitInr = 0
  credit : result.sellerCreditInr = 0

section

variable {calculator : StandardSettlementCalculator} {request : SettlementRequest} {actual : ℚ}
  {result : SettlementResult}

/-- On stored quantities the calculator compares what it is given. -/
theorem settle_stored (measured : request.actual.quantityKwh = some actual)
    (committedStored : OnGrid energyPlaces request.committedQuantityKwh)
    (actualStored : OnGrid energyPlaces actual)
    (returned : calculator.settle request = .ok result) :
    ∃ figures, SoundComparison calculator.policy request.committedQuantityKwh actual figures ∧
      Accounted calculator request
        (reconciled calculator.policy request.actual.readingCount figures)
        request.effectivePrice.priceInrPerKwh (min request.committedQuantityKwh actual) result := by
  have settled := settle_measured measured returned
  rwa [show energyOf request.committedQuantityKwh = _ from quantize_of_onGrid halfUp committedStored,
    show energyOf actual = _ from quantize_of_onGrid halfUp actualStored] at settled

private theorem settle_sound (measured : request.actual.quantityKwh = some actual)
    (committedPositive : 0 < request.committedQuantityKwh)
    (committedStored : OnGrid energyPlaces request.committedQuantityKwh)
    (actualNonneg : 0 ≤ actual) (actualStored : OnGrid energyPlaces actual)
    (priceNonneg : 0 ≤ request.effectivePrice.priceInrPerKwh)
    (returned : calculator.settle request = .ok result) :
    SoundSettlement calculator.policy request.committedQuantityKwh actual result := by
  obtain ⟨figures, compared, accounted⟩ :=
    settle_stored measured committedStored actualStored returned
  have gross := accounted.gross_nonneg priceNonneg (le_min committedPositive.le actualNonneg)
  have credit := accounted.credit_eq gross
  have balancing : result.reconciliation.balancingKwh = figures.balancing := by
    rw [accounted.reconciliation]
    rfl
  exact
    { balances := by rw [accounted.debit, credit]; ring
      debit := by rw [accounted.debit]; exact gross
      fee := (accounted.fee_bounds gross).1
      charge := accounted.charge_nonneg priceNonneg compared.balancing_nonneg
      settled := accounted.settled
      within := by
        rw [accounted.settled, balancing]
        exact compared.settled_add_balancing_le
      breached := by
        rw [accounted.settled, balancing]
        exact compared.settled_add_balancing_eq committedPositive.le }

private theorem settle_awaiting (unmeasured : request.actual.quantityKwh = none)
    (returned : calculator.settle request = .ok result) : AwaitingSettlement result := by
  have nothing : quantize halfUp amountPlaces 0 = 0 := quantize_zero halfUp
  rw [settle_unmeasured unmeasured returned]
  exact ⟨rfl, rfl, rfl, nothing, nothing, nothing, nothing, nothing⟩

/-- A sound settlement of a versioned policy passes the check, where the platform's
part has few enough digits to be added up. -/
theorem settle_accepted (measured : request.actual.quantityKwh = some actual)
    (committedPositive : 0 < request.committedQuantityKwh)
    (committedStored : OnGrid energyPlaces request.committedQuantityKwh)
    (actualNonneg : 0 ≤ actual) (actualStored : OnGrid energyPlaces actual)
    (priceNonneg : 0 ≤ request.effectivePrice.priceInrPerKwh)
    (returned : calculator.settle request = .ok result) (versioned : calculator.policyVersion ≠ "")
    (small : result.platformFeeInr + result.balancingChargeInr < 10 ^ 26) :
    validateResult result calculator.name = .ok () := by
  have sound := settle_sound measured committedPositive committedStored actualNonneg actualStored
    priceNonneg returned
  obtain ⟨figures, compared, accounted⟩ :=
    settle_stored measured committedStored actualStored returned
  have retained : result.platformRetainedInr =
      result.platformFeeInr + result.balancingChargeInr := by
    apply contextRound_of_onGrid (by decide) (accounted.fee_onGrid.add accounted.charge_onGrid)
    rw [abs_of_nonneg (add_nonneg sound.fee sound.charge)]
    exact small
  apply validateResult_ok_iff.mpr
  refine ⟨?_, ?_, ?_, ?_, ?_⟩
  · rw [retained, ← add_assoc, ← sound.balances, accounted.debit, accounted.contextRound_gross]
  · rw [sound.settled]
    exact le_min committedPositive.le actualNonneg
  · rw [← accounted.debit]
    exact sound.debit
  · rw [accounted.reconciliation]
    rfl
  · rw [accounted.policyVersion]
    exact versioned

end

/-- Ten kilowatt-hours were sold at 6.3333 and only 7.1234 delivered. -/
def sampleSettlement : SettlementRequest where
  tradeId := 1
  buyerUserId := 2
  sellerUserId := 3
  committedQuantityKwh := 10
  effectivePrice := { priceInrPerKwh := 63333 / 10000 }
  deliveryStart := 0
  deliveryEnd := 900
  actual := { windowStart := 0, windowEnd := 900, quantityKwh := some (71234 / 10000), readingCount := 1 }

/-- A policy whose version was set to the empty text. The constructor checks
only the three numbers. -/
def unversionedPolicy : SettlementPolicy := { defaultPolicy with policyVersion := "" }

/-- A shortfall is charged at 10^25 times the price. -/
def steepPolicy : SettlementPolicy := { defaultPolicy with
  balancingPriceMultiplier := 10 ^ 25
  multiplier := by norm_num }

end UrjaSetu.Services.SettlementService
