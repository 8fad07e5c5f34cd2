import UrjaSetu.Library.Decimal
import UrjaSetu.Library.Exceptions
import UrjaSetu.Domain.Interfaces.Settlement

/-!
The reconciliation and settlement rules of `app/domain/policies/settlement.py`.

Owns: the policy and what its constructor accepts, `reconcile`, the standard
calculator, and the laws of the figures it returns. A figure that 28 digits do not
hold raises a signal of the decimal context.
Does not own: the boundary check on a result (see `Services.SettlementService`).
-/

namespace UrjaSetu.Domain.Policies.Settlement

open UrjaSetu.Domain UrjaSetu.Domain.Interfaces UrjaSetu.Library
open UrjaSetu.Library.Rounding UrjaSetu.Library.DecimalContext

/-- Decimals of a sum of money, `AMOUNT_QUANTUM = 0.01`. -/
def amountPlaces : ℕ := 2

/-- Decimals of an energy column, `ENERGY_QUANTUM = 0.0001`. -/
def energyPlaces : ℕ := 4

/-- Round money to paise. -/
def quantizeAmount (value : ℚ) : Except DecimalSignal ℚ := quantized halfUp amountPlaces value

def quantizeEnergy (value : ℚ) : Except DecimalSignal ℚ := quantized halfUp energyPlaces value

/-! ## The policy -/

/-- The values a `SettlementPolicy` is constructed from, with their defaults. -/
structure PolicyValues where
  policyVersion : String := "1.0.0"
  calculatorName : String := "standard_settlement"
  toleranceFraction : ℚ := 5 / 100
  balancingPriceMultiplier : ℚ := 1
  platformFeeFraction : ℚ := 0
deriving DecidableEq, Repr

/-- Values that passed the constructor. -/
structure SettlementPolicy extends PolicyValues where
  tolerance : 0 ≤ toleranceFraction ∧ toleranceFraction < 1
  multiplier : 0 ≤ balancingPriceMultiplier
  fee : 0 ≤ platformFeeFraction ∧ platformFeeFraction < 1

/-- `__post_init__`: the text of the `ValueError`, or the policy. -/
def SettlementPolicy.postInit (values : PolicyValues) : Except String SettlementPolicy :=
  if tolerance : 0 ≤ values.toleranceFraction ∧ values.toleranceFraction < 1 then
    if multiplier : 0 ≤ values.balancingPriceMultiplier then
      if fee : 0 ≤ values.platformFeeFraction ∧ values.platformFeeFraction < 1 then
        .ok { values with tolerance, multiplier, fee }
      else .error "platform_fee_fraction must lie in [0, 1)"
    else .error "balancing_price_multiplier must not be negative"
  else .error "tolerance_fraction must lie in [0, 1)"

/-- The constructor accepts exactly the values a policy can hold. -/
theorem SettlementPolicy.postInit_toPolicyValues (policy : SettlementPolicy) :
    SettlementPolicy.postInit policy.toPolicyValues = .ok policy := by
  unfold SettlementPolicy.postInit
  rw [dif_pos policy.tolerance, dif_pos policy.multiplier, dif_pos policy.fee]

def defaultPolicy : SettlementPolicy where
  tolerance := by norm_num
  multiplier := by norm_num
  fee := by norm_num

/-! ## Reconciliation: energy only -/

/-- Render a decimal without trailing zeros. -/
def trim (value : ℚ) : String := (Decimal.ofRat value).formatF

/-- The figures of a measured comparison. -/
structure Comparison where
  committed : ℚ
  actualKwh : ℚ
  deviation : ℚ
  deviationPct : Option ℚ
  within : Bool
  balancing : ℚ

def describe (policy : SettlementPolicy) (readingCount : ℕ) (figures : Comparison) : String :=
  let band := trim (contextRound (policy.toleranceFraction * 100))
  let measured := trim figures.actualKwh ++ " kWh measured against " ++ trim figures.committed ++
    " kWh committed from " ++ toString readingCount ++ " reading" ++
    (if readingCount = 1 then "" else "s")
  if figures.within then
    measured ++ "; deviation " ++ trim figures.deviation ++ " kWh is within the " ++ band ++
      "% tolerance"
  else if 0 < figures.balancing then
    measured ++ "; shortfall of " ++ trim figures.balancing ++ " kWh exceeds the " ++ band ++
      "% tolerance and is charged as balancing"
  else
    measured ++ "; over-delivery of " ++ trim figures.deviation ++ " kWh exceeds the " ++ band ++
      "% tolerance but was not traded, so nothing is balanced"

/-- Compare two quantized quantities under the tolerance of `policy`. -/
def compare (policy : SettlementPolicy) (committed actualKwh : ℚ) :
    Except DecimalSignal Comparison := do
  let deviation ← quantizeEnergy (contextRound (actualKwh - committed))
  let deviationPct ←
    (if 0 < committed then
      some <$> quantizeEnergy (contextRound (contextRound (deviation / committed) * 100))
    else pure none)
  let allowed := contextRound (committed * policy.toleranceFraction)
  let within : Bool := |deviation| ≤ allowed
  let shortfall := max (contextRound (committed - actualKwh)) 0
  let balancing ← (if within then pure 0 else quantizeEnergy shortfall)
  pure { committed, actualKwh, deviation, deviationPct, within, balancing }

/-- Nothing usable was measured: no figures, and no zero-delivery shortfall. -/
def awaitingTelemetry (policy : SettlementPolicy) (committed : ℚ) : ReconciliationOutcome where
  committedQuantityKwh := committed
  actualQuantityKwh := none
  deviationKwh := none
  deviationPct := none
  withinTolerance := false
  balancingKwh := 0
  settledQuantityKwh := none
  status := .awaitingTelemetry
  reason := "no usable telemetry covers the delivery window, so delivery cannot be compared with " ++
    "the commitment; this is not a zero-delivery shortfall"
  policyVersion := policy.policyVersion

/-- The outcome of a measured comparison. -/
def reconciled (policy : SettlementPolicy) (readingCount : ℕ) (figures : Comparison) :
    ReconciliationOutcome where
  committedQuantityKwh := figures.committed
  actualQuantityKwh := some figures.actualKwh
  deviationKwh := some figures.deviation
  deviationPct := figures.deviationPct
  withinTolerance := figures.within
  balancingKwh := figures.balancing
  settledQuantityKwh := some (min figures.committed figures.actualKwh)
  status := .reconciled
  reason := describe policy readingCount figures
  policyVersion := policy.policyVersion

/-- Compare what was delivered with what was agreed. -/
def reconcile (committedQuantityKwh : ℚ) (actual : ActualEnergy) (policy : SettlementPolicy) :
    Except DecimalSignal ReconciliationOutcome := do
  let committed ← quantizeEnergy committedQuantityKwh
  match actual.quantityKwh with
  | none => pure (awaitingTelemetry policy committed)
  | some quantityKwh => do
      let actualKwh ← quantizeEnergy quantityKwh
      let figures ← compare policy committed actualKwh
      pure (reconciled policy actual.readingCount figures)

/-! ## Accounting: money only -/

/-- The default calculator, holding its policy. -/
structure StandardSettlementCalculator where
  policy : SettlementPolicy := defaultPolicy

namespace StandardSettlementCalculator

def name (calculator : StandardSettlementCalculator) : String := calculator.policy.calculatorName

def policyVersion (calculator : StandardSettlementCalculator) : String :=
  calculator.policy.policyVersion

/-- A settlement with no amounts, for an outcome with nothing measured. -/
def empty (calculator : StandardSettlementCalculator) (request : SettlementRequest)
    (outcome : ReconciliationOutcome) (price : ℚ) : SettlementResult :=
  let nil := quantize halfUp amountPlaces 0
  { tradeId := request.tradeId
    buyerUserId := request.buyerUserId
    sellerUserId := request.sellerUserId
    settledQuantityKwh := quantize halfUp energyPlaces 0
    effectivePriceInrPerKwh := price
    grossAmountInr := nil
    platformFeeInr := nil
    balancingChargeInr := nil
    buyerDebitInr := nil
    sellerCreditInr := nil
    status := .pending
    policyVersion := calculator.policy.policyVersion
    reconciliation := outcome
    priceComponentsId := request.effectivePrice.sourceId
    forecastBasisId := request.forecastBasisId
    gridValidationId := request.gridValidationId
    lines := [] }

def lines (calculator : StandardSettlementCalculator) (outcome : ReconciliationOutcome)
    (price gross fee balancingCharge : ℚ) : Except DecimalSignal (List SettlementLine) := do
  let delivered : SettlementLine :=
    { label := "energy delivered"
      quantityKwh := outcome.settledQuantityKwh
      priceInrPerKwh := some price
      amountInr := gross
      reason := "buyer pays for the energy actually delivered, at the effective price" }
  let feeLines : List SettlementLine :=
    if 0 < fee then
      [{ label := "platform fee"
         quantityKwh := none
         priceInrPerKwh := none
         amountInr := fee
         reason := trim (contextRound (calculator.policy.platformFeeFraction * 100)) ++
           "% of the gross amount, retained from the seller's credit" }]
    else []
  let balancingLines ←
    (if 0 < balancingCharge then do
      let chargedPrice ← contextResult (price * calculator.policy.balancingPriceMultiplier)
      let chargedPrice ← quantizeAmount chargedPrice
      pure [{ label := "balancing charge"
              quantityKwh := some outcome.balancingKwh
              priceInrPerKwh := some chargedPrice
              amountInr := balancingCharge
              reason := "energy the seller committed and did not deliver, supplied by the grid " ++
                "instead and charged to the seller" }]
    else pure [])
  pure (delivered :: feeLines ++ balancingLines)

/-- The amounts of a reconciled outcome, each rounded to paise on its own. -/
def account (calculator : StandardSettlementCalculator) (request : SettlementRequest)
    (outcome : ReconciliationOutcome) (price settled : ℚ) : Except DecimalSignal SettlementResult := do
  let gross ← contextResult (settled * price)
  let gross ← quantizeAmount gross
  let fee ← quantizeAmount (contextRound (gross * calculator.policy.platformFeeFraction))
  let balancingCharge ← contextResult (outcome.balancingKwh * price)
  let balancingCharge ←
    contextResult (balancingCharge * calculator.policy.balancingPriceMultiplier)
  let balancingCharge ← quantizeAmount balancingCharge
  let sellerCredit ← quantizeAmount (contextRound (contextRound (gross - fee) - balancingCharge))
  let lines ← calculator.lines outcome price gross fee balancingCharge
  pure
    { tradeId := request.tradeId
      buyerUserId := request.buyerUserId
      sellerUserId := request.sellerUserId
      settledQuantityKwh := settled
      effectivePriceInrPerKwh := price
      grossAmountInr := gross
      platformFeeInr := fee
      balancingChargeInr := balancingCharge
      buyerDebitInr := gross
      sellerCreditInr := sellerCredit
      status := .settled
      policyVersion := calculator.policy.policyVersion
      reconciliation := outcome
      priceComponentsId := request.effectivePrice.sourceId
      forecastBasisId := request.forecastBasisId
      gridValidationId := request.gridValidationId
      lines := lines }

/-- Reconcile, then account. -/
def settle (calculator : StandardSettlementCalculator) (request : SettlementRequest) :
    Except DecimalSignal SettlementResult := do
  let outcome ← reconcile request.committedQuantityKwh request.actual calculator.policy
  let price := request.effectivePrice.priceInrPerKwh
  match outcome.settledQuantityKwh with
  | none => pure (calculator.empty request outcome price)
  | some settled => calculator.account request outcome price settled

end StandardSettlementCalculator

/-! ## Laws of the comparison -/

/-- Half up to the decimals of an energy column. -/
def energyOf (value : ℚ) : ℚ := quantize halfUp energyPlaces value

/-- Half up to paise. -/
def amountOf (value : ℚ) : ℚ := quantize halfUp amountPlaces value

private theorem energyOf_onGrid (value : ℚ) : OnGrid energyPlaces (energyOf value) :=
  quantize_onGrid halfUp _ _

private theorem amountOf_onGrid (value : ℚ) : OnGrid amountPlaces (amountOf value) :=
  quantize_onGrid halfUp _ _

private theorem quantizeEnergy_ok {value result : ℚ}
    (returned : quantizeEnergy value = .ok result) :
    result = energyOf value ∧ |result| < 10 ^ 24 := by
  obtain ⟨small, isRounded⟩ := quantized_eq_ok_iff.mp returned
  exact ⟨isRounded, small⟩

private theorem quantizeAmount_ok {value result : ℚ}
    (returned : quantizeAmount value = .ok result) :
    result = amountOf value ∧ |result| < 10 ^ 26 := by
  obtain ⟨small, isRounded⟩ := quantized_eq_ok_iff.mp returned
  exact ⟨isRounded, small⟩

section

variable {policy : SettlementPolicy} {committed actual : ℚ} {figures : Comparison}

/-- The comparison of two quantities of an energy column: the deviation is exact, and
a shortfall that breached the tolerance is balanced in full. -/
structure SoundComparison (policy : SettlementPolicy) (committed actual : ℚ)
    (figures : Comparison) : Prop where
  isCommitted : figures.committed = committed
  isActual : figures.actualKwh = actual
  deviation : figures.deviation = actual - committed
  within : figures.within =
    decide (|actual - committed| ≤ contextRound (committed * policy.toleranceFraction))
  balancing : figures.balancing = if figures.within then 0 else max (committed - actual) 0

private theorem compare_ok (committedStored : OnGrid energyPlaces committed)
    (actualStored : OnGrid energyPlaces actual)
    (returned : compare policy committed actual = .ok figures) :
    SoundComparison policy committed actual figures := by
  unfold compare at returned
  obtain ⟨deviation, isDeviation, returned⟩ := bind_eq_ok.mp returned
  obtain ⟨deviationPct, _, returned⟩ := bind_eq_ok.mp returned
  obtain ⟨balancing, isBalancing, returned⟩ := bind_eq_ok.mp returned
  cases returned
  obtain ⟨exact, rfl⟩ := exact_of_quantized (by decide) (actualStored.sub committedStored) isDeviation
  refine ⟨rfl, rfl, rfl, rfl, ?_⟩
  have shortfall : contextRound (committed - actual) = committed - actual := by
    rw [← neg_sub, contextRound_neg, exact]
  dsimp only at isBalancing ⊢
  rw [shortfall] at isBalancing
  split at isBalancing
  · rename_i isWithin
    cases isBalancing
    rw [if_pos isWithin]
  · rename_i isOutside
    rw [if_neg isOutside, (quantizeEnergy_ok isBalancing).1]
    exact quantize_of_onGrid halfUp ((committedStored.sub actualStored).max OnGrid.zero)

/-- What is settled and what is balanced never exceed the commitment. -/
theorem SoundComparison.settled_add_balancing_le (compared : SoundComparison policy committed actual figures) :
    min committed actual + figures.balancing ≤ committed := by
  have split : min committed actual + max (committed - actual) 0 = committed := by
    rcases le_total committed actual with surplus | deficit
    · rw [min_eq_left surplus, max_eq_right (sub_nonpos.mpr surplus), add_zero]
    · rw [min_eq_right deficit, max_eq_left (sub_nonneg.mpr deficit)]
      ring
  rw [compared.balancing]
  split
  · rw [add_zero]
    exact min_le_left _ _
  · exact split.le

theorem SoundComparison.balancing_nonneg (compared : SoundComparison policy committed actual figures) :
    0 ≤ figures.balancing := by
  rw [compared.balancing]
  split
  · exact le_rfl
  · exact le_max_right _ _

/-- A shortfall beyond the tolerance is balanced in full. -/
theorem SoundComparison.settled_add_balancing_eq (compared : SoundComparison policy committed actual figures)
    (committedNonneg : 0 ≤ committed)
    (breached : contextRound (committed * policy.toleranceFraction) < committed - actual) :
    min committed actual + figures.balancing = committed := by
  have allowed : 0 ≤ contextRound (committed * policy.toleranceFraction) :=
    contextRound_nonneg (mul_nonneg committedNonneg policy.tolerance.1)
  have short : 0 < committed - actual := allowed.trans_lt breached
  have outside : figures.within = false := by
    rw [compared.within, abs_sub_comm, abs_of_pos short]
    exact decide_eq_false breached.not_ge
  rw [compared.balancing, outside, if_neg Bool.false_ne_true, max_eq_left short.le,
    min_eq_right (sub_nonneg.mp short.le)]
  ring

end

/-! ## Laws of the accounts -/

section

variable {calculator : StandardSettlementCalculator} {request : SettlementRequest}
  {outcome : ReconciliationOutcome} {price settled : ℚ} {result : SettlementResult}

/-- The amounts that an outcome was accounted for with. -/
structure Accounted (calculator : StandardSettlementCalculator) (request : SettlementRequest)
    (outcome : ReconciliationOutcome) (price settled : ℚ) (result : SettlementResult) : Prop where
  gross : result.grossAmountInr = amountOf (contextRound (settled * price))
  fee : result.platformFeeInr =
    amountOf (contextRound (result.grossAmountInr * calculator.policy.platformFeeFraction))
  charge : result.balancingChargeInr = amountOf (contextRound
    (contextRound (outcome.balancingKwh * price) * calculator.policy.balancingPriceMultiplier))
  debit : result.buyerDebitInr = result.grossAmountInr
  credit : quantizeAmount (contextRound (contextRound
    (result.grossAmountInr - result.platformFeeInr) - result.balancingChargeInr)) =
    .ok result.sellerCreditInr
  grossHeld : |result.grossAmountInr| < 10 ^ 26
  settled : result.settledQuantityKwh = settled
  status : result.status = .settled
  tradeId : result.tradeId = request.tradeId
  reconciliation : result.reconciliation = outcome
  policyVersion : result.policyVersion = calculator.policyVersion

private theorem account_ok
    (returned : calculator.account request outcome price settled = .ok result) :
    Accounted calculator request outcome price settled result := by
  unfold StandardSettlementCalculator.account at returned
  obtain ⟨_, isProduct, returned⟩ := bind_eq_ok.mp returned
  obtain ⟨gross, isGross, returned⟩ := bind_eq_ok.mp returned
  obtain ⟨fee, isFee, returned⟩ := bind_eq_ok.mp returned
  obtain ⟨_, isBalanced, returned⟩ := bind_eq_ok.mp returned
  obtain ⟨_, isMultiplied, returned⟩ := bind_eq_ok.mp returned
  obtain ⟨charge, isCharge, returned⟩ := bind_eq_ok.mp returned
  obtain ⟨credit, isCredit, returned⟩ := bind_eq_ok.mp returned
  obtain ⟨lines, _, returned⟩ := bind_eq_ok.mp returned
  cases returned
  rw [(contextResult_eq_ok_iff.mp isProduct).2] at isGross
  rw [(contextResult_eq_ok_iff.mp isMultiplied).2, (contextResult_eq_ok_iff.mp isBalanced).2]
    at isCharge
  exact
    { gross := (quantizeAmount_ok isGross).1
      fee := (quantizeAmount_ok isFee).1
      charge := (quantizeAmount_ok isCharge).1
      debit := rfl
      credit := isCredit
      grossHeld := (quantizeAmount_ok isGross).2
      settled := rfl
      status := rfl
      tradeId := rfl
      reconciliation := rfl
      policyVersion := rfl }

namespace Accounted

variable (accounted : Accounted calculator request outcome price settled result)

include accounted

theorem gross_onGrid : OnGrid amountPlaces result.grossAmountInr := by
  rw [accounted.gross]
  exact amountOf_onGrid _

theorem fee_onGrid : OnGrid amountPlaces result.platformFeeInr := by
  rw [accounted.fee]
  exact amountOf_onGrid _

theorem charge_onGrid : OnGrid amountPlaces result.balancingChargeInr := by
  rw [accounted.charge]
  exact amountOf_onGrid _

/-- The gross amount has few enough digits. -/
theorem contextRound_gross : contextRound result.grossAmountInr = result.grossAmountInr :=
  contextRound_of_onGrid (by decide) accounted.gross_onGrid accounted.grossHeld

theorem gross_nonneg (priceNonneg : 0 ≤ price) (settledNonneg : 0 ≤ settled) :
    0 ≤ result.grossAmountInr := by
  rw [accounted.gross]
  exact quantize_nonneg halfUp (contextRound_nonneg (mul_nonneg settledNonneg priceNonneg))

theorem charge_nonneg (priceNonneg : 0 ≤ price) (balancingNonneg : 0 ≤ outcome.balancingKwh) :
    0 ≤ result.balancingChargeInr := by
  rw [accounted.charge]
  apply quantize_nonneg halfUp
  apply contextRound_nonneg
  exact mul_nonneg (contextRound_nonneg (mul_nonneg balancingNonneg priceNonneg))
    calculator.policy.multiplier

/-- The fee is a part of the gross amount. -/
theorem fee_bounds (grossNonneg : 0 ≤ result.grossAmountInr) :
    0 ≤ result.platformFeeInr ∧ result.platformFeeInr ≤ result.grossAmountInr := by
  obtain ⟨feeNonneg, feeBelow⟩ := calculator.policy.fee
  rw [accounted.fee]
  constructor
  · exact quantize_nonneg halfUp (contextRound_nonneg (mul_nonneg grossNonneg feeNonneg))
  · apply quantize_le halfUp accounted.gross_onGrid
    have part := contextRound_mono (mul_le_of_le_one_right grossNonneg feeBelow.le)
    rwa [accounted.contextRound_gross] at part

/-- The credit is what is left of the debit: every part is already in paise, so
the last rounding changes nothing. -/
theorem credit_eq (grossNonneg : 0 ≤ result.grossAmountInr) :
    result.sellerCreditInr =
      result.grossAmountInr - result.platformFeeInr - result.balancingChargeInr := by
  obtain ⟨feeNonneg, feeWithin⟩ := accounted.fee_bounds grossNonneg
  have left := accounted.gross_onGrid.sub accounted.fee_onGrid
  have exact : contextRound (result.grossAmountInr - result.platformFeeInr) =
      result.grossAmountInr - result.platformFeeInr := by
    apply contextRound_of_onGrid (by decide) left
    rw [abs_of_nonneg (sub_nonneg.mpr feeWithin)]
    exact lt_of_le_of_lt (sub_le_self _ feeNonneg) (lt_of_abs_lt accounted.grossHeld)
  have credit := accounted.credit
  rw [exact] at credit
  exact (exact_of_quantized (by decide) (left.sub accounted.charge_onGrid) credit).2

end Accounted

end

/-- On a measured delivery the calculator accounts for the smaller quantity. -/
theorem settle_measured {calculator : StandardSettlementCalculator} {request : SettlementRequest}
    {result : SettlementResult} {actual : ℚ} (measured : request.actual.quantityKwh = some actual)
    (returned : calculator.settle request = .ok result) :
    ∃ figures, SoundComparison calculator.policy (energyOf request.committedQuantityKwh)
        (energyOf actual) figures ∧
      Accounted calculator request
        (reconciled calculator.policy request.actual.readingCount figures)
        request.effectivePrice.priceInrPerKwh
        (min (energyOf request.committedQuantityKwh) (energyOf actual)) result := by
  unfold StandardSettlementCalculator.settle at returned
  obtain ⟨outcome, isOutcome, returned⟩ := bind_eq_ok.mp returned
  unfold reconcile at isOutcome
  rw [measured] at isOutcome
  obtain ⟨committed, isCommitted, isOutcome⟩ := bind_eq_ok.mp isOutcome
  obtain ⟨actualKwh, isActual, isOutcome⟩ := bind_eq_ok.mp isOutcome
  obtain ⟨figures, isCompared, isOutcome⟩ := bind_eq_ok.mp isOutcome
  cases isOutcome
  rw [(quantizeEnergy_ok isCommitted).1, (quantizeEnergy_ok isActual).1] at isCompared
  have compared := compare_ok (energyOf_onGrid _) (energyOf_onGrid _) isCompared
  refine ⟨figures, compared, ?_⟩
  rw [← compared.isCommitted, ← compared.isActual]
  exact account_ok returned

theorem settle_unmeasured {calculator : StandardSettlementCalculator} {request : SettlementRequest}
    {result : SettlementResult} (unmeasured : request.actual.quantityKwh = none)
    (returned : calculator.settle request = .ok result) :
    result = calculator.empty request
      (awaitingTelemetry calculator.policy (energyOf request.committedQuantityKwh))
      request.effectivePrice.priceInrPerKwh := by
  unfold StandardSettlementCalculator.settle at returned
  obtain ⟨outcome, isOutcome, returned⟩ := bind_eq_ok.mp returned
  unfold reconcile at isOutcome
  rw [unmeasured] at isOutcome
  obtain ⟨committed, isCommitted, isOutcome⟩ := bind_eq_ok.mp isOutcome
  cases isOutcome
  cases returned
  rw [(quantizeEnergy_ok isCommitted).1]

theorem settle_tradeId {calculator : StandardSettlementCalculator} {request : SettlementRequest}
    {result : SettlementResult} (returned : calculator.settle request = .ok result) :
    result.tradeId = request.tradeId := by
  cases measured : request.actual.quantityKwh with
  | none =>
      rw [settle_unmeasured measured returned]
      rfl
  | some actual =>
      obtain ⟨_, _, accounted⟩ := settle_measured measured returned
      exact accounted.tradeId

/-! ## Figures that 28 digits hold -/

/-- No figure of a measured settlement comes near the digits that are refused. -/
structure Held (calculator : StandardSettlementCalculator) (request : SettlementRequest)
    (actual : ℚ) : Prop where
  committedKwh : request.committedQuantityKwh ≤ 10 ^ 23
  actualKwh : actual ≤ 10 ^ 23
  deviation : |contextRound ((actual - request.committedQuantityKwh) /
    request.committedQuantityKwh) * 100| ≤ 10 ^ 23
  value : request.committedQuantityKwh * request.effectivePrice.priceInrPerKwh ≤ 10 ^ 25
  charge : contextRound (request.committedQuantityKwh * request.effectivePrice.priceInrPerKwh) *
    calculator.policy.balancingPriceMultiplier ≤ 10 ^ 25
  price : request.effectivePrice.priceInrPerKwh *
    calculator.policy.balancingPriceMultiplier ≤ 10 ^ 25

section

variable {calculator : StandardSettlementCalculator} {request : SettlementRequest} {actual : ℚ}

theorem quantizeEnergy_stored {value : ℚ} (stored : OnGrid energyPlaces value)
    (small : |value| < 10 ^ 24) : quantizeEnergy value = .ok value := by
  refine quantized_eq_ok_iff.mpr ⟨small, ?_⟩
  rw [quantize_of_onGrid halfUp stored]

private theorem Held.compare (held : Held calculator request actual)
    (committedPositive : 0 < request.committedQuantityKwh)
    (committedStored : OnGrid energyPlaces request.committedQuantityKwh)
    (actualNonneg : 0 ≤ actual) (actualStored : OnGrid energyPlaces actual) :
    ∃ figures, compare calculator.policy request.committedQuantityKwh actual = .ok figures := by
  have far : |actual - request.committedQuantityKwh| ≤ 10 ^ 23 := by
    rw [abs_le]
    constructor
    · linarith [held.committedKwh]
    · linarith [held.actualKwh]
  have exact : contextRound (actual - request.committedQuantityKwh) =
      actual - request.committedQuantityKwh :=
    contextRound_of_onGrid (by decide) (actualStored.sub committedStored)
      (far.trans_lt (by norm_num [energyPlaces]))
  have deviation : quantizeEnergy (contextRound (actual - request.committedQuantityKwh)) =
      .ok (actual - request.committedQuantityKwh) := by
    rw [exact]
    exact quantizeEnergy_stored (actualStored.sub committedStored) (far.trans_lt (by norm_num))
  have balancing : ∃ balancing, quantizeEnergy
      (max (contextRound (request.committedQuantityKwh - actual)) 0) = .ok balancing := by
    rw [← neg_sub, contextRound_neg, exact]
    refine ⟨_, quantizeEnergy_stored
      ((actualStored.sub committedStored).neg.max OnGrid.zero) ?_⟩
    rw [abs_of_nonneg (le_max_right _ _)]
    refine max_lt ?_ (by norm_num)
    linarith [(abs_le.mp far).1, show (10 : ℚ) ^ 23 < 10 ^ 24 by norm_num]
  obtain ⟨balanced, isBalanced⟩ := balancing
  unfold Settlement.compare
  rw [deviation, ok_bind, if_pos committedPositive]
  have percentage := @quantized_of_le halfUp _ energyPlaces 23 held.deviation (by decide)
  rw [quantizeEnergy, percentage]
  dsimp only
  split
  · exact ⟨_, rfl⟩
  · rw [isBalanced]
    exact ⟨_, rfl⟩

/-- Rounding to paise is not refused up to `10 ^ 25`. -/
private theorem quantizeAmount_contextRound {value : ℚ} (within : |value| ≤ 10 ^ 25) :
    quantizeAmount (contextRound value) = .ok (amountOf (contextRound value)) :=
  quantized_of_le within (by decide)

private theorem amountOf_bounds {value : ℚ} (nonneg : 0 ≤ value) (within : value ≤ 10 ^ 25) :
    0 ≤ amountOf (contextRound value) ∧ amountOf (contextRound value) ≤ 10 ^ 25 :=
  ⟨quantize_nonneg halfUp (contextRound_nonneg nonneg),
    quantize_le halfUp (pow_onGrid _ _) (contextRound_le_pow within)⟩

/-- A share of an amount in paise, rounded to paise, is no more than the amount. -/
private theorem amountOf_le {share amount : ℚ} (below : share ≤ amount)
    (onGrid : OnGrid amountPlaces amount) (nonneg : 0 ≤ amount) (within : amount ≤ 10 ^ 25) :
    amountOf (contextRound share) ≤ amount := by
  apply quantize_le halfUp onGrid
  have rounded := contextRound_mono below
  rwa [contextRound_of_onGrid (by decide) onGrid
    ((abs_of_nonneg nonneg).trans_lt (within.trans_lt (by norm_num [amountPlaces])))] at rounded

/-- What is left of an amount after two others stays within `10 ^ 25`. -/
private theorem abs_credit_le {gross fee charge : ℚ} (grossWithin : gross ≤ 10 ^ 25)
    (feeNonneg : 0 ≤ fee) (feeWithin : fee ≤ gross) (chargeNonneg : 0 ≤ charge)
    (chargeWithin : charge ≤ 10 ^ 25) : |contextRound (gross - fee) - charge| ≤ 10 ^ 25 := by
  have leftNonneg := contextRound_nonneg (sub_nonneg.mpr feeWithin)
  have leftWithin := @contextRound_le_pow _ 25 ((sub_le_self gross feeNonneg).trans grossWithin)
  rw [abs_le]
  constructor
  · linarith
  · linarith

private theorem Held.lines (held : Held calculator request actual) (outcome : ReconciliationOutcome)
    (priceNonneg : 0 ≤ request.effectivePrice.priceInrPerKwh) (gross fee charge : ℚ) :
    ∃ lines, calculator.lines outcome request.effectivePrice.priceInrPerKwh gross fee charge =
      .ok lines := by
  have priced := mul_nonneg priceNonneg calculator.policy.multiplier
  have within := (abs_of_nonneg priced).trans_le held.price
  unfold StandardSettlementCalculator.lines
  dsimp only
  split
  · rw [contextResult_of_le within (by norm_num), ok_bind, quantizeAmount_contextRound within]
    exact ⟨_, rfl⟩
  · exact ⟨_, rfl⟩

/-- Amounts up to `10 ^ 25` are accounted for. -/
theorem Held.account (held : Held calculator request actual) {outcome : ReconciliationOutcome}
    {settled : ℚ} (priceNonneg : 0 ≤ request.effectivePrice.priceInrPerKwh)
    (settledNonneg : 0 ≤ settled) (settledWithin : settled ≤ request.committedQuantityKwh)
    (balancingNonneg : 0 ≤ outcome.balancingKwh)
    (balancingWithin : outcome.balancingKwh ≤ request.committedQuantityKwh) :
    ∃ result, calculator.account request outcome request.effectivePrice.priceInrPerKwh settled =
      .ok result := by
  let price := request.effectivePrice.priceInrPerKwh
  have valued : ∀ {quantity : ℚ}, 0 ≤ quantity → quantity ≤ request.committedQuantityKwh →
      0 ≤ quantity * price ∧ quantity * price ≤ request.committedQuantityKwh * price :=
    fun nonneg within =>
      ⟨mul_nonneg nonneg priceNonneg, mul_le_mul_of_nonneg_right within priceNonneg⟩
  obtain ⟨productNonneg, productWithin⟩ := valued settledNonneg settledWithin
  have product := (abs_of_nonneg productNonneg).trans_le (productWithin.trans held.value)
  obtain ⟨grossNonneg, grossWithin⟩ :=
    amountOf_bounds productNonneg (productWithin.trans held.value)
  -- the fee is a share of the gross amount
  have feeNonneg := mul_nonneg grossNonneg calculator.policy.fee.1
  have feeBelow := mul_le_of_le_one_right grossNonneg calculator.policy.fee.2.le
  have fee := (abs_of_nonneg feeNonneg).trans_le (feeBelow.trans grossWithin)
  have feePaise := amountOf_bounds feeNonneg (feeBelow.trans grossWithin)
  have feeWithin := amountOf_le feeBelow (amountOf_onGrid _) grossNonneg grossWithin
  -- the charge is at most that of the whole commitment
  obtain ⟨balancedNonneg, balancedWithin⟩ := valued balancingNonneg balancingWithin
  have balanced := (abs_of_nonneg balancedNonneg).trans_le (balancedWithin.trans held.value)
  have chargeNonneg := mul_nonneg (contextRound_nonneg balancedNonneg) calculator.policy.multiplier
  have chargeWithin := (mul_le_mul_of_nonneg_right (contextRound_mono balancedWithin)
    calculator.policy.multiplier).trans held.charge
  have charge := (abs_of_nonneg chargeNonneg).trans_le chargeWithin
  have chargePaise := amountOf_bounds chargeNonneg chargeWithin
  have credit := abs_credit_le grossWithin feePaise.1 feeWithin chargePaise.1 chargePaise.2
  obtain ⟨lines, isLines⟩ := held.lines outcome priceNonneg _ _ _
  unfold StandardSettlementCalculator.account
  rw [contextResult_of_le product (by norm_num), ok_bind, quantizeAmount_contextRound product,
    ok_bind, quantizeAmount_contextRound fee, ok_bind, contextResult_of_le balanced (by norm_num),
    ok_bind, contextResult_of_le charge (by norm_num), ok_bind,
    quantizeAmount_contextRound charge, ok_bind, quantizeAmount_contextRound credit, ok_bind,
    isLines]
  exact ⟨_, rfl⟩

/-- A settlement whose figures are held is returned. -/
theorem Held.settle (held : Held calculator request actual)
    (measured : request.actual.quantityKwh = some actual)
    (committedPositive : 0 < request.committedQuantityKwh)
    (committedStored : OnGrid energyPlaces request.committedQuantityKwh)
    (actualNonneg : 0 ≤ actual) (actualStored : OnGrid energyPlaces actual)
    (priceNonneg : 0 ≤ request.effectivePrice.priceInrPerKwh) :
    ∃ result, calculator.settle request = .ok result := by
  have below : ∀ {value : ℚ}, 0 ≤ value → value ≤ 10 ^ 23 → |value| < 10 ^ 24 :=
    fun nonneg within => (abs_of_nonneg nonneg).trans_lt (within.trans_lt (by norm_num))
  obtain ⟨figures, isCompared⟩ :=
    held.compare committedPositive committedStored actualNonneg actualStored
  have compared := compare_ok committedStored actualStored isCompared
  have together := compared.settled_add_balancing_le
  have settledNonneg := le_min committedPositive.le actualNonneg
  unfold StandardSettlementCalculator.settle reconcile
  rw [measured, quantizeEnergy_stored committedStored (below committedPositive.le held.committedKwh),
    ok_bind]
  dsimp only
  rw [quantizeEnergy_stored actualStored (below actualNonneg held.actualKwh), ok_bind, isCompared]
  apply held.account priceNonneg
  · rw [compared.isCommitted, compared.isActual]
    exact settledNonneg
  · rw [compared.isCommitted, compared.isActual]
    exact min_le_left _ _
  · exact compared.balancing_nonneg
  · show figures.balancing ≤ _
    linarith

end

end UrjaSetu.Domain.Policies.Settlement
