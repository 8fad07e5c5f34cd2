import UrjaSetu.Domain.Policies.Settlement
import UrjaSetu.Library.Ties

/-!
Delivering more never pays less, while the fee leaves something of a paisa.

The gross amount, the fee and the balancing charge are each rounded on their own,
and the charge falls away at the edge of the tolerance. The fee is a product of at
most 28 digits: of a large amount and a fraction close to one, rounding it takes more
of a paisa than the fraction leaves.

Owns: that the buyer's debit is monotone in the measured delivery, when the seller's
credit is, and a policy under which it falls.
-/

namespace UrjaSetu.Domain.Policies.Settlement

open UrjaSetu.Domain UrjaSetu.Domain.Interfaces UrjaSetu.Library
open UrjaSetu.Library.Rounding UrjaSetu.Library.DecimalContext

/-! ## Rounding of a part -/

/-- Rounding half up moves a value by half a unit at most, and down by less. -/
theorem halfUp_near {value : ℚ} (nonneg : 0 ≤ value) :
    value - 1 / 2 < halfUp.toInt value ∧ (halfUp.toInt value : ℚ) ≤ value + 1 / 2 := by
  rw [halfUp_toInt nonneg]
  have below := Int.floor_le (value + 1 / 2)
  have above := Int.lt_floor_add_one (value + 1 / 2)
  constructor
  · linarith
  · exact below

/-- Where the parts of two whole amounts are no further apart than the amounts, what
is left of them after rounding keeps their order. -/
theorem sub_part_mono {less more : ℤ} {lessPart morePart : ℚ} (lessNonneg : 0 ≤ lessPart)
    (moreNonneg : 0 ≤ morePart) (apart : morePart - lessPart ≤ more - less) :
    less - halfUp.toInt lessPart ≤ more - halfUp.toInt morePart := by
  have lessNear := (halfUp_near lessNonneg).1
  have moreNear := (halfUp_near moreNonneg).2
  have parts : (halfUp.toInt morePart - halfUp.toInt lessPart : ℚ) < more - less + 1 := by linarith
  have whole : halfUp.toInt morePart - halfUp.toInt lessPart < more - less + 1 := by
    exact_mod_cast parts
  omega

/-- The fee on an amount, in the digits of the context. -/
theorem feePart_near {fraction amount bound : ℚ} (fractionNonneg : 0 ≤ fraction)
    (fractionBelow : fraction < 1) (amountNonneg : 0 ≤ amount) (within : amount ≤ bound)
    (normal : 1 / 10 ^ 1000 ≤ bound) :
    |contextRound (amount * fraction) - amount * fraction| ≤ bound / 10 ^ 27 / 2 :=
  abs_contextRound_sub_le_of_le (mul_nonneg amountNonneg fractionNonneg)
    ((mul_le_of_le_one_right amountNonneg fractionBelow.le).trans within) normal

/-- What is left of an amount in paise after a fee rounded to paise does not fall when
the amount grows, while the fraction leaves more than the digits of the fee lose. -/
theorem sub_fee_mono {fraction less more bound : ℚ} (fractionNonneg : 0 ≤ fraction)
    (fractionBelow : fraction < 1) (lessNonneg : 0 ≤ less) (lessPaise : OnGrid amountPlaces less)
    (morePaise : OnGrid amountPlaces more) (within : less ≤ more) (bounded : more ≤ bound)
    (room : bound ≤ (1 - fraction) * 10 ^ 25) :
    less - amountOf (contextRound (less * fraction)) ≤
      more - amountOf (contextRound (more * fraction)) := by
  have scale : (0 : ℚ) < 10 ^ amountPlaces := scale_pos amountPlaces
  have moreNonneg := lessNonneg.trans within
  obtain ⟨lessUnits, lessIs⟩ := lessPaise
  obtain ⟨moreUnits, moreIs⟩ := morePaise
  have units : lessUnits ≤ moreUnits := by
    have scaled := mul_le_mul_of_nonneg_right within scale.le
    rw [lessIs, moreIs] at scaled
    exact_mod_cast scaled
  rcases units.eq_or_lt with same | apart
  · have equal : less = more := by
      rw [← mul_left_inj' scale.ne', lessIs, moreIs, same]
    rw [equal]
  have grown : less + 1 / 100 ≤ more := by
    have step : (lessUnits : ℚ) + 1 ≤ moreUnits := by exact_mod_cast apart
    rw [← lessIs, ← moreIs] at step
    norm_num [amountPlaces] at step
    linarith
  have normal : (1 : ℚ) / 10 ^ 1000 ≤ bound := by
    have paisa : (1 : ℚ) / 10 ^ 2 ≤ bound := by linarith
    exact (one_div_pow_le_one_div_pow_of_le (by norm_num) (by norm_num)).trans paisa
  have lessFee := abs_le.mp
    (feePart_near fractionNonneg fractionBelow lessNonneg (within.trans bounded) normal)
  have moreFee := abs_le.mp
    (feePart_near fractionNonneg fractionBelow moreNonneg bounded normal)
  -- Between two paise the fraction leaves its room, and each fee loses half of it at most.
  have left : (1 - fraction) * (1 / 100) ≤ (1 - fraction) * (more - less) :=
    mul_le_mul_of_nonneg_left (by linarith) (by linarith)
  have parts : contextRound (more * fraction) * 10 ^ amountPlaces -
      contextRound (less * fraction) * 10 ^ amountPlaces ≤ (moreUnits : ℚ) - lessUnits := by
    rw [← lessIs, ← moreIs]
    norm_num [amountPlaces] at room ⊢
    linarith
  have rounded := @sub_part_mono lessUnits moreUnits _ _
    (mul_nonneg (contextRound_nonneg (mul_nonneg lessNonneg fractionNonneg)) scale.le)
    (mul_nonneg (contextRound_nonneg (mul_nonneg moreNonneg fractionNonneg)) scale.le) parts
  have inPaise : ∀ {value part : ℚ} {units : ℤ}, value * 10 ^ amountPlaces = units →
      value - amountOf part =
        ((units - halfUp.toInt (part * 10 ^ amountPlaces) : ℤ) : ℚ) / 10 ^ amountPlaces := by
    intro value part units isUnits
    unfold amountOf quantize
    rw [eq_div_iff scale.ne', sub_mul, isUnits, div_mul_cancel₀ _ scale.ne']
    push_cast
    rfl
  rw [inPaise lessIs, inPaise moreIs]
  apply div_le_div_of_nonneg_right _ scale.le
  exact_mod_cast rounded

/-! ## The comparison -/

/-- A larger delivery is not balanced for more: a shortfall within the tolerance
stays within it, and one beyond it shrinks. -/
theorem SoundComparison.balancing_antitone {policy : SettlementPolicy} {committed less more : ℚ}
    {lessFigures moreFigures : Comparison}
    (lessCompared : SoundComparison policy committed less lessFigures)
    (moreCompared : SoundComparison policy committed more moreFigures) (within : less ≤ more) :
    moreFigures.balancing ≤ lessFigures.balancing := by
  have shortfall : max (committed - more) 0 ≤ max (committed - less) 0 :=
    max_le_max_right 0 (sub_le_sub_left within committed)
  rw [moreCompared.balancing, lessCompared.balancing, moreCompared.within, lessCompared.within]
  by_cases lessWithin :
      |less - committed| ≤ contextRound (committed * policy.toleranceFraction)
  · rw [decide_eq_true lessWithin, if_pos rfl]
    split
    · exact le_rfl
    · rename_i moreOutside
      -- Beyond the tolerance from within it there is only more than was committed.
      have exceeding : committed ≤ more := by
        by_contra short
        apply moreOutside
        apply decide_eq_true
        rw [abs_of_neg (sub_neg.mpr (not_le.mp short))]
        have lower := (abs_le.mp lessWithin).1
        linarith
      rw [max_eq_right (sub_nonpos.mpr exceeding)]
  · rw [decide_eq_false lessWithin, if_neg Bool.false_ne_true]
    split
    · exact le_max_right _ _
    · exact shortfall

/-! ## The accounts -/

/-- What is paid for all of the commitment. -/
def fullAmount (request : SettlementRequest) : ℚ :=
  amountOf (contextRound
    (energyOf request.committedQuantityKwh * request.effectivePrice.priceInrPerKwh))

/-- For one commitment and price, a larger measured delivery never lowers the buyer's
debit, nor the seller's credit while the fee leaves `10 ^ -25` of the amount. -/
theorem settle_monotone (calculator : StandardSettlementCalculator) (request : SettlementRequest)
    (committedPositive : 0 < request.committedQuantityKwh)
    (priceNonneg : 0 ≤ request.effectivePrice.priceInrPerKwh)
    (lessActual moreActual : ActualEnergy) {less more : ℚ}
    (lessMeasured : lessActual.quantityKwh = some less)
    (moreMeasured : moreActual.quantityKwh = some more) (lessNonneg : 0 ≤ less)
    (within : less ≤ more) {lessResult moreResult : SettlementResult}
    (lessSettled : calculator.settle { request with actual := lessActual } = .ok lessResult)
    (moreSettled : calculator.settle { request with actual := moreActual } = .ok moreResult) :
    lessResult.buyerDebitInr ≤ moreResult.buyerDebitInr ∧
      (fullAmount request ≤ (1 - calculator.policy.platformFeeFraction) * 10 ^ 25 →
        lessResult.sellerCreditInr ≤ moreResult.sellerCreditInr) := by
  obtain ⟨lessFigures, lessCompared, less_⟩ := settle_measured lessMeasured lessSettled
  obtain ⟨moreFigures, moreCompared, more_⟩ := settle_measured moreMeasured moreSettled
  have energy : energyOf less ≤ energyOf more := quantize_mono halfUp within
  have settledNonneg :
      0 ≤ min (energyOf request.committedQuantityKwh) (energyOf less) :=
    le_min (quantize_nonneg halfUp committedPositive.le) (quantize_nonneg halfUp lessNonneg)
  have gross : lessResult.grossAmountInr ≤ moreResult.grossAmountInr := by
    rw [less_.gross, more_.gross]
    apply quantize_mono halfUp
    apply contextRound_mono
    exact mul_le_mul_of_nonneg_right (min_le_min_left _ energy) priceNonneg
  refine ⟨by rw [less_.debit, more_.debit]; exact gross, ?_⟩
  intro room
  have grossNonneg := less_.gross_nonneg priceNonneg settledNonneg
  have bounded : moreResult.grossAmountInr ≤ fullAmount request := by
    rw [more_.gross]
    apply quantize_mono halfUp
    apply contextRound_mono
    exact mul_le_mul_of_nonneg_right (min_le_left _ _) priceNonneg
  have kept : lessResult.grossAmountInr - lessResult.platformFeeInr ≤
      moreResult.grossAmountInr - moreResult.platformFeeInr := by
    rw [less_.fee, more_.fee]
    exact sub_fee_mono calculator.policy.fee.1 calculator.policy.fee.2 grossNonneg
      less_.gross_onGrid more_.gross_onGrid gross bounded room
  have charged : moreResult.balancingChargeInr ≤ lessResult.balancingChargeInr := by
    rw [less_.charge, more_.charge]
    apply quantize_mono halfUp
    apply contextRound_mono
    apply mul_le_mul_of_nonneg_right _ calculator.policy.multiplier
    apply contextRound_mono
    exact mul_le_mul_of_nonneg_right (lessCompared.balancing_antitone moreCompared energy)
      priceNonneg
  rw [less_.credit_eq grossNonneg, more_.credit_eq (grossNonneg.trans gross)]
  exact sub_le_sub kept charged

/-! ## A fee that takes more than the paisa -/

/-- What a meter measured of an hour. -/
def hourMeasured (quantityKwh : ℚ) : ActualEnergy where
  windowStart := 0
  windowEnd := 3600000000
  quantityKwh := some quantityKwh
  readingCount := 1

/-- An hour of which `quantityKwh` were measured. -/
def hourRequest (committed price quantityKwh : ℚ) : SettlementRequest where
  tradeId := 41
  buyerUserId := 12
  sellerUserId := 11
  committedQuantityKwh := committed
  effectivePrice := { priceInrPerKwh := price }
  deliveryStart := 0
  deliveryEnd := 3600000000
  actual := hourMeasured quantityKwh

/-- A kilowatt-hour at 5 INR, and deliveries on both sides of the tolerance. -/
theorem settle_monotone_sample :
    ∃ short close,
      ({} : StandardSettlementCalculator).settle (hourRequest 1 5 (94 / 100)) = .ok short ∧
      ({} : StandardSettlementCalculator).settle (hourRequest 1 5 (96 / 100)) = .ok close ∧
      short.buyerDebitInr ≤ close.buyerDebitInr ∧ short.sellerCreditInr ≤ close.sellerCreditInr := by
  obtain ⟨short, isShort⟩ := @Held.settle {} (hourRequest 1 5 (94 / 100)) (94 / 100)
    (by constructor <;> decide +kernel) rfl (by norm_num [hourRequest]) (by decide +kernel)
    (by norm_num) (by decide +kernel) (by norm_num [hourRequest])
  obtain ⟨close, isClose⟩ := @Held.settle {} (hourRequest 1 5 (96 / 100)) (96 / 100)
    (by constructor <;> decide +kernel) rfl (by norm_num [hourRequest]) (by decide +kernel)
    (by norm_num) (by decide +kernel) (by norm_num [hourRequest])
  have ordered := settle_monotone {} (hourRequest 1 5 0) (by norm_num [hourRequest])
    (by norm_num [hourRequest]) (hourMeasured (94 / 100)) (hourMeasured (96 / 100)) rfl rfl
    (by norm_num) (by norm_num) isShort isClose
  exact ⟨short, close, isShort, isClose, ordered.1, ordered.2 (by decide +kernel)⟩

/-- A fraction of 15 nines, of which 0.000000000000015 are left. -/
def nearlyAll : SettlementPolicy := { defaultPolicy with
  platformFeeFraction := 999999999999985 / 10 ^ 15
  fee := by norm_num }

/-- At 150 INR a kilowatt-hour, of nearly seven billion, the last 0.0001 kWh delivered
costs the seller a paisa. -/
theorem settle_not_monotone :
    ((({ policy := nearlyAll } : StandardSettlementCalculator).settle
        (hourRequest (66666666666668 / 10000) 150 (66666666666667 / 10000))).toOption.map
          SettlementResult.sellerCreditInr) = some (2 / 100) ∧
      ((({ policy := nearlyAll } : StandardSettlementCalculator).settle
        (hourRequest (66666666666668 / 10000) 150 (66666666666668 / 10000))).toOption.map
          SettlementResult.sellerCreditInr) = some (1 / 100) := by
  decide +kernel

end UrjaSetu.Domain.Policies.Settlement
