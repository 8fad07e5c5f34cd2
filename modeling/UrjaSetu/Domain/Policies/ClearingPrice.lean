import UrjaSetu.Library.Rounding
import UrjaSetu.Domain.Interfaces.Market

/-!
The market clearing price of `app/domain/policies/clearing_price.py`: the
midpoint of the two limits, rounded half-up to the stored precision.

A sum and a quotient are rounded by a parameter, which is the identity for exact
arithmetic and `contextRound` for that of the decimal context.

Owns: the price rule, and that the rounded midpoint stays inside the limits
whenever both limits are storable prices.
-/

namespace UrjaSetu.Domain.Policies.ClearingPrice

open UrjaSetu.Library.Rounding

/-- Decimals of a stored price, `PRICE_QUANTUM = 0.0001`. -/
def pricePlaces : ℕ := 4

/-- The two orders do not overlap in price, so there is no trade to price. -/
structure PriceCrossError where
  sellMinInrPerKwh : ℚ
  buyMaxInrPerKwh : ℚ
deriving DecidableEq, Repr

/-- Round a price to the stored precision, half-up. -/
def quantizePrice (value : ℚ) : ℚ := quantize halfUp pricePlaces value

/-- Split the surplus between the two parties. -/
def midpointClearingPrice (round : ℚ → ℚ) (buyMaxInrPerKwh sellMinInrPerKwh : ℚ) :
    Except PriceCrossError ℚ :=
  if buyMaxInrPerKwh < sellMinInrPerKwh then
    .error ⟨sellMinInrPerKwh, buyMaxInrPerKwh⟩
  else
    .ok (quantizePrice (round (round (buyMaxInrPerKwh + sellMinInrPerKwh) / 2)))

/-- Whether a buy and a sell overlap in price at all. A missing bound never
crosses. -/
def pricesCross (buyMaxInrPerKwh sellMinInrPerKwh : Option ℚ) : Bool :=
  match buyMaxInrPerKwh, sellMinInrPerKwh with
  | some buyMax, some sellMin => sellMin ≤ buyMax
  | _, _ => false

theorem pricesCross_iff {buyMax sellMin : Option ℚ} :
    pricesCross buyMax sellMin = true ↔
      ∃ ceiling floor, buyMax = some ceiling ∧ sellMin = some floor ∧ floor ≤ ceiling := by
  unfold pricesCross
  split
  · simp
  · rename_i missing
    constructor
    · intro absurdity
      cases absurdity
    · rintro ⟨ceiling, floor, buyEq, sellEq, _⟩
      exact absurd sellEq (missing ceiling floor buyEq)

/-- The rounded midpoint of two storable limits lies between them: the midpoint
is at most half a quantum off the grid, and the limits are on it. -/
theorem quantizePrice_midpoint_mem {ceiling floor : ℚ} (ceilingStored : OnGrid pricePlaces ceiling)
    (floorStored : OnGrid pricePlaces floor) (cross : floor ≤ ceiling) :
    floor ≤ quantizePrice ((ceiling + floor) / 2) ∧
      quantizePrice ((ceiling + floor) / 2) ≤ ceiling := by
  constructor
  · exact le_quantize halfUp floorStored (by linarith)
  · exact quantize_le halfUp ceilingStored (by linarith)

end UrjaSetu.Domain.Policies.ClearingPrice
