import UrjaSetu.Domain.Policies.DynamicPricing

/-!
Which tariff band a time component is taken from.

The hour is classified first, and the fraction is looked up by the name of the
band. Names are distinct, so that within a window the two searches agree. Outside
every window the name is `NORMAL`, which a declared band may have too.

Owns: the band of an hour, and when the component outside every window is zero.
-/

namespace UrjaSetu.Domain.Policies.DynamicPricing

open UrjaSetu.Domain UrjaSetu.Domain.Interfaces

/-- The first declared band whose window contains the local start hour. -/
def bandAt (parameters : PricingParameters) (deliveryStart : Instant) : Option TariffBand :=
  parameters.tariffBands.find? fun tariff =>
    tariff.contains (localHour deliveryStart parameters.localUtcOffset)

/-- The time component is that of the band of the hour, and zero outside every
window. -/
def TimeOfBand (request : PricingRequest) (parameters : PricingParameters) : Prop :=
  match bandAt parameters request.deliveryStart with
  | some tariff => timeComponent request parameters = share request tariff.fraction
  | none => timeComponent request parameters = .ok 0

/-- Outside every window no declared band has the name of the fallback, unless its
share is nothing. -/
def FallbackIsFree (request : PricingRequest) (parameters : PricingParameters) : Prop :=
  (∃ tariff ∈ parameters.tariffBands,
      tariff.contains (localHour request.deliveryStart parameters.localUtcOffset) = true) ∨
    ∀ tariff ∈ parameters.tariffBands, tariff.band = .normal → share request tariff.fraction = .ok 0

variable {parameters : PricingParameters} {request : PricingRequest} {tariff : TariffBand}

/-- A declared band is what its name is looked up as. -/
theorem find?_band (distinct : (parameters.tariffBands.map TariffBand.band).Nodup)
    (declared : tariff ∈ parameters.tariffBands) :
    (parameters.tariffBands.find? fun other => other.band = tariff.band) = some tariff := by
  cases found : parameters.tariffBands.find? fun other => other.band = tariff.band with
  | none =>
      have unnamed := List.find?_eq_none.mp found tariff declared
      exact absurd (decide_eq_true rfl) unnamed
  | some other =>
      have sameName : other.band = tariff.band := by simpa using List.find?_some found
      rw [List.inj_on_of_nodup_map distinct (List.mem_of_find?_eq_some found) declared sameName]

/-- Within a window the component is the share of its band. -/
theorem timeComponent_of_bandAt (distinct : (parameters.tariffBands.map TariffBand.band).Nodup)
    (inWindow : bandAt parameters request.deliveryStart = some tariff) :
    timeComponent request parameters = share request tariff.fraction := by
  have declared := List.mem_of_find?_eq_some inWindow
  have classified : bandFor parameters request.deliveryStart = tariff.band := by
    unfold bandAt at inWindow
    unfold bandFor
    rw [inWindow]
  rw [timeComponent, classified, fractionOf, find?_band distinct declared]
  rfl

private theorem share_zero (request : PricingRequest) : share request 0 = .ok 0 := by
  rw [share, mul_zero]
  decide +kernel

/-- Outside every window it is the share of the band that is declared under the
fallback's name. -/
theorem timeComponent_of_outside (outside : bandAt parameters request.deliveryStart = none) :
    timeComponent request parameters =
      share request (fractionOf parameters .normal) := by
  have classified : bandFor parameters request.deliveryStart = .normal := by
    unfold bandAt at outside
    unfold bandFor
    rw [outside]
  rw [timeComponent, classified]

/-- A band under the fallback's name, in force in the morning. -/
def normalMorning : AcceptedParameters :=
  ⟨{ tariffBands := [⟨.normal, 6, 9, 1 / 10⟩] }, by decide +kernel⟩

/-- A delivery at 22:00 local time, in no window. -/
def nightRequest : PricingRequest where
  basePriceInrPerKwh := 5
  quantityKwh := 1
  deliveryStart := 59400000000
  deliveryEnd := 60300000000

end UrjaSetu.Domain.Policies.DynamicPricing
