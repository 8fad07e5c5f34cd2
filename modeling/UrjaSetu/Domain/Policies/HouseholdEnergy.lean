import UrjaSetu.Db.Models.Workspace
import UrjaSetu.Domain.Policies.CommunityEnergy
import UrjaSetu.Library.Rounding

/-!
From the output of the physical models to the channels of a simulated interval:
the rounding and the scenarios of `app/domain/policies/household_energy.py` and
of `app/domain/policies/community_energy.py`.

The models are floating point; what they put out is any power that is not
negative, and is reckoned with exactly from there on.
-/

namespace UrjaSetu.Domain.Policies.HouseholdEnergy

open UrjaSetu.Db.Models UrjaSetu.Domain.Policies.CommunityEnergy UrjaSetu.Library.Rounding

/-- Solar power and load, as a physical model arrives at them. -/
structure ModelOutput where
  solar : ℚ
  load : ℚ
  solar_nonneg : 0 ≤ solar
  load_nonneg : 0 ≤ load

/-- `round(value, 4)`. -/
def round4 (value : ℚ) : ℚ := quantize halfEven 4 value

/-! ## The community profile -/

/-- What a scenario makes of the output of the model. -/
def scenarioSolar (scenario : Scenario) (solar : ℚ) : ℚ :=
  if scenario = .cloudy then solar * (28 / 100) else solar

def scenarioLoad (scenario : Scenario) (load : ℚ) : ℚ :=
  if scenario = .congestion then load + 65 else load

/-- `community_energy.profile`. -/
def communityInterval (output : ModelOutput) (scenario : Scenario) : IntervalData :=
  profile (round4 (scenarioSolar scenario output.solar)) (round4 (scenarioLoad scenario output.load))

/-! ## The household interval -/

/-- The powers of one sample. -/
structure Sample where
  generationKw : ℚ
  loadKw : ℚ
  gridImportKw : ℚ
  gridExportKw : ℚ
deriving DecidableEq, Repr

/-- `power`. -/
def power (output : ModelOutput) : Sample :=
  let generation := round4 output.solar
  let demand := round4 output.load
  { generationKw := generation
    loadKw := demand
    gridImportKw := round4 (max 0 (demand - generation))
    gridExportKw := round4 (max 0 (generation - demand)) }

/-- What a scenario makes of a sample. -/
def underScenario (scenario : Scenario) (sample : Sample) : Sample :=
  if scenario = .normal then sample
  else
    let generationKw := scenarioSolar scenario sample.generationKw
    let loadKw := scenarioLoad scenario sample.loadKw
    { generationKw, loadKw
      gridImportKw := max 0 (loadKw - generationKw)
      gridExportKw := max 0 (generationKw - loadKw) }

/-- The mean of a channel over the three samples, to four decimals. -/
def meanPower (channel : Sample → ℚ) (samples : Fin 3 → Sample) : ℚ :=
  quantize halfEven 4 ((∑ index, channel (samples index)) / 3)

/-- `household_energy.interval`. The mean of the import is replaced. -/
def householdInterval (outputs : Fin 3 → ModelOutput) (scenario : Scenario) : IntervalData :=
  let samples := fun index => underScenario scenario (power (outputs index))
  interval (meanPower Sample.generationKw samples) (meanPower Sample.loadKw samples)
    (meanPower Sample.gridExportKw samples)

end UrjaSetu.Domain.Policies.HouseholdEnergy
