import UrjaSetu.Domain.Policies.HouseholdEnergy
import UrjaSetu.Services.WorkspaceService.Delivery

/-!
The energy balance of a simulated interval as its row holds it.

The powers of an interval balance to four decimals. The energies are quarters of
them, with up to six decimals, and every column rounds its own.

Owns: that no stored channel is negative, and exactly when what the four columns
round away cancels.
-/

namespace UrjaSetu.Services.WorkspaceService

open UrjaSetu.Domain UrjaSetu.Db.Models UrjaSetu.Domain.Policies.CommunityEnergy
open UrjaSetu.Domain.Policies.HouseholdEnergy UrjaSetu.Library.Rounding

/-- What is generated and imported is used and exported. -/
def Conserves (reading : TelemetryReading) : Prop :=
  ∃ generation gridImport load gridExport, reading.generationKwh = some generation ∧
    reading.gridImportKwh = some gridImport ∧ reading.loadKwh = some load ∧
    reading.gridExportKwh = some gridExport ∧ generation + gridImport = load + gridExport

/-- The channels of power and energy. -/
def flowChannels (reading : TelemetryReading) : List (Option ℚ) :=
  [reading.generationKw, reading.loadKw, reading.gridImportKw, reading.gridExportKw,
    reading.energyKwh, reading.generationKwh, reading.loadKwh, reading.gridImportKwh,
    reading.gridExportKwh]

def FlowsNonneg (reading : TelemetryReading) : Prop :=
  ∀ channel ∈ flowChannels reading, ∀ value ∈ channel, 0 ≤ value

/-- The row of an interval in its columns. -/
def storedInterval (id meterId : UUID) (moment : Instant) (data : IntervalData) : TelemetryReading :=
  (simulatedReading id meterId moment data).asStored

/-- Powers in ten-thousandths of a kilowatt leave the same when each is rounded to
a multiple of four of them, from the middle upwards. -/
def QuartersCancel (generation gridImport load gridExport : ℤ) : Prop :=
  (generation + 2) % 4 + (gridImport + 2) % 4 = (load + 2) % 4 + (gridExport + 2) % 4

instance (generation gridImport load gridExport : ℤ) :
    Decidable (QuartersCancel generation gridImport load gridExport) :=
  inferInstanceAs (Decidable (_ = _))

/-- The energy of a quarter of an hour, in its column. -/
theorem numeric4_quarter {units : ℤ} (nonneg : 0 ≤ units) :
    numeric4 ((units : ℚ) / 10 ^ 4 / 4) = ((units + 2) / 4 : ℤ) / 10 ^ 4 := by
  have scaled : (units : ℚ) / 10 ^ 4 / 4 * 10 ^ 4 = units / 4 := by ring
  have quarterNonneg : (0 : ℚ) ≤ units / 4 := by
    have cast : (0 : ℚ) ≤ units := by exact_mod_cast nonneg
    positivity
  have middle : (units : ℚ) / 4 + 1 / 2 = ((units + 2 : ℤ) : ℚ) / (4 : ℕ) := by
    push_cast
    ring
  unfold numeric4 quantize
  rw [scaled]
  change ((awayFromSign (fun value => ⌊value + 1 / 2⌋) ((units : ℚ) / 4) : ℤ) : ℚ) / 10 ^ 4 = _
  rw [awayFromSign, if_pos quarterNonneg, middle, Rat.floor_intCast_div_natCast]
  rfl

section Units

variable {generation load gridImport gridExport : ℤ} {id meterId : UUID} {moment : Instant}

/-- Powers that balance give stored energies that balance exactly where what the
columns round away cancels. -/
theorem conserves_quarterHour_iff (generationNonneg : 0 ≤ generation) (loadNonneg : 0 ≤ load)
    (importNonneg : 0 ≤ gridImport) (exportNonneg : 0 ≤ gridExport)
    (balance : generation + gridImport = load + gridExport) :
    Conserves (storedInterval id meterId moment (quarterHour (generation / 10 ^ 4) (load / 10 ^ 4)
      (gridImport / 10 ^ 4) (gridExport / 10 ^ 4))) ↔
      QuartersCancel generation gridImport load gridExport := by
  have energies : Conserves (storedInterval id meterId moment (quarterHour (generation / 10 ^ 4)
      (load / 10 ^ 4) (gridImport / 10 ^ 4) (gridExport / 10 ^ 4))) ↔
      numeric4 ((generation : ℚ) / 10 ^ 4 / 4) + numeric4 ((gridImport : ℚ) / 10 ^ 4 / 4) =
        numeric4 ((load : ℚ) / 10 ^ 4 / 4) + numeric4 ((gridExport : ℚ) / 10 ^ 4 / 4) := by
    constructor
    · rintro ⟨_, _, _, _, isGeneration, isImport, isLoad, isExport, same⟩
      rw [← Option.some.inj isGeneration, ← Option.some.inj isImport, ← Option.some.inj isLoad,
        ← Option.some.inj isExport] at same
      exact same
    · intro same
      exact ⟨_, _, _, _, rfl, rfl, rfl, rfl, same⟩
  rw [energies, numeric4_quarter generationNonneg, numeric4_quarter importNonneg,
    numeric4_quarter loadNonneg, numeric4_quarter exportNonneg, ← add_div, ← add_div,
    div_left_inj' (by norm_num), ← Int.cast_add, ← Int.cast_add, Int.cast_inj]
  unfold QuartersCancel
  omega

private theorem storedInterval_nonneg (generationNonneg : 0 ≤ generation) (loadNonneg : 0 ≤ load)
    (importNonneg : 0 ≤ gridImport) (exportNonneg : 0 ≤ gridExport) :
    FlowsNonneg (storedInterval id meterId moment (quarterHour (generation / 10 ^ 4)
      (load / 10 ^ 4) (gridImport / 10 ^ 4) (gridExport / 10 ^ 4))) := by
  have power : ∀ {units : ℤ}, 0 ≤ units → 0 ≤ numeric4 ((units : ℚ) / 10 ^ 4) := by
    intro units nonneg
    have cast : (0 : ℚ) ≤ units := by exact_mod_cast nonneg
    exact quantize_nonneg halfUp (by positivity)
  have energy : ∀ {units : ℤ}, 0 ≤ units → 0 ≤ numeric4 ((units : ℚ) / 10 ^ 4 / 4) := by
    intro units nonneg
    have cast : (0 : ℚ) ≤ units := by exact_mod_cast nonneg
    exact quantize_nonneg halfUp (by positivity)
  intro channel listed value isValue
  simp only [flowChannels, storedInterval, simulatedReading, TelemetryReading.asStored, quarterHour,
    Option.map_some, List.mem_cons, List.not_mem_nil, or_false] at listed
  rcases listed with rfl | rfl | rfl | rfl | rfl | rfl | rfl | rfl | rfl
  all_goals rw [← Option.mem_some.mp isValue]
  · exact power generationNonneg
  · exact power loadNonneg
  · exact power importNonneg
  · exact power exportNonneg
  · exact energy loadNonneg
  · exact energy generationNonneg
  · exact energy loadNonneg
  · exact energy importNonneg
  · exact energy exportNonneg

end Units

/-! ## Rounded powers -/

/-- A power in ten-thousandths of a kilowatt, ties to the even one. -/
def units (value : ℚ) : ℤ := halfEvenInt (value * 10 ^ 4)

private theorem quantize_eq_units (value : ℚ) :
    quantize halfEven 4 value = units value / 10 ^ 4 := rfl

private theorem units_nonneg {value : ℚ} (nonneg : 0 ≤ value) : 0 ≤ units value := by
  have scaled : (0 : ℚ) ≤ value * 10 ^ 4 := by positivity
  calc (0 : ℤ) = halfEvenInt ((0 : ℤ) : ℚ) := (halfEven.exact 0).symm
    _ = halfEvenInt 0 := by rw [Int.cast_zero]
    _ ≤ units value := halfEvenInt_monotone scaled

private theorem surplus_units (left right : ℤ) : max ((left : ℚ) / 10 ^ 4 - right / 10 ^ 4) 0 =
    ((max (left - right) 0 : ℤ) : ℚ) / 10 ^ 4 := by
  rw [← sub_div, Int.cast_max, Int.cast_sub, Int.cast_zero,
    ← max_div_div_right (by norm_num : (0 : ℚ) ≤ 10 ^ 4), zero_div]

private theorem scenarioSolar_nonneg {solar : ℚ} (scenario : Scenario) (nonneg : 0 ≤ solar) :
    0 ≤ scenarioSolar scenario solar := by
  unfold scenarioSolar
  split_ifs
  · positivity
  · exact nonneg

private theorem scenarioLoad_nonneg {load : ℚ} (scenario : Scenario) (nonneg : 0 ≤ load) :
    0 ≤ scenarioLoad scenario load := by
  unfold scenarioLoad
  split_ifs
  · positivity
  · exact nonneg

/-! ## Community intervals -/

/-- What the columns round away of a community interval cancels. -/
def CommunityCancels (output : ModelOutput) (scenario : Scenario) : Prop :=
  let generation := units (scenarioSolar scenario output.solar)
  let load := units (scenarioLoad scenario output.load)
  QuartersCancel generation (max (load - generation) 0) load (max (generation - load) 0)

private theorem communityInterval_conserves_iff (id meterId : UUID) (moment : Instant)
    (output : ModelOutput) (scenario : Scenario) :
    Conserves (storedInterval id meterId moment (communityInterval output scenario)) ∧
      FlowsNonneg (storedInterval id meterId moment (communityInterval output scenario)) ↔
        CommunityCancels output scenario := by
  have generationNonneg := units_nonneg (scenarioSolar_nonneg scenario output.solar_nonneg)
  have loadNonneg := units_nonneg (scenarioLoad_nonneg scenario output.load_nonneg)
  unfold CommunityCancels communityInterval profile round4
  rw [quantize_eq_units, quantize_eq_units, surplus_units, surplus_units]
  generalize units (scenarioSolar scenario output.solar) = generation at generationNonneg ⊢
  generalize units (scenarioLoad scenario output.load) = load at loadNonneg ⊢
  have importNonneg : 0 ≤ max (load - generation) 0 := le_max_right _ _
  have exportNonneg : 0 ≤ max (generation - load) 0 := le_max_right _ _
  have balance : generation + max (load - generation) 0 = load + max (generation - load) 0 := by
    omega
  rw [conserves_quarterHour_iff generationNonneg loadNonneg importNonneg exportNonneg balance,
    and_iff_left]
  exact storedInterval_nonneg generationNonneg loadNonneg importNonneg exportNonneg

/-! ## Household intervals -/

/-- The mean of a channel over the samples of a household interval. -/
def meanUnits (outputs : Fin 3 → ModelOutput) (scenario : Scenario) (channel : Sample → ℚ) : ℤ :=
  units ((∑ index, channel (underScenario scenario (power (outputs index)))) / 3)

/-- What the columns round away of a household interval cancels. -/
def HouseholdCancels (outputs : Fin 3 → ModelOutput) (scenario : Scenario) : Prop :=
  let generation := meanUnits outputs scenario Sample.generationKw
  let load := meanUnits outputs scenario Sample.loadKw
  let gridExport := max (max (meanUnits outputs scenario Sample.gridExportKw) (generation - load)) 0
  QuartersCancel generation (load + gridExport - generation) load gridExport

private theorem meanUnits_nonneg {outputs : Fin 3 → ModelOutput} {scenario : Scenario}
    {channel : Sample → ℚ}
    (nonneg : ∀ index, 0 ≤ channel (underScenario scenario (power (outputs index)))) :
    0 ≤ meanUnits outputs scenario channel :=
  units_nonneg (div_nonneg (Finset.sum_nonneg fun index _ => nonneg index) (by norm_num))

private theorem householdInterval_conserves_iff (id meterId : UUID) (moment : Instant)
    (outputs : Fin 3 → ModelOutput) (scenario : Scenario) :
    Conserves (storedInterval id meterId moment (householdInterval outputs scenario)) ∧
      FlowsNonneg (storedInterval id meterId moment (householdInterval outputs scenario)) ↔
        HouseholdCancels outputs scenario := by
  have generationNonneg : 0 ≤ meanUnits outputs scenario Sample.generationKw := by
    apply meanUnits_nonneg
    intro index
    have rounded := @quantize_nonneg halfEven 4 _ (outputs index).solar_nonneg
    unfold underScenario
    split_ifs
    · exact rounded
    · exact scenarioSolar_nonneg scenario rounded
  have loadNonneg : 0 ≤ meanUnits outputs scenario Sample.loadKw := by
    apply meanUnits_nonneg
    intro index
    have rounded := @quantize_nonneg halfEven 4 _ (outputs index).load_nonneg
    unfold underScenario
    split_ifs
    · exact rounded
    · exact scenarioLoad_nonneg scenario rounded
  have powers : householdInterval outputs scenario =
      interval (meanUnits outputs scenario Sample.generationKw / 10 ^ 4)
        (meanUnits outputs scenario Sample.loadKw / 10 ^ 4)
        (meanUnits outputs scenario Sample.gridExportKw / 10 ^ 4) := rfl
  unfold HouseholdCancels
  rw [powers]
  generalize meanUnits outputs scenario Sample.generationKw = generation at generationNonneg ⊢
  generalize meanUnits outputs scenario Sample.loadKw = load at loadNonneg ⊢
  generalize meanUnits outputs scenario Sample.gridExportKw = meanExport
  dsimp only
  have exportNonneg : 0 ≤ max (max meanExport (generation - load)) 0 := le_max_right _ _
  have importNonneg : 0 ≤ load + max (max meanExport (generation - load)) 0 - generation := by
    omega
  have exportUnits : max (max ((meanExport : ℚ) / 10 ^ 4)
      ((generation : ℚ) / 10 ^ 4 - (load : ℚ) / 10 ^ 4)) 0 =
      ((max (max meanExport (generation - load)) 0 : ℤ) : ℚ) / 10 ^ 4 := by
    rw [← sub_div, Int.cast_max, Int.cast_max, Int.cast_sub, Int.cast_zero,
      ← max_div_div_right (by norm_num : (0 : ℚ) ≤ 10 ^ 4),
      ← max_div_div_right (by norm_num : (0 : ℚ) ≤ 10 ^ 4), zero_div]
  generalize max (max meanExport (generation - load)) 0 = gridExport at exportNonneg importNonneg exportUnits ⊢
  have importUnits : (load : ℚ) / 10 ^ 4 + gridExport / 10 ^ 4 - generation / 10 ^ 4 =
      ((load + gridExport - generation : ℤ) : ℚ) / 10 ^ 4 := by
    push_cast
    ring
  unfold interval
  dsimp only
  rw [exportUnits, importUnits, conserves_quarterHour_iff generationNonneg loadNonneg importNonneg
    exportNonneg (by omega), and_iff_left]
  exact storedInterval_nonneg generationNonneg loadNonneg importNonneg exportNonneg

/-- No stored channel of a simulated interval is negative, and the stored energies
balance exactly where what their columns round away cancels. -/
theorem storedInterval_conserves_iff (id meterId : UUID) (moment : Instant) (scenario : Scenario) :
    (∀ output : ModelOutput,
      Conserves (storedInterval id meterId moment (communityInterval output scenario)) ∧
        FlowsNonneg (storedInterval id meterId moment (communityInterval output scenario)) ↔
          CommunityCancels output scenario) ∧
      ∀ outputs : Fin 3 → ModelOutput,
        Conserves (storedInterval id meterId moment (householdInterval outputs scenario)) ∧
          FlowsNonneg (storedInterval id meterId moment (householdInterval outputs scenario)) ↔
            HouseholdCancels outputs scenario :=
  ⟨fun output => communityInterval_conserves_iff id meterId moment output scenario,
    fun outputs => householdInterval_conserves_iff id meterId moment outputs scenario⟩

/-! ## An interval that loses energy -/

/-- Two kilowatts of sun and three of load, with odd ten-thousandths. -/
def oddOutput : ModelOutput where
  solar := 20001 / 10000
  load := 30002 / 10000
  solar_nonneg := by norm_num
  load_nonneg := by norm_num

/-- 0.5000 kWh generated and 0.2500 imported, 0.7501 used. -/
theorem oddOutput_loses :
    (¬ ∀ output scenario, Conserves (storedInterval 1 2 0 (communityInterval output scenario))) ∧
      ¬ ∀ outputs scenario, Conserves (storedInterval 1 2 0 (householdInterval outputs scenario)) := by
  constructor
  · intro law
    obtain ⟨_, _, _, _, isGeneration, isImport, isLoad, isExport, same⟩ := law oddOutput .normal
    rw [← Option.some.inj isGeneration, ← Option.some.inj isImport, ← Option.some.inj isLoad,
      ← Option.some.inj isExport] at same
    exact absurd same (by decide +kernel)
  · intro law
    obtain ⟨_, _, _, _, isGeneration, isImport, isLoad, isExport, same⟩ :=
      law (fun _ => oddOutput) .normal
    rw [← Option.some.inj isGeneration, ← Option.some.inj isImport, ← Option.some.inj isLoad,
      ← Option.some.inj isExport] at same
    exact absurd same (by decide +kernel)

end UrjaSetu.Services.WorkspaceService
