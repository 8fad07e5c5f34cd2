import UrjaSetu.Domain.Interfaces.Settlement
import UrjaSetu.Services.TelemetryService.Batch

/-!
The measured delivery of `app/services/settlement_service.py`: what
`TelemetryActualEnergyResolver` reads for a window.

Owns: that it is the energy of the site's valid readings with both ends of the
window included, and exactly when two adjacent windows add up.
-/

namespace UrjaSetu.Services.SettlementService

open UrjaSetu.Domain UrjaSetu.Domain.Interfaces UrjaSetu.Db UrjaSetu.Db.Models UrjaSetu.Library
open UrjaSetu.Repositories.Telemetry UrjaSetu.Services.TelemetryService

/-- The loop over the buckets. -/
def totalOf (buckets : List AggregatedReading) : Option ℚ :=
  buckets.foldl (fun total bucket => addPresent total bucket.energyKwh) none

/-- `TelemetryActualEnergyResolver.actual_energy_for`. -/
def actualEnergyFor (siteId : UUID) (start end_ : Instant) : Call ActualEnergy := do
  let buckets ← getIntervalForSite siteId start end_ (end_ - start)
  pure
    { windowStart := start
      windowEnd := end_
      quantityKwh := totalOf buckets
      readingCount := (buckets.map AggregatedReading.readingCount).sum }

/-- The energies of the site's valid readings with a timestamp in
`[start, end_]`. -/
def energiesWithin (db : Database) (siteId : UUID) (start end_ : Instant) : List (Option ℚ) :=
  (selectedForSite db.community.meters db.readings.rows siteId start end_ true).map
    TelemetryReading.energyKwh

/-- What the resolver measures: `none` where nothing carries energy. -/
def measuredKwh (db : Database) (siteId : UUID) (start end_ : Instant) : Option ℚ :=
  sumPresent (energiesWithin db siteId start end_)

/-- The energy of the readings stamped with one instant. -/
def energyAt (db : Database) (siteId : UUID) (instant : Instant) : ℚ :=
  ((energiesWithin db siteId instant instant).map fun energy => energy.getD 0).sum

section

variable {unit : Session} {db : Database} {siteId : UUID} {start middle end_ : Instant}

theorem totalOf_aggregate (resolution : ℤ) :
    totalOf (aggregateForSite db.community.meters db.readings.rows siteId start end_ resolution
      true) = measuredKwh db siteId start end_ := by
  rw [measuredKwh, energiesWithin, ← aggregateForSite_energy _ _ _ _ resolution]
  unfold totalOf sumPresent
  rw [List.foldl_map]

/-- The resolver reads what is measured; it raises only for an unknown site. -/
theorem ensures_actualEnergyFor :
    Work.Ensures (actualEnergyFor siteId start end_) unit
      (fun actual after => after = unit ∧
        actual.quantityKwh = measuredKwh unit.working siteId start end_)
      (fun _ after => after = unit) := by
  unfold actualEnergyFor getIntervalForSite requireSite
  simp only [Work.ensures_bind, Work.ensures_read]
  split
  · simp only [Work.ensures_pure]
    exact ⟨trivial, totalOf_aggregate _⟩
  · exact rfl

variable (db siteId) in
/-- The readings stamped with the instant between two windows are in both. -/
theorem total_split (earlier : start ≤ middle) (later : middle ≤ end_) :
    ((energiesWithin db siteId start middle).map fun energy => energy.getD 0).sum +
      ((energiesWithin db siteId middle end_).map fun energy => energy.getD 0).sum =
    ((energiesWithin db siteId start end_).map fun energy => energy.getD 0).sum +
      energyAt db siteId middle := by
  unfold energyAt energiesWithin selectedForSite
  simp only [List.map_map]
  apply sum_filter_balance
  intro row _
  generalize (db.community.meters.any fun meter =>
    meter.id = row.meterId ∧ meter.siteId = siteId) = ofSite
  generalize (!true || decide (row.qualityStatus = .valid)) = usable
  by_cases fromMiddle : middle ≤ row.timestamp
  · have fromStart : start ≤ row.timestamp := earlier.trans fromMiddle
    by_cases toMiddle : row.timestamp ≤ middle
    · have toEnd : row.timestamp ≤ end_ := toMiddle.trans later
      simp [fromMiddle, fromStart, toMiddle, toEnd]
    · simp [fromMiddle, fromStart, toMiddle]
  · have toMiddle : row.timestamp ≤ middle := (not_le.mp fromMiddle).le
    have toEnd : row.timestamp ≤ end_ := toMiddle.trans later
    simp [fromMiddle, toMiddle, toEnd]

private theorem mem_energiesWithin_of_subset {energy : Option ℚ}
    (member : energy ∈ energiesWithin db siteId start middle) (later : middle ≤ end_) :
    energy ∈ energiesWithin db siteId start end_ := by
  obtain ⟨row, selected, rfl⟩ := List.mem_map.mp member
  apply List.mem_map_of_mem
  simp only [selectedForSite, List.mem_filter, Bool.and_eq_true, decide_eq_true_eq] at selected ⊢
  obtain ⟨stored, ⟨⟨ofSite, fromStart⟩, toMiddle⟩, usable⟩ := selected
  exact ⟨stored, ⟨⟨ofSite, fromStart⟩, toMiddle.trans later⟩, usable⟩

end

/-- For a window in two measured parts, what is measured of the whole is the sum of
the parts exactly where the valid readings stamped with the instant between them
carry no energy. -/
theorem actualEnergyFor_additive_iff (unit : Session) (siteId : UUID)
    (start middle end_ : Instant) (earlier : start < middle) (later : middle < end_)
    {whole first second : ActualEnergy} {left right : ℚ}
    (wholeRead : (actualEnergyFor siteId start end_ unit).1 = .ok whole)
    (firstRead : (actualEnergyFor siteId start middle unit).1 = .ok first)
    (secondRead : (actualEnergyFor siteId middle end_ unit).1 = .ok second)
    (firstMeasured : first.quantityKwh = some left)
    (secondMeasured : second.quantityKwh = some right) :
    whole.quantityKwh = some (left + right) ↔ energyAt unit.working siteId middle = 0 := by
  have quantityOf : ∀ {start end_ : Instant} {actual : ActualEnergy},
      (actualEnergyFor siteId start end_ unit).1 = .ok actual →
        actual.quantityKwh = measuredKwh unit.working siteId start end_ := by
    intro start end_ actual read
    have run : actualEnergyFor siteId start end_ unit =
        (.ok actual, (actualEnergyFor siteId start end_ unit).2) := Prod.ext read rfl
    exact (ensures_actualEnergyFor.returned run).2
  rw [quantityOf firstRead] at firstMeasured
  rw [quantityOf secondRead] at secondMeasured
  rw [quantityOf wholeRead]
  have split := total_split unit.working siteId earlier.le later.le
  have leftTotal : left = ((energiesWithin unit.working siteId start middle).map
      fun energy => energy.getD 0).sum := by
    rw [← sumPresent_getD, ← measuredKwh, firstMeasured]
    rfl
  have rightTotal : right = ((energiesWithin unit.working siteId middle end_).map
      fun energy => energy.getD 0).sum := by
    rw [← sumPresent_getD, ← measuredKwh, secondMeasured]
    rfl
  have wholeMeasured : (measuredKwh unit.working siteId start end_).isSome = true := by
    have firstSome : (measuredKwh unit.working siteId start middle).isSome = true := by
      rw [firstMeasured]
      rfl
    obtain ⟨energy, member, present⟩ := sumPresent_isSome_iff.mp firstSome
    exact sumPresent_isSome_iff.mpr ⟨energy, mem_energiesWithin_of_subset member later.le, present⟩
  obtain ⟨total, totalEq⟩ := Option.isSome_iff_exists.mp wholeMeasured
  have wholeTotal : total = ((energiesWithin unit.working siteId start end_).map
      fun energy => energy.getD 0).sum := by
    rw [← sumPresent_getD, ← measuredKwh, totalEq]
    rfl
  rw [totalEq, Option.some_inj, leftTotal, rightTotal, split, ← wholeTotal]
  constructor
  · intro same
    linarith
  · intro nothing
    rw [nothing, add_zero]

/-! ## Two quarters of an hour -/

/-- A reading of one quarter of an hour. -/
def quarterReading (start timestamp : Instant) (energy : ℚ) : NormalizedReading where
  meterId := 31
  timestamp := timestamp
  intervalStart := start
  intervalEnd := start + 900000000
  source := .meter
  energyKwh := some energy

/-- 1 kWh in the first quarter, stamped with its start, and 2 kWh in the second, both
valid. -/
def quartersStored (timestamp : Instant) : Session :=
  (ingestBatch [quarterReading 0 0 1, quarterReading 900000000 timestamp 2] (some 1800000000)
    Domain.Policies.TelemetryQuality.DEFAULT_STALENESS_THRESHOLD
    (Work.begin_ sampleDatabase sampleOutside)).2

/-- What the resolver measures of the site in a window. -/
def quarterEnergy (timestamp start end_ : Instant) : ActualEnergy where
  windowStart := start
  windowEnd := end_
  quantityKwh := measuredKwh (quartersStored timestamp).working 21 start end_
  readingCount := (energiesWithin (quartersStored timestamp).working 21 start end_).length

/-- The second reading begins where the first ends, and is stamped with its end. -/
theorem actualEnergyFor_additive_sample :
    (quarterEnergy 1800000000 0 1800000000).quantityKwh = some (1 + 2) :=
  (@actualEnergyFor_additive_iff (quartersStored 1800000000) 21 0 900000000 1800000000 (by decide)
    (by decide) (quarterEnergy 1800000000 0 1800000000) (quarterEnergy 1800000000 0 900000000)
    (quarterEnergy 1800000000 900000000 1800000000) 1 2 (by decide +kernel) (by decide +kernel)
    (by decide +kernel) (by decide +kernel) (by decide +kernel)).mpr (by decide +kernel)

/-- Stamped with its start, the second reading is measured in both windows: 3 kWh and
2 kWh, of 3 kWh in all. -/
theorem boundaryReading_twice :
    ∃ whole first second : ActualEnergy, ∃ left right : ℚ,
      (actualEnergyFor 21 0 1800000000 (quartersStored 900000000)).1 = .ok whole ∧
      (actualEnergyFor 21 0 900000000 (quartersStored 900000000)).1 = .ok first ∧
      (actualEnergyFor 21 900000000 1800000000 (quartersStored 900000000)).1 = .ok second ∧
      first.quantityKwh = some left ∧ second.quantityKwh = some right ∧
      whole.quantityKwh ≠ some (left + right) :=
  ⟨quarterEnergy 900000000 0 1800000000, quarterEnergy 900000000 0 900000000,
    quarterEnergy 900000000 900000000 1800000000, 3, 2, by decide +kernel, by decide +kernel,
    by decide +kernel, by decide +kernel, by decide +kernel, by decide +kernel⟩

end UrjaSetu.Services.SettlementService
