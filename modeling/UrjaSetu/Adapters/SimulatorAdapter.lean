import UrjaSetu.Domain.Policies.TelemetryQuality
import UrjaSetu.Library.Binary64
import UrjaSetu.Library.Rounding

/-!
The synthetic meter of `app/adapters/meter/simulator_adapter.py`.

The solar curve, the load curve and their noise are computed in floating point from
a seeded generator; they are known here by the values they come to.

Owns: the readings of a window, that they tile it and balance, and the chunks they are
streamed in.
-/

namespace UrjaSetu.Adapters.SimulatorAdapter

open UrjaSetu.Domain UrjaSetu.Domain.Interfaces UrjaSetu.Domain.Policies.TelemetryQuality
open UrjaSetu.Library UrjaSetu.Library.Rounding

inductive ProfileType where
  | residentialProsumer
  | residentialConsumer
  | commercial
deriving DecidableEq, Repr

/-- `gen_val` and `load_val` of each interval of a run, and
`Decimal(str(interval_minutes / 60.0))`. -/
structure Curves where
  generation : ℕ → ℚ
  load : ℕ → ℚ
  hoursRatio : ℚ

/-- What is asked of the generator. -/
structure Synthetic where
  meterId : UUID
  energyAssetId : Option UUID
  profileType : ProfileType
  intervalMinutes : ℤ

/-- `timedelta(minutes=interval_minutes)` in microseconds. -/
def Synthetic.delta (synthetic : Synthetic) : ℤ := synthetic.intervalMinutes * 60000000

/-- The minute of the day in `Asia/Kolkata`. -/
def minuteOfDay (moment : Instant) : ℤ := (moment + 19800000000) % 86400000000 / 60000000

/-- `first <= hour_of_day <= last`. -/
def hourWithin (moment : Instant) (first last : ℤ) : Bool :=
  first * 60 ≤ minuteOfDay moment && minuteOfDay moment ≤ last * 60

/-- `Decimal(str(round(value, 3)))`. -/
def threePlaces (value : ℚ) : ℚ := quantize halfEven 3 value

section Generator

variable (synthetic : Synthetic) (curves : Curves)

def genKw (index : ℕ) (current : Instant) : ℚ :=
  if synthetic.profileType ≠ .residentialConsumer && synthetic.energyAssetId.isSome &&
      hourWithin current 6 18 then threePlaces (max 0 (curves.generation index))
  else 0

def loadKw (index : ℕ) : ℚ := threePlaces (max (Binary64.double (1 / 10)) (curves.load index))

def batterySoc (current : Instant) : Option ℚ :=
  match synthetic.profileType with
  | .commercial =>
      if hourWithin current 10 15 then some 85
      else if hourWithin current 18 22 then some 35
      else some 60
  | _ => none

/-- The body of the loop. -/
def readingAt (index : ℕ) (current : Instant) : NormalizedReading :=
  let genKw := genKw synthetic curves index current
  let loadKw := loadKw curves index
  let netKw := loadKw - genKw
  { meterId := synthetic.meterId
    energyAssetId := synthetic.energyAssetId
    timestamp := current
    intervalStart := current
    intervalEnd := current + synthetic.delta
    generationKw := some genKw
    loadKw := some loadKw
    gridImportKw := some (if 0 ≤ netKw then netKw else 0)
    gridExportKw := some (if 0 ≤ netKw then 0 else |netKw|)
    energyKwh := some (quantize halfEven 3 (loadKw * curves.hoursRatio))
    batterySoc := batterySoc synthetic current
    source := .simulator }

/-- `while current_time < end_time`, for at most `fuel` rounds. -/
def generateFrom (end_ : Instant) : ℕ → ℕ → Instant → List NormalizedReading
  | 0, _, _ => []
  | fuel + 1, index, current =>
      if current < end_ then
        readingAt synthetic curves index current ::
          generateFrom end_ fuel (index + 1) (current + synthetic.delta)
      else []

/-- `generate_site_telemetry` over a window. The loop ends where an interval has a
length. -/
def generateSiteTelemetry (start end_ : Instant) : List NormalizedReading :=
  generateFrom synthetic curves end_ (end_ - start).toNat 0 start

end Generator

/-- `stream_batches`. -/
def streamBatches {α : Type} (readings : List α) (batchSize : ℤ) : Except String (List (List α)) :=
  if batchSize ≤ 0 then .error s!"batch_size must be positive, got: {batchSize}"
  else
    let size := batchSize.toNat
    .ok ((List.range ((readings.length + size - 1) / size)).map fun index =>
      (readings.drop (index * size)).take size)

/-! ## The window -/

variable {synthetic : Synthetic} {curves : Curves}

/-- The loop yields the intervals from `current` on, up to the first that begins at the
end or after it. -/
theorem generateFrom_eq {end_ : Instant} (positive : 0 < synthetic.intervalMinutes) (fuel index : ℕ)
    (current : Instant) (enough : end_ - current ≤ fuel) :
    ∃ count : ℕ, generateFrom synthetic curves end_ fuel index current =
        (List.range count).map (fun step : ℕ =>
          readingAt synthetic curves (index + step) (current + step * synthetic.delta)) ∧
      end_ ≤ current + count * synthetic.delta ∧
      ∀ step < count, current + step * synthetic.delta < end_ := by
  have delta : 0 < synthetic.delta := by
    unfold Synthetic.delta
    omega
  induction fuel generalizing index current with
  | zero =>
      refine ⟨0, rfl, ?_, by simp⟩
      simp only [Nat.cast_zero, zero_mul, add_zero] at enough ⊢
      linarith
  | succ fuel inductionHypothesis =>
      rw [generateFrom]
      by_cases before : current < end_
      · rw [if_pos before]
        obtain ⟨count, generated, covers, within⟩ := inductionHypothesis (index + 1)
          (current + synthetic.delta) (by push_cast at enough; linarith)
        refine ⟨count + 1, ?_, ?_, ?_⟩
        · rw [generated, List.range_succ_eq_map, List.map_cons, List.map_map]
          congr 1
          · simp
          · apply List.map_congr_left
            intro step _
            simp only [Function.comp_apply]
            congr 1
            · omega
            · push_cast
              ring
        · calc end_ ≤ current + synthetic.delta + count * synthetic.delta := covers
            _ = current + (count + 1 : ℕ) * synthetic.delta := by push_cast; ring
        · intro step bound
          cases step with
          | zero => simpa using before
          | succ step =>
              have earlier := within step (by omega)
              calc current + (step + 1 : ℕ) * synthetic.delta =
                  current + synthetic.delta + step * synthetic.delta := by push_cast; ring
                _ < end_ := earlier
      · rw [if_neg before]
        exact ⟨0, rfl, by simpa using not_lt.mp before, by simp⟩

/-- The readings of a window tile it. -/
theorem generateSiteTelemetry_eq (positive : 0 < synthetic.intervalMinutes) (start end_ : Instant) :
    ∃ count : ℕ, generateSiteTelemetry synthetic curves start end_ =
        (List.range count).map (fun step : ℕ =>
          readingAt synthetic curves step (start + step * synthetic.delta)) ∧
      end_ ≤ start + count * synthetic.delta ∧
      ∀ step < count, start + step * synthetic.delta < end_ := by
  have generated := @generateFrom_eq synthetic curves end_ positive (end_ - start).toNat 0 start
    (Int.self_le_toNat _)
  simpa [generateSiteTelemetry] using generated

/-! ## One reading -/

private theorem loadKw_nonneg (curves : Curves) (index : ℕ) : 0 ≤ loadKw curves index :=
  quantize_nonneg halfEven (le_max_of_le_left (Binary64.double_pos (by norm_num)).le)

private theorem genKw_nonneg (synthetic : Synthetic) (curves : Curves) (index : ℕ)
    (current : Instant) :
    0 ≤ genKw synthetic curves index current := by
  unfold genKw
  split
  · exact quantize_nonneg halfEven (le_max_left 0 _)
  · exact le_rfl

/-- What a reading imports and exports is what its load takes beyond its generation, in
one direction only. -/
theorem readingAt_balanced (synthetic : Synthetic) (curves : Curves) (index : ℕ)
    (current : Instant) : ∃ generation load gridImport gridExport,
      (readingAt synthetic curves index current).generationKw = some generation ∧
      (readingAt synthetic curves index current).loadKw = some load ∧
      (readingAt synthetic curves index current).gridImportKw = some gridImport ∧
      (readingAt synthetic curves index current).gridExportKw = some gridExport ∧
      gridImport - gridExport = load - generation ∧ (gridImport = 0 ∨ gridExport = 0) := by
  refine ⟨_, _, _, _, rfl, rfl, rfl, rfl, ?_, ?_⟩
  · split
    · ring
    · rename_i negative
      rw [abs_of_neg (not_le.mp negative)]
      ring
  · split
    · exact Or.inr rfl
    · exact Or.inl rfl

/-- A reading that is measured, and that the classifier finds nothing wrong with. -/
structure Routine (reading : NormalizedReading) : Prop where
  available : reading.sourceUnavailable = false
  sound : firstInvalidValue reading = none
  measured : reading.hasAnyMeasurement = true

theorem readingAt_routine (positive : 0 < synthetic.intervalMinutes) (ratio : 0 ≤ curves.hoursRatio)
    (index : ℕ) (current : Instant) : Routine (readingAt synthetic curves index current) where
  available := rfl
  measured := by simp [readingAt, NormalizedReading.hasAnyMeasurement, NormalizedReading.measurements]
  sound := by
    have load := loadKw_nonneg curves index
    have generation := genKw_nonneg synthetic curves index current
    have energy : 0 ≤ quantize halfEven 3 (loadKw curves index * curves.hoursRatio) :=
      quantize_nonneg halfEven (mul_nonneg load ratio)
    have soc : isOutsidePercent (batterySoc synthetic current) = false := by
      unfold batterySoc
      split
      · split_ifs
        all_goals simp [isOutsidePercent, BATTERY_SOC_MIN, BATTERY_SOC_MAX]
        all_goals norm_num
      · rfl
    rw [firstInvalidValue_eq_none_iff]
    refine ⟨?_, ?_, soc⟩
    · simp only [readingAt, Synthetic.delta]
      linarith
    · simp only [magnitudes, readingAt, List.mem_cons, List.not_mem_nil, or_false, forall_eq_or_imp,
        forall_eq, isNegative, decide_eq_false_iff_not, not_lt]
      refine ⟨generation, load, ?_, ?_, energy⟩
      · split
        · assumption
        · exact le_rfl
      · split
        · exact le_rfl
        · exact abs_nonneg _

end UrjaSetu.Adapters.SimulatorAdapter
