import UrjaSetu.Domain.Interfaces.Telemetry
import UrjaSetu.Library.Calendar

/-!
The data-quality classification of `app/domain/policies/telemetry_quality.py`:
one of seven statuses, by a fixed precedence from "no trustworthy observation"
to "fine".

Owns: the classification, and what each status says about the reading and the
series it arrived in.
-/

namespace UrjaSetu.Domain.Policies.TelemetryQuality

open UrjaSetu.Domain UrjaSetu.Domain.Interfaces UrjaSetu.Library.Calendar

/-- `timedelta(minutes=15)` in microseconds. -/
def DEFAULT_STALENESS_THRESHOLD : ℤ := 900000000

def BATTERY_SOC_MIN : ℚ := 0

def BATTERY_SOC_MAX : ℚ := 100

/-- What the service already knows about this meter and asset. -/
structure SeriesContext where
  latestIntervalStart : Option Instant := none
  duplicateExists : Bool := false
deriving DecidableEq, Repr

/-- The classification, with the reason it came out that way. -/
structure QualityAssessment where
  status : TelemetryQualityStatus
  reason : Option String := none
deriving DecidableEq, Repr

/-- The channels that may not be negative, by the names the message uses. -/
def magnitudes (reading : NormalizedReading) : List (String × Option ℚ) :=
  [("generation_kw", reading.generationKw), ("load_kw", reading.loadKw),
    ("grid_import_kw", reading.gridImportKw), ("grid_export_kw", reading.gridExportKw),
    ("energy_kwh", reading.energyKwh)]

/-- `value is not None and value < 0`. -/
def isNegative : Option ℚ → Bool
  | none => false
  | some value => value < 0

/-- `soc is not None and not (MIN <= soc <= MAX)`. -/
def isOutsidePercent : Option ℚ → Bool
  | none => false
  | some soc => ¬ (BATTERY_SOC_MIN ≤ soc ∧ soc ≤ BATTERY_SOC_MAX)

/-- The first impossible value found, or `none`. -/
def firstInvalidValue (reading : NormalizedReading) : Option String :=
  if reading.intervalEnd < reading.intervalStart then some "interval_end precedes interval_start"
  else
    match (magnitudes reading).find? fun channel => isNegative channel.2 with
    | some channel => some (channel.1 ++ " is negative")
    | none =>
        if isOutsidePercent reading.batterySoc then some "battery_soc outside 0-100 percent"
        else none

/-- Classify one reading. -/
def classifyReading (reading : NormalizedReading) (evaluatedAt : Instant)
    (context : SeriesContext) (stalenessThreshold : ℤ) : QualityAssessment :=
  if reading.sourceUnavailable then
    ⟨.sourceUnavailable, some "adapter reported the source as unavailable"⟩
  else
    match firstInvalidValue reading with
    | some invalid => ⟨.invalidValue, some invalid⟩
    | none =>
        if ¬ reading.hasAnyMeasurement then
          ⟨.missing, some "no measurement present on the reading"⟩
        else if context.duplicateExists then
          ⟨.duplicate, some "a reading already exists for this meter, asset and interval"⟩
        else if context.latestIntervalStart.any fun latest => reading.intervalStart < latest then
          ⟨.outOfOrder, some "interval_start precedes the latest stored interval for this series"⟩
        else if stalenessThreshold < evaluatedAt - reading.intervalEnd then
          ⟨.stale, some ("interval_end is older than " ++ durationText stalenessThreshold)⟩
        else ⟨.valid, none⟩

/-! ## What a status says -/

section

variable {reading : NormalizedReading} {evaluatedAt : Instant} {context : SeriesContext}
  {stalenessThreshold : ℤ}

theorem firstInvalidValue_eq_none_iff :
    firstInvalidValue reading = none ↔ reading.intervalStart ≤ reading.intervalEnd ∧
      (∀ channel ∈ magnitudes reading, isNegative channel.2 = false) ∧
        isOutsidePercent reading.batterySoc = false := by
  unfold firstInvalidValue
  by_cases reversed : reading.intervalEnd < reading.intervalStart
  · simp [reversed]
  · rw [if_neg reversed]
    have ordered : reading.intervalStart ≤ reading.intervalEnd := not_lt.mp reversed
    cases negative : (magnitudes reading).find? fun channel => isNegative channel.2 with
    | some channel =>
        have found := List.find?_some negative
        have member := List.mem_of_find?_eq_some negative
        simp only [reduceCtorEq, false_iff]
        intro sound
        rw [sound.2.1 channel member] at found
        cases found
    | none =>
        rw [List.find?_eq_none] at negative
        have magnitudesSound : ∀ channel ∈ magnitudes reading, isNegative channel.2 = false :=
          fun channel member => Bool.eq_false_iff.mpr (negative channel member)
        cases percent : isOutsidePercent reading.batterySoc with
        | true => simp
        | false => exact ⟨fun _ => ⟨ordered, magnitudesSound, rfl⟩, fun _ => rfl⟩

/-- The two statuses that keep a reading out of the table. A reading of an
unavailable source never has them, and an empty one is never a duplicate. -/
theorem classifyReading_refused_iff :
    ((classifyReading reading evaluatedAt context stalenessThreshold).status = .duplicate ∨
      (classifyReading reading evaluatedAt context stalenessThreshold).status = .invalidValue) ↔
      reading.sourceUnavailable = false ∧ (firstInvalidValue reading ≠ none ∨
        (reading.hasAnyMeasurement = true ∧ context.duplicateExists = true)) := by
  unfold classifyReading
  cases unavailable : reading.sourceUnavailable with
  | true => simp
  | false =>
      cases invalid : firstInvalidValue reading with
      | some reason => simp
      | none =>
          cases measured : reading.hasAnyMeasurement with
          | false => simp
          | true =>
              cases duplicate : context.duplicateExists with
              | true => simp
              | false =>
                  simp only [Bool.false_eq_true, not_true_eq_false, if_false, ne_eq, and_false,
                    or_false, iff_false]
                  split_ifs <;> simp

end

end UrjaSetu.Domain.Policies.TelemetryQuality
