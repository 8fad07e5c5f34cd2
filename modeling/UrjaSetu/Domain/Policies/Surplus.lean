import UrjaSetu.Library.Dict
import UrjaSetu.Library.DecimalContext
import UrjaSetu.Library.Sorting
import UrjaSetu.Domain.Enums

/-!
The expected surplus of `app/domain/policies/surplus.py`: a generation forecast
paired with a consumption forecast, interval by interval.

Hours and energies are rounded as the decimal context rounds them.
-/

namespace UrjaSetu.Domain.Policies.Surplus

open UrjaSetu.Domain UrjaSetu.Library UrjaSetu.Library.Rounding UrjaSetu.Library.DecimalContext

/-- Expected surplus over one interval. It is signed. -/
structure SurplusPoint where
  intervalStart : Instant
  intervalEnd : Instant
  generationKw : Option ℚ
  loadKw : Option ℚ
  surplusKw : Option ℚ
deriving DecidableEq, Repr

/-- Surplus available to sell: never negative, never unknown. -/
def SurplusPoint.exportableKw (point : SurplusPoint) : ℚ :=
  match point.surplusKw with
  | none => 0
  | some surplus => if surplus < 0 then 0 else surplus

/-- `(interval_end - interval_start).total_seconds() / 3600`. -/
def SurplusPoint.hours (point : SurplusPoint) : ℚ :=
  contextRound (((point.intervalEnd - point.intervalStart : ℤ) : ℚ) / 3600000000)

/-- `SurplusWindow.total_exportable_kwh`. -/
def totalExportableKwh (points : List SurplusPoint) : ℚ :=
  points.foldl
    (fun total point => contextRound (total + contextRound (point.exportableKw * point.hours))) 0

/-- `(interval_start, interval_end, predicted_kw)`. -/
abbrev Prediction := Instant × Instant × Option ℚ

/-- `{start: (end, value) for start, end, value in predictions}`. -/
def byStart (predictions : List Prediction) : Dict Instant (Instant × Option ℚ) :=
  Dict.ofItems Prod.fst Prod.snd predictions

/-- `calculate_surplus`. -/
def calculateSurplus (generation consumption : List Prediction) : List SurplusPoint :=
  let gen := byStart generation
  let load := byStart consumption
  let starts := sortBy id ((gen.entries.map Prod.fst ++ load.entries.map Prod.fst).dedup)
  starts.filterMap fun start =>
    let genKw := (gen.get? start).bind Prod.snd
    let loadKw := (load.get? start).bind Prod.snd
    (((gen.get? start).map Prod.fst).or ((load.get? start).map Prod.fst)).map fun end_ =>
      { intervalStart := start
        intervalEnd := end_
        generationKw := genKw
        loadKw := loadKw
        surplusKw :=
          match genKw, loadKw with
          | some generated, some consumed => some (generated - consumed)
          | _, _ => none }

/-! ## Signs -/

private theorem exportableKw_nonneg (point : SurplusPoint) : 0 ≤ point.exportableKw := by
  unfold SurplusPoint.exportableKw
  split
  · exact le_rfl
  · split
    · exact le_rfl
    · rename_i notNegative
      exact not_lt.mp notNegative

private theorem hours_nonneg {point : SurplusPoint}
    (ordered : point.intervalStart ≤ point.intervalEnd) :
    0 ≤ point.hours := by
  apply contextRound_nonneg
  apply div_nonneg
  · exact_mod_cast sub_nonneg.mpr ordered
  · norm_num

theorem totalExportableKwh_nonneg {points : List SurplusPoint}
    (ordered : ∀ point ∈ points, point.intervalStart ≤ point.intervalEnd) :
    0 ≤ totalExportableKwh points := by
  induction points using List.reverseRecOn with
  | nil => exact le_rfl
  | append_singleton front last inductionHypothesis =>
      have before := inductionHypothesis fun point member => ordered point (by simp [member])
      have energy : 0 ≤ last.exportableKw * last.hours :=
        mul_nonneg (exportableKw_nonneg last) (hours_nonneg (ordered last (by simp)))
      rw [totalExportableKwh, List.foldl_append]
      exact contextRound_nonneg (add_nonneg before (contextRound_nonneg energy))

/-- Every surplus point has the window of a prediction. -/
theorem calculateSurplus_window {generation consumption : List Prediction} {point : SurplusPoint}
    (member : point ∈ calculateSurplus generation consumption) :
    ∃ prediction ∈ generation ++ consumption,
      prediction.1 = point.intervalStart ∧ prediction.2.1 = point.intervalEnd := by
  obtain ⟨start, _, made⟩ := List.mem_filterMap.mp member
  obtain ⟨end_, ended, rfl⟩ := Option.map_eq_some_iff.mp made
  rcases Option.or_eq_some_iff.mp ended with generated | ⟨_, consumed⟩
  · obtain ⟨held, found, rfl⟩ := Option.map_eq_some_iff.mp generated
    obtain ⟨prediction, listed, keyEq, valueEq⟩ := Dict.exists_of_get?_ofItems found
    exact ⟨prediction, List.mem_append_left _ listed, keyEq, congrArg Prod.fst valueEq⟩
  · obtain ⟨held, found, rfl⟩ := Option.map_eq_some_iff.mp consumed
    obtain ⟨prediction, listed, keyEq, valueEq⟩ := Dict.exists_of_get?_ofItems found
    exact ⟨prediction, List.mem_append_right _ listed, keyEq, congrArg Prod.fst valueEq⟩

end UrjaSetu.Domain.Policies.Surplus
