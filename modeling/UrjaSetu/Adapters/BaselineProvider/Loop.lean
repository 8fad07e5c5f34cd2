import UrjaSetu.Adapters.BaselineProvider

/-!
The loop of the provider as the loop of `Baseline`, with the provider's rule.

Owns: that the samples grouped in a dictionary are those filtered from the
history, and that what the provider predicts is what its rule makes of the horizon.
-/

namespace UrjaSetu.Adapters.BaselineProvider

open UrjaSetu.Domain UrjaSetu.Domain.Interfaces UrjaSetu.Library
open UrjaSetu.Adapters.Baseline (PointRule PointValues channel minuteOfDay)

/-- An observation adds its value to the samples of its own time of day. -/
private theorem get?_groupSample (forecastType : ForecastType) (grouped : Dict ℤ (List ℚ))
    (observation : HistoricalObservation) (moment : ℤ) :
    ((groupSample forecastType grouped observation).get? moment).getD [] =
      (grouped.get? moment).getD [] ++
        (if minuteOfDay observation.intervalStart = moment then
          channel observation forecastType else none).toList := by
  unfold groupSample
  cases channel observation forecastType with
  | none => simp
  | some value =>
      dsimp only
      rw [Dict.get?_set]
      by_cases same : moment = minuteOfDay observation.intervalStart
      · rw [if_pos same, if_pos same.symm, same]
        rfl
      · rw [if_neg same, if_neg (Ne.symm same), Option.toList_none, List.append_nil]

private theorem samplesAt_eq (request : ForecastRequest) (start : Instant) :
    samplesAt request start = Baseline.samplesAt request start := by
  have grouped : ∀ history : List HistoricalObservation,
      ((history.foldl (groupSample request.forecastType) Dict.empty).get?
          (minuteOfDay start)).getD [] =
        history.filterMap fun observation =>
          if minuteOfDay observation.intervalStart = minuteOfDay start then
            channel observation request.forecastType
          else none := by
    intro history
    induction history using List.reverseRecOn with
    | nil => rfl
    | append_singleton front last inductionHypothesis =>
        rw [List.foldl_append, List.foldl_cons, List.foldl_nil, get?_groupSample,
          inductionHypothesis, List.filterMap_append]
        rfl
  exact grouped request.history

namespace BaselineForecastProvider

variable (provider : BaselineForecastProvider) (squareRoot : ℚ → ℚ)

/-- What the provider says of an interval; nothing where it raises. -/
def pointRule : PointRule := fun start stop samples =>
  match provider.pointFor squareRoot start stop samples (hoursBetween start stop) with
  | .ok point =>
      { predictedKw := point.predictedKw, predictedKwh := point.predictedKwh
        confidence := point.confidence, lowerBound := point.lowerBound
        upperBound := point.upperBound }
  | .error _ => {}

variable {provider squareRoot} {request : ForecastRequest}

private theorem pointFor_interval {start stop : Instant} {samples : List ℚ} {hours : ℚ}
    {point : ForecastPoint}
    (made : provider.pointFor squareRoot start stop samples hours = .ok point) :
    point.intervalStart = start ∧ point.intervalEnd = stop := by
  unfold pointFor at made
  split at made
  · cases made
    exact ⟨rfl, rfl⟩
  · simp only [bind_eq_ok] at made
    obtain ⟨_, _, _, _, _, _, _, _, _, _, isPoint⟩ := made
    cases isPoint
    exact ⟨rfl, rfl⟩

private theorem pointRule_point {start stop : Instant} {samples : List ℚ} {point : ForecastPoint}
    (made : provider.pointFor squareRoot start stop samples (hoursBetween start stop) =
      .ok point) :
    (provider.pointRule squareRoot start stop samples).point start stop = point := by
  obtain ⟨starts, stops⟩ := pointFor_interval made
  unfold pointRule
  rw [made]
  cases point
  cases starts
  cases stops
  rfl

/-- A loop that returns has made the points of its rule. -/
theorem tile_eq (fuel : ℕ) (start : Instant) {points : List ForecastPoint}
    (returned : provider.tile squareRoot request fuel start = .ok points) :
    points = Baseline.tile (provider.pointRule squareRoot) request fuel start := by
  induction fuel generalizing start points with
  | zero =>
      cases returned
      rfl
  | succ fuel inductionHypothesis =>
      rw [tile] at returned
      rw [Baseline.tile]
      split at returned
      · rename_i before
        obtain ⟨next, added, onward⟩ := bind_eq_ok.mp returned
        obtain ⟨point, made, onward⟩ := bind_eq_ok.mp onward
        obtain ⟨later, continued, isList⟩ := bind_eq_ok.mp onward
        cases isList
        have advanced : next = start + request.interval := by
          unfold addInterval at added
          split at added
          · cases added
          · cases added
            rfl
        rw [advanced] at made continued
        rw [if_pos before, ← samplesAt_eq]
        dsimp only
        rw [pointRule_point made, ← inductionHypothesis _ continued]
      · rename_i after
        cases returned
        rw [if_neg after]

/-- The points of a prediction are those of the loop with the provider's rule. -/
theorem predict_points {result : ForecastResult}
    (returned : provider.predict squareRoot request = .ok result) :
    result.points = Baseline.predict (provider.pointRule squareRoot) request := by
  unfold predict at returned
  split at returned
  · cases returned
  · obtain ⟨points, tiled, isResult⟩ := bind_eq_ok.mp returned
    cases isResult
    exact tile_eq _ _ tiled

end BaselineForecastProvider

end UrjaSetu.Adapters.BaselineProvider
