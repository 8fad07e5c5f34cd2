import UrjaSetu.Library.Intervals
import UrjaSetu.Services.ForecastService

/-!
Which accepted results tile the horizon they were requested for.

`_validate_result` looks at one point after the other: it never counts the
points, and never compares the end of one with the start of the next or with the
end of the horizon.

Owns: the tiling of a horizon, and the condition on single points under which an
accepted result is one.
-/

namespace UrjaSetu.Services.ForecastService

open UrjaSetu.Domain UrjaSetu.Domain.Interfaces UrjaSetu.Library UrjaSetu.Library.Intervals

/-- As many points as expected, one after the other from the start of the horizon,
and none beyond its end. -/
structure TilesHorizon (request : ForecastRequest) (points : List ForecastPoint) : Prop where
  expected : (points.length : ℤ) = request.expectedPointCount
  contiguous : TilesFrom ForecastPoint.intervalStart ForecastPoint.intervalEnd request.horizonStart
    (sortBy ForecastPoint.intervalStart points)
  inside : ∀ point ∈ points, point.intervalEnd ≤ request.horizonEnd

/-- As many points as expected; each starts with the horizon or at the moment at
which a point ends; and their durations add up to no more than the horizon. -/
structure ChainsUp (request : ForecastRequest) (points : List ForecastPoint) : Prop where
  expected : (points.length : ℤ) = request.expectedPointCount
  linked : Linked ForecastPoint.intervalStart ForecastPoint.intervalEnd request.horizonStart points
  fits : totalDuration ForecastPoint.intervalStart ForecastPoint.intervalEnd points ≤ request.span

/-- The points of an accepted result follow one another by their starts. -/
theorem Accepted.increasing {result : ForecastResult} {request : ForecastRequest}
    (accepted : Accepted result request) :
    (sortBy ForecastPoint.intervalStart result.points).Pairwise fun earlier later =>
      earlier.intervalStart < later.intervalStart := by
  have distinct : ((sortBy ForecastPoint.intervalStart result.points).map
      ForecastPoint.intervalStart).Nodup :=
    ((sortBy_perm _ _).map _).nodup_iff.mpr accepted.distinct
  have apart := List.pairwise_map.mp distinct
  apply ((sortBy_pairwise ForecastPoint.intervalStart result.points).and apart).imp
  rintro earlier later ⟨order, differ⟩
  exact lt_of_le_of_ne order differ

/-- A tiling stays inside the horizon when its durations do. -/
theorem inside_iff_fits {request : ForecastRequest} {points : List ForecastPoint}
    (tiles : TilesFrom ForecastPoint.intervalStart ForecastPoint.intervalEnd request.horizonStart
      points)
    (ordered : ∀ point ∈ points, point.intervalStart < point.intervalEnd) (nonempty : points ≠ []) :
    (∀ point ∈ points, point.intervalEnd ≤ request.horizonEnd) ↔
      totalDuration ForecastPoint.intervalStart ForecastPoint.intervalEnd points ≤
        request.span := by
  constructor
  · intro inside
    obtain ⟨last, member, reached⟩ := tiles.reach nonempty
    rw [← reached]
    exact sub_le_sub_right (inside last member) request.horizonStart
  · intro fits point member
    exact (sub_le_sub_iff_right request.horizonStart).mp
      ((tiles.bounds ordered member).2.trans fits)

/-- What the checks accept tiles the horizon exactly where the points chain up. -/
theorem validateResult_tiles_iff (provider : ForecastProvider) (request : ForecastRequest)
    (result : ForecastResult) (accepted : validateResult result request provider = .ok ()) :
    TilesHorizon request result.points ↔ ChainsUp request result.points := by
  have checked := validateResult_eq_ok.mp accepted
  have sorted := sortBy_perm ForecastPoint.intervalStart result.points
  have ordered : ∀ point ∈ sortBy ForecastPoint.intervalStart result.points,
      point.intervalStart < point.intervalEnd :=
    fun point member => checked.ordered point (sorted.mem_iff.mp member)
  have nonempty : sortBy ForecastPoint.intervalStart result.points ≠ [] :=
    fun empty => checked.nonempty (List.nil_perm.mp (empty ▸ sorted))
  have tiles : TilesFrom ForecastPoint.intervalStart ForecastPoint.intervalEnd request.horizonStart
      (sortBy ForecastPoint.intervalStart result.points) ↔
      Linked ForecastPoint.intervalStart ForecastPoint.intervalEnd request.horizonStart
        result.points := by
    rw [tilesFrom_iff_linked checked.increasing ordered]
    exact linked_congr fun point => sorted.mem_iff
  have fits := fun tiling => @inside_iff_fits request _ tiling ordered nonempty
  rw [totalDuration_perm sorted] at fits
  constructor
  · intro tiling
    refine ⟨tiling.expected, tiles.mp tiling.contiguous, (fits tiling.contiguous).mp ?_⟩
    exact fun point member => tiling.inside point (sorted.mem_iff.mp member)
  · intro chain
    have contiguous := tiles.mpr chain.linked
    refine ⟨chain.expected, contiguous, ?_⟩
    exact fun point member => (fits contiguous).mpr chain.fits point (sorted.mem_iff.mpr member)

/-! ## Samples -/

/-- One hour from the epoch in quarters. -/
def sampleRequest : ForecastRequest where
  siteId := 21
  forecastType := .solar
  horizonStart := 0
  horizonEnd := 3600000000
  interval := DEFAULT_INTERVAL

def quarterPoint (index : ℤ) : ForecastPoint where
  intervalStart := index * DEFAULT_INTERVAL
  intervalEnd := (index + 1) * DEFAULT_INTERVAL
  predictedKw := some 1

def sampleResult (points : List ForecastPoint) : ForecastResult where
  forecastType := .solar
  provider := "baseline"
  modelVersion := "1.0.0"
  points := points

def sampleProvider (points : List ForecastPoint) : ForecastProvider where
  name := "baseline"
  modelVersion := "1.0.0"
  supports _ := true
  predict _ := .ok (sampleResult points)

/-- Four quarters in any order tile the hour. -/
theorem validateResult_tiles_iff_sample :
    validateResult (sampleResult ([1, 0, 3, 2].map quarterPoint)) sampleRequest
        (sampleProvider []) = .ok () ∧
      TilesHorizon sampleRequest ([1, 0, 3, 2].map quarterPoint) := by
  have accepted : validateResult (sampleResult ([1, 0, 3, 2].map quarterPoint)) sampleRequest
      (sampleProvider []) = .ok () := by decide +kernel
  refine ⟨accepted, (validateResult_tiles_iff (sampleProvider []) sampleRequest
    (sampleResult ([1, 0, 3, 2].map quarterPoint)) accepted).mpr ⟨?_, ?_, ?_⟩⟩
  · decide +kernel
  · unfold Linked
    decide +kernel
  · decide +kernel

/-- A provider that returns the first and the third quarter only is accepted. -/
theorem missingQuarters_accepted :
    validateResult (sampleResult ([0, 2].map quarterPoint)) sampleRequest
        (sampleProvider ([0, 2].map quarterPoint)) = .ok () ∧
      ¬ TilesHorizon sampleRequest ([0, 2].map quarterPoint) := by
  refine ⟨by decide +kernel, fun tiles => ?_⟩
  have short := tiles.expected
  revert short
  decide +kernel

end UrjaSetu.Services.ForecastService
