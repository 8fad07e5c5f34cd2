import UrjaSetu.Adapters.BaselineProvider.Points
import UrjaSetu.Library.Intervals
import UrjaSetu.Services.ForecastService

/-!
What the service can make of the baseline provider's forecasts.

The loop of `predict` advances by whole intervals and cuts the last one at the
horizon. It raises where an interval would end after the last `datetime`, or a
point does not fit; otherwise its points tile the horizon, and the service accepts
them.

Owns: what a prediction needs, and that it is made and accepted exactly where it
has that.
-/

namespace UrjaSetu.Services.ForecastService

open UrjaSetu.Domain UrjaSetu.Domain.Interfaces UrjaSetu.Library UrjaSetu.Library.Intervals
open UrjaSetu.Library.Rounding UrjaSetu.Adapters.BaselineProvider
open UrjaSetu.Adapters.Baseline (channel minuteOfDay DEFAULT_NAME DEFAULT_MODEL_VERSION)
open UrjaSetu.Adapters.BaselineProvider.BaselineForecastProvider (hoursBetween pointFor_bounded
  pointFor_isOk_iff)

/-! ## Samples -/

/-- The values of the channel that is forecast, where they were measured. -/
def measuredValues (request : ForecastRequest) : List ℚ :=
  request.history.filterMap fun observation => channel observation request.forecastType

/-- Setting a key replaces the size of what it held. -/
theorem total_set {κ ν : Type} [DecidableEq κ] (size : ν → ℕ) (dict : Dict κ ν) (key : κ)
    (value : ν) :
    ((dict.set key value).entries.map fun entry => size entry.2).sum +
        ((dict.get? key).map size).getD 0 =
      (dict.entries.map fun entry => size entry.2).sum + size value := by
  have onEntries : ∀ entries : List (κ × ν),
      ((putEntry key value entries).map fun entry => size entry.2).sum +
          ((findEntry key entries).map size).getD 0 =
        (entries.map fun entry => size entry.2).sum + size value := by
    intro entries
    induction entries with
    | nil => simp [putEntry, findEntry]
    | cons entry rest inductionHypothesis =>
        by_cases same : key = entry.1
        · simp only [putEntry, findEntry, if_pos same, List.map_cons, List.sum_cons,
            Option.map_some, Option.getD_some]
          omega
        · simp only [putEntry, findEntry, if_neg same, List.map_cons, List.sum_cons]
          omega
  exact onEntries dict.entries

/-- An observation adds the value it measured, if it did. -/
theorem total_groupSample (forecastType : ForecastType) (grouped : Dict ℤ (List ℚ))
    (observation : HistoricalObservation) :
    ((groupSample forecastType grouped observation).entries.map fun entry => entry.2.length).sum =
      (grouped.entries.map fun entry => entry.2.length).sum +
        (channel observation forecastType).toList.length := by
  unfold groupSample
  cases channel observation forecastType with
  | none => simp
  | some value =>
      have replaced := total_set List.length grouped
        (minuteOfDay observation.intervalStart)
        ((grouped.get? (minuteOfDay observation.intervalStart)).getD [] ++ [value])
      dsimp only
      rw [Option.toList_some, List.length_singleton]
      cases held : grouped.get? (minuteOfDay observation.intervalStart) with
      | none =>
          rw [held] at replaced
          simpa using replaced
      | some before =>
          rw [held] at replaced
          simp only [Option.map_some, Option.getD_some, List.length_append,
            List.length_singleton] at replaced ⊢
          omega

/-- Every measured value is counted once, and no other. -/
theorem usableSamples_eq (request : ForecastRequest) :
    usableSamples request = (measuredValues request).length := by
  have counted : ∀ history : List HistoricalObservation,
      ((history.foldl (groupSample request.forecastType) Dict.empty).entries.map fun entry =>
        entry.2.length).sum =
      (history.filterMap fun observation => channel observation request.forecastType).length := by
    intro history
    induction history using List.reverseRecOn with
    | nil => rfl
    | append_singleton front last inductionHypothesis =>
        rw [List.foldl_append, List.foldl_cons, List.foldl_nil, total_groupSample,
          inductionHypothesis, List.filterMap_append, List.length_append]
        cases read : channel last request.forecastType with
        | none => simp [read]
        | some value => simp [read]
  exact counted request.history

/-- The request without what was not measured. -/
def withoutUnmeasured (request : ForecastRequest) : ForecastRequest :=
  { request with history := request.history.filter fun observation =>
      (channel observation request.forecastType).isSome }

private theorem groupByTimeOfDay_withoutUnmeasured (request : ForecastRequest) :
    groupByTimeOfDay (withoutUnmeasured request) = groupByTimeOfDay request := by
  unfold groupByTimeOfDay withoutUnmeasured
  dsimp only
  rw [List.foldl_filter]
  congr 1
  funext grouped observation
  unfold groupSample
  cases channel observation request.forecastType with
  | none => rfl
  | some value => rfl

/-! ## The loop -/

section Loop

variable {provider : BaselineForecastProvider} {squareRoot : ℚ → ℚ} {request : ForecastRequest}

/-- The interval that starts at `moment` ends before the last `datetime`, and its
point fits. -/
structure Supplied (provider : BaselineForecastProvider) (squareRoot : ℚ → ℚ)
    (request : ForecastRequest) (moment : Instant) : Prop where
  ends : moment + request.interval ≤ DATETIME_MAX
  fits : samplesAt request moment ≠ [] → provider.Fits squareRoot (samplesAt request moment)
    (hoursBetween moment (min (moment + request.interval) request.horizonEnd))

/-- The points from `start` on. -/
structure Tiled (provider : BaselineForecastProvider) (request : ForecastRequest) (start : Instant)
    (points : List ForecastPoint) : Prop where
  tiles : TilesFrom ForecastPoint.intervalStart ForecastPoint.intervalEnd start points
  within : ∀ point ∈ points, start ≤ point.intervalStart ∧ point.intervalStart < request.horizonEnd
  cut : ∀ point ∈ points,
    point.intervalEnd = min (point.intervalStart + request.interval) request.horizonEnd
  bounded : ∀ point ∈ points, provider.Bounded point
  increasing : points.Pairwise fun earlier later => earlier.intervalStart < later.intervalStart
  reaches : start < request.horizonEnd →
    (points.getLast?).map ForecastPoint.intervalEnd = some request.horizonEnd

/-- One round: the interval ends in time, its point is made, and the rest follows
from its end. -/
theorem tile_succ {fuel : ℕ} {start : Instant} {points : List ForecastPoint}
    (before : start < request.horizonEnd) :
    provider.tile squareRoot request (fuel + 1) start = .ok points ↔
      start + request.interval ≤ DATETIME_MAX ∧ ∃ point rest,
        provider.pointFor squareRoot start (min (start + request.interval) request.horizonEnd)
            (samplesAt request start)
            (hoursBetween start (min (start + request.interval) request.horizonEnd)) =
          .ok point ∧
        provider.tile squareRoot request fuel
            (min (start + request.interval) request.horizonEnd) = .ok rest ∧
        points = point :: rest := by
  rw [BaselineForecastProvider.tile, if_pos before]
  unfold addInterval
  split
  · rename_i beyond
    constructor
    · intro refused
      cases refused
    · rintro ⟨ends, _⟩
      exact absurd ends (not_le.mpr beyond)
  · rename_i within
    rw [ok_bind]
    dsimp only
    constructor
    · intro made
      obtain ⟨point, pointMade, made⟩ := bind_eq_ok.mp made
      obtain ⟨rest, restMade, made⟩ := bind_eq_ok.mp made
      refine ⟨not_lt.mp within, point, rest, pointMade, restMade, ?_⟩
      exact (Except.ok.inj made).symm
    · rintro ⟨_, point, rest, pointMade, restMade, same⟩
      rw [pointMade, ok_bind, restMade, ok_bind, same]
      rfl

private theorem tile_after {fuel : ℕ} {start : Instant} (after : request.horizonEnd ≤ start) :
    provider.tile squareRoot request fuel start = .ok [] := by
  cases fuel with
  | zero => rfl
  | succ fuel => rw [BaselineForecastProvider.tile, if_neg (not_lt.mpr after)]

private theorem Tiled.nil {start : Instant} (after : request.horizonEnd ≤ start) :
    Tiled provider request start [] where
  tiles := trivial
  within := by simp
  cut := by simp
  bounded := by simp
  increasing := List.Pairwise.nil
  reaches before := absurd before (not_lt.mpr after)

/-- A point before the points that follow from its end. -/
theorem Tiled.cons {start : Instant} {point : ForecastPoint} {rest : List ForecastPoint}
    (forward : 0 < request.interval) (before : start < request.horizonEnd)
    (starts : point.intervalStart = start)
    (ends : point.intervalEnd = min (start + request.interval) request.horizonEnd)
    (bounded : provider.Bounded point)
    (restTiled : Tiled provider request (min (start + request.interval) request.horizonEnd) rest) :
    Tiled provider request start (point :: rest) := by
  have advanced : start < min (start + request.interval) request.horizonEnd :=
    lt_min (lt_add_of_pos_right start forward) before
  refine ⟨⟨starts, ?_⟩, ?_, ?_, ?_, ?_, ?_⟩
  · rw [ends]
    exact restTiled.tiles
  · intro other member
    rcases List.mem_cons.mp member with rfl | later
    · rw [starts]
      exact ⟨le_rfl, before⟩
    · obtain ⟨after, inside⟩ := restTiled.within other later
      exact ⟨advanced.le.trans after, inside⟩
  · intro other member
    rcases List.mem_cons.mp member with rfl | later
    · rw [starts]
      exact ends
    · exact restTiled.cut other later
  · intro other member
    rcases List.mem_cons.mp member with rfl | later
    · exact bounded
    · exact restTiled.bounded other later
  · refine List.pairwise_cons.mpr ⟨?_, restTiled.increasing⟩
    intro other later
    rw [starts]
    exact advanced.trans_le (restTiled.within other later).1
  · intro _
    rcases lt_or_ge (min (start + request.interval) request.horizonEnd) request.horizonEnd with
      more | last
    · have reached := restTiled.reaches more
      cases rest with
      | nil => cases reached
      | cons next others => exact reached
    · cases rest with
      | nil =>
          rw [List.getLast?_singleton, Option.map_some, ends]
          exact congrArg some (le_antisymm (min_le_right _ _) last)
      | cons next others =>
          obtain ⟨after, inside⟩ := restTiled.within next List.mem_cons_self
          exact absurd (last.trans after) (not_le.mpr inside)

variable (configured : provider.Configured) (rootNonneg : ∀ value, 0 ≤ squareRoot value)
  (forward : 0 < request.interval)
include configured rootNonneg forward

/-- What the loop makes, with enough rounds, tiles what is left of the horizon. -/
theorem tile_tiled {fuel : ℕ} {start : Instant} {points : List ForecastPoint}
    (enough : request.horizonEnd ≤ start + fuel * request.interval)
    (made : provider.tile squareRoot request fuel start = .ok points) :
    Tiled provider request start points := by
  induction fuel generalizing start points with
  | zero =>
      cases made
      exact Tiled.nil (by simpa using enough)
  | succ fuel inductionHypothesis =>
      rcases lt_or_ge start request.horizonEnd with before | after
      · obtain ⟨_, point, rest, pointMade, restMade, rfl⟩ := (tile_succ before).mp made
        obtain ⟨starts, ends, bounded⟩ := pointFor_bounded configured rootNonneg pointMade
        refine Tiled.cons forward before starts ends bounded (inductionHypothesis ?_ restMade)
        push_cast at enough
        rcases min_choice (start + request.interval) request.horizonEnd with whole | cut
        · rw [whole]
          linarith
        · rw [cut]
          have nonneg : 0 ≤ fuel * request.interval := by positivity
          linarith
      · rw [tile_after after] at made
        cases made
        exact Tiled.nil after

/-- The loop ends with points exactly where every interval it reaches is supplied. -/
theorem tile_isOk_iff {fuel : ℕ} {start : Instant}
    (enough : request.horizonEnd ≤ start + fuel * request.interval) :
    (∃ points, provider.tile squareRoot request fuel start = .ok points) ↔
      ∀ round : ℕ, start + round * request.interval < request.horizonEnd →
        Supplied provider squareRoot request (start + round * request.interval) := by
  induction fuel generalizing start with
  | zero =>
      refine iff_of_true ⟨[], rfl⟩ ?_
      intro round before
      have nonneg : 0 ≤ round * request.interval := by positivity
      have after : request.horizonEnd ≤ start := by simpa using enough
      exact absurd before (not_lt.mpr (by linarith))
  | succ fuel inductionHypothesis =>
      rcases lt_or_ge start request.horizonEnd with before | after
      · have restEnough : request.horizonEnd ≤
            min (start + request.interval) request.horizonEnd + fuel * request.interval := by
          push_cast at enough
          have nonneg : 0 ≤ fuel * request.interval := by positivity
          rcases min_choice (start + request.interval) request.horizonEnd with whole | cut
          · rw [whole]
            linarith
          · rw [cut]
            linarith
        have restOk := inductionHypothesis restEnough
        have pointOk := @pointFor_isOk_iff provider squareRoot (samplesAt request start)
          (hoursBetween start (min (start + request.interval) request.horizonEnd)) configured
          rootNonneg start (min (start + request.interval) request.horizonEnd)
        constructor
        · rintro ⟨points, made⟩
          obtain ⟨ends, point, rest, pointMade, restMade, _⟩ := (tile_succ before).mp made
          intro round reached
          cases round with
          | zero =>
              rw [Nat.cast_zero, zero_mul, add_zero]
              exact ⟨ends, pointOk.mp ⟨point, pointMade⟩⟩
          | succ round =>
              have whole : start + request.interval < request.horizonEnd := by
                have nonneg : 0 ≤ round * request.interval := by positivity
                push_cast at reached
                linarith
              rw [min_eq_left whole.le] at restOk restMade
              have later := restOk.mp ⟨rest, restMade⟩ round
              have same : start + request.interval + round * request.interval =
                  start + (round + 1 : ℕ) * request.interval := by
                push_cast
                ring
              rw [same] at later
              exact later reached
        · intro supplied
          have first := supplied 0
          rw [Nat.cast_zero, zero_mul, add_zero] at first
          obtain ⟨point, pointMade⟩ := pointOk.mpr (first before).fits
          have restSupplied : ∃ rest, provider.tile squareRoot request fuel
              (min (start + request.interval) request.horizonEnd) = .ok rest := by
            rcases lt_or_ge (start + request.interval) request.horizonEnd with whole | cut
            · rw [min_eq_left whole.le] at restOk ⊢
              refine restOk.mpr fun round reached => ?_
              have same : start + request.interval + round * request.interval =
                  start + (round + 1 : ℕ) * request.interval := by
                push_cast
                ring
              rw [same] at reached ⊢
              exact supplied (round + 1) reached
            · rw [min_eq_right cut]
              exact ⟨[], tile_after le_rfl⟩
          obtain ⟨rest, restMade⟩ := restSupplied
          exact ⟨point :: rest, (tile_succ before).mpr
            ⟨(first before).ends, point, rest, pointMade, restMade, rfl⟩⟩
      · refine iff_of_true ⟨[], tile_after after⟩ ?_
        intro round reached
        have nonneg : 0 ≤ round * request.interval := by positivity
        exact absurd reached (not_lt.mpr (by linarith))

end Loop

/-! ## The prediction -/

/-- What a prediction needs: enough measured values, and for every interval of the
horizon an end in time and numbers that fit. -/
structure Feasible (provider : BaselineForecastProvider) (squareRoot : ℚ → ℚ)
    (request : ForecastRequest) : Prop where
  enough : provider.minRequiredSamples ≤ (measuredValues request).length
  supplied : ∀ round : ℕ, request.horizonStart + round * request.interval < request.horizonEnd →
    Supplied provider squareRoot request (request.horizonStart + round * request.interval)

/-- What a prediction is to be. -/
structure Forecasts (provider : BaselineForecastProvider) (squareRoot : ℚ → ℚ)
    (request : ForecastRequest) (result : ForecastResult) : Prop where
  /-- The points follow one another from the start of the horizon to its end. -/
  tiles : TilesFrom ForecastPoint.intervalStart ForecastPoint.intervalEnd request.horizonStart
    result.points
  reaches : (result.points.getLast?).map ForecastPoint.intervalEnd = some request.horizonEnd
  /-- Each lasts an interval, or up to the horizon. -/
  cut : ∀ point ∈ result.points,
    point.intervalEnd = min (point.intervalStart + request.interval) request.horizonEnd
  bounded : ∀ point ∈ result.points, provider.Bounded point
  /-- What was not measured makes no difference. -/
  measured : provider.predict squareRoot (withoutUnmeasured request) = .ok result
  accepted : validateResult result request (provider.asProvider squareRoot) = .ok ()

section Prediction

variable {provider : BaselineForecastProvider} {squareRoot : ℚ → ℚ} {request : ForecastRequest}

private theorem tile_withoutUnmeasured (fuel : ℕ) (start : Instant) :
    provider.tile squareRoot (withoutUnmeasured request) fuel start =
      provider.tile squareRoot request fuel start := by
  induction fuel generalizing start with
  | zero => rfl
  | succ fuel inductionHypothesis =>
      unfold BaselineForecastProvider.tile samplesAt
      rw [groupByTimeOfDay_withoutUnmeasured]
      simp only [inductionHypothesis]
      rfl

private theorem predict_withoutUnmeasured :
    provider.predict squareRoot (withoutUnmeasured request) =
      provider.predict squareRoot request := by
  unfold BaselineForecastProvider.predict usableSamples
  rw [groupByTimeOfDay_withoutUnmeasured, tile_withoutUnmeasured]
  rfl

/-- Points that tile the horizon are accepted. -/
theorem Tiled.accepted {result : ForecastResult} (asked : ForecastProvider)
    (ordered : request.horizonStart < request.horizonEnd) (forward : 0 < request.interval)
    (sameType : result.forecastType = request.forecastType)
    (tiled : Tiled provider request request.horizonStart result.points) :
    validateResult result request asked = .ok () := by
  rw [validateResult_eq_ok]
  refine ⟨sameType, ?_, ?_, ?_, tiled.within, ?_⟩
  · intro none_
    have reached := tiled.reaches ordered
    rw [none_] at reached
    cases reached
  · intro point member
    rw [tiled.cut point member]
    exact lt_min (lt_add_of_pos_right _ forward) (tiled.within point member).2
  · exact (List.pairwise_map.mpr tiled.increasing).imp ne_of_lt
  · intro point member value given
    obtain ⟨_, _, _, confidence, _, _, _, same, _, _, _, least, most, _⟩ :=
      tiled.bounded point member
    rw [same] at given
    cases given
    exact ⟨least, most⟩

end Prediction

/-! ## Days at one time of day -/

/-- A horizon of three quarters of an hour at midnight, after days with one sample at
midnight each. -/
def midnights (values : List ℚ) (interval : ℤ) : ForecastRequest where
  siteId := 21
  forecastType := .solar
  horizonStart := 259200000000
  horizonEnd := 261900000000
  interval := interval
  history := values.zipIdx.map fun entry =>
    { intervalStart := entry.2 * 86400000000, intervalEnd := entry.2 * 86400000000 + 900000000
      generationKw := some entry.1 }

def capped (minRequiredSamples : ℤ) (capacity : Option ℚ) : BaselineForecastProvider :=
  construct DEFAULT_NAME DEFAULT_MODEL_VERSION
    DEFAULT_REFERENCE_DAYS minRequiredSamples capacity

private theorem capped_configured {minRequiredSamples : ℤ} {capacity : ℚ} (nonneg : 0 ≤ capacity)
    (onGrid : OnGrid 3 capacity) : (capped minRequiredSamples (some capacity)).Configured where
  nonneg := fun _ held => Option.some.inj held ▸ nonneg
  onGrid := fun _ held => Option.some.inj held ▸ onGrid

end UrjaSetu.Services.ForecastService
