import UrjaSetu.Library.Intervals
import UrjaSetu.Repositories.Forecasting
import UrjaSetu.Services.ForecastService

/-!
Which forecast points `get_surplus_for_site` counts.

The points of a window are selected and deduplicated by the instant they start at.
Where runs of different resolutions overlap, a point may start while another lasts,
and the last point may reach beyond the window.

Owns: the prediction in force at an instant, and that the points of the surplus
are disjoint and inside the window exactly where no such prediction reaches past
the next one or past the window.
-/

namespace UrjaSetu.Services.ForecastService

open UrjaSetu.Domain UrjaSetu.Db UrjaSetu.Db.Models UrjaSetu.Domain.Policies.Surplus
open UrjaSetu.Library UrjaSetu.Library.Intervals UrjaSetu.Repositories.Forecasting

/-- The points of `get_surplus_for_site` where it returns. -/
def surplusPoints (db : Database) (siteId : UUID) (start end_ : Instant) : List SurplusPoint :=
  calculateSurplus (predictions (latestPerIntervalForSite db siteId start end_ .solar))
    (predictions (latestPerIntervalForSite db siteId start end_ .load))

/-- It is these points whose energy is offered. -/
theorem exportableKwh_eq (db : Database) (siteId : UUID) (start end_ : Instant) :
    exportableKwh db siteId start end_ =
      totalExportableKwh (surplusPoints db siteId start end_) := rfl

/-- `get_surplus_for_site`. -/
def getSurplusForSite (siteId : UUID) (start end_ : Instant) : Call (List SurplusPoint) := do
  requireSite siteId
  Work.read fun db => surplusPoints db siteId start end_

/-- No instant is counted twice, and none outside the window. -/
def CountsOnce (points : List SurplusPoint) (start end_ : Instant) : Prop :=
  points.Pairwise (fun earlier later => Disjoint
      (Set.Ico earlier.intervalStart earlier.intervalEnd)
      (Set.Ico later.intervalStart later.intervalEnd)) ∧
    ∀ point ∈ points, Set.Ico point.intervalStart point.intervalEnd ⊆ Set.Ico start end_

/-! ## The prediction in force -/

/-- The points of completed runs with their runs. -/
def completedRows (db : Database) : List (ForecastPoint × ForecastRun) :=
  (db.forecastPoints.rows.filterMap fun point =>
    (db.forecastRuns.find? fun run => run.id = point.forecastRunId).map fun run => (point, run)).filter
      fun row => row.2.status = .completed

/-- The most recently created prediction of a kind that starts at an instant. -/
def newestAt (db : Database) (siteId : UUID) (kind : ForecastType) (moment : Instant) :
    Option ForecastPoint :=
  ((sortBy (fun row => row.2.createdAt) ((completedRows db).filter fun row =>
    row.1.siteId = siteId ∧ row.2.forecastType = kind ∧ row.1.intervalStart = moment)).getLast?).map
      Prod.fst

/-- Generation goes before consumption. -/
def inForceAt (db : Database) (siteId : UUID) (moment : Instant) : Option ForecastPoint :=
  (newestAt db siteId .solar moment).or (newestAt db siteId .load moment)

/-- No prediction in force at its start lasts until after the next start of one, or
until after the window. -/
def NoneReachesPast (db : Database) (siteId : UUID) (start end_ : Instant) : Prop :=
  ∀ moment point, start ≤ moment → moment < end_ → inForceAt db siteId moment = some point →
    point.intervalEnd ≤ end_ ∧
      ∀ later, moment < later → later < end_ → (inForceAt db siteId later).isSome = true →
        point.intervalEnd ≤ later

variable {db : Database} {siteId : UUID} {start end_ moment : Instant} {kind : ForecastType}

private theorem listForSite_eq : listForSite db siteId start end_ kind =
    (sortBy (fun row : ForecastPoint × ForecastRun =>
        (toLex (row.1.intervalStart, row.2.createdAt) : Instant ×ₗ Instant))
      ((completedRows db).filter fun row => row.1.siteId = siteId ∧ row.2.forecastType = kind ∧
        start ≤ row.1.intervalStart ∧ row.1.intervalStart < end_)).map Prod.fst := by
  dsimp only [listForSite, completedRows]
  rw [List.filter_filter]
  congr 2
  apply List.filter_congr
  intro row _
  rw [← Bool.decide_and, decide_eq_decide]
  tauto

/-- The last point listed for an instant is the newest one. -/
theorem getLast?_listForSite :
    ((listForSite db siteId start end_ kind).filter fun point =>
      point.intervalStart = moment).getLast? =
      if start ≤ moment ∧ moment < end_ then newestAt db siteId kind moment else none := by
  rw [listForSite_eq, List.filter_map, sortBy_filter, List.filter_filter, List.getLast?_map]
  split
  · rename_i within
    unfold newestAt
    congr 2
    have rows : ((completedRows db).filter fun row =>
        (((fun point : ForecastPoint => decide (point.intervalStart = moment)) ∘ Prod.fst) row &&
          decide (row.1.siteId = siteId ∧ row.2.forecastType = kind ∧
            start ≤ row.1.intervalStart ∧ row.1.intervalStart < end_))) =
        (completedRows db).filter fun row =>
          row.1.siteId = siteId ∧ row.2.forecastType = kind ∧ row.1.intervalStart = moment := by
      apply List.filter_congr
      intro row _
      rw [Function.comp_apply, ← Bool.decide_and, decide_eq_decide]
      constructor
      · rintro ⟨same, site, ofKind, _⟩
        exact ⟨site, ofKind, same⟩
      · rintro ⟨site, ofKind, same⟩
        rw [same]
        exact ⟨rfl, site, ofKind, within⟩
    rw [rows]
    apply sortBy_congr
    intro left leftIn right rightIn
    have leftAt := (List.mem_filter.mp leftIn).2
    have rightAt := (List.mem_filter.mp rightIn).2
    simp only [decide_eq_true_eq] at leftAt rightAt
    rw [leftAt.2.2, rightAt.2.2, Prod.Lex.toLex_le_toLex]
    simp
  · rename_i outside
    rw [Option.map_eq_none_iff, List.getLast?_eq_none_iff, ← List.length_eq_zero_iff,
      (sortBy_perm _ _).length_eq, List.length_eq_zero_iff, List.filter_eq_nil_iff]
    intro row _
    simp only [Function.comp_apply, Bool.and_eq_true, decide_eq_true_eq, not_and]
    intro same _ _ after before
    rw [same] at after before
    exact outside ⟨after, before⟩

/-- The one point selected for an instant. -/
theorem getLast?_latestPerIntervalForSite :
    ((latestPerIntervalForSite db siteId start end_ kind).filter fun point =>
      point.intervalStart = moment).getLast? =
      if start ≤ moment ∧ moment < end_ then newestAt db siteId kind moment else none := by
  have held := Dict.get?_ofItems_getLast? ForecastPoint.intervalStart id
    (listForSite db siteId start end_ kind) moment
  rw [getLast?_listForSite, Option.map_id] at held
  rw [← id_eq (ite _ _ _), ← held]
  have selected : ∀ point, point ∈ (latestPerIntervalForSite db siteId start end_ kind).filter
      (fun point => point.intervalStart = moment) ↔
      (Dict.ofItems ForecastPoint.intervalStart id
        (listForSite db siteId start end_ kind)).get? moment = some point := by
    intro point
    rw [List.mem_filter, decide_eq_true_eq]
    constructor
    · rintro ⟨listed, same⟩
      obtain ⟨⟨key, found⟩, sorted, rfl⟩ := List.mem_map.mp listed
      have entry := Dict.mem_entries_iff.mp ((mem_sortBy _).mp sorted)
      rw [← same, (Dict.mem_of_get?_ofItems entry).2]
      exact entry
    · intro found
      refine ⟨List.mem_map.mpr ⟨(moment, point), (mem_sortBy _).mpr
        (Dict.mem_entries_iff.mpr found), rfl⟩, (Dict.mem_of_get?_ofItems found).2⟩
  rcases eq_or_ne ((latestPerIntervalForSite db siteId start end_ kind).filter
      fun point => point.intervalStart = moment) [] with nothing | something
  · rw [nothing] at selected ⊢
    apply Eq.symm
    rw [List.getLast?_nil, Option.eq_none_iff_forall_ne_some]
    intro point found
    exact absurd ((selected point).mpr found) List.not_mem_nil
  · rw [List.getLast?_eq_some_getLast something]
    exact ((selected _).mp (List.getLast_mem something)).symm

/-- What the selected points of a kind say of an instant. -/
theorem get?_byStart :
    (byStart (predictions (latestPerIntervalForSite db siteId start end_ kind))).get? moment =
      if start ≤ moment ∧ moment < end_ then
        (newestAt db siteId kind moment).map fun point => (point.intervalEnd, point.predictedKw)
      else none := by
  rw [byStart, Dict.get?_ofItems_getLast?, predictions, List.filter_map, List.getLast?_map,
    Option.map_map]
  have same := @getLast?_latestPerIntervalForSite db siteId start end_ moment kind
  show Option.map _ ((List.filter (fun point : ForecastPoint =>
    decide (point.intervalStart = moment)) _).getLast?) = _
  rw [same]
  split
  · rfl
  · rfl

/-! ## The intervals of the surplus -/

/-- The end that a surplus point starting at an instant takes. -/
def windowEnd (generation consumption : List Prediction) (moment : Instant) : Option Instant :=
  (((byStart generation).get? moment).map Prod.fst).or
    (((byStart consumption).get? moment).map Prod.fst)

private theorem calculateSurplus_increasing (generation consumption : List Prediction) :
    (calculateSurplus generation consumption).Pairwise fun earlier later =>
      earlier.intervalStart < later.intervalStart := by
  dsimp only [calculateSurplus]
  rw [List.pairwise_filterMap]
  have distinct : (sortBy id (((byStart generation).entries.map Prod.fst ++
      (byStart consumption).entries.map Prod.fst).dedup)).Nodup :=
    (sortBy_perm id _).nodup_iff.mpr (List.nodup_dedup _)
  apply ((sortBy_pairwise id _).and distinct).imp
  rintro earlier later ⟨order, differ⟩ first firstMade second secondMade
  obtain ⟨_, _, rfl⟩ := Option.map_eq_some_iff.mp firstMade
  obtain ⟨_, _, rfl⟩ := Option.map_eq_some_iff.mp secondMade
  exact lt_of_le_of_ne order differ

/-- There is a surplus point for every instant a prediction starts at. -/
theorem calculateSurplus_windows {generation consumption : List Prediction} {end_ : Instant} :
    (∃ point ∈ calculateSurplus generation consumption,
      point.intervalStart = moment ∧ point.intervalEnd = end_) ↔
      windowEnd generation consumption moment = some end_ := by
  constructor
  · rintro ⟨point, member, rfl, rfl⟩
    obtain ⟨start, _, made⟩ := List.mem_filterMap.mp member
    obtain ⟨ended, found, rfl⟩ := Option.map_eq_some_iff.mp made
    exact found
  · intro found
    refine ⟨_, List.mem_filterMap.mpr ⟨moment, ?_, Option.map_eq_some_iff.mpr ⟨end_, found, rfl⟩⟩,
      rfl, rfl⟩
    rw [mem_sortBy, List.mem_dedup, List.mem_append]
    rcases Option.or_eq_some_iff.mp found with generated | ⟨_, consumed⟩
    · obtain ⟨held, isHeld, _⟩ := Option.map_eq_some_iff.mp generated
      exact Or.inl (List.mem_map.mpr ⟨(moment, held), Dict.mem_entries_iff.mpr isHeld, rfl⟩)
    · obtain ⟨held, isHeld, _⟩ := Option.map_eq_some_iff.mp consumed
      exact Or.inr (List.mem_map.mpr ⟨(moment, held), Dict.mem_entries_iff.mpr isHeld, rfl⟩)

/-- The surplus has a point for each prediction in force in the window, and its
interval. -/
theorem surplusPoints_windows {ended : Instant} :
    (∃ point ∈ surplusPoints db siteId start end_,
      point.intervalStart = moment ∧ point.intervalEnd = ended) ↔
      (start ≤ moment ∧ moment < end_) ∧
        (inForceAt db siteId moment).map ForecastPoint.intervalEnd = some ended := by
  rw [surplusPoints, calculateSurplus_windows, windowEnd, get?_byStart, get?_byStart, inForceAt]
  by_cases within : start ≤ moment ∧ moment < end_
  · rw [if_pos within, if_pos within]
    cases newestAt db siteId .solar moment with
    | some solar => simp [within]
    | none =>
        cases newestAt db siteId .load moment with
        | some load => simp [within]
        | none => simp
  · simp [within]

private theorem newestAt_stored {point : ForecastPoint}
    (newest : newestAt db siteId kind moment = some point) :
    point ∈ db.forecastPoints.rows ∧ point.intervalStart = moment := by
  obtain ⟨row, last, rfl⟩ := Option.map_eq_some_iff.mp newest
  have selected := (mem_sortBy _).mp (List.mem_of_getLast? last)
  obtain ⟨completed, wanted⟩ := List.mem_filter.mp selected
  simp only [decide_eq_true_eq] at wanted
  obtain ⟨stored, member, made⟩ := List.mem_filterMap.mp (List.mem_filter.mp completed).1
  obtain ⟨run, _, rfl⟩ := Option.map_eq_some_iff.mp made
  exact ⟨member, wanted.2.2⟩

private theorem inForceAt_stored {point : ForecastPoint}
    (inForce : inForceAt db siteId moment = some point) :
    point ∈ db.forecastPoints.rows ∧ point.intervalStart = moment := by
  rcases Option.or_eq_some_iff.mp inForce with solar | ⟨_, load⟩
  · exact newestAt_stored solar
  · exact newestAt_stored load

/-- Every point of the surplus has the interval of the prediction in force. -/
theorem inForce_of_mem {point : SurplusPoint} (member : point ∈ surplusPoints db siteId start end_) :
    (start ≤ point.intervalStart ∧ point.intervalStart < end_) ∧
      ∃ prediction, inForceAt db siteId point.intervalStart = some prediction ∧
        prediction.intervalEnd = point.intervalEnd ∧ point.intervalStart < point.intervalEnd := by
  obtain ⟨within, ended⟩ := surplusPoints_windows.mp ⟨point, member, rfl, rfl⟩
  obtain ⟨prediction, inForce, same⟩ := Option.map_eq_some_iff.mp ended
  obtain ⟨stored, starts⟩ := inForceAt_stored inForce
  have check := db.forecastPoints.checked prediction stored
  simp only [Models.forecastPoints, Bool.and_eq_true, decide_eq_true_eq] at check
  refine ⟨within, prediction, inForce, same, ?_⟩
  rw [← same, ← starts]
  exact check.1.1

/-- The surplus counts every instant of the window at most once, and no other,
exactly where no prediction in force lasts past the next one or past the window. -/
theorem surplusPoints_countsOnce_iff (db : Database) (siteId : UUID) (start end_ : Instant) :
    CountsOnce (surplusPoints db siteId start end_) start end_ ↔
      NoneReachesPast db siteId start end_ := by
  have increasing : (surplusPoints db siteId start end_).Pairwise fun earlier later =>
      earlier.intervalStart < later.intervalStart := calculateSurplus_increasing _ _
  rw [CountsOnce, pairwise_disjoint_iff_apart increasing
    fun point member => (inForce_of_mem member).2.choose_spec.2.2]
  constructor
  · rintro ⟨apart, inside⟩ moment prediction after before inForce
    obtain ⟨point, member, rfl, ends⟩ := surplusPoints_windows.mpr
      ⟨⟨after, before⟩, by rw [inForce, Option.map_some]⟩
    refine ⟨?_, ?_⟩
    · have proper := (inForce_of_mem member).2.choose_spec.2.2
      rw [← ends]
      exact ((Set.Ico_subset_Ico_iff proper).mp (inside point member)).2
    · intro later laterThan laterBefore isInForce
      obtain ⟨next, nextInForce⟩ := Option.isSome_iff_exists.mp isInForce
      obtain ⟨other, otherMember, otherStarts, _⟩ := surplusPoints_windows.mpr
        ⟨⟨after.trans laterThan.le, laterBefore⟩, by rw [nextInForce, Option.map_some]⟩
      rw [← ends, ← otherStarts]
      exact apart point member other otherMember (by rw [otherStarts]; exact laterThan)
  · intro holds
    constructor
    · intro earlier earlierMember later laterMember before
      obtain ⟨⟨after, ends⟩, prediction, inForce, same, _⟩ := inForce_of_mem earlierMember
      obtain ⟨⟨_, laterEnds⟩, next, nextInForce, _, _⟩ := inForce_of_mem laterMember
      rw [← same]
      exact (holds _ _ after ends inForce).2 _ before laterEnds (by rw [nextInForce]; rfl)
    · intro point member
      obtain ⟨⟨after, ends⟩, prediction, inForce, same, _⟩ := inForce_of_mem member
      rw [← same]
      exact Set.Ico_subset_Ico after (holds _ _ after ends inForce).1

/-! ## Samples -/

/-- A forecast of one hour, and a later one of its second half hour in quarters. -/
def overlappingForecasts : Database :=
  { Database.initial ⟨0, false, .normal, 0, "", false⟩ ⟨[], [⟨21, 11, none⟩], [], [], []⟩ with
    forecastRuns := ⟨[⟨41, .solar, 0, 3600000000, 0, .completed, "baseline", "1.0.0", none⟩,
      ⟨42, .solar, 1800000000, 3600000000, 1, .completed, "baseline", "1.0.0", none⟩],
      by decide, by decide⟩
    forecastPoints := ⟨[
      ⟨41, 21, 0, 3600000000, some 4, none, none, none, none⟩,
      ⟨42, 21, 1800000000, 2700000000, some 4, none, none, none, none⟩,
      ⟨42, 21, 2700000000, 3600000000, some 4, none, none, none, none⟩], by decide, by decide⟩ }

/-- The hour and the quarters in it are all counted. -/
theorem overlappingForecasts_countTwice :
    ¬ CountsOnce (surplusPoints overlappingForecasts 21 0 3600000000) 0 3600000000 := by
  rintro ⟨apart, _⟩
  have windows : (surplusPoints overlappingForecasts 21 0 3600000000).map
      (fun point => (point.intervalStart, point.intervalEnd)) =
      [(0, 3600000000), (1800000000, 2700000000), (2700000000, 3600000000)] := by
    decide +kernel
  have listed : ∀ window ∈ [((0 : Instant), (3600000000 : Instant)), (1800000000, 2700000000)],
      ∃ point ∈ surplusPoints overlappingForecasts 21 0 3600000000,
        (point.intervalStart, point.intervalEnd) = window := by
    intro window member
    apply List.mem_map.mp
    rw [windows]
    revert window
    decide
  obtain ⟨hour, hourListed, isHour⟩ := listed (0, 3600000000) (by simp)
  obtain ⟨quarter, quarterListed, isQuarter⟩ := listed (1800000000, 2700000000) (by simp)
  rw [Prod.mk.injEq] at isHour isQuarter
  have symmetric : Std.Symm fun earlier later : SurplusPoint =>
      Disjoint (Set.Ico earlier.intervalStart earlier.intervalEnd)
        (Set.Ico later.intervalStart later.intervalEnd) := ⟨fun _ _ disjoint => disjoint.symm⟩
  have disjoint := apart.forall hourListed quarterListed (by
    intro same
    rw [same, isQuarter.1] at isHour
    exact absurd isHour.1 (by decide))
  rw [isHour.1, isHour.2, isQuarter.1, isQuarter.2] at disjoint
  have inHour : (1800000000 : Instant) ∈ Set.Ico (0 : Instant) 3600000000 := by norm_num
  have inQuarter : (1800000000 : Instant) ∈ Set.Ico (1800000000 : Instant) 2700000000 := by norm_num
  exact Set.disjoint_left.mp disjoint inHour inQuarter

end UrjaSetu.Services.ForecastService
