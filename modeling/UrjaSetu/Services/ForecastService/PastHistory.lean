import UrjaSetu.Services.ForecastService

/-!
Which intervals `gather_history` hands to a forecast.

Readings are selected by their timestamp, from a window that includes its end; an
observation lasts as long as the first reading of its start. A reading that is
stamped before its interval is over can be selected for a horizon that begins
inside that interval.

Owns: how long an observation lasts, and when a history is over before the
horizon starts.
-/

namespace UrjaSetu.Services.ForecastService

open UrjaSetu.Domain UrjaSetu.Domain.Interfaces UrjaSetu.Db UrjaSetu.Library
open UrjaSetu.Repositories.Telemetry

/-- The readings a history is made of, in the order of their timestamps. -/
def historyRows (db : Database) (siteId : UUID) (end_ : Instant) (window : ℤ) :
    List Models.TelemetryReading :=
  listForSite db.community.meters db.readings.rows siteId (end_ - window) end_ true 100000

/-- Of the rows that start with it, this is the first. -/
def Leads (rows : List Models.TelemetryReading) (row : Models.TelemetryReading) : Prop :=
  rows.find? (fun other => other.intervalStart = row.intervalStart) = some row

/-- Adding a row opens a bucket that lasts as long as the row, or extends no bucket. -/
theorem historyBuckets_intervalEnd (rows : List Models.TelemetryReading) (start : Instant) :
    ((historyBuckets rows).get? start).map HistoryBucket.intervalEnd =
      (rows.find? fun row => row.intervalStart = start).map
        Models.TelemetryReading.intervalEnd := by
  induction rows using List.reverseRecOn with
  | nil => rfl
  | append_singleton front last inductionHypothesis =>
      have extended : historyBuckets (front ++ [last]) =
          (historyBuckets front).set last.intervalStart
            ((((historyBuckets front).get? last.intervalStart).getD
              { intervalEnd := last.intervalEnd }).add last) := by
        simp only [historyBuckets, List.foldl_append, List.foldl_cons, List.foldl_nil]
      rw [extended, Dict.get?_set, List.find?_append]
      by_cases own : start = last.intervalStart
      · rw [if_pos own, ← own]
        -- the bucket is the one that was open for this start, if any was
        cases held : (historyBuckets front).get? start with
        | none =>
            rw [held] at inductionHypothesis
            have unseen := Option.map_eq_none_iff.mp inductionHypothesis.symm
            rw [unseen]
            simp [own, HistoryBucket.add]
        | some bucket =>
            rw [held] at inductionHypothesis
            obtain ⟨first, found, lasts⟩ := Option.map_eq_some_iff.mp inductionHypothesis.symm
            rw [found]
            simp [HistoryBucket.add, lasts]
      · rw [if_neg own, inductionHypothesis]
        simp [Ne.symm own]

variable {db : Database} {siteId : UUID} {end_ : Instant} {window : ℤ}

/-- An observation spans the first reading of its start. -/
theorem mem_history {observation : HistoricalObservation}
    (observed : observation ∈ history db siteId end_ window) :
    ∃ row, Leads (historyRows db siteId end_ window) row ∧
      row.intervalStart = observation.intervalStart ∧
      row.intervalEnd = observation.intervalEnd := by
  obtain ⟨⟨start, bucket⟩, member, rfl⟩ := List.mem_map.mp observed
  have held := Dict.mem_entries_iff.mp ((mem_sortBy _).mp member)
  have lasts := historyBuckets_intervalEnd (historyRows db siteId end_ window) start
  unfold historyRows at lasts
  rw [held] at lasts
  obtain ⟨row, found, same⟩ := Option.map_eq_some_iff.mp lasts.symm
  have starts : row.intervalStart = start := by simpa using List.find?_some found
  refine ⟨row, ?_, starts, same⟩
  unfold Leads historyRows
  rw [starts]
  exact found

/-- Every first reading of a start is observed. -/
theorem observed_of_leads {row : Models.TelemetryReading}
    (leads : Leads (historyRows db siteId end_ window) row) :
    ∃ observation ∈ history db siteId end_ window,
      observation.intervalStart = row.intervalStart ∧
        observation.intervalEnd = row.intervalEnd := by
  have lasts := historyBuckets_intervalEnd (historyRows db siteId end_ window) row.intervalStart
  unfold Leads at leads
  rw [leads] at lasts
  obtain ⟨bucket, held, same⟩ := Option.map_eq_some_iff.mp lasts
  have entry := Dict.mem_entries_iff.mpr held
  exact ⟨_, List.mem_map_of_mem ((mem_sortBy _).mpr entry), rfl, same⟩

/-- A history is over before the horizon exactly when the first reading of each of
its starts is. -/
theorem history_past_iff (db : Database) (siteId : UUID) (end_ : Instant) (window : ℤ) :
    (∀ observation ∈ history db siteId end_ window, observation.intervalEnd ≤ end_) ↔
      ∀ row, Leads (historyRows db siteId end_ window) row → row.intervalEnd ≤ end_ := by
  constructor
  · intro past row leads
    obtain ⟨observation, observed, _, same⟩ := observed_of_leads leads
    rw [← same]
    exact past observation observed
  · intro past observation observed
    obtain ⟨row, leads, _, same⟩ := mem_history observed
    rw [← same]
    exact past row leads

/-- Readings stamped at the end of their intervals or later make a history that is
over. -/
theorem history_past_of_stampedLate
    (stampedLate : ∀ row ∈ db.readings.rows, row.intervalEnd ≤ row.timestamp) :
    ∀ observation ∈ history db siteId end_ window, observation.intervalEnd ≤ end_ := by
  rw [history_past_iff]
  intro row leads
  have listed : row ∈ historyRows db siteId end_ window := List.mem_of_find?_eq_some leads
  have selected := (mem_sortBy _).mp (List.mem_of_mem_take listed)
  obtain ⟨stored, within⟩ := List.mem_filter.mp selected
  simp only [Bool.and_eq_true, decide_eq_true_eq] at within
  exact (stampedLate row stored).trans within.1.2

/-! ## A reading stamped at its start -/

/-- One reading of the quarter hour that starts at the horizon. -/
def earlyDatabase : Database :=
  { Database.initial ⟨0, false, .normal, 0, "", false⟩
      ⟨[], [⟨21, 11, none⟩], [⟨31, 21⟩], [], []⟩ with
    readings := ⟨[⟨51, 31, none, 0, 0, 900000000, some 2, none, none, none, none, none, none, none,
      none, none, .valid, .meter⟩], by decide +kernel, by decide⟩ }

/-- It is handed to the forecast of the very interval. -/
theorem earlyReading_observed :
    ¬ ∀ observation ∈ history earlyDatabase 21 0 DEFAULT_HISTORY_WINDOW,
      observation.intervalEnd ≤ 0 := by
  intro past
  have ends : (history earlyDatabase 21 0 DEFAULT_HISTORY_WINDOW).map
      HistoricalObservation.intervalEnd = [900000000] := by decide +kernel
  have every : ∀ instant ∈ (history earlyDatabase 21 0 DEFAULT_HISTORY_WINDOW).map
      HistoricalObservation.intervalEnd, instant ≤ 0 := List.forall_mem_map.mpr past
  rw [ends] at every
  have notAfter := every 900000000 List.mem_cons_self
  revert notAfter
  decide

end UrjaSetu.Services.ForecastService
