import UrjaSetu.Library.WorkFrames
import UrjaSetu.Services.WorkspaceService.ClearingEffects

/-!
The operations of `Services.WorkspaceService.Delivery` on the whole workspace:
what they do besides delivering leaves the market alone.

Owns: that readings, forecasts and the clock are kept beside the market, and that
every one of these operations is a sequence of moves.
-/

namespace UrjaSetu.Services.WorkspaceService

open UrjaSetu.Domain UrjaSetu.Domain.Interfaces UrjaSetu.Db UrjaSetu.Db.Models UrjaSetu.Library
open UrjaSetu.Library.Work UrjaSetu.Adapters UrjaSetu.Domain.Policies.CommunityEnergy

/-! ## Statements beside the market -/

private theorem insertReading_beside {reading : TelemetryReading}
    (nonneg : channelsNonneg reading = true) :
    Respects Beside (Relations.readings.insert reading) := by
  intro db next executed
  have aside := insertReading_aside nonneg executed
  obtain ⟨table, _, same⟩ := Relation.insert_ok executed
  subst same
  exact ⟨aside, rfl, rfl, rfl, rfl, ⟨[], (List.append_nil _).symm⟩, Lasting.of_same rfl rfl⟩

private theorem moveClock_beside (moved : Simulation) :
    Respects Beside fun db => (.ok { db with simulation := moved } : Except Failure Database) := by
  intro db next executed
  cases executed
  exact beside_of_same rfl

/-- Both runs over tomorrow, of a site that has none. -/
theorem forecastRuns_beside {engines : Engines} {site : Site} {clock createdAt : Instant}
    {solarId loadId : UUID} {history : List Interfaces.HistoricalObservation} {db next : Database}
    (absent : hasForecast db site (tomorrow clock) = false)
    (executed : (insertForecast ⟨solarId, .solar, tomorrow clock, tomorrow clock + DAY, createdAt,
          .completed, Baseline.DEFAULT_NAME, Baseline.DEFAULT_MODEL_VERSION, none⟩
        ((Baseline.predict engines.pointRule
          { siteId := site.id, forecastType := .solar, horizonStart := tomorrow clock
            horizonEnd := tomorrow clock + DAY, interval := INTERVAL
            history := history }).map (forecastPoint solarId site.id)) db >>=
      insertForecast ⟨loadId, .load, tomorrow clock, tomorrow clock + DAY, createdAt,
          .completed, Baseline.DEFAULT_NAME, Baseline.DEFAULT_MODEL_VERSION, none⟩
        ((Baseline.predict engines.pointRule
          { siteId := site.id, forecastType := .load, horizonStart := tomorrow clock
            horizonEnd := tomorrow clock + DAY, interval := INTERVAL
            history := history }).map (forecastPoint loadId site.id))) = .ok next) :
    Beside db next := by
  obtain ⟨middle, solar, load⟩ := bind_eq_ok.mp executed
  have aside := (insertForecast_aside solar).trans (insertForecast_aside load)
  obtain ⟨solarPoints, solarRuns, solarFrame⟩ := insertForecast_rows solar
  obtain ⟨loadPoints, loadRuns, loadFrame⟩ := insertForecast_rows load
  rw [solarPoints, List.append_assoc] at loadPoints
  rw [solarRuns, List.append_assoc] at loadRuns
  have lasting : Lasting db next := by
    apply lasting_of_added loadPoints loadRuns
    · intro point member
      rcases List.mem_append.mp member with isSolar | isLoad
      · obtain ⟨runIs, _, after, before⟩ := forecastPoint_within isSolar
        exact ⟨_, List.mem_append_left _ (List.mem_singleton.mpr rfl), runIs.symm,
          (dayStart_of_within after before).symm⟩
      · obtain ⟨runIs, _, after, before⟩ := forecastPoint_within isLoad
        exact ⟨_, List.mem_append_right _ (List.mem_singleton.mpr rfl), runIs.symm,
          (dayStart_of_within after before).symm⟩
    · intro forecasted point member other stored
      have within : point.siteId = site.id ∧ tomorrow clock ≤ point.intervalStart ∧
          point.intervalStart < tomorrow clock + DAY := by
        rcases List.mem_append.mp member with isSolar | isLoad
        · exact (forecastPoint_within isSolar).2
        · exact (forecastPoint_within isLoad).2
      rw [within.1]
      exact unforecast_of_horizon forecasted absent within.2.1 within.2.2 other stored
  rw [loadFrame, solarFrame] at aside lasting ⊢
  exact ⟨aside, rfl, rfl, rfl, rfl, ⟨[], (List.append_nil _).symm⟩, lasting⟩

/-! ## Programs beside the market -/

section Programs

variable {engines : Engines}

private theorem keeps_orHttp {α : Type} {value : Option α} {status : ℕ} {detail : String} :
    Keeps Beside (orHttp value status detail) := by
  unfold orHttp
  split
  · exact keeps_pure _
  · exact keeps_raise _

private theorem simulate_keeps {site : Site} {meter : Meter} {moment : Instant}
    {scenario : Scenario} :
    Keeps Beside (simulate engines site meter moment scenario) := by
  unfold simulate
  refine (keeps_query _).bind fun cap => ?_
  refine (keeps_query _).bind fun household => ?_
  refine (keeps_draw _).bind fun id => ?_
  refine (keeps_add ?_).bind fun _ => keeps_pure _
  exact insertReading_beside (simulatedReading_nonneg _ _ _ _ _ _ _)

private theorem addReading_keeps {site : Site} {moment : Instant} {scenario : Scenario} :
    Keeps Beside (addReading engines site moment scenario) := by
  unfold addReading
  refine (keeps_query _).bind fun found => ?_
  refine keeps_orHttp.bind fun meter => ?_
  refine (keeps_query _).bind fun previous => ?_
  split
  · exact keeps_pure _
  · exact Keeps.ite (keeps_pure _) (simulate_keeps.bind fun _ => keeps_pure _)

private theorem addReadings_keeps {site : Site} {moments : List Instant} {scenario : Scenario} :
    Keeps Beside (addReadings engines site moments scenario) := by
  unfold addReadings
  apply Keeps.ite
  · exact keeps_pure _
  · refine (keeps_query _).bind fun found => ?_
    refine keeps_orHttp.bind fun meter => ?_
    refine (keeps_query _).bind fun existing => ?_
    apply Keeps.forItems
    exact fun moment => Keeps.ite (keeps_pure _) (simulate_keeps.bind fun _ => keeps_pure _)

private theorem replayReading_keeps {moment : Instant} {orderId : UUID} :
    Keeps Beside (replayReading engines moment orderId) := by
  unfold replayReading
  refine (keeps_query _).bind fun order => ?_
  refine (keeps_query _).bind fun site => ?_
  split
  · exact addReading_keeps.bind fun _ => keeps_pure _
  · exact keeps_pure _

/-- The run is inserted where the query found none. -/
theorem forecast_keeps {site : Site} {sim : Simulation} :
    Keeps Beside (forecast engines site sim) := by
  intro published start unit within
  unfold forecast
  rw [ensures_bind, ensures_query_of_manual _ within.manual]
  split
  · exact within
  · rename_i absent
    rw [Bool.not_eq_true] at absent
    rw [ensures_bind, ensures_query_of_manual _ within.manual]
    simp only [uuid4, serverNow, ensures_bind, ensures_draw, ensures_execute]
    constructor
    · intro next executed
      exact ⟨within.unpublished, within.manual,
        within.reached.trans (forecastRuns_beside absent executed), within.pending⟩
    · exact fun _ _ => within.unpublished

private theorem bump_keeps : Keeps Beside bump := by
  unfold bump setSimulation
  apply keeps_execute
  intro db next executed
  cases executed
  exact beside_of_same rfl

end Programs

/-! ## Operations -/

section Operations

variable {published start : Database} {unit : Session} {engines : Engines}

private theorem Between.within (between : Between published unit) :
    Within Beside published unit.working unit := by
  refine ⟨between.unpublished, between.manual, Beside.refl _, ?_⟩
  intro statement member
  rw [between.flushed] at member
  cases member

private theorem Deliveries.moves {clock : Instant} {db next : Database}
    (deliveries : Deliveries engines clock db next) : Moves engines db next := by
  have each : ∀ before after, (∃ delivery : Delivery, delivery.clock = clock ∧
      delivery.Recorded engines before after) → Move engines before after := by
    rintro before after ⟨delivery, _, recorded⟩
    exact .delivered delivery recorded
  exact Relation.ReflTransGen.mono each _ _ deliveries

/-- The flush of what was added, the deliveries, and what follows them. -/
theorem settle_moves {returns : Unit → Session → Prop} {sim : Simulation}
    (within : Within Beside published start unit)
    (onward : ∀ after, Between published after → Moves engines start after.working →
      returns () after) :
    Ensures Work.flush unit
      (fun _ flushed => Ensures (reconcileDue engines sim) flushed returns
        fun _ after => after.committed = published)
      fun _ after => after.committed = published := by
  apply within.flush.mono _ fun _ _ unpublished => unpublished
  rintro _ flushed ⟨flushedWithin, nothingPending⟩
  have between : Between published flushed :=
    ⟨flushedWithin.unpublished, nothingPending, flushedWithin.manual⟩
  apply (reconcileDue_ensures between).mono _ fun _ _ unpublished => unpublished
  rintro _ settled ⟨settledBetween, deliveries⟩
  apply onward settled settledBetween
  exact (Relation.ReflTransGen.single (.beside flushedWithin.reached)).trans deliveries.moves

/-- The end of an operation: a program beside the market, the revision and the
commit. -/
theorem conclude_moves {rest : Call Unit} {settled : Session} (between : Between published settled)
    (keeps : Keeps Beside rest) (reached : Moves engines start settled.working) :
    Ensures rest settled
      (fun _ kept => Ensures bump kept
        (fun _ counted => Ensures Work.commit counted
          (fun _ after => Moves engines start after.committed)
          fun _ after => after.committed = published)
        fun _ after => after.committed = published)
      fun _ after => after.committed = published := by
  apply (keeps published settled.working settled between.within).mono _
    fun _ _ unpublished => unpublished
  intro _ kept keptWithin
  apply (bump_keeps published settled.working kept keptWithin).mono _
    fun _ _ unpublished => unpublished
  intro _ counted countedWithin
  apply countedWithin.commit.mono _ fun _ _ unpublished => unpublished
  rintro _ after ⟨ended, beside⟩
  rw [ended]
  exact reached.tail (.beside beside)

private theorem moveTo_moves {sim : Simulation} {target : Instant}
    (between : Between published unit) :
    Ensures (moveTo engines sim target) unit
      (fun _ after => Moves engines unit.working after.committed)
      fun _ after => after.committed = published := by
  simp only [moveTo, ensures_bind, ensures_require]
  refine ⟨?_, fun _ => between.unpublished⟩
  intro _
  rw [ensures_query_of_manual _ between.manual]
  have loads : Keeps Beside (Work.forItems (sites unit.working) fun site => addReadings engines site
      (passTo sim.clock target).1 sim.scenario) :=
    Keeps.forItems (fun _ => addReadings_keeps) _
  apply (loads published unit.working unit between.within).mono _ fun _ _ unpublished => unpublished
  intro _ loaded loadedWithin
  apply (keeps_add (moveClock_beside _) published unit.working loaded loadedWithin).mono _
    fun _ _ unpublished => unpublished
  intro _ added addedWithin
  apply settle_moves addedWithin
  intro settled settledBetween reached
  exact conclude_moves settledBetween (Keeps.forItems (fun _ => forecast_keeps) _) reached

private theorem advance_moves {intervals : ℕ} {deliver : Bool} (between : Between published unit) :
    Ensures (advance engines intervals deliver) unit
      (fun _ after => Moves engines unit.working after.committed)
      fun _ after => after.committed = published := by
  simp only [advance, ensures_bind, ensures_state]
  cases deliver with
  | false => exact moveTo_moves between
  | true =>
      simp only [if_true, ensures_bind]
      rw [ensures_query_of_manual _ between.manual, ensures_orHttp]
      refine ⟨?_, fun _ => between.unpublished⟩
      intro target _
      exact moveTo_moves between

private theorem tick_moves (between : Between published unit) :
    Ensures (tick engines) unit (fun _ after => Moves engines unit.working after.committed)
      fun _ after => after.committed = published := by
  simp only [tick, utcNow, ensures_bind, ensures_state, ensures_draw]
  have drawn : Within Beside published unit.working
      { unit with outside := unit.outside.afterMoment } :=
    keeps_draw (fun outside : Outside => (outside.moments 0, outside.afterMoment)) published
      unit.working unit between.within
  rw [ensures_query_of_manual _ drawn.manual]
  have loads : ∀ moments, Keeps Beside (Work.forItems (sites unit.working) fun site =>
      addReadings engines site moments) :=
    fun _ => Keeps.forItems (fun _ => addReadings_keeps) _
  apply (loads _ published unit.working _ drawn).mono _ fun _ _ unpublished => unpublished
  intro _ loaded loadedWithin
  apply (keeps_add (moveClock_beside _) published unit.working loaded loadedWithin).mono _
    fun _ _ unpublished => unpublished
  intro _ added addedWithin
  apply settle_moves addedWithin
  intro settled settledBetween reached
  split
  · simp only [ensures_bind]
    exact conclude_moves settledBetween (Keeps.forItems (fun _ => forecast_keeps) _) reached
  · simp only [ensures_bind]
    exact conclude_moves settledBetween (keeps_pure ()) reached

private theorem recoverMissing_moves (between : Between published unit) :
    Ensures (recoverMissing engines) unit
      (fun _ after => Moves engines unit.working after.committed)
      fun _ after => after.committed = published := by
  simp only [recoverMissing, replayMissing, ensures_bind, ensures_state]
  rw [ensures_query_of_manual _ between.manual]
  have replays : Keeps Beside (Work.forItems (dueTrades unit.working.simulation.clock unit.working)
      fun trade => Work.forItems [trade.buyOrderId, trade.sellOrderId]
        (replayReading engines trade.deliveryStart)) :=
    Keeps.forItems (fun _ => Keeps.forItems (fun _ => replayReading_keeps) _) _
  apply (replays published unit.working unit between.within).mono _ fun _ _ unpublished => unpublished
  intro _ loaded loadedWithin
  apply settle_moves loadedWithin
  intro settled settledBetween reached
  exact conclude_moves settledBetween (keeps_pure ()) reached

/-- Every operation that delivers is a sequence of moves. -/
theorem perform_moves (operation : Operation) (between : Between published unit) :
    Ensures (perform engines operation) unit
      (fun _ after => Moves engines unit.working after.committed)
      fun _ after => after.committed = published := by
  cases operation with
  | advance intervals deliver =>
      simp only [perform, ensures_bind, ensures_pure]
      exact advance_moves between
  | tick => exact tick_moves between
  | reconcileDue =>
      simp only [perform, ensures_bind, ensures_state]
      apply (reconcileDue_ensures between).mono _ fun _ _ unpublished => unpublished
      rintro _ settled ⟨settledBetween, deliveries⟩
      rw [ensures_commit_of_flushed settledBetween.flushed]
      exact deliveries.moves
  | recoverMissing => exact recoverMissing_moves between

end Operations

end UrjaSetu.Services.WorkspaceService
