import UrjaSetu.Db.Models.Workspace
import UrjaSetu.Domain.Policies.CommunityEnergy

/-!
How the simulation clock moves: the loop of `workspace_service.advance`, and the
wall clock of `experience_service.tick` and `enable_live`.

Owns: that the loop ends at its target and never moves the clock back.
-/

namespace UrjaSetu.Services.WorkspaceService

open UrjaSetu.Domain UrjaSetu.Domain.Policies.CommunityEnergy UrjaSetu.Db.Models

/-- `floor_time(moment, seconds)`. -/
def floorTime (moment : Instant) (seconds : ℤ) : Instant :=
  moment.tdiv 1000000 / seconds * seconds * 1000000

/-- `while sim.clock < target`: the intervals passed, and the clock after them,
in at most `fuel` rounds. -/
def passIntervals : ℕ → List Instant → Instant → Instant → List Instant × Instant
  | 0, moments, clock, _ => (moments, clock)
  | fuel + 1, moments, clock, target =>
      if clock < target then passIntervals fuel (moments ++ [clock]) (clock + INTERVAL) target
      else (moments, clock)

/-- The rounds two days take, which is as far as `advance` goes. -/
def advanceFuel : ℕ := 192

/-- The loop of `advance` from `clock` to `target`. -/
def passTo (clock target : Instant) : List Instant × Instant :=
  passIntervals advanceFuel [] clock target

private theorem passIntervals_clock (fuel : ℕ) (moments : List Instant) (clock target : Instant) :
    clock ≤ (passIntervals fuel moments clock target).2 := by
  induction fuel generalizing moments clock with
  | zero => exact le_refl clock
  | succ fuel inductionHypothesis =>
      simp only [passIntervals]
      split
      · have further := inductionHypothesis (moments ++ [clock]) (clock + INTERVAL)
        have forward : clock ≤ clock + INTERVAL := le_add_of_nonneg_right (by decide)
        exact forward.trans further
      · exact le_refl clock

/-- The loop does not run out of rounds before `target`. -/
theorem passIntervals_reaches (fuel : ℕ) (moments : List Instant) (clock target : Instant)
    (enough : target ≤ clock + INTERVAL * fuel) :
    target ≤ (passIntervals fuel moments clock target).2 := by
  induction fuel generalizing moments clock with
  | zero => simpa [passIntervals] using enough
  | succ fuel inductionHypothesis =>
      simp only [passIntervals]
      split
      · apply inductionHypothesis
        push_cast at enough
        linarith
      · rename_i ended
        exact not_lt.mp ended

theorem passTo_clock (clock target : Instant) : clock ≤ (passTo clock target).2 :=
  passIntervals_clock _ _ _ _

/-- For every target `advance` accepts, the loop ends because it has reached it. -/
theorem passTo_reaches (clock target : Instant) (accepted : target ≤ clock + 2 * DAY) :
    target ≤ (passTo clock target).2 := by
  apply passIntervals_reaches
  have twoDays : 2 * DAY = INTERVAL * advanceFuel := by decide
  rwa [← twoDays]

end UrjaSetu.Services.WorkspaceService
