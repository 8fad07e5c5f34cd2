import UrjaSetu.Domain.Interfaces.Realtime
import UrjaSetu.Library.Dict

/-!
The hub of `app/services/realtime_service.py`: who listens to which channel, and
one run of `publish`, target by target.

The lock is held only while the registry is read or changed, so a `publish` is a
copy of the list followed by one delivery after the other, and anything may come
between two of them.
-/

namespace UrjaSetu.Services.RealtimeService

open UrjaSetu.Domain UrjaSetu.Domain.Interfaces.Realtime UrjaSetu.Library

/-- The registry, for listeners of type `σ`. -/
structure RealtimeHub (σ : Type) where
  subscribers : RealtimeChannel → Dict UUID σ

namespace RealtimeHub

variable {σ : Type}

def initial : RealtimeHub σ := ⟨fun _ => Dict.empty⟩

/-- `subscribe(channel, subscriber)`, given the handle that `uuid4()` returned. -/
def subscribe (hub : RealtimeHub σ) (channel : RealtimeChannel) (subscriber : σ) (token : UUID) :
    RealtimeHub σ :=
  ⟨Function.update hub.subscribers channel ((hub.subscribers channel).set token subscriber)⟩

/-- `unsubscribe(channel, token)`. -/
def unsubscribe (hub : RealtimeHub σ) (channel : RealtimeChannel) (token : UUID) : RealtimeHub σ :=
  ⟨Function.update hub.subscribers channel ((hub.subscribers channel).pop token)⟩

/-- `list(self._subscribers[channel].items())`. -/
def targets (hub : RealtimeHub σ) (channel : RealtimeChannel) : List (UUID × σ) :=
  (hub.subscribers channel).entries

theorem mem_targets_subscribe {hub : RealtimeHub σ} {channel asked : RealtimeChannel}
    {subscriber : σ} {token : UUID} {target : UUID × σ}
    (fresh : token ∉ (hub.targets channel).map Prod.fst) :
    target ∈ (hub.subscribe channel subscriber token).targets asked ↔
      target ∈ hub.targets asked ∨ asked = channel ∧ target = (token, subscriber) := by
  by_cases same : asked = channel
  · subst same
    simp only [targets, subscribe, Function.update_self]
    rw [Dict.set_entries_of_absent fresh]
    simp
  · simp [targets, subscribe, same]

theorem mem_targets_unsubscribe {hub : RealtimeHub σ} {channel asked : RealtimeChannel}
    {token : UUID} {target : UUID × σ} :
    target ∈ (hub.unsubscribe channel token).targets asked ↔
      target ∈ hub.targets asked ∧ ¬ (asked = channel ∧ target.1 = token) := by
  by_cases same : asked = channel
  · subst same
    simp only [targets, unsubscribe, Function.update_self]
    rw [Dict.mem_pop_iff]
    simp
  · simp [targets, unsubscribe, same]

end RealtimeHub

/-- One run of `publish`, after it has copied the list. -/
structure Publishing (σ : Type) where
  event : RealtimeEvent
  targets : List (UUID × σ)
  delivered : ℕ

def Publishing.message {σ : Type} (publishing : Publishing σ) : Json := publishing.event.toMessage

/-- `publish(event)` up to the loop. -/
def RealtimeHub.publish {σ : Type} (hub : RealtimeHub σ) (event : RealtimeEvent) : Publishing σ :=
  ⟨event, hub.targets event.channel, 0⟩

end UrjaSetu.Services.RealtimeService
