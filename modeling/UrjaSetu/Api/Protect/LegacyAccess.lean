import UrjaSetu.Api.Protect

/-!
The endpoints that the connected workspace has retired.

Owns: who reaches them.
-/

namespace UrjaSetu.Api.Protect

open UrjaSetu.Domain UrjaSetu.Db UrjaSetu.Db.Models UrjaSetu.Library UrjaSetu.Library.Transaction
open UrjaSetu.Services.AuthService

variable {texts : Texts} {settings : Settings} {arrival : Arrival}

private theorem signsIn_of_legacy {request : HttpRequest} (legacy : request.legacy = true) :
    request.signsIn = false := by
  simp only [HttpRequest.legacy, Bool.and_eq_true, Bool.not_eq_true', Bool.or_eq_false_iff] at legacy
  simp [HttpRequest.signsIn, legacy.1.1]

private theorem isOperator_iff {accounts : Accounts} {now : Instant} {cookie : Option String} :
    isOperator texts accounts now cookie = true ↔ ∃ token user, cookie = some token ∧
      (resolve texts (some token) now).alone (fun _ => ()) accounts = .ok (some user, accounts) ∧
        (user.role = .operator ∨ user.role = .admin) := by
  unfold isOperator
  obtain ⟨found, ended⟩ := resolve_ends texts cookie now accounts
  cases cookie with
  | none =>
      cases ended
      simp [resolve, alone, pure]
  | some token =>
      rw [ended]
      cases found with
      | none => simp [ended]
      | some user => simp [ended]

/-- Outside the legacy test API, a request reaches a retired endpoint exactly where it
only reads and its cookie is a token for which the sign-in of an active operator or
administrator stands. -/
theorem legacy_passed_iff {known : Table users} {actions : List (Action Request Unit)}
    {system : AuthSystem} (reached : Reached texts known actions system)
    (collisionFree : ∀ token, arrival.request.cookie = some token →
      Set.InjOn texts.sha256 (insert token (mentioned system.history)))
    (committed : arrival.accounts = system.committed)
    (enforced : (settings.appEnv = "test" && settings.allowLegacyTestApi) = false)
    (versioned : startsWith arrival.request.path "/api/v1" = true)
    (legacy : arrival.request.legacy = true) (gate : Gate) :
    (protect texts settings arrival gate).1 = .passed ↔ arrival.request.writes = false ∧
      ∃ token user, arrival.request.cookie = some token ∧ token ≠ "" ∧
        user ∈ system.committed.users.rows ∧ user.status = .active ∧
        (user.role = .operator ∨ user.role = .admin) ∧
        Stands system.history token user.id arrival.now := by
  have operator : isOperator texts arrival.accounts arrival.now arrival.request.cookie = true ↔
      ∃ token user, arrival.request.cookie = some token ∧ token ≠ "" ∧
        user ∈ system.committed.users.rows ∧ user.status = .active ∧
        (user.role = .operator ∨ user.role = .admin) ∧
        Stands system.history token user.id arrival.now := by
    rw [isOperator_iff, committed]
    constructor
    · rintro ⟨token, user, presented, resolved, role⟩
      have stands := (resolve_iff_stands reached token (collisionFree token presented) _ user).mp resolved
      exact ⟨token, user, presented, stands.1, stands.2.1, stands.2.2.1, role, stands.2.2.2⟩
    · rintro ⟨token, user, presented, nonempty, stored, active, role, stands⟩
      exact ⟨token, user, presented, (resolve_iff_stands reached token (collisionFree token presented)
        _ user).mpr ⟨nonempty, stored, active, stands⟩, role⟩
  rw [← operator]
  cases writes : arrival.request.writes with
  | true =>
      simp only [protect, enforced, versioned, legacy, writes, signsIn_of_legacy legacy]
      cases arrival.request.unverified settings with
      | true => simp
      | false => simp
  | false =>
      simp only [protect, enforced, versioned, legacy, writes, signsIn_of_legacy legacy]
      cases isOperator texts arrival.accounts arrival.now arrival.request.cookie with
      | true => simp
      | false => simp

/-- An operator is registered, and then signs in. -/
def operatorActions : List (Action Request Unit) :=
  [.opens (.register ⟨"o@b.c", "pw", "O", .operator⟩ ⟨1, 0, [7], "t"⟩ none),
    .opens (.login "o@b.c" "pw" ⟨0, 5, [], "u"⟩)] ++
    List.replicate 5 (.steps 0 ()) ++ List.replicate 4 (.steps 1 ())

def operatorSystem : AuthSystem :=
  (run (handle sampleTexts) (fun _ _ => true) ⟨Accounts.initial Table.empty, [], []⟩
    operatorActions).getD ⟨Accounts.initial Table.empty, [], []⟩

/-- The operator reads from a retired endpoint. -/
theorem legacy_passed_iff_sample :
    (protect sampleTexts ⟨"production", false, []⟩
      ⟨sampleRequest "GET" "/api/v1/sites", fun _ => 0, operatorSystem.committed, 9⟩
        Gate.initial).1 = .passed ∧
      ∃ token user, some "u" = some token ∧ token ≠ "" ∧
        user ∈ operatorSystem.committed.users.rows ∧ user.status = .active ∧
        (user.role = .operator ∨ user.role = .admin) ∧
        Stands operatorSystem.history token user.id 9 := by
  have reached : Reached sampleTexts Table.empty operatorActions operatorSystem := by
    have some_ : (run (handle sampleTexts) (fun _ _ => true) ⟨Accounts.initial Table.empty, [], []⟩
        operatorActions).isSome = true := by decide +kernel
    obtain ⟨system, reached⟩ := Option.isSome_iff_exists.mp some_
    unfold Reached operatorSystem
    rw [reached]
    rfl
  have passed : (protect sampleTexts ⟨"production", false, []⟩
      ⟨sampleRequest "GET" "/api/v1/sites", fun _ => 0, operatorSystem.committed, 9⟩
        Gate.initial).1 = .passed := by decide +kernel
  have characterized := @legacy_passed_iff sampleTexts ⟨"production", false, []⟩
    ⟨sampleRequest "GET" "/api/v1/sites", fun _ => 0, operatorSystem.committed, 9⟩ _ _ _
    reached (fun _ _ => sampleTexts_injective.injOn) rfl (by decide +kernel)
    (by decide +kernel) (by decide +kernel) Gate.initial
  exact ⟨passed, (characterized.mp passed).2⟩

end UrjaSetu.Api.Protect
