import UrjaSetu.Library.Standing
import UrjaSetu.Services.AuthService.Effects

/-!
Sessions over runs of the requests, each a transaction, with any of them in flight
at once.

Owns: the stored sessions and credentials as what the history of commits says, the
tokens that resolve and the passwords that sign in.
-/

namespace UrjaSetu.Services.AuthService

open UrjaSetu.Domain UrjaSetu.Db UrjaSetu.Db.Models UrjaSetu.Library UrjaSetu.Library.Transaction

abbrev AuthSystem := System Request Accounts Unit Failure (Option Account)

abbrev AuthCommit := Commit Request Accounts (Option Account)

variable {texts : Texts} {known : Table users} {actions : List (Action Request Unit)}
  {system : AuthSystem} {history : List AuthCommit} {db : Accounts}

private theorem protocol_kept (texts : Texts) :
    (protocol texts).Kept (handle texts) (fun _ _ => true) fun _ _ _ => true where
  meets := by
    intro request
    apply (handle_effect request).mono
    intro signedIn log known effect db next _ holds _ executed
    exact effect db next holds executed
  keeps := fun _ _ _ _ _ _ _ => trivial
  respects := by
    intro request other signedIn db next _ _ _ effect
    exact ⟨_, effect.credentials.symm⟩

/-- What the tables hold is what the history says. -/
structure Tallied (texts : Texts) (history : List AuthCommit) (db : Accounts) : Prop where
  sessions : db.sessions.rows = standing (fun commit : AuthCommit => opens texts commit.op commit.value)
    (fun commit => keeps texts commit.op) history
  credentials : db.credentials.rows = history.flatMap fun commit => enrols texts commit.op

theorem Tallied.initial (texts : Texts) (known : Table users) :
    Tallied texts [] (Accounts.initial known) := ⟨rfl, rfl⟩

/-- Step. -/
theorem Tallied.concat {commit : AuthCommit} (tallied : Tallied texts history commit.before)
    (effect : Effect texts commit.op commit.value commit.before commit.after) :
    Tallied texts (history ++ [commit]) commit.after where
  sessions := by rw [standing_concat, effect.sessions, tallied.sessions]
  credentials := by
    rw [effect.credentials, tallied.credentials, List.flatMap_append, List.flatMap_singleton]

/-- The system after the actions, from accounts that have never signed in. -/
def Reached (texts : Texts) (known : Table users) (actions : List (Action Request Unit))
    (system : AuthSystem) : Prop :=
  run (handle texts) (fun _ _ => true) ⟨Accounts.initial known, [], []⟩ actions = some system

theorem Reached.sound (reached : Reached texts known actions system) :
    Sound (protocol texts) (fun _ _ => true) (Accounts.initial known) system := by
  unfold Reached at reached
  rw [run_unconditional] at reached
  exact history_meets (protocol_kept texts) trivial reached

/-- Run. -/
theorem Reached.tallied (reached : Reached texts known actions system) :
    Tallied texts system.history system.committed := by
  refine reached.sound.linked.preserves (Tallied texts) (Tallied.initial texts known) ?_
  intro earlier commit member tallied
  exact tallied.concat (reached.sound.history commit member).2.2

/-! ## Tokens -/

/-- The last that the history says of the token is that it was drawn to sign the
user in, less than `LIFETIME` ago. -/
def Stands (history : List AuthCommit) (token : String) (userId : UUID) (now : Instant) : Prop :=
  ∃ earlier commit later, history = earlier ++ commit :: later ∧
    (∃ drawn user, commit.op.draws = some drawn ∧ commit.value = some user ∧
      drawn.token = token ∧ user.id = userId ∧ now < drawn.now + LIFETIME) ∧
    ∀ after ∈ later, after.op.revokes ≠ some token

/-- The tokens that were drawn or presented for revocation. -/
def mentioned (history : List AuthCommit) : Set String :=
  {token | ∃ commit ∈ history, commit.op.draws.map Drawn.token = some token ∨
    commit.op.revokes = some token}

private theorem mem_opens_iff {commit : AuthCommit} {session : LoginSession} :
    session ∈ opens texts commit.op commit.value ↔ ∃ drawn user, commit.op.draws = some drawn ∧
      commit.value = some user ∧ session = sessionOf texts user.id drawn := by
  unfold opens
  cases commit.op.draws with
  | none => simp
  | some drawn =>
      cases commit.value with
      | none => simp
      | some user => simp

/-- A stored session that answers to the token is one that stands for it. -/
theorem Tallied.stands_iff (tallied : Tallied texts history db) {token : String}
    (collisionFree : Set.InjOn texts.sha256 (insert token (mentioned history))) {userId : UUID}
    {now : Instant} :
    (∃ session ∈ db.sessions.rows, session.tokenHash = texts.sha256 token ∧
      now < session.expiresAt ∧ session.userId = userId) ↔ Stands history token userId now := by
  have revoked : ∀ commit ∈ history, ∀ session : LoginSession,
      session.tokenHash = texts.sha256 token →
        (keeps texts commit.op session = true ↔ commit.op.revokes ≠ some token) := by
    intro commit member session hashed
    cases revokes : commit.op.revokes with
    | none => simp [keeps, revokes]
    | some presented =>
        have same := collisionFree.eq_iff (Set.mem_insert token _)
          (Set.mem_insert_of_mem token ⟨commit, member, Or.inr revokes⟩)
        rw [keeps, revokes, Option.all_some, hashed, decide_eq_true_eq, ne_eq, ne_eq, same,
          Option.some_inj, eq_comm]
  rw [tallied.sessions]
  constructor
  · rintro ⟨session, stands, hashed, current, isUser⟩
    obtain ⟨earlier, commit, later, split, opened, kept⟩ := mem_standing_iff.mp stands
    obtain ⟨drawn, user, draws, signedIn, same⟩ := mem_opens_iff.mp opened
    have inHistory : ∀ after ∈ later, after ∈ history := by
      intro after member
      rw [split]
      simp [member]
    have own : commit ∈ history := by simp [split]
    rw [same] at hashed current isUser
    have isToken : drawn.token = token :=
      collisionFree (Set.mem_insert_of_mem token ⟨commit, own, Or.inl (by rw [draws]; rfl)⟩)
        (Set.mem_insert token _) hashed
    refine ⟨earlier, commit, later, split, ⟨drawn, user, draws, signedIn, isToken, isUser, current⟩, ?_⟩
    intro after member
    exact (revoked after (inHistory after member) session (by rw [same]; exact hashed)).mp
      (kept after member)
  · rintro ⟨earlier, commit, later, split, ⟨drawn, user, draws, signedIn, isToken, isUser, current⟩,
      unrevoked⟩
    have hashed : (sessionOf texts user.id drawn).tokenHash = texts.sha256 token := by
      rw [← isToken]
      rfl
    refine ⟨sessionOf texts user.id drawn, ?_, hashed, current, isUser⟩
    apply mem_standing_iff.mpr
    refine ⟨earlier, commit, later, split, mem_opens_iff.mpr ⟨drawn, user, draws, signedIn, rfl⟩, ?_⟩
    intro after member
    have inHistory : after ∈ history := by
      rw [split]
      simp [member]
    exact (revoked after inHistory _ hashed).mpr (unrevoked after member)

theorem find?_user {userId : UUID} {user : Account} :
    db.users.find? (fun row => row.id = userId) = some user ↔
      user ∈ db.users.rows ∧ user.id = userId := by
  constructor
  · intro found
    obtain ⟨stored, named⟩ := Table.find?_mem found
    exact ⟨stored, of_decide_eq_true named⟩
  · rintro ⟨stored, rfl⟩
    apply Table.find?_of_only stored (decide_eq_true rfl)
    intro other otherStored same
    apply Table.eq_of_column (fun user : Account => user.id) _ otherStored stored
      (of_decide_eq_true same)
    intro earlier later sameId
    exact decide_eq_true (Or.inl sameId)

/-- Resolving a token alone raises nothing and changes nothing. -/
theorem resolve_ends (texts : Texts) (token : Option String) (now : Instant) (db : Accounts) :
    ∃ found, (resolve texts token now).alone (fun _ => ()) db = .ok (found, db) := by
  unfold resolve
  cases token with
  | none => exact ⟨none, rfl⟩
  | some token =>
      by_cases empty : token = ""
      · exact ⟨none, by simp [empty, alone, pure]⟩
      · simp only [empty, if_false, alone_query_bind]
        cases db.sessions.find? fun login =>
            login.tokenHash = texts.sha256 token && now < login.expiresAt with
        | none => exact ⟨none, rfl⟩
        | some login => exact ⟨_, rfl⟩

/-- What a token resolves to alone. -/
theorem resolve_alone {token : String} {now : Instant} {user : Account} :
    (resolve texts (some token) now).alone (fun _ => ()) db = .ok (some user, db) ↔
      token ≠ "" ∧ user ∈ db.users.rows ∧ user.status = .active ∧
        ∃ session ∈ db.sessions.rows, session.tokenHash = texts.sha256 token ∧
          now < session.expiresAt ∧ session.userId = user.id := by
  unfold resolve
  by_cases empty : token = ""
  · simp [empty, alone, pure]
  simp only [empty, if_false, alone_query_bind]
  cases found : db.sessions.find? fun login =>
      login.tokenHash = texts.sha256 token && now < login.expiresAt with
  | none =>
      have absent : ∀ session ∈ db.sessions.rows, session.tokenHash = texts.sha256 token →
          ¬ now < session.expiresAt := by simpa [Table.find?] using found
      simp only [alone, pure]
      constructor
      · intro absurdity
        cases absurdity
      · rintro ⟨_, _, _, session, stored, hashed, current, _⟩
        exact absurd current (absent session stored hashed)
  | some login =>
      obtain ⟨stored, matched⟩ := Table.find?_mem found
      simp only [Bool.and_eq_true, decide_eq_true_eq] at matched
      have only : ∀ session ∈ db.sessions.rows, session.tokenHash = texts.sha256 token →
          session = login := fun session member hashed =>
        Table.eq_of_column LoginSession.tokenHash (by simp [loginSessions]) member stored
          (hashed.trans matched.1.symm)
      simp only [alone_query_bind, alone, pure, Except.ok.injEq, Prod.mk.injEq, and_true,
        Option.filter_eq_some_iff, find?_user, decide_eq_true_eq]
      constructor
      · rintro ⟨⟨isUser, named⟩, active⟩
        exact ⟨empty, isUser, active, login, stored, matched.1, matched.2, named.symm⟩
      · rintro ⟨_, isUser, active, session, member, hashed, _, named⟩
        rw [only session member hashed] at named
        exact ⟨⟨isUser, named.symm⟩, active⟩

/-- In every state of every run, a token resolves exactly while the last sign-in it
was drawn for stands, and its user is active. -/
theorem resolve_iff_stands (reached : Reached texts known actions system) (token : String)
    (collisionFree : Set.InjOn texts.sha256 (insert token (mentioned system.history)))
    (now : Instant) (user : Account) :
    (resolve texts (some token) now).alone (fun _ => ()) system.committed =
        .ok (some user, system.committed) ↔
      token ≠ "" ∧ user ∈ system.committed.users.rows ∧ user.status = .active ∧
        Stands system.history token user.id now := by
  rw [resolve_alone, reached.tallied.stands_iff collisionFree]

/-! ## A registration, and a sign-in beside a sign-out -/

def sampleTexts : Texts where
  sha256 := fun text => "#" ++ text
  scrypt := fun password salt => password.toList.map (fun char => UInt8.ofNat char.toNat) ++ salt
  lower := fun text => String.ofList (text.toList.map Char.toLower)

def sampleRegistration : Registration := ⟨"a@b.c", "pw", "A", .consumer⟩

def sampleRequests : List Request :=
  [.register sampleRegistration ⟨1, 0, [7], "t"⟩ none, .login "A@b.c " "pw" ⟨0, 5, [], "u"⟩,
    .logout (some "t")]

/-- The registration alone, and then the two others step by step. -/
def sampleActions : List (Action Request Unit) :=
  (sampleRequests.map Action.opens) ++ List.replicate 5 (.steps 0 ()) ++
    [.steps 1 (), .steps 2 (), .steps 1 (), .steps 2 (), .steps 1 (), .steps 1 ()]

def sampleSystem : AuthSystem :=
  (run (handle sampleTexts) (fun _ _ => true) ⟨Accounts.initial Table.empty, [], []⟩
    sampleActions).getD ⟨Accounts.initial Table.empty, [], []⟩

theorem sampleTexts_injective : Function.Injective sampleTexts.sha256 := by
  intro left right same
  exact (String.append_right_inj "#").mp same

theorem sampleSystem_reached : Reached sampleTexts Table.empty sampleActions sampleSystem := by
  have some_ : (run (handle sampleTexts) (fun _ _ => true) ⟨Accounts.initial Table.empty, [], []⟩
      sampleActions).isSome = true := by decide +kernel
  obtain ⟨system, reached⟩ := Option.isSome_iff_exists.mp some_
  unfold Reached sampleSystem
  rw [reached]
  rfl

theorem resolve_iff_stands_sample :
    (resolve sampleTexts (some "u") 9).alone (fun _ => ()) sampleSystem.committed =
        .ok (some ⟨⟨1, .consumer⟩, some "a@b.c", "A", .active⟩, sampleSystem.committed) ↔
      "u" ≠ "" ∧ (⟨⟨1, .consumer⟩, some "a@b.c", "A", .active⟩ : Account) ∈
          sampleSystem.committed.users.rows ∧
        UserStatus.active = UserStatus.active ∧ Stands sampleSystem.history "u" 1 9 :=
  resolve_iff_stands sampleSystem_reached "u" sampleTexts_injective.injOn 9 _

end UrjaSetu.Services.AuthService
