import UrjaSetu.Services.AuthService.Sessions

/-!
Signing in over the same runs.

Owns: that an email and a password are accepted exactly for an account registered
with them before.
-/

namespace UrjaSetu.Services.AuthService

open UrjaSetu.Domain UrjaSetu.Db UrjaSetu.Db.Models UrjaSetu.Library UrjaSetu.Library.Transaction

variable {texts : Texts} {known : Table users} {actions : List (Action Request Unit)}
  {system : AuthSystem} {history : List AuthCommit} {db : Accounts} {email password : String}
  {userId : UUID}

/-- The user registered with the email, up to its case and the space around it, and
with a password of the same key. -/
def Enrolled (texts : Texts) (history : List AuthCommit) (email password : String)
    (userId : UUID) : Prop :=
  ∃ commit ∈ history, ∃ registration drawn obstacle,
    commit.op = .register registration drawn obstacle ∧ drawn.identifier = userId ∧
      normalised texts registration.email = normalised texts email ∧
      texts.scrypt password drawn.salt = texts.scrypt registration.password drawn.salt

private theorem mem_enrols_iff {request : Request} {credential : LoginCredential} :
    credential ∈ enrols texts request ↔ ∃ registration drawn obstacle,
      request = .register registration drawn obstacle ∧
        credentialOf texts registration drawn = some credential := by
  cases request with
  | register registration drawn obstacle => simp [enrols]
  | login email password drawn => simp [enrols]
  | logout cookie => simp [enrols]
  | createUser payload identifier => simp [enrols]
  | updateUser userId payload => simp [enrols]

/-- A credential that the password opens is one it was registered with. -/
theorem Tallied.opened_iff (tallied : Tallied texts history db) :
    Opened texts email password userId db.credentials.rows ↔
      Enrolled texts history email password userId := by
  rw [tallied.credentials]
  constructor
  · rintro ⟨credential, stored, named, isUser, checked⟩
    obtain ⟨commit, member, enrolled⟩ := List.mem_flatMap.mp stored
    obtain ⟨registration, drawn, obstacle, isRegistration, same⟩ := mem_enrols_iff.mp enrolled
    obtain ⟨passwordHash, hashed, rfl⟩ := Option.map_eq_some_iff.mp same
    exact ⟨commit, member, registration, drawn, obstacle, isRegistration, isUser, named,
      (checkPassword_iff hashed password).mp checked⟩
  · rintro ⟨commit, member, registration, drawn, obstacle, isRegistration, isUser, named, sameKey⟩
    have hashed := hashPassword_eq texts registration.password drawn.salt
    refine ⟨_, List.mem_flatMap.mpr ⟨commit, member, mem_enrols_iff.mpr
      ⟨registration, drawn, obstacle, isRegistration, Option.map_eq_some_iff.mpr
        ⟨_, hashed, rfl⟩⟩⟩, named, isUser, (checkPassword_iff hashed password).mpr sameKey⟩

/-- Every sign-in of a run, whatever was in flight beside it, was of a user who had
registered with that email and password by then. -/
theorem login_enrolled (reached : Reached texts known actions system)
    {earlier later : List AuthCommit} {commit : AuthCommit} {drawn : Drawn}
    (split : system.history = earlier ++ commit :: later)
    (signsIn : commit.op = .login email password drawn) :
    ∃ user, commit.value = some user ∧ Enrolled texts earlier email password user.id := by
  have sound := reached.sound
  have linked := sound.linked
  rw [split] at linked
  obtain ⟨middle, before, continues⟩ := linked.split
  have member : ∀ other ∈ earlier ++ [commit], other ∈ system.history := by
    intro other present
    rw [split]
    simp only [List.mem_append, List.mem_cons] at present ⊢
    tauto
  have tallied : Tallied texts earlier middle := by
    refine before.preserves (Tallied texts) (Tallied.initial texts known) ?_
    intro first other present tallied
    exact tallied.concat (sound.history other (member other (by simp [present]))).2.2
  have effect := (sound.history commit (member commit (by simp))).2.2
  obtain ⟨user, signedIn, opened⟩ := effect.verified email password drawn signsIn
  rw [continues.1] at opened
  exact ⟨user, signedIn, tallied.opened_iff.mp opened⟩

theorem login_enrolled_sample : ∃ earlier commit user,
    sampleSystem.history = earlier ++ [commit] ∧ commit.value = some user ∧
      Enrolled sampleTexts earlier "A@b.c " "pw" user.id := by
  have ops : sampleSystem.history.map Commit.op = [sampleRequests[0], sampleRequests[2]] ++
      [.login "A@b.c " "pw" ⟨0, 5, [], "u"⟩] := by decide +kernel
  obtain ⟨earlier, last, split, _, isLast⟩ := List.map_eq_append_iff.mp ops
  obtain ⟨commit, rfl, signsIn⟩ := List.map_eq_singleton_iff.mp isLast
  obtain ⟨user, signedIn, enrolled⟩ := login_enrolled sampleSystem_reached split signsIn
  exact ⟨earlier, commit, user, split, signedIn, enrolled⟩

/-! ## The outcome of signing in -/

private theorem find?_credential {credential : LoginCredential} :
    db.credentials.find? (fun row => row.email = email) = some credential ↔
      credential ∈ db.credentials.rows ∧ credential.email = email := by
  constructor
  · intro found
    obtain ⟨stored, named⟩ := Table.find?_mem found
    exact ⟨stored, of_decide_eq_true named⟩
  · rintro ⟨stored, rfl⟩
    apply Table.find?_of_only stored (decide_eq_true rfl)
    intro other otherStored same
    apply Table.eq_of_column LoginCredential.email _ otherStored stored (of_decide_eq_true same)
    intro earlier later sameEmail
    exact decide_eq_true (Or.inr sameEmail)

/-- The user that the request is about, where the password opens a credential. -/
def openedUser (texts : Texts) (db : Accounts) (email password : String) : Option UUID :=
  ((db.credentials.find? fun credential => credential.email = normalised texts email).filter
    fun credential => checkPassword texts password credential.passwordHash).map
      LoginCredential.userId

private theorem openedUser_iff : openedUser texts db email password = some userId ↔
    Opened texts email password userId db.credentials.rows := by
  simp only [openedUser, Option.map_eq_some_iff, Option.filter_eq_some_iff, find?_credential]
  constructor
  · rintro ⟨credential, ⟨⟨stored, named⟩, checked⟩, isUser⟩
    exact ⟨credential, stored, named, isUser, checked⟩
  · rintro ⟨credential, stored, named, isUser, checked⟩
    exact ⟨credential, ⟨⟨stored, named⟩, checked⟩, isUser⟩

/-- Signing in alone. -/
theorem authenticate_alone : (authenticate texts email password).alone (fun _ => ()) db =
    match openedUser texts db email password with
    | none => .error (.http 401 "Email or password is incorrect.")
    | some userId =>
        match (db.users.find? fun user => user.id = userId).filter fun user =>
            user.status = .active with
        | none => .error (.http 403 "Account is inactive.")
        | some user => .ok (user, db) := by
  unfold authenticate openedUser
  rw [alone_query_bind]
  dsimp only
  cases db.credentials.find? fun credential => credential.email = normalised texts email with
  | none =>
      rw [Option.map_none, Option.getD_none]
      generalize checkPassword texts password noHash = checked
      cases checked with
      | true => simp [httpError, alone]
      | false => simp [httpError, alone]
  | some credential =>
      cases checked : checkPassword texts password credential.passwordHash with
      | false => simp [checked, Option.filter_some, httpError, alone]
      | true =>
          simp only [Option.map_some, Option.getD_some, checked, Option.filter_some, if_true,
            alone_query_bind]
          cases (db.users.find? fun user => user.id = credential.userId).filter fun user =>
              user.status = .active with
          | none => rfl
          | some user => rfl

/-- In every state of every run, an email and a password sign a user in exactly where
the user registered with them and is active, and are called incorrect exactly where
nobody registered with them. -/
theorem authenticate_iff_enrolled (reached : Reached texts known actions system) (user : Account) :
    ((authenticate texts email password).alone (fun _ => ()) system.committed =
        .ok (user, system.committed) ↔
      user ∈ system.committed.users.rows ∧ user.status = .active ∧
        Enrolled texts system.history email password user.id) ∧
    ((authenticate texts email password).alone (fun _ => ()) system.committed =
        .error (.http 401 "Email or password is incorrect.") ↔
      ∀ userId, ¬ Enrolled texts system.history email password userId) := by
  have opened : ∀ userId, openedUser texts system.committed email password = some userId ↔
      Enrolled texts system.history email password userId :=
    fun userId => openedUser_iff.trans reached.tallied.opened_iff
  rw [authenticate_alone]
  cases found : openedUser texts system.committed email password with
  | none =>
      have nobody : ∀ userId, ¬ Enrolled texts system.history email password userId := by
        intro userId enrolled
        rw [(opened userId).mpr enrolled] at found
        cases found
      simp [nobody]
  | some userId =>
      have enrolled : ∀ other, Enrolled texts system.history email password other ↔ userId = other := by
        intro other
        rw [← opened other, found, Option.some_inj]
      have active : ((system.committed.users.find? fun row => row.id = userId).filter
          fun row => row.status = .active) = some user ↔
            user ∈ system.committed.users.rows ∧ user.status = .active ∧ userId = user.id := by
        rw [Option.filter_eq_some_iff, find?_user, decide_eq_true_eq]
        tauto
      simp only [enrolled, ← active]
      cases (system.committed.users.find? fun row => row.id = userId).filter
          fun row => row.status = .active with
      | none => simp
      | some other => simp

theorem authenticate_iff_enrolled_sample :
    ((authenticate sampleTexts "a@B.c" "pw").alone (fun _ => ()) sampleSystem.committed =
        .ok (⟨⟨1, .consumer⟩, some "a@b.c", "A", .active⟩, sampleSystem.committed) ↔
      (⟨⟨1, .consumer⟩, some "a@b.c", "A", .active⟩ : Account) ∈
          sampleSystem.committed.users.rows ∧ UserStatus.active = UserStatus.active ∧
        Enrolled sampleTexts sampleSystem.history "a@B.c" "pw" 1) ∧
    ((authenticate sampleTexts "a@B.c" "pw").alone (fun _ => ()) sampleSystem.committed =
        .error (.http 401 "Email or password is incorrect.") ↔
      ∀ userId, ¬ Enrolled sampleTexts sampleSystem.history "a@B.c" "pw" userId) :=
  authenticate_iff_enrolled sampleSystem_reached _

end UrjaSetu.Services.AuthService
