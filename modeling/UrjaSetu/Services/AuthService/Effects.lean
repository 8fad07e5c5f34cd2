import UrjaSetu.Services.AuthService.Passwords

/-!
What the commit of each request has done, whatever others commit while it runs.

Owns: the sessions that a request opens and those it keeps, the credentials it
enrols, and the protocol in which every request meets this.
-/

namespace UrjaSetu.Services.AuthService

open UrjaSetu.Domain UrjaSetu.Db UrjaSetu.Db.Models UrjaSetu.Library UrjaSetu.Library.Transaction

section Effects

variable (texts : Texts)

/-- What the request draws for the session it opens. -/
def Request.draws : Request → Option Drawn
  | .register _ drawn _ => some drawn
  | .login _ _ drawn => some drawn
  | _ => none

def sessionOf (userId : UUID) (drawn : Drawn) : LoginSession :=
  ⟨userId, texts.sha256 drawn.token, drawn.now + LIFETIME⟩

def opens (request : Request) (signedIn : Option Account) : List LoginSession :=
  match request.draws, signedIn with
  | some drawn, some user => [sessionOf texts user.id drawn]
  | _, _ => []

/-- The token that the request revokes. -/
def Request.revokes : Request → Option String
  | .logout cookie => some (cookie.getD "")
  | _ => none

def keeps (request : Request) (session : LoginSession) : Bool :=
  request.revokes.all fun token => session.tokenHash ≠ texts.sha256 token

def credentialOf (registration : Registration) (drawn : Drawn) : Option LoginCredential :=
  (hashPassword texts registration.password drawn.salt).map fun passwordHash =>
    ⟨drawn.identifier, normalised texts registration.email, passwordHash⟩

def enrols : Request → List LoginCredential
  | .register registration drawn _ => (credentialOf texts registration drawn).toList
  | _ => []

/-- A stored credential of the user that the password opens. -/
def Opened (email password : String) (userId : UUID) (credentials : List LoginCredential) : Prop :=
  ∃ credential ∈ credentials, credential.email = normalised texts email ∧
    credential.userId = userId ∧ checkPassword texts password credential.passwordHash = true

structure Effect (request : Request) (signedIn : Option Account) (db next : Accounts) : Prop where
  sessions : next.sessions.rows =
    db.sessions.rows.filter (keeps texts request) ++ opens texts request signedIn
  credentials : next.credentials.rows = db.credentials.rows ++ enrols texts request
  registered : ∀ registration drawn obstacle, request = .register registration drawn obstacle →
    ∃ user, signedIn = some user ∧ user.id = drawn.identifier
  verified : ∀ email password drawn, request = .login email password drawn →
    ∃ user, signedIn = some user ∧ Opened texts email password user.id db.credentials.rows

/-- No request takes a credential back. -/
def protocol : Protocol Request Accounts (Option Account) where
  valid := fun _ => True
  rely := fun _ db later => db.credentials.rows <+: later.credentials.rows
  guarantee := Effect texts
  reflexive := fun _ _ => List.prefix_refl _
  transitive := fun _ _ _ _ => List.IsPrefix.trans

end Effects

section Statements

variable {texts : Texts} {db next : Accounts} {α : Type} {valid : Accounts → Prop}
  {rely : Accounts → Accounts → Prop} {log : List (Accounts → Except Failure Accounts)}
  {known : Accounts → Prop} {post : α → List (Accounts → Except Failure Accounts) →
    (Accounts → Prop) → Prop}

/-- Executing `log` adds these credentials and sessions and takes none back. -/
def Adds (log : List (Accounts → Except Failure Accounts)) (credentials : List LoginCredential)
    (sessions : List LoginSession) : Prop :=
  ∀ db next, replay log db = .ok next →
    next.credentials.rows = db.credentials.rows ++ credentials ∧
      next.sessions.rows = db.sessions.rows ++ sessions

private theorem adds_nil : Adds [] [] [] := by
  intro db next executed
  cases executed
  simp

private theorem Adds.concat {credentials moreCredentials : List LoginCredential}
    {sessions moreSessions : List LoginSession} (adds : Adds log credentials sessions)
    {change : Accounts → Except Failure Accounts}
    (changed : ∀ db next, change db = .ok next →
      next.credentials.rows = db.credentials.rows ++ moreCredentials ∧
        next.sessions.rows = db.sessions.rows ++ moreSessions) :
    Adds (log ++ [change]) (credentials ++ moreCredentials) (sessions ++ moreSessions) := by
  intro db final executed
  obtain ⟨middle, before, after⟩ := replay_concat_ok executed
  have first := adds db middle before
  have second := changed middle final after
  rw [second.1, second.2, first.1, first.2, List.append_assoc, List.append_assoc]
  exact ⟨rfl, rfl⟩

private theorem wp_add {Row : Type} {schema : Schema Row} {name : String}
    {get : Accounts → Table schema}
    {set : Accounts → Table schema → Accounts} {row : Row}
    {post : Unit → List (Accounts → Except Failure Accounts) → (Accounts → Prop) → Prop}
    {credentials moreCredentials : List LoginCredential}
    {sessions moreSessions : List LoginSession} (adds : Adds log credentials sessions)
    (inserted : ∀ db table, table.rows = (get db).rows ++ [row] →
      (set db table).credentials.rows = db.credentials.rows ++ moreCredentials ∧
        (set db table).sessions.rows = db.sessions.rows ++ moreSessions)
    (each : ∀ (later : List (Accounts → Except Failure Accounts)) (laterKnown : Accounts → Prop),
      (∀ db, laterKnown db → known db) →
      Adds later (credentials ++ moreCredentials) (sessions ++ moreSessions) →
        post () later laterKnown) :
    Wp valid rely (add name get set row) post log known := by
  rw [add, wp_statement]
  intro _ _ _ _ _
  apply each _ _ fun _ both => both.1
  apply adds.concat
  intro db next changed
  split at changed
  · rename_i table accepted
    cases changed
    exact inserted db table (Table.insert_eq_some accepted).1
  · cases changed

private theorem wp_addUser {user : Account} {credentials : List LoginCredential}
    {sessions : List LoginSession} {post : Unit → List (Accounts → Except Failure Accounts) →
      (Accounts → Prop) → Prop} (adds : Adds log credentials sessions)
    (each : ∀ (later : List (Accounts → Except Failure Accounts)) (laterKnown : Accounts → Prop),
      (∀ db, laterKnown db → known db) → Adds later credentials sessions →
        post () later laterKnown) :
    Wp valid rely (addUser user) post log known := by
  have inserted : ∀ (db : Accounts) (table : Table users), table.rows = db.users.rows ++ [user] →
      { db with users := table }.credentials.rows = db.credentials.rows ++ [] ∧
        { db with users := table }.sessions.rows = db.sessions.rows ++ [] := by simp
  refine wp_add adds inserted ?_
  intro later laterKnown weaker added
  rw [List.append_nil, List.append_nil] at added
  exact each later laterKnown weaker added

private theorem wp_addCredential {credential : LoginCredential} {credentials : List LoginCredential}
    {sessions : List LoginSession} {post : Unit → List (Accounts → Except Failure Accounts) →
      (Accounts → Prop) → Prop} (adds : Adds log credentials sessions)
    (each : ∀ (later : List (Accounts → Except Failure Accounts)) (laterKnown : Accounts → Prop),
      (∀ db, laterKnown db → known db) → Adds later (credentials ++ [credential]) sessions →
        post () later laterKnown) :
    Wp valid rely (addCredential credential) post log known := by
  have inserted : ∀ (db : Accounts) (table : Table loginCredentials),
      table.rows = db.credentials.rows ++ [credential] →
        { db with credentials := table }.credentials.rows = db.credentials.rows ++ [credential] ∧
          { db with credentials := table }.sessions.rows = db.sessions.rows ++ [] := by simp
  refine wp_add adds inserted ?_
  intro later laterKnown weaker added
  rw [List.append_nil] at added
  exact each later laterKnown weaker added

private theorem wp_createSession {user : Account} {drawn : Drawn}
    {credentials : List LoginCredential}
    {sessions : List LoginSession} {post : Unit → List (Accounts → Except Failure Accounts) →
      (Accounts → Prop) → Prop} (adds : Adds log credentials sessions)
    (each : ∀ (later : List (Accounts → Except Failure Accounts)) (laterKnown : Accounts → Prop),
      (∀ db, laterKnown db → known db) →
      Adds later credentials (sessions ++ [sessionOf texts user.id drawn]) →
        post () later laterKnown) :
    Wp valid rely (createSession texts user drawn) post log known := by
  have inserted : ∀ (db : Accounts) (table : Table loginSessions),
      table.rows = db.sessions.rows ++ [sessionOf texts user.id drawn] →
        { db with sessions := table }.credentials.rows = db.credentials.rows ++ [] ∧
          { db with sessions := table }.sessions.rows =
            db.sessions.rows ++ [sessionOf texts user.id drawn] := by simp
  refine wp_add adds inserted ?_
  intro later laterKnown weaker added
  rw [List.append_nil] at added
  exact each later laterKnown weaker added

private theorem wp_flushUsers {change : Table users → Option (Table users)}
    {post : Unit → List (Accounts → Except Failure Accounts) → (Accounts → Prop) → Prop}
    (each : ∀ (later : List (Accounts → Except Failure Accounts)) (laterKnown : Accounts → Prop),
      Adds later [] [] → post () later laterKnown) :
    Wp valid rely (flushUsers change) post [] known := by
  rw [flushUsers, wp_statement]
  intro _ _ _ _ _
  apply each
  apply adds_nil.concat
  intro db next flushed
  split at flushed
  · cases flushed
    simp
  · cases flushed

end Statements

/-! ## Requests -/

section Requests

variable {texts : Texts} {valid : Accounts → Prop} {known : Accounts → Prop}

private theorem Opened.later {email password : String} {userId : UUID}
    {credentials more : List LoginCredential}
    (opened : Opened texts email password userId credentials) (later : credentials <+: more) :
    Opened texts email password userId more := by
  obtain ⟨credential, stored, opens⟩ := opened
  exact ⟨credential, later.subset stored, opens⟩

/-- A user that is authenticated has a credential, then and ever after. -/
theorem wp_authenticate {email password : String}
    {post : Account → List (Accounts → Except Failure Accounts) → (Accounts → Prop) → Prop}
    (each : ∀ (user : Account) (laterKnown : Accounts → Prop),
      (∀ db, laterKnown db → Opened texts email password user.id db.credentials.rows) →
        post user [] laterKnown) :
    Wp valid (fun db later => db.credentials.rows <+: later.credentials.rows)
      (authenticate texts email password) post [] known := by
  rw [authenticate, wp_bind, wp_query]
  intro db seen _ _ replayed
  cases replayed
  dsimp only
  split
  · rename_i credential checked found
    obtain ⟨stored, named⟩ := Table.find?_mem found
    rw [found] at checked
    rw [wp_bind, wp_query]
    intro laterDb laterSeen _ _ replayedLater
    cases replayedLater
    cases located : (laterDb.users.find? fun user => user.id = credential.userId).filter
        fun user => user.status = .active with
    | none => exact wp_raise _
    | some user =>
        obtain ⟨isUser, _⟩ := Option.filter_eq_some_iff.mp located
        rw [wp_pure]
        apply each
        intro final both
        have opened : Opened texts email password user.id db.credentials.rows :=
          ⟨credential, stored, of_decide_eq_true named,
            (of_decide_eq_true (Table.find?_mem isUser).2).symm, checked⟩
        exact opened.later both.1.2
  · exact wp_raise _

private theorem Adds.effect {request : Request} {signedIn : Option Account}
    {log : List (Accounts → Except Failure Accounts)} {db next : Accounts}
    (adds : Adds log (enrols texts request) (opens texts request signedIn))
    (revokesNothing : request.revokes = none) (executed : replay log db = .ok next)
    (registered : ∀ registration drawn obstacle, request = .register registration drawn obstacle →
      ∃ user, signedIn = some user ∧ user.id = drawn.identifier)
    (verified : ∀ email password drawn, request = .login email password drawn →
      ∃ user, signedIn = some user ∧ Opened texts email password user.id db.credentials.rows) :
    Effect texts request signedIn db next where
  sessions := by
    have all : db.sessions.rows.filter (keeps texts request) = db.sessions.rows := by
      simp [keeps, revokesNothing]
    rw [all]
    exact (adds db next executed).2
  credentials := (adds db next executed).1
  registered := registered
  verified := verified

theorem handle_effect (request : Request) :
    Wp valid (fun db later => db.credentials.rows <+: later.credentials.rows) (handle texts request)
      (fun signedIn log known => ∀ db next, known db → replay log db = .ok next →
        Effect texts request signedIn db next) [] known := by
  cases request with
  | register registration drawn obstacle =>
      rw [handle, wp_bind, register]
      dsimp only
      rw [wp_bind, wp_query]
      intro db seen _ _ replayed
      cases replayed
      split
      · exact wp_raise _
      rw [wp_bind]
      apply wp_addUser adds_nil
      intro afterUser _ _ userAdds
      split
      · exact wp_raise _
      rename_i passwordHash hashed
      rw [wp_bind]
      apply wp_addCredential userAdds
      intro afterCredential _ _ credentialAdds
      split
      · exact wp_raise _
      rw [wp_bind]
      apply @wp_createSession texts _ _ _ _ _ _ _ _ _ credentialAdds
      intro afterSession sessionKnown _ sessionAdds
      rw [wp_pure, wp_pure]
      intro final next _ executed
      apply Adds.effect _ rfl executed
      · intro registration drawn obstacle same
        cases same
        exact ⟨_, rfl, rfl⟩
      · intro email password drawn absurdity
        cases absurdity
      · simpa [enrols, credentialOf, hashed, opens, Request.draws] using sessionAdds
  | login email password drawn =>
      rw [handle, wp_bind, login, wp_bind]
      apply wp_authenticate
      intro user authenticatedKnown opened
      rw [wp_bind]
      apply @wp_createSession texts _ _ _ _ _ _ _ _ _ adds_nil
      intro afterSession sessionKnown weaker sessionAdds
      rw [wp_pure, wp_pure]
      intro final next holds executed
      apply Adds.effect _ rfl executed
      · intro registration drawn obstacle absurdity
        cases absurdity
      · intro email password drawn same
        cases same
        exact ⟨user, rfl, opened final (weaker final holds)⟩
      · exact sessionAdds
  | logout cookie =>
      rw [handle, wp_bind, logout, wp_statement]
      intro _ _ _ _ _
      rw [wp_pure]
      intro db next _ executed
      cases executed
      have same : keeps texts (.logout cookie) = fun row : LoginSession =>
          !decide (row.tokenHash = texts.sha256 (cookie.getD "")) := by
        funext row
        simp [keeps, Request.revokes]
      refine ⟨?_, ?_, ?_, ?_⟩
      · rw [same]
        simp [opens, Request.draws, Table.delete]
      · simp [enrols]
      · intro registration drawn obstacle absurdity
        cases absurdity
      · intro email password drawn absurdity
        cases absurdity
  | createUser payload identifier =>
      rw [handle, wp_bind, createUser, wp_bind, wp_query]
      intro _ seen _ _ _
      split
      · exact wp_raise _
      apply wp_flushUsers
      intro flushed _ adds
      rw [wp_pure]
      intro db next _ executed
      apply adds.effect rfl executed
      · intro registration drawn obstacle absurdity
        cases absurdity
      · intro email password drawn absurdity
        cases absurdity
  | updateUser userId payload =>
      rw [handle, wp_bind, updateUser, wp_bind, wp_query]
      intro _ seen _ _ _
      split
      · exact wp_raise _
      apply wp_flushUsers
      intro flushed _ adds
      rw [wp_pure]
      intro db next _ executed
      apply adds.effect rfl executed
      · intro registration drawn obstacle absurdity
        cases absurdity
      · intro email password drawn absurdity
        cases absurdity

end Requests

end UrjaSetu.Services.AuthService
