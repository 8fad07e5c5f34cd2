import UrjaSetu.Db.Database
import UrjaSetu.Db.Models.Identity
import UrjaSetu.Library.Hex
import UrjaSetu.Library.Transactions

/-!
Passwords and revocable sessions: `app/services/auth_service.py`, the requests of
`app/api/v1/workspace.py` that open and close a session, and the writes of
`app/services/identity_service.py` on the accounts.

A request carries what it draws while it runs. What registration does beside the
account (the connection, the meter and their readings) is known here by the error
it ends in, if any.
-/

namespace UrjaSetu.Services.AuthService

open UrjaSetu.Core UrjaSetu.Domain UrjaSetu.Db UrjaSetu.Db.Models UrjaSetu.Library
open UrjaSetu.Library.Transaction

/-- `hashlib.sha256(text.encode()).hexdigest()`, `hashlib.scrypt` with the cost of
this service, and `str.lower`. -/
structure Texts where
  sha256 : String → String
  scrypt : String → List UInt8 → List UInt8
  lower : String → String

structure Accounts where
  users : Table users
  credentials : Table loginCredentials
  sessions : Table loginSessions

/-- Users, none of whom has ever registered or signed in. -/
def Accounts.initial (known : Table Models.users) : Accounts := ⟨known, Table.empty, Table.empty⟩

abbrev AuthTxn (α : Type) := Transaction Accounts Unit Failure α

def httpError {α : Type} (status : ℕ) (detail : String) : AuthTxn α := .raise (.http status detail)

/-- `session.add(row)`, with its flush. -/
def add {Row : Type} {schema : Schema Row} (name : String) (get : Accounts → Table schema)
    (set : Accounts → Table schema → Accounts) (row : Row) : AuthTxn Unit :=
  statement fun db =>
    match (get db).insert row with
    | some table => .ok (set db table)
    | none => .error (.database ⟨name⟩)

def addUser : Account → AuthTxn Unit :=
  add "users" Accounts.users fun db table => { db with users := table }

def addCredential : LoginCredential → AuthTxn Unit :=
  add "login_credentials" Accounts.credentials fun db table => { db with credentials := table }

def addSession : LoginSession → AuthTxn Unit :=
  add "login_sessions" Accounts.sessions fun db table => { db with sessions := table }

section Texts

variable (texts : Texts)

/-- `hash_password`, where `salt` are the bytes that `token_hex` drew. -/
def hashPassword (password : String) (salt : List UInt8) : Option String := do
  let saltText := Hex.ofBytes salt
  let key := texts.scrypt password (← Hex.readBytes saltText)
  some (String.ofList (['$'].intercalate ["scrypt".toList, saltText, Hex.ofBytes key]))

def checkPassword (password encoded : String) : Bool :=
  match encoded.toList.splitOn '$' with
  | [_, salt, expected] =>
      match Hex.readBytes salt with
      | some salt => Hex.ofBytes (texts.scrypt password salt) = expected
      | none => false
  | _ => false

/-- `email.lower().strip()`. -/
def normalised (email : String) : String :=
  String.ofList (PythonText.strip (texts.lower email).toList)

def resolve (token : Option String) (now : Instant) : AuthTxn (Option Account) :=
  match token with
  | none => pure none
  | some token =>
      if token = "" then pure none
      else do
        let login ← query fun db => db.sessions.find? fun login =>
          login.tokenHash = texts.sha256 token && now < login.expiresAt
        match login with
        | none => pure none
        | some login =>
            let user ← query fun db => db.users.find? fun user => user.id = login.userId
            pure (user.filter fun user => user.status = .active)

/-- What a request draws: an identifier, a time, a salt and a token. -/
structure Drawn where
  identifier : UUID
  now : Instant
  salt : List UInt8
  token : String
deriving DecidableEq, Repr

/-- How long a session lasts: `timedelta(hours=12)`. -/
def LIFETIME : ℤ := 12 * 3600000000

def createSession (user : Account) (drawn : Drawn) : AuthTxn Unit :=
  addSession ⟨user.id, texts.sha256 drawn.token, drawn.now + LIFETIME⟩

/-- What is checked where no account has the email. -/
def noHash : String :=
  String.ofList (['$'].intercalate
    ["scrypt".toList, Hex.ofBytes (List.replicate 16 0), Hex.ofBytes (List.replicate 64 0)])

def authenticate (email password : String) : AuthTxn Account := do
  let credential ← query fun db => db.credentials.find? fun credential =>
    credential.email = normalised texts email
  let encoded := (credential.map LoginCredential.passwordHash).getD noHash
  match checkPassword texts password encoded, credential with
  | true, some credential =>
      let user ← query fun db => db.users.find? fun user => user.id = credential.userId
      match user.filter fun user => user.status = .active with
      | some user => pure user
      | none => httpError 403 "Account is inactive."
  | _, _ => httpError 401 "Email or password is incorrect."

structure Registration where
  email : String
  password : String
  name : String
  role : UserRole
deriving DecidableEq, Repr

/-- `POST /auth/register`. -/
def register (registration : Registration) (drawn : Drawn) (obstacle : Option Failure) :
    AuthTxn Account := do
  let email := normalised texts registration.email
  let taken ← query fun db => db.credentials.find? fun credential => credential.email = email
  if taken.isSome then httpError 409 "This email already has an account."
  else do
    let user : Account := ⟨⟨drawn.identifier, registration.role⟩, some email, registration.name, .active⟩
    addUser user
    match hashPassword texts registration.password drawn.salt with
    | none => .raise (.engine "scrypt")
    | some passwordHash =>
        addCredential ⟨user.id, email, passwordHash⟩
        match obstacle with
        | some failure => .raise failure
        | none =>
            createSession texts user drawn
            pure user

/-- `POST /auth/login`. -/
def login (email password : String) (drawn : Drawn) : AuthTxn Account := do
  let user ← authenticate texts email password
  createSession texts user drawn
  pure user

/-- `POST /auth/logout`. -/
def logout (cookie : Option String) : AuthTxn Unit :=
  statement fun db =>
    .ok { db with sessions := db.sessions.delete fun login =>
      login.tokenHash = texts.sha256 (cookie.getD "") }

end Texts

/-! ## Accounts -/

def emailTaken (details : List (String × DetailValue)) : Failure :=
  .domain (conflictError "USER_EMAIL_ALREADY_EXISTS" "A user with this email already exists." details)

/-- A flush of the users, which reports every violated constraint as a taken email. -/
def flushUsers (change : Table users → Option (Table users)) : AuthTxn Unit :=
  statement fun db =>
    match change db.users with
    | some table => .ok { db with users := table }
    | none => .error (emailTaken [])

structure UserCreate where
  displayName : String
  role : UserRole
  email : Option String
  status : UserStatus
deriving DecidableEq, Repr

/-- `create_user`, up to its commit. -/
def createUser (payload : UserCreate) (identifier : UUID) : AuthTxn Unit := do
  let other ← query fun db => db.users.find? fun user =>
    payload.email.isSome && user.email = payload.email
  if other.isSome then .raise (emailTaken [("email", .text (payload.email.getD ""))])
  else
    flushUsers fun table => table.insert
      ⟨⟨identifier, payload.role⟩, payload.email, payload.displayName, payload.status⟩

/-- The fields of a profile update that are set. -/
structure UserUpdate where
  displayName : Option String
  email : Option (Option String)
  status : Option UserStatus
deriving DecidableEq, Repr

/-- What differs from the account as it was read: only that is written. -/
def UserUpdate.against (payload : UserUpdate) (user : Account) : UserUpdate where
  displayName := payload.displayName.filter fun name => name ≠ user.displayName
  email := payload.email.filter fun email => email ≠ user.email
  status := payload.status.filter fun status => status ≠ user.status

def UserUpdate.apply (payload : UserUpdate) (user : Account) : Account :=
  { user with
    displayName := payload.displayName.getD user.displayName
    email := payload.email.getD user.email
    status := payload.status.getD user.status }

/-- `update_user`, up to its commit. -/
def updateUser (userId : UUID) (payload : UserUpdate) : AuthTxn Unit := do
  let user ← query fun db => db.users.find? fun user => user.id = userId
  match user with
  | none => .raise (.domain (notFoundError "USER_NOT_FOUND" "User not found." [("id", .uuid userId)]))
  | some user =>
      flushUsers fun table => table.modify (fun row => row.id = userId) (payload.against user).apply

/-! ## Requests -/

inductive Request where
  | register (registration : Registration) (drawn : Drawn) (obstacle : Option Failure)
  | login (email password : String) (drawn : Drawn)
  | logout (cookie : Option String)
  | createUser (payload : UserCreate) (identifier : UUID)
  | updateUser (userId : UUID) (payload : UserUpdate)
deriving DecidableEq

/-- The account that a request signs in, if any. -/
def handle (texts : Texts) : Request → AuthTxn (Option Account)
  | .register registration drawn obstacle => do
      let user ← register texts registration drawn obstacle
      pure (some user)
  | .login email password drawn => do
      let user ← login texts email password drawn
      pure (some user)
  | .logout cookie => do
      logout texts cookie
      pure none
  | .createUser payload identifier => do
      createUser payload identifier
      pure none
  | .updateUser userId payload => do
      updateUser userId payload
      pure none

end UrjaSetu.Services.AuthService
