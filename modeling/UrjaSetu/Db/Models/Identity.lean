import UrjaSetu.Db.Models.Assets

/-!
Accounts: the users of `app/db/models/identity.py`, and the credentials and login
sessions of `workspace.py`.
-/

namespace UrjaSetu.Db.Models

open UrjaSetu.Domain UrjaSetu.Library

structure Account extends User where
  email : Option String
  displayName : String
  status : UserStatus
deriving DecidableEq, Repr

/-- `length(trim(text)) > 0`. -/
def notBlank (text : String) : Bool := text.toList.any (· ≠ ' ')

/-- `users`. -/
def users : Schema Account where
  check account := notBlank account.displayName
  conflict earlier later := earlier.id = later.id ∨
    (earlier.email.isSome ∧ earlier.email = later.email)

structure LoginCredential where
  userId : UUID
  email : String
  passwordHash : String
deriving DecidableEq, Repr

/-- `login_credentials`. -/
def loginCredentials : Schema LoginCredential where
  conflict earlier later := earlier.userId = later.userId ∨ earlier.email = later.email

structure LoginSession where
  userId : UUID
  tokenHash : String
  expiresAt : Instant
deriving DecidableEq, Repr

/-- `login_sessions`. -/
def loginSessions : Schema LoginSession where
  conflict earlier later := earlier.tokenHash = later.tokenHash

end UrjaSetu.Db.Models
