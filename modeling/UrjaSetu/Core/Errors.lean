import UrjaSetu.Domain.Enums

/-!
The error contract of `app/core/errors.py`: a stable code, a message, details
and a status.
-/

namespace UrjaSetu.Core

open UrjaSetu.Domain

/-- A value of an error's `details`; identifiers and decimals are rendered with
`str` there. -/
inductive DetailValue where
  | text (value : String)
  | uuid (value : UUID)
  | decimal (value : ℚ)
deriving DecidableEq, Repr

/-- A raised `UrjaSetuError`. -/
structure UrjaSetuError where
  code : String
  message : String
  details : List (String × DetailValue) := []
  httpStatus : ℕ
deriving DecidableEq, Repr

/-- `UnprocessableError`: a business-rule violation that passes schema
validation. Its subclasses differ in their code. -/
def unprocessableError (code message : String) (details : List (String × DetailValue)) :
    UrjaSetuError where
  code := code
  message := message
  details := details
  httpStatus := 422

/-- `NotFoundError`: a requested resource does not exist. -/
def notFoundError (code message : String) (details : List (String × DetailValue)) :
    UrjaSetuError where
  code := code
  message := message
  details := details
  httpStatus := 404

/-- `ConflictError`. -/
def conflictError (code message : String) (details : List (String × DetailValue)) :
    UrjaSetuError where
  code := code
  message := message
  details := details
  httpStatus := 409

end UrjaSetu.Core
