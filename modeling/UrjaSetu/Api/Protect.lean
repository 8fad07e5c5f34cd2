import UrjaSetu.Library.Binary64
import UrjaSetu.Library.Dict
import UrjaSetu.Library.SlidingWindow
import UrjaSetu.Services.AuthService.Accounts

/-!
The `protect` middleware of `app/main.py`, which every request of a process passes
through.

Nothing interrupts it while it counts attempts, so requests come to it one after the
other. A request carries the readings of the monotonic clock while it is served, and
the accounts and the time that the check of the operator finds.

Owns: the middleware, and what it may do with one request.
-/

namespace UrjaSetu.Api.Protect

open UrjaSetu.Domain UrjaSetu.Db UrjaSetu.Db.Models UrjaSetu.Library UrjaSetu.Library.Transaction
open UrjaSetu.Services.AuthService

structure Settings where
  appEnv : String
  allowLegacyTestApi : Bool
  corsAllowedOrigins : List String

structure HttpRequest where
  method : String
  path : String
  origin : Option String
  requestedWith : Option String
  host : Option String
  client : Option String
  cookie : Option String
deriving DecidableEq, Repr

def startsWith (text start : String) : Bool := start.toList.isPrefixOf text.toList

/-- `origin.split("://", 1)[-1]`. -/
def afterScheme (origin : String) : String :=
  match origin.toList.tails.find? fun rest => "://".toList.isPrefixOf rest with
  | some rest => String.ofList (rest.drop 3)
  | none => origin

def HttpRequest.writes (request : HttpRequest) : Bool := request.method ∉ ["GET", "HEAD", "OPTIONS"]

/-- The request does not show that a page of an allowed origin made it. -/
def HttpRequest.unverified (settings : Settings) (request : HttpRequest) : Bool :=
  request.requestedWith ≠ some "UrjaSetu" || request.origin.any fun origin =>
    origin ≠ "" && origin ∉ settings.corsAllowedOrigins && some (afterScheme origin) ≠ request.host

def HttpRequest.signsIn (request : HttpRequest) : Bool :=
  startsWith request.path "/api/v1/auth/" && request.method = "POST"

def HttpRequest.legacy (request : HttpRequest) : Bool :=
  !(startsWith request.path "/api/v1/auth/" || startsWith request.path "/api/v1/workspace") &&
    request.path ≠ "/api/v1/meta"

def HttpRequest.key (request : HttpRequest) : String := request.client.getD "unknown"

inductive Verdict where
  | passed
  | refused (status : ℕ) (detail : String)
deriving DecidableEq, Repr

def tooMany : Verdict := .refused 429 "Too many attempts. Try again in a minute."

/-- `time.monotonic() - t < 60`. -/
def recent (now stamp : ℚ) : Bool := Binary64.double (now - stamp) < 60

/-- How many attempts of a host may be recent. -/
def LIMIT : ℕ := 20

/-- The attempts of each host, and what was observed of them: whose were stored, and
when. No step reads what was observed. -/
structure Gate where
  attempts : Dict String (List ℚ)
  accepted : List (String × ℚ)

def Gate.initial : Gate := ⟨Dict.empty, []⟩

def Gate.stored (gate : Gate) (key : String) : List ℚ := (gate.attempts.get? key).getD []

def Gate.attempt (gate : Gate) (key : String) (clock : ℕ → ℚ) : Option Gate :=
  (SlidingWindow.offer recent LIMIT clock (gate.stored key)).map fun kept =>
    ⟨gate.attempts.set key kept, gate.accepted ++ [(key, clock (gate.stored key).length)]⟩

/-- A request as it is served. -/
structure Arrival where
  request : HttpRequest
  clock : ℕ → ℚ
  accounts : Accounts
  now : Instant

/-- `is_operator`. -/
def isOperator (texts : Texts) (accounts : Accounts) (now : Instant) (cookie : Option String) : Bool :=
  match (resolve texts cookie now).alone (fun _ => ()) accounts with
  | .ok (some actor, _) => actor.role = .operator || actor.role = .admin
  | _ => false

section Middleware

variable (texts : Texts) (settings : Settings)

def protect (arrival : Arrival) (gate : Gate) : Verdict × Gate :=
  let request := arrival.request
  let legacyTest := settings.appEnv = "test" && settings.allowLegacyTestApi
  if !legacyTest && startsWith request.path "/api/v1" then
    if request.writes && request.unverified settings then
      (.refused 403 "Request origin could not be verified.", gate)
    else
      match if request.signsIn then gate.attempt request.key arrival.clock else some gate with
      | none => (tooMany, gate)
      | some gate =>
          if request.legacy then
            if request.writes then
              (.refused 410 "Legacy write retired. Use the connected workspace workflow.", gate)
            else if isOperator texts arrival.accounts arrival.now request.cookie then (.passed, gate)
            else (.refused 403 "Use the authenticated workspace API.", gate)
          else (.passed, gate)
  else (.passed, gate)

/-- The gate after the arrivals. -/
def Gate.after (gate : Gate) (arrivals : List Arrival) : Gate :=
  arrivals.foldl (fun gate arrival => (protect texts settings arrival gate).2) gate

/-- The verdict on each arrival, in order. -/
def verdicts (gate : Gate) : List Arrival → List Verdict
  | [] => []
  | arrival :: rest =>
      let (verdict, next) := protect texts settings arrival gate
      verdict :: verdicts next rest

end Middleware

variable {texts : Texts} {settings : Settings} {arrival : Arrival} {arrivals : List Arrival}
  {gate next : Gate} {host : String}

/-! ## One request -/

/-- The middleware counts an attempt, refuses one, or leaves the gate alone. -/
theorem protect_cases (texts : Texts) (settings : Settings) (arrival : Arrival) (gate : Gate) :
    (∃ next, gate.attempt arrival.request.key arrival.clock = some next ∧
      (protect texts settings arrival gate).2 = next ∧
      (protect texts settings arrival gate).1 ≠ tooMany) ∨
    (gate.attempt arrival.request.key arrival.clock = none ∧
      protect texts settings arrival gate = (tooMany, gate)) ∨
    ((protect texts settings arrival gate).2 = gate ∧
      (protect texts settings arrival gate).1 ≠ tooMany) := by
  dsimp only [protect]
  split
  · split
    · exact Or.inr (Or.inr ⟨rfl, by simp [tooMany]⟩)
    · by_cases signsIn : arrival.request.signsIn = true
      · rw [if_pos signsIn]
        cases attempted : gate.attempt arrival.request.key arrival.clock with
        | none => exact Or.inr (Or.inl ⟨rfl, rfl⟩)
        | some next =>
            refine Or.inl ⟨next, rfl, ?_⟩
            dsimp only
            repeat' split
            all_goals simp [tooMany]
      · rw [if_neg signsIn]
        refine Or.inr (Or.inr ?_)
        dsimp only
        repeat' split
        all_goals simp [tooMany]
  · exact Or.inr (Or.inr ⟨rfl, by simp [tooMany]⟩)

def sampleRequest (method path : String) : HttpRequest where
  method := method
  path := path
  origin := none
  requestedWith := some "UrjaSetu"
  host := none
  client := some "h"
  cookie := some "u"

end UrjaSetu.Api.Protect
