/-
This file gives the middleware that authenticates the requests to the REST routes, and the interceptor of the gRPC server.
-/

import Pxtly.Auth.Tokens
import Pxtly.Foundation.Expiring

namespace Pxtly.Auth

open Foundation Program

/-- Every value in the store is the text of an integer, which stands for it here. -/
abbrev Redis := Expiring String Int

inductive RedisFault where
  | redisError
  deriving DecidableEq, Repr

abbrev RedisProgram (A : Type) := Program (Expiring.signature String Int) RedisFault A

/-- The clock of the store is the clock of the server. -/
def clock : RedisProgram Int := call (S := Expiring.signature String Int) .now

abbrev RedisResponds (now : Int) := Expiring.Responds (K := String) (V := Int) now

def blacklistKey (jti : String) : String := "oidc:blacklist:" ++ jti
def invalidatedKey (keycloakSub : String) : String := "oidc:invalidated:" ++ keycloakSub

/-- These parts of a request decide whether it is authenticated. -/
structure Request where
  path : String
  method : String
  authorization : String := ""
  sessionCookie : Option String := none
  csrfCookie : Option String := none
  csrfHeader : Option String := none

def publicAPIPaths : List String := ["/api/v1/auth/login", "/api/v1/auth/callback", "/api/v1/auth/refresh"]
def excludedPrefixes : List String := ["/docs", "/redoc", "/openapi", "/health", "/metrics"]
def safeMethods : List String := ["GET", "HEAD", "OPTIONS"]

def startsWith (text start : String) : Bool := start.toList.isPrefixOf text.toList

def isPublic (path : String) : Bool := path ∈ publicAPIPaths || excludedPrefixes.any (startsWith path)

/-- The token comes with a sign that tells whether it was in the cookie. -/
def extractToken (request : Request) : Option (String × Bool) :=
  if startsWith request.authorization "Bearer " then some (String.ofList (request.authorization.toList.drop 7), false)
  else match request.sessionCookie with
    | some token => if token = "" then none else some (token, true)
    | none => none

def csrfMatches (request : Request) : Bool :=
  match request.csrfCookie, request.csrfHeader with
  | some cookie, some header => cookie ≠ "" && cookie == header
  | _, _ => false

/-- A request is refused with a status, or it is handed on, with its payload where its path is protected. -/
inductive Dispatched where
  | refused (status : Nat) (error message : String)
  | unprotected
  | authenticated (payload : Payload)

def Dispatched.payload : Dispatched → Option Payload
  | .authenticated payload => some payload
  | _ => none

def unauthorized (message : String) : Dispatched := .refused 401 "Unauthorized" message
def missingCredentials : Dispatched :=
  unauthorized "Missing credentials — provide Authorization: Bearer <token> or the session cookie."

def forbidden (message : String) : Dispatched := .refused 403 "Forbidden" message
def systemFault : Dispatched := .refused 500 "SystemFault" "Internal authentication error."

/-- A mark invalidates the tokens that were issued up to its second. -/
def judge (payload : Payload) (blacklisted invalidated : Option Int) : Dispatched :=
  if blacklisted.isSome || invalidated.any (payload.issuedAt ≤ ·) then
    unauthorized "Token has been revoked. Please log in again."
  else .authenticated payload

/-- Every error of the store counts as a fault of the system. -/
def checkRevocation (payload : Payload) : RedisProgram Dispatched :=
  .perform (.get (blacklistKey payload.tokenID)) fun
    | none => .done systemFault
    | some blacklisted => .perform (.get (invalidatedKey payload.subject)) fun
        | none => .done systemFault
        | some invalidated => .done (judge payload blacklisted invalidated)

section Dispatch

variable (keycloak : Keycloak)

def authenticate (token : String) : RedisProgram Dispatched := do
  let now ← clock
  match validateToken keycloak now token with
  | .error fault => return if fault.isValueError then unauthorized "Invalid or expired token." else systemFault
  | .ok payload => checkRevocation payload

def dispatch (request : Request) : RedisProgram Dispatched :=
  if isPublic request.path then return .unprotected
  else match extractToken request with
    | none => return missingCredentials
    | some (token, fromCookie) =>
        if token = "" then return missingCredentials
        else if fromCookie && request.method ∉ safeMethods && !csrfMatches request then
          return forbidden "CSRF token missing or invalid."
        else authenticate keycloak token

end Dispatch

section Outcomes

variable {keycloak : Keycloak} {now : Int} {store final : Redis}

/-- A token passes when neither its identifier nor its subject is marked. -/
theorem reaches_checkRevocation {payload : Payload} {outcome : Except RedisFault Dispatched}
    (reaches : (checkRevocation payload).Reaches (RedisResponds now) store outcome final) :
    final = store ∧ ∃ dispatched, outcome = .ok dispatched ∧ ∀ passed, dispatched.payload = some passed →
      passed = payload ∧ store.get now (blacklistKey payload.tokenID) = none ∧
        ∀ mark, store.get now (invalidatedKey payload.subject) = some mark → ¬ payload.issuedAt ≤ mark := by
  obtain ⟨first, later, responded, rest⟩ := reaches
  cases responded with
  | unread =>
      obtain ⟨rfl, rfl⟩ := rest
      exact ⟨rfl, _, rfl, nofun⟩
  | found =>
      obtain ⟨second, last, responded, rest⟩ := rest
      cases responded with
      | unread =>
          obtain ⟨rfl, rfl⟩ := rest
          exact ⟨rfl, _, rfl, nofun⟩
      | found =>
          obtain ⟨rfl, rfl⟩ := rest
          refine ⟨rfl, _, rfl, fun passed same => ?_⟩
          unfold judge at same
          split at same
          · cases same
          · next clean =>
              cases same
              simp only [Bool.or_eq_true, not_or, Bool.not_eq_true, Option.isSome_eq_false_iff,
                Option.isNone_iff_eq_none] at clean
              refine ⟨rfl, clean.1, fun mark found late => ?_⟩
              have contrary := clean.2
              rw [found] at contrary
              simp [late] at contrary

theorem reaches_authenticate {token : String} {outcome : Except RedisFault Dispatched}
    (reaches : (authenticate keycloak token).Reaches (RedisResponds now) store outcome final) :
    final = store ∧ ∃ dispatched, outcome = .ok dispatched ∧ ∀ payload, dispatched.payload = some payload →
      validateToken keycloak now token = .ok payload ∧ store.get now (blacklistKey payload.tokenID) = none ∧
        ∀ mark, store.get now (invalidatedKey payload.subject) = some mark → ¬ payload.issuedAt ≤ mark := by
  have rest := Expiring.reaches_now.mp reaches
  cases validated : validateToken keycloak now token with
  | error fault =>
      rw [validated] at rest
      obtain ⟨rfl, rfl⟩ := rest
      refine ⟨rfl, _, rfl, fun payload same => ?_⟩
      cases isValueError : fault.isValueError <;> simp [isValueError, unauthorized, systemFault, Dispatched.payload] at same
  | ok payload =>
      rw [validated] at rest
      obtain ⟨same, dispatched, ended, passes⟩ := reaches_checkRevocation rest
      refine ⟨same, dispatched, ended, fun passed authenticated => ?_⟩
      obtain ⟨rfl, clean⟩ := passes passed authenticated
      exact ⟨rfl, clean⟩

/-- A dispatched request leaves the store as it is; its payload is valid, and nothing in the store speaks against it. -/
theorem reaches_dispatch {request : Request} {outcome : Except RedisFault Dispatched}
    (reaches : (dispatch keycloak request).Reaches (RedisResponds now) store outcome final) :
    final = store ∧ ∃ dispatched, outcome = .ok dispatched ∧ ∀ payload, dispatched.payload = some payload →
      (∃ token fromCookie, extractToken request = some (token, fromCookie) ∧
        validateToken keycloak now token = .ok payload) ∧
      store.get now (blacklistKey payload.tokenID) = none ∧
        ∀ mark, store.get now (invalidatedKey payload.subject) = some mark → ¬ payload.issuedAt ≤ mark := by
  unfold dispatch at reaches
  split at reaches
  · obtain ⟨rfl, rfl⟩ := reaches
    exact ⟨rfl, _, rfl, nofun⟩
  · split at reaches
    · obtain ⟨rfl, rfl⟩ := reaches
      exact ⟨rfl, _, rfl, nofun⟩
    · next token fromCookie extracted =>
        split at reaches
        · obtain ⟨rfl, rfl⟩ := reaches
          exact ⟨rfl, _, rfl, nofun⟩
        · split at reaches
          · obtain ⟨rfl, rfl⟩ := reaches
            exact ⟨rfl, _, rfl, nofun⟩
          · obtain ⟨same, dispatched, ended, passes⟩ := reaches_authenticate reaches
            refine ⟨same, dispatched, ended, fun payload authenticated => ?_⟩
            obtain ⟨validated, clean⟩ := passes payload authenticated
            exact ⟨⟨token, fromCookie, extracted, validated⟩, clean⟩

end Outcomes

end Pxtly.Auth

namespace Pxtly.Grpc

open Auth (Keycloak Payload TokenFault startsWith validateToken)

/-- A call is aborted, or an exception leaves the interceptor, or the servicer receives the payload. -/
inductive Wrapped where
  | missingToken
  | unauthenticated (cause : TokenFault)
  | raised (cause : TokenFault)
  | accepted (payload : Payload)

def Wrapped.payload : Wrapped → Option Payload
  | .accepted payload => some payload
  | _ => none

/-- The first entry with the scheme counts, whatever follows it. -/
def extractToken (metadata : List (String × String)) : Option String :=
  (metadata.find? fun entry => entry.1 == "authorization" && startsWith entry.2 "Bearer ").map fun entry =>
    String.ofList (entry.2.toList.drop 7)

def wrap (keycloak : Keycloak) (now : Int) (metadata : List (String × String)) : Wrapped :=
  match extractToken metadata with
  | none => .missingToken
  | some token =>
      if token = "" then .missingToken
      else match validateToken keycloak now token with
        | .error fault => if fault.isValueError then .unauthenticated fault else .raised fault
        | .ok payload => .accepted payload

/-- A servicer receives exactly the payloads that the validation accepts. -/
theorem wrap_payload (keycloak : Keycloak) (now : Int) (metadata : List (String × String)) (payload : Payload) :
    (wrap keycloak now metadata).payload = some payload ↔
      ∃ token, extractToken metadata = some token ∧ token ≠ "" ∧ validateToken keycloak now token = .ok payload := by
  unfold wrap
  cases extracted : extractToken metadata with
  | none => simp [Wrapped.payload]
  | some token =>
      by_cases empty : token = ""
      · simp [empty, Wrapped.payload]
      · cases validated : validateToken keycloak now token with
        | error fault => cases valueError : fault.isValueError <;> simp [empty, validated, valueError, Wrapped.payload]
        | ok other => simp [empty, validated, Wrapped.payload]

end Pxtly.Grpc
