/-
This file gives the access tokens of Keycloak and their validation.
-/

import Pxtly.Foundation.Datetimes
import Pxtly.Foundation.Python

namespace Pxtly.Auth

open Foundation

def microsPerSecond : Int := 1000000

/-- The decoder checks the types of four claims; their times count seconds. -/
structure Payload where
  sub : Option String
  jti : Option String
  iat : Option Int
  exp : Option Int
  claims : List (String × Json)

namespace Payload

variable (payload : Payload)

def subject : String := payload.sub.getD ""
def tokenID : String := payload.jti.getD ""
def issuedAt : Int := payload.iat.getD 0
def expiry : Int := payload.exp.getD 0

/-- The token expires at this instant, counted in microseconds. -/
def expires : Int := payload.expiry * microsPerSecond

end Payload

/-- Two of the failures of a validation are a `ValueError`. -/
inductive TokenFault where
  | invalid (cause : String)
  | audience (aud azp : Json)
  | typeError
  | unavailable
  deriving Repr

def TokenFault.isValueError : TokenFault → Bool
  | .invalid _ => true
  | .audience _ _ => true
  | .typeError => false
  | .unavailable => false

/-- Keycloak publishes keys, and the JWT library decodes a token with them at an instant or says why it does not. -/
structure Keycloak where
  Jwks : Type
  jwks : (now : Int) → (force : Bool) → Option Jwks
  decode : Jwks → (now : Int) → (token : String) → Except String Payload
  clientID : String

/-- This is `value in aud`; a text stands for a list with one item. -/
def inAudience (clientID : String) : Json → Except TokenFault Bool
  | .string text => .ok (text == clientID)
  | .array items => .ok (items.any fun item => match item with
      | .string text => text == clientID
      | _ => false)
  | .object members => .ok ((members.map Prod.fst).contains clientID)
  | _ => .error .typeError

section Validation

variable (keycloak : Keycloak)

def checkAudience (payload : Payload) : Except TokenFault Unit := do
  let aud := (dictGet payload.claims "aud").getD (.array [])
  let azp := (dictGet payload.claims "azp").getD (.string "")
  if ← inAudience keycloak.clientID aud then return ()
  else match azp with
    | .string text => if text = keycloak.clientID then return () else .error (.audience aud azp)
    | _ => .error (.audience aud azp)

def fetchJwks (now : Int) (force : Bool) : Except TokenFault keycloak.Jwks :=
  match keycloak.jwks now force with
  | some keys => .ok keys
  | none => .error .unavailable

/-- The keys may have changed since they were cached, so a refused token is decoded once more. -/
def decodeToken (now : Int) (token : String) : Except TokenFault Payload := do
  let keys ← fetchJwks keycloak now false
  match keycloak.decode keys now token with
  | .ok payload => return payload
  | .error _ =>
      let renewed ← fetchJwks keycloak now true
      (keycloak.decode renewed now token).mapError .invalid

def validateToken (now : Int) (token : String) : Except TokenFault Payload := do
  let payload ← decodeToken keycloak now token
  checkAudience keycloak payload
  return payload

end Validation

section Roles

/-- These are the roles of the application. -/
def validAppRoles : List String :=
  ["SUPER_ADMIN", "ADMIN_ORG", "EMETTEUR", "CUSTODIAN", "TRADER", "REGULATEUR", "AUDITEUR", "COMPLIANCE_OFFICER",
    "READONLY"]

end Roles

end Pxtly.Auth
