/-
This file gives the screening, the revocation and the listing of the gRPC server.
-/

import Pxtly.Auth.Directory
import Pxtly.Compliance.Screening
import Pxtly.Grpc.Compliance

namespace Pxtly.Grpc

open Foundation Foundation.Database
open Assets (Uuid)
open Auth (Payload User Organization Directory AccessFault)
open Compliance (Reader Document ScreeningFault StatusColumn)
open Zkp (Registry RegistryFault)

/-- A role that is no text is in no list of roles, and neither is the empty role of a token without one. -/
def claimedRole (payload : Payload) : String :=
  match dictGet payload.claims "role" with
  | some (.string role) => role
  | _ => ""

section Screening

structure AMLScreeningMessage where
  userID : String
  amount : Float
  counterpartyID : String

def readParticipant (text : String) : Except ScreeningFault Uuid :=
  match Uuid.read text with
  | some id => .ok id
  | none => .error (.badUuid text)

variable {status : StatusColumn} (floatText : Float → String) (reader : Reader) (document : Option Document)

/-- The caller has no part in a screening. -/
def runAMLScreening (message : AMLScreeningMessage) :
    Program (Compliance.database status).signature ScreeningFault Compliance.AMLResult := do
  let userID ← Program.lift (readParticipant message.userID)
  let _ ← Program.lift (readParticipant message.counterpartyID)
  Compliance.scoreParticipant floatText reader document userID message.amount

/-- Behind its authorisation the route runs the same program for the same values. -/
theorem runAMLScreening_eq_route {message : AMLScreeningMessage} {body : Compliance.AMLScreeningRequest}
    (user : Uuid.read message.userID = some body.userID)
    (counterparty : Uuid.read message.counterpartyID = some body.counterpartyID)
    (amount : message.amount = body.amount) :
    (runAMLScreening floatText reader document message :
      Program (Compliance.database status).signature ScreeningFault Compliance.AMLResult) =
        Compliance.runAmlScreening floatText reader document body := by
  rw [runAMLScreening, readParticipant, readParticipant, user, counterparty, amount]
  rfl

end Screening

section Revocation

structure RevokeMessage where
  credentialID : String
  reason : String

inductive RevocationFault where
  | caller (cause : Compliance.Fault)
  | aborted (code message : String)
  | uncaught (cause : RegistryFault)

def abortRevocation : RegistryFault → RevocationFault
  | .notFound => .aborted "NOT_FOUND" "Credential not found"
  | .notAuthorised => .aborted "PERMISSION_DENIED" "Not authorised to revoke this credential"
  | fault => .uncaught fault

def RevokeMessage.revocation (message : RevokeMessage) (caller : Uuid) (role : String) : Zkp.Revocation where
  credentialID := message.credentialID
  reason := if message.reason = "" then "manual_revocation" else message.reason
  userID := caller
  role := role

def revokeCredential (message : RevokeMessage) (payload : Payload) :
    Program Registry.database.signature RevocationFault Uuid := do
  let caller ← Program.lift ((callerID payload).mapError .caller)
  (Zkp.revokeCredential (message.revocation caller (claimedRole payload))).mapFault abortRevocation

end Revocation

section Listing

/-- The numbers of a message have 32 bits, and nothing else is checked. -/
structure ListUsersMessage where
  limit : Int
  offset : Int
  role : String
  country : String
  limitWidth : Compliance.isInt32 limit = true
  offsetWidth : Compliance.isInt32 offset = true

inductive ListingFault where
  | aborted (code message : String)
  | databaseError
  | unloadable (cause : AccessFault)

structure UserSummary where
  id : String
  email : String
  firstName : String
  lastName : String
  role : String
  department : String
  employeeID : String
  phone : String
  mspID : String
  isActive : Bool
  orgID : String
  orgName : String
  orgCountry : String

def validRoles : List String :=
  ["AUDITEUR", "COMPLIANCE_OFFICER", "CUSTODIAN", "EMETTEUR", "REGULATEUR", "SUPER_ADMIN", "TRADER"]

def validCountries : List String := ["FR", "GB", "MA", "DE", "US", "LU", "BE", "CH", "SG", "AE"]

def listingRoles : List String := ["REGULATEUR", "COMPLIANCE_OFFICER", "SUPER_ADMIN", "AUDITEUR"]

/-- An empty text stands for a value that is missing in the message or in the row. -/
def UserSummary.ofRow (directory : Directory) (user : User) (organization : Organization) : UserSummary where
  id := user.id.text
  email := user.email
  firstName := user.firstName.getD ""
  lastName := user.lastName.getD ""
  role := user.role
  department := (directory.employment user.id).department.getD ""
  employeeID := (directory.employment user.id).employeeID.getD ""
  phone := user.phone.getD ""
  mspID := user.mspID.getD ""
  isActive := user.isActive.getD false
  orgID := user.orgID.text
  orgName := organization.legalName
  orgCountry := organization.countryCode.getD ""

variable (upper : String → String)

/-- The filters compare the upper-case texts, which `str.upper` gives. -/
def ListUsersMessage.selection (message : ListUsersMessage) : Directory.Selection where
  role := (presentText message.role).map upper
  country := (presentText message.country).map upper
  limit := if message.limit = 0 then 100 else message.limit
  offset := message.offset

/-- A filter that is given names a role or a country of the application. -/
def checkFilters (selection : Directory.Selection) : Except ListingFault Unit :=
  if selection.role.all (· ∈ validRoles) then
    if selection.country.all (· ∈ validCountries) then .ok ()
    else .error (.aborted "INVALID_ARGUMENT" "Invalid country code")
  else .error (.aborted "INVALID_ARGUMENT" ("Invalid role. Must be one of: " ++ ", ".intercalate validRoles))

def selectRows (directory : Directory) (users : List User) (selection : Directory.Selection) :
    Except ListingFault (List (User × Organization)) :=
  match directory.select users selection with
  | some rows => (Auth.loadRows rows).mapError .unloadable
  | none => .error .databaseError

def listUsers (directory : Directory) (users : List User) (message : ListUsersMessage) (payload : Payload) :
    Except ListingFault (List UserSummary) := do
  if claimedRole payload ∈ listingRoles then
    checkFilters (message.selection upper)
    let rows ← selectRows directory users (message.selection upper)
    return rows.map fun (user, organization) => UserSummary.ofRow directory user organization
  else .error (.aborted "PERMISSION_DENIED" "Insufficient role")

end Listing

end Pxtly.Grpc
