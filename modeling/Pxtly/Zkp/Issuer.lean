/-
This file gives the issue and the revocation of credentials as programs over the tables that they share.
-/

import Pxtly.Assets.Models
import Pxtly.Compliance.Records
import Pxtly.Foundation.Datetimes
import Pxtly.Foundation.Embedding
import Pxtly.Zkp.Verifier

namespace Pxtly.Zkp

open Foundation Foundation.Database
open Assets (Uuid)
open Compliance (ComplianceRecord newestRecord)

def ZKPCredential.holder (row : ZKPCredential) : Uuid × String := (row.userID, row.publicKeyX)

/-- The primary key of the credentials is unique, and so is the pair of a user and an abscissa. -/
structure Registry where
  tables : Tables
  users : List Uuid
  records : List ComplianceRecord
  primaryKey : (tables.credentials.map ZKPCredential.id).Nodup
  holderKey : (tables.credentials.map ZKPCredential.holder).Nodup

namespace Registry

inductive Query where
  | verification (query : Zkp.Query)
  | activeCredential (userID : Uuid) (publicKeyX : String)
  | newestRecord (userID : Uuid)
  | credentialWithID (id : Uuid)

abbrev Query.Result : Query → Type
  | .verification query => query.Result
  | .activeCredential .. => Option ZKPCredential
  | .newestRecord _ => Option ComplianceRecord
  | .credentialWithID _ => Option ZKPCredential

/-- At most one row has the user and the abscissa, so the order of the rows does not matter. -/
def answer : (query : Query) → Registry → query.Result
  | .verification query, registry => registry.tables.answer query
  | .activeCredential userID publicKeyX, registry =>
      registry.tables.credentials.find? fun row => row.holder = (userID, publicKeyX) ∧ ¬ row.revoked
  | .newestRecord userID, registry => newestRecord registry.records userID
  | .credentialWithID id, registry => registry.tables.credentials.find? fun row => row.id = id

inductive Write where
  | verification (write : Zkp.Write)
  | insertCredential (row : ZKPCredential)
  | revoke (id : Uuid) (revokedAt : Instant) (reason : String)

/-- The row names a user, and its keys are new. -/
def Fresh (registry : Registry) (row : ZKPCredential) : Prop :=
  row.userID ∈ registry.users ∧ row.id ∉ registry.tables.credentials.map ZKPCredential.id ∧
    row.holder ∉ registry.tables.credentials.map ZKPCredential.holder

instance (registry : Registry) (row : ZKPCredential) : Decidable (registry.Fresh row) :=
  inferInstanceAs (Decidable (_ ∧ _))

/-- The update of a revocation leaves the keys and the claim of its row as they are. -/
def revokeRow (id : Uuid) (revokedAt : Instant) (reason : String) (row : ZKPCredential) : ZKPCredential :=
  if row.id = id then { row with revoked := true, revokedAt, revokedReason := reason } else row

@[simp] theorem revokeRow_id (id : Uuid) (revokedAt : Instant) (reason : String) (row : ZKPCredential) :
    (revokeRow id revokedAt reason row).id = row.id := by
  unfold revokeRow
  split <;> rfl

@[simp] theorem revokeRow_holder (id : Uuid) (revokedAt : Instant) (reason : String) (row : ZKPCredential) :
    (revokeRow id revokedAt reason row).holder = row.holder := by
  unfold revokeRow
  split <;> rfl

/-- A nullifier touches no credential. -/
theorem credentials_apply (tables : Tables) (write : Zkp.Write) :
    (tables.apply write).credentials = tables.credentials := by
  cases write with
  | insertNullifier row =>
      rw [Tables.apply]
      split <;> rfl

def apply (registry : Registry) : Write → Registry
  | .verification write =>
      { registry with
        tables := registry.tables.apply write
        primaryKey := by rw [credentials_apply]; exact registry.primaryKey
        holderKey := by rw [credentials_apply]; exact registry.holderKey }
  | .insertCredential row =>
      if fresh : registry.Fresh row then
        { registry with
          tables := { registry.tables with credentials := registry.tables.credentials ++ [row] }
          primaryKey := by simpa [List.nodup_append, registry.primaryKey] using fresh.2.1
          holderKey := by simpa [List.nodup_append, registry.holderKey] using fresh.2.2 }
      else registry
  | .revoke id revokedAt reason =>
      { registry with
        tables := { registry.tables with
          credentials := registry.tables.credentials.map (revokeRow id revokedAt reason) }
        primaryKey := by simpa [Function.comp_def] using registry.primaryKey
        holderKey := by simpa [Function.comp_def] using registry.holderKey }

def admits (registry : Registry) : Write → Bool
  | .verification write => registry.tables.admits write
  | .insertCredential row => registry.Fresh row
  | .revoke .. => true

/-- A second insertion waits for a first one with one of its keys, and a second revocation for a first one. -/
def Write.clashes : Write → Write → Bool
  | .verification first, .verification second => first.clashes second
  | .insertCredential first, .insertCredential second => first.id = second.id || first.holder = second.holder
  | .revoke first _ _, .revoke second _ _ => first = second
  | _, _ => false

abbrev database : Database where
  Tables := Registry
  Query := Query
  Result := Query.Result
  Write := Write
  answer := answer
  apply := apply
  admits := admits
  clashes := Write.clashes

/-- The tables of a verification are a part of the registry. -/
def verification : Embedding Zkp.database database where
  part := Registry.tables
  query := .verification
  result _ answer := answer
  write := .verification
  answers _ _ := rfl
  admits _ _ := rfl
  part_apply _ _ := rfl

/-- The clock moves, users are added, and other functions change the compliance records. -/
def Drifts (registry drifted : Registry) : Prop :=
  ∃ clock users records, registry.tables.clock ≤ clock ∧ registry.users ⊆ users ∧
    drifted = { registry with tables := { registry.tables with clock }, users, records }

end Registry

open Registry (Drifts)

/-- These exceptions leave the functions on credentials. -/
inductive RegistryFault where
  | verification (fault : Fault)
  | databaseError
  | valueError
  | notFound
  | notAuthorised
  deriving DecidableEq

abbrev RegistryService (A : Type) := Program Registry.database.signature RegistryFault A

abbrev performIn (operation : Registry.database.Operation) : RegistryService operation.Result :=
  ask RegistryFault.databaseError operation

abbrev fetchIn (query : Registry.Query) : RegistryService query.Result := performIn (.read query)

def credentialTTL : Int := 90 * microsPerDay

/-- A user without a compliance record is denied everything. -/
structure Eligibility where
  ageOk : Bool := false
  kycOk : Bool := false
  notSanctioned : Bool := false
  kycLevel : Int := 0

/-- A level of at least two implies that the identity and with it the age was verified. -/
def eligibilityOf (record : ComplianceRecord) (now : Instant) : Eligibility where
  ageOk := 2 ≤ record.kycLevel
  kycOk := record.kycStatus ∈ ["APPROUVE", "VALIDE"] && !record.isExpired now
  notSanctioned := !record.sanctionsHit
  kycLevel := record.kycLevel

/-- The clock is read only for a record in an approved status. -/
def checkEligibility (userID : Uuid) : RegistryService Eligibility := do
  match ← fetchIn (.newestRecord userID) with
  | none => return {}
  | some record =>
      if record.kycStatus ∈ ["APPROUVE", "VALIDE"] then return eligibilityOf record (← fetchIn (.verification .now))
      else return eligibilityOf record 0

/-- This is `build_claim_dict`; the claim that is signed has the same members. -/
def ZKPCredential.claim (row : ZKPCredential) : Json := .object [
  ("Y_x", .string row.publicKeyX), ("Y_y", .string row.publicKeyY), ("age_ok", .bool row.ageOk),
  ("kyc_ok", .bool row.kycOk), ("not_sanctioned", .bool row.notSanctioned), ("kyc_level", .integer row.kycLevel),
  ("issued_at", .string (isoformat row.issuedAt)), ("expires_at", .string (isoformat row.expiresAt))]

/-- A call of the issuer brings a new primary key, and the platform key signs with a new nonce. -/
structure Issue where
  userID : Uuid
  publicKeyX : String
  publicKeyY : String
  fresh : Uuid
  sign : Bytes → Bytes

/-- The signature is over the claim of the row. -/
def Issue.row (platform : Platform) (call : Issue) (eligibility : Eligibility) (now : Instant) : ZKPCredential :=
  let unsigned : ZKPCredential := {
    id := call.fresh
    userID := call.userID
    publicKeyX := call.publicKeyX
    publicKeyY := call.publicKeyY
    ageOk := eligibility.ageOk
    kycOk := eligibility.kycOk
    notSanctioned := eligibility.notSanctioned
    kycLevel := eligibility.kycLevel
    issuerSig := ""
    issuedAt := now
    expiresAt := now + credentialTTL }
  { unsigned with issuerSig := hex (call.sign (encode (dumps platform.floatText unsigned.claim))) }

/-- The row is inserted, committed and read back. -/
def registerCredential (row : ZKPCredential) : RegistryService ZKPCredential := do
  performIn (.write (.insertCredential row))
  performIn .commit
  match ← fetchIn (.credentialWithID row.id) with
  | none => .raise .databaseError
  | some stored => return stored

/-- `existing and existing.expires_at > datetime.now(UTC)` -/
def unexpired : Option ZKPCredential → RegistryService (Option ZKPCredential)
  | none => return none
  | some row => do
      let now ← fetchIn (.verification .now)
      return if now < row.expiresAt then some row else none

def issueNew (platform : Platform) (call : Issue) : RegistryService ZKPCredential := do
  let eligibility ← checkEligibility call.userID
  let now ← fetchIn (.verification .now)
  registerCredential (call.row platform eligibility now)

/-- A credential that is neither revoked nor expired is returned again; any other key gets a new one. -/
def issueCredential (platform : Platform) (call : Issue) : RegistryService ZKPCredential := do
  let existing ← fetchIn (.activeCredential call.userID call.publicKeyX)
  let current ← unexpired existing
  match current with
  | some row => return row
  | none => issueNew platform call

/-- The current user of a revocation is its owner, or he has one of two roles. -/
structure Revocation where
  credentialID : String
  reason : String
  userID : Uuid
  role : String

def revokingRoles : List String := ["SUPER_ADMIN", "COMPLIANCE_OFFICER"]

def Revocation.mayRevoke (call : Revocation) (row : ZKPCredential) : Bool :=
  row.userID = call.userID || call.role ∈ revokingRoles

def revokeCredential (call : Revocation) : RegistryService Uuid := do
  match Uuid.read call.credentialID with
  | none => .raise .valueError
  | some id =>
      match ← fetchIn (.credentialWithID id) with
      | none => .raise .notFound
      | some row =>
          if call.mayRevoke row then
            let now ← fetchIn (.verification .now)
            performIn (.write (.revoke id now call.reason))
            performIn .commit
            return id
          else .raise .notAuthorised

end Pxtly.Zkp
