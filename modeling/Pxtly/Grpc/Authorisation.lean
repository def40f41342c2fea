/-
This file gives when the gRPC server performs what the REST routes would have authorised.
-/

import Pxtly.Grpc.Methods
import Pxtly.Zkp.Revocation

namespace Pxtly.Grpc

open Foundation Foundation.Database
open Assets (Uuid)
open Auth (Payload User UserColumns Directory AccessFault ormUsers getCurrentUser requireRole getCurrentUser_eq_ok
  requireRole_eq_ok)
open Compliance (Reader Document StatusColumn Submission Submittable)
open Zkp (Registry)

section Interfaces

/-- The tables of both interfaces are parts of one database. -/
structure System (columns : UserColumns) (status : StatusColumn) where
  accounts : Auth.Tables columns
  files : Compliance.Tables status
  registry : Registry
  directory : Directory
  fixtures : Option Document
  users : files.users = accounts.users.map User.id
  holders : registry.users = accounts.users.map User.id
  records : registry.records = files.records
  documents : accounts.documents = files.documents.map fun row => ⟨row.id, row.userID⟩
  credentials : accounts.credentials = registry.credentials
  clocks : accounts.clock = files.clock ∧ registry.clock = files.clock

/-- These functions of Python read and write texts. -/
structure Runtime where
  floatText : Float → String
  reader : Reader
  upper : String → String

/-- These operations have a REST route and a gRPC method, and the application makes the keys of the new rows. -/
inductive Operation where
  | submitKYC (documentID recordID : Uuid) (message : KYCSubmitMessage)
  | approveKYC (message : KYCApproveMessage)
  | runAMLScreening (message : AMLScreeningMessage)
  | revokeCredential (message : RevokeMessage)
  | listUsers (message : ListUsersMessage)

variable {columns : UserColumns} {status : StatusColumn} (runtime : Runtime) (system : System columns status)
  (payload : Payload)

/-- The method returns; a screening has its effect as soon as its score is kept. -/
def Performs : Operation → Prop
  | .submitKYC documentID recordID message =>
      ∃ response, (alone (submitKYC documentID recordID message payload) system.files).1 = .ok response
  | .approveKYC message => ∃ response, (alone (approveKYC message payload) system.files).1 = .ok response
  | .runAMLScreening message =>
      ∃ result, (alone (runAMLScreening runtime.floatText runtime.reader system.fixtures message) system.files).1 =
        .ok result
  | .revokeCredential message => ∃ id, (alone (revokeCredential message payload) system.registry).1 = .ok id
  | .listUsers message =>
      ∃ users, listUsers runtime.upper system.directory system.accounts.users message payload = .ok users

def officerRoles : List String := ["COMPLIANCE_OFFICER"]

/-- Each route finds its user with one of two dependencies. -/
def Operation.dependency (accounts : Auth.Tables columns) (keycloakSub : String) : Operation → Except AccessFault User
  | .submitKYC .. => requireRole officerRoles accounts keycloakSub
  | .approveKYC _ => requireRole officerRoles accounts keycloakSub
  | .runAMLScreening _ => requireRole officerRoles accounts keycloakSub
  | .revokeCredential _ => getCurrentUser accounts keycloakSub
  | .listUsers _ => requireRole listingRoles accounts keycloakSub

/-- The route of a revocation also looks at the owner of the credential. -/
def Permits (registry : Registry) (user : User) : Operation → Prop
  | .revokeCredential message =>
      ∀ row ∈ registry.credentials, Uuid.read message.credentialID = some row.id →
        (message.revocation user.id user.role).mayRevoke row = true
  | _ => True

/-- A screening and a listing act for nobody. -/
def Operation.Personal : Operation → Prop
  | .runAMLScreening _ => False
  | .listUsers _ => False
  | _ => True

/-- The route authorises the token as this user, and the method acts under his local identifier. -/
structure Authorised (operation : Operation) (user : User) : Prop where
  found : operation.dependency system.accounts payload.subject = .ok user
  permitted : Permits system.registry user operation
  same : operation.Personal → callerID payload = .ok user.id

def SameAuthorisation (operation : Operation) : Prop :=
  Performs runtime system payload operation → ∃ user, Authorised system payload operation user

end Interfaces

section Conditions

variable {columns : UserColumns} {status : StatusColumn} (runtime : Runtime) (system : System columns status)
  (payload : Payload)

def KYCSubmitMessage.submission (documentID recordID userID : Uuid) (message : KYCSubmitMessage) : Submission where
  documentID
  recordID
  userID
  documentType := message.documentType
  fileHash := message.fileHash
  documentNumber := presentText message.documentNumber
  issuingCountry := presentText message.issuingCountry

/-- The filters are valid, and every row of the page can be loaded. -/
structure Listable (directory : Directory) (users : List User) (selection : Directory.Selection) : Prop where
  role : selection.role.all (· ∈ validRoles) = true
  country : selection.country.all (· ∈ validCountries) = true
  page : ∃ rows, directory.select users selection = some rows ∧ ∀ row ∈ rows, row.1.role ∈ ormUsers.roles

/-- Nothing in the message, the token and the tables keeps the method from its effect. -/
def Acceptable : Operation → Prop
  | .submitKYC documentID recordID message =>
      ∃ userID checkedBy found, Uuid.read message.userID = some userID ∧
        Submittable system.files (message.submission documentID recordID userID) (callerID payload) checkedBy found
  | .approveKYC message => Approvable system.files message payload
  | .runAMLScreening message =>
      ∃ userID counterpartyID indicators, Uuid.read message.userID = some userID ∧
        Uuid.read message.counterpartyID = some counterpartyID ∧
        Compliance.indicatorsOf runtime.reader system.fixtures userID = some indicators
  | .revokeCredential message =>
      ∃ row ∈ system.registry.credentials, ∃ caller, Uuid.read message.credentialID = some row.id ∧
        callerID payload = .ok caller ∧ (row.userID = caller ∨ claimedRole payload ∈ Zkp.revokingRoles)
  | .listUsers message =>
      claimedRole payload ∈ listingRoles ∧
        Listable system.directory system.accounts.users (message.selection runtime.upper)

/-- An active user is linked to the subject of the token. -/
structure Linked (user : User) : Prop where
  subject : payload.subject ≠ ""
  member : user ∈ system.accounts.users
  linked : user.keycloakSub = some payload.subject
  active : user.isActive = some true

/-- The user has a role of the route, and where the method acts for him, the subject is his own identifier. -/
def Entitled (user : User) : Operation → Prop
  | .submitKYC .. => user.role = "COMPLIANCE_OFFICER" ∧ Uuid.read payload.subject = some user.id
  | .approveKYC _ => user.role = "COMPLIANCE_OFFICER" ∧ Uuid.read payload.subject = some user.id
  | .runAMLScreening _ => user.role = "COMPLIANCE_OFFICER"
  | .revokeCredential message =>
      user.role ∈ ormUsers.roles ∧ Uuid.read payload.subject = some user.id ∧
        ∀ row ∈ system.registry.credentials, Uuid.read message.credentialID = some row.id →
          row.userID = user.id ∨ user.role ∈ Zkp.revokingRoles
  | .listUsers _ => user.role ∈ listingRoles

end Conditions

section Effects

variable {columns : UserColumns} {status : StatusColumn} {runtime : Runtime} {system : System columns status}
  {payload : Payload}

theorem readUuid_eq_ok {text : String} {id : Uuid} : readUuid text = .ok id ↔ Uuid.read text = some id := by
  unfold readUuid
  cases Uuid.read text <;> simp

theorem mayRevoke_revocation {message : RevokeMessage} {caller : Uuid} {role : String} {row : Zkp.ZKPCredential} :
    (message.revocation caller role).mayRevoke row = true ↔ row.userID = caller ∨ role ∈ Zkp.revokingRoles := by
  rw [Zkp.Revocation.mayRevoke, RevokeMessage.revocation, Bool.or_eq_true, decide_eq_true_eq, decide_eq_true_eq]

theorem performs_submitKYC (documentID recordID : Uuid) (message : KYCSubmitMessage) :
    Performs runtime system payload (.submitKYC documentID recordID message) ↔
      Acceptable runtime system payload (.submitKYC documentID recordID message) := by
  rw [Performs, Acceptable, submitKYC, readUuid]
  cases read : Uuid.read message.userID with
  | none =>
      constructor
      · rintro ⟨response, submitted⟩
        cases submitted
      · rintro ⟨userID, _, _, same, _⟩
        cases same
  | some userID =>
      rw [Program.lift_ok_bind]
      constructor
      · intro submitted
        obtain ⟨checkedBy, found, submittable⟩ := Compliance.submit_succeeds_iff.mp submitted
        exact ⟨userID, checkedBy, found, rfl, submittable⟩
      · rintro ⟨other, checkedBy, found, same, submittable⟩
        cases same
        exact Compliance.submit_succeeds_iff.mpr ⟨checkedBy, found, submittable⟩

theorem performs_runAMLScreening (message : AMLScreeningMessage) :
    Performs runtime system payload (.runAMLScreening message) ↔
      Acceptable runtime system payload (.runAMLScreening message) := by
  rw [Performs, Acceptable, runAMLScreening, readParticipant, readParticipant]
  cases read : Uuid.read message.userID with
  | none =>
      constructor
      · rintro ⟨result, screened⟩
        cases screened
      · rintro ⟨userID, _, _, same, _⟩
        cases same
  | some userID =>
      cases counterparty : Uuid.read message.counterpartyID with
      | none =>
          constructor
          · rintro ⟨result, screened⟩
            cases screened
          · rintro ⟨_, _, _, _, same, _⟩
            cases same
      | some counterpartyID =>
          rw [Program.lift_ok_bind, Program.lift_ok_bind, Compliance.alone_scoreParticipant]
          cases loaded : Compliance.indicatorsOf runtime.reader system.fixtures userID with
          | none =>
              constructor
              · rintro ⟨result, screened⟩
                cases screened
              · rintro ⟨other, _, indicators, same, _, missing⟩
                cases same
                rw [loaded] at missing
                cases missing
          | some indicators =>
              constructor
              · intro _
                exact ⟨userID, counterpartyID, indicators, rfl, rfl, loaded⟩
              · intro _
                exact ⟨_, rfl⟩

theorem performs_revokeCredential (message : RevokeMessage) :
    Performs runtime system payload (.revokeCredential message) ↔
      Acceptable runtime system payload (.revokeCredential message) := by
  rw [Performs, Acceptable, revokeCredential]
  cases called : callerID payload with
  | error fault =>
      constructor
      · rintro ⟨id, revoked⟩
        cases revoked
      · rintro ⟨_, _, _, _, same, _⟩
        cases same
  | ok caller =>
      have known : (Except.ok caller : Except Compliance.Fault Uuid).mapError RevocationFault.caller = .ok caller := rfl
      rw [known, Program.lift_ok_bind, alone_mapFault]
      constructor
      · rintro ⟨id, revoked⟩
        rw [mapError_eq_ok] at revoked
        rcases Zkp.revokeCredential_cases (message.revocation caller (claimedRole payload)) system.registry with
          ⟨fault, refused⟩ | ⟨row, stored, named, permitted, _⟩
        · rw [refused] at revoked
          cases revoked
        · exact ⟨row, stored, caller, named, rfl, mayRevoke_revocation.mp permitted⟩
      · rintro ⟨row, stored, other, named, same, permitted⟩
        cases same
        have revoked := @Zkp.revokeCredential_of_permitted (message.revocation caller (claimedRole payload)) _ _ stored
          named (mayRevoke_revocation.mpr permitted)
        exact ⟨row.id, by rw [revoked]; rfl⟩

theorem checkFilters_eq_ok {selection : Directory.Selection} : checkFilters selection = .ok () ↔
    selection.role.all (· ∈ validRoles) = true ∧ selection.country.all (· ∈ validCountries) = true := by
  unfold checkFilters
  by_cases role : selection.role.all (· ∈ validRoles) = true
  · by_cases country : selection.country.all (· ∈ validCountries) = true
    · simp [role, country]
    · simp [role, country]
  · simp [role]

theorem selectRows_eq_ok {directory : Directory} {users : List User} {selection : Directory.Selection}
    {rows : List (User × Auth.Organization)} : selectRows directory users selection = .ok rows ↔
      directory.select users selection = some rows ∧ ∀ row ∈ rows, row.1.role ∈ ormUsers.roles := by
  unfold selectRows
  cases selected : directory.select users selection with
  | none => simp
  | some page =>
      simp only [mapError_eq_ok, Auth.loadRows_eq_ok, Option.some.injEq]
      constructor
      · rintro ⟨rfl, mapped⟩
        exact ⟨rfl, mapped⟩
      · rintro ⟨rfl, mapped⟩
        exact ⟨rfl, mapped⟩

theorem performs_listUsers (message : ListUsersMessage) :
    Performs runtime system payload (.listUsers message) ↔ Acceptable runtime system payload (.listUsers message) := by
  rw [Performs, Acceptable, listUsers]
  by_cases claimed : claimedRole payload ∈ listingRoles
  · rw [if_pos claimed]
    constructor
    · rintro ⟨users, listed⟩
      obtain ⟨_, filtered, rest⟩ := (bind_eq_ok _ _ _).mp listed
      obtain ⟨rows, selected, _⟩ := (bind_eq_ok _ _ _).mp rest
      obtain ⟨role, country⟩ := checkFilters_eq_ok.mp filtered
      exact ⟨claimed, role, country, rows, selectRows_eq_ok.mp selected⟩
    · rintro ⟨_, role, country, rows, selected⟩
      rw [checkFilters_eq_ok.mpr ⟨role, country⟩, ok_bind, selectRows_eq_ok.mpr selected]
      exact ⟨_, rfl⟩
  · rw [if_neg claimed]
    constructor
    · rintro ⟨users, listed⟩
      cases listed
    · intro acceptable
      exact absurd acceptable.1 claimed

/-- A method has its effect exactly where it is acceptable. -/
theorem performs_iff (operation : Operation) :
    Performs runtime system payload operation ↔ Acceptable runtime system payload operation := by
  cases operation with
  | submitKYC documentID recordID message => exact performs_submitKYC documentID recordID message
  | approveKYC message => exact approveKYC_succeeds_iff system.files message payload
  | runAMLScreening message => exact performs_runAMLScreening message
  | revokeCredential message => exact performs_revokeCredential message
  | listUsers message => exact performs_listUsers message

end Effects

section Entitlements

variable {columns : UserColumns} {status : StatusColumn} {runtime : Runtime} {system : System columns status}
  {payload : Payload} {user : User}

/-- The caller of a method is the UUID in a subject that is not empty. -/
theorem callerID_eq_ok {id : Uuid} (named : payload.subject ≠ "") :
    callerID payload = .ok id ↔ Uuid.read payload.subject = some id := by
  cases present : payload.sub with
  | none =>
      rw [Payload.subject, present] at named
      exact absurd rfl named
  | some text =>
      rw [callerID, Payload.subject, present]
      exact readUuid_eq_ok

theorem getCurrentUser_iff : getCurrentUser system.accounts payload.subject = .ok user ↔
    Linked system payload user ∧ user.role ∈ ormUsers.roles := by
  rw [getCurrentUser_eq_ok]
  constructor
  · rintro ⟨subject, member, linked, active, mapped⟩
    exact ⟨⟨subject, member, linked, active⟩, mapped⟩
  · rintro ⟨found, mapped⟩
    exact ⟨found.subject, found.member, found.linked, found.active, mapped⟩

/-- The mapped class has every role that a route requires. -/
theorem requireRole_iff {roles : List String} (mapped : ∀ role ∈ roles, role ∈ ormUsers.roles) :
    requireRole roles system.accounts payload.subject = .ok user ↔ Linked system payload user ∧ user.role ∈ roles := by
  rw [requireRole_eq_ok, getCurrentUser_iff]
  constructor
  · rintro ⟨⟨found, _⟩, listed⟩
    exact ⟨found, listed⟩
  · rintro ⟨found, listed⟩
    exact ⟨⟨found, mapped _ listed⟩, listed⟩

theorem officer_iff : requireRole officerRoles system.accounts payload.subject = .ok user ↔
    Linked system payload user ∧ user.role = "COMPLIANCE_OFFICER" := by
  rw [requireRole_iff (by decide), officerRoles, List.mem_singleton]

/-- Two routes authorise an officer, and their methods act for him where the subject is his own identifier. -/
theorem own_officer_iff : requireRole officerRoles system.accounts payload.subject = .ok user ∧
    callerID payload = .ok user.id ↔
      Linked system payload user ∧ user.role = "COMPLIANCE_OFFICER" ∧ Uuid.read payload.subject = some user.id := by
  rw [officer_iff]
  constructor
  · rintro ⟨⟨found, officer⟩, called⟩
    exact ⟨found, officer, (callerID_eq_ok found.subject).mp called⟩
  · rintro ⟨found, officer, own⟩
    exact ⟨⟨found, officer⟩, (callerID_eq_ok found.subject).mpr own⟩

/-- The route authorises a linked user who is entitled to the operation. -/
theorem authorised_iff (operation : Operation) :
    Authorised system payload operation user ↔ Linked system payload user ∧ Entitled system payload user operation := by
  cases operation with
  | submitKYC documentID recordID message =>
      rw [Entitled, ← own_officer_iff]
      constructor
      · intro authorised
        exact ⟨authorised.found, authorised.same True.intro⟩
      · rintro ⟨found, called⟩
        exact ⟨found, True.intro, fun _ => called⟩
  | approveKYC message =>
      rw [Entitled, ← own_officer_iff]
      constructor
      · intro authorised
        exact ⟨authorised.found, authorised.same True.intro⟩
      · rintro ⟨found, called⟩
        exact ⟨found, True.intro, fun _ => called⟩
  | runAMLScreening message =>
      constructor
      · intro authorised
        exact officer_iff.mp authorised.found
      · intro entitled
        exact ⟨officer_iff.mpr entitled, True.intro, False.elim⟩
  | revokeCredential message =>
      constructor
      · intro authorised
        obtain ⟨found, mapped⟩ := getCurrentUser_iff.mp authorised.found
        exact ⟨found, mapped, (callerID_eq_ok found.subject).mp (authorised.same True.intro),
          fun row stored named => mayRevoke_revocation.mp (authorised.permitted row stored named)⟩
      · rintro ⟨found, mapped, own, owner⟩
        exact ⟨getCurrentUser_iff.mpr ⟨found, mapped⟩,
          fun row stored named => mayRevoke_revocation.mpr (owner row stored named),
          fun _ => (callerID_eq_ok found.subject).mpr own⟩
  | listUsers message =>
      constructor
      · intro authorised
        exact (requireRole_iff (by decide)).mp authorised.found
      · intro entitled
        exact ⟨(requireRole_iff (by decide)).mpr entitled, True.intro, False.elim⟩

/-- A method has its effect for entitled users only, exactly where the condition holds. -/
theorem same_authorisation_iff (runtime : Runtime) (system : System columns status) (payload : Payload)
    (operation : Operation) :
    SameAuthorisation runtime system payload operation ↔
      (Acceptable runtime system payload operation →
        ∃ user, Linked system payload user ∧ Entitled system payload user operation) := by
  simp only [SameAuthorisation, performs_iff, authorised_iff]

end Entitlements

section Samples

open Zkp (newRegistry)

/-- The subject of Alice is her own identifier, and she is no officer. -/
def traderRow : User := { Auth.aliceRow with keycloakSub := some Auth.aliceID.text }

def traderSystem : System Auth.sqlUsers Compliance.sqlStatus where
  accounts := {
    clock := newRegistry.clock
    users := [traderRow]
    documents := []
    credentials := []
    legal := by decide +kernel
    documentsOwned := by simp
    credentialsOwned := by simp }
  files := {
    clock := newRegistry.clock
    users := [Auth.aliceID]
    records := []
    documents := []
    recordKey := List.nodup_nil
    documentKey := List.nodup_nil
    recordsLegal := by simp
    documentsLegal := by simp }
  registry := { newRegistry with users := [Auth.aliceID] }
  directory := ⟨[], fun _ => ⟨none, none⟩⟩
  fixtures := some []
  users := rfl
  holders := rfl
  records := rfl
  documents := rfl
  credentials := rfl
  clocks := ⟨rfl, rfl⟩

def sampleRuntime : Runtime := ⟨toString, ⟨String.toLower, fun _ => none⟩, String.toUpper⟩

def traderPayload : Payload := ⟨some Auth.aliceID.text, none, none, none, []⟩

/-- Alice submits a file of her own. -/
def ownFile : Operation :=
  .submitKYC Zkp.aliceUuid Zkp.holderUuid ⟨Auth.aliceID.text, "PASSPORT", "8d969eef6ecad3c29a3a629280e686cf", "", ""⟩

def ownScreening : Operation := .runAMLScreening ⟨Auth.aliceID.text, 1000.0, Auth.aliceID.text⟩

theorem trader_not_officer (user : User) (found : Linked traderSystem traderPayload user) :
    user.role ≠ "COMPLIANCE_OFFICER" := by
  rw [List.mem_singleton.mp found.member]
  decide

theorem ownFile_acceptable : Acceptable sampleRuntime traderSystem traderPayload ownFile :=
  ⟨Auth.aliceID, Auth.aliceID, none, by decide +kernel, rfl, by decide +kernel, fun _ => by decide +kernel,
    by decide +kernel⟩

theorem ownScreening_acceptable : Acceptable sampleRuntime traderSystem traderPayload ownScreening :=
  ⟨Auth.aliceID, Auth.aliceID, _, by decide +kernel, by decide +kernel, rfl⟩

/-- A trader submits a file and runs a screening, which the routes refuse her. -/
theorem trader_acts_as_officer :
    ¬ SameAuthorisation sampleRuntime traderSystem traderPayload ownFile ∧
      ¬ SameAuthorisation sampleRuntime traderSystem traderPayload ownScreening := by
  constructor
  · intro same
    obtain ⟨user, authorised⟩ := same ((performs_iff ownFile).mpr ownFile_acceptable)
    obtain ⟨found, officer⟩ := officer_iff.mp authorised.found
    exact trader_not_officer user found officer
  · intro same
    obtain ⟨user, authorised⟩ := same ((performs_iff ownScreening).mpr ownScreening_acceptable)
    obtain ⟨found, officer⟩ := officer_iff.mp authorised.found
    exact trader_not_officer user found officer

end Samples

end Pxtly.Grpc
