/-
This file gives the KYC methods of the gRPC server and compares the approval with the REST route.
-/

import Pxtly.Assets.Models
import Pxtly.Auth.Tokens
import Pxtly.Compliance.Files

namespace Pxtly.Grpc

open Foundation Foundation.Database
open Assets (Uuid)
open Auth (Payload)
open Compliance

section Servicer

/-- The numbers of a message have 32 bits, and nothing else is checked. -/
structure KYCApproveMessage where
  userID : String
  level : Int
  validityDays : Int
  notes : String
  levelWidth : isInt32 level = true
  validityWidth : isInt32 validityDays = true

structure KYCSubmitMessage where
  userID : String
  documentType : String
  fileHash : String
  documentNumber : String
  issuingCountry : String

def readUuid (text : String) : Except Compliance.Fault Uuid :=
  match Uuid.read text with
  | some id => .ok id
  | none => .error (.badUuid text)

/-- The caller acts under the subject of the token, and not under the user that is linked to it. -/
def callerID (payload : Payload) : Except Compliance.Fault Uuid :=
  match payload.sub with
  | some text => readUuid text
  | none => .error (.keyError "sub")

variable {status : StatusColumn}

/-- An empty text stands for a value that is missing. -/
def presentText (text : String) : Option String := if text = "" then none else some text

def submitKYC (documentID recordID : Uuid) (message : KYCSubmitMessage) (payload : Payload) :
    RecordService status KYCSubmitResponse := do
  let userID ← Program.lift (readUuid message.userID)
  submit ⟨documentID, recordID, userID, message.documentType, message.fileHash, presentText message.documentNumber,
    presentText message.issuingCountry⟩ (callerID payload)

def KYCApproveMessage.approval (message : KYCApproveMessage) : Approval where
  kycStatus := "VERIFIE"
  level := message.level
  validityDays := if message.validityDays = 0 then 365 else message.validityDays
  notes := message.notes

def approveKYC (message : KYCApproveMessage) (payload : Payload) : RecordService status KYCApproveResponse := do
  let userID ← Program.lift (readUuid message.userID)
  approve userID (.aborted "NOT_FOUND" "Compliance record not found") (callerID payload) message.approval

end Servicer

section Approvals

variable {status : StatusColumn}

/-- The route can end with these records of the participant, for a request that its schema accepts. -/
def RouteLeaves (tables : Tables status) (userID : Uuid) (rows : List ComplianceRecord) : Prop :=
  ∃ (body : KYCApproveRequest) (currentUser : Uuid) (response : KYCApproveResponse), body.userID = userID ∧
    (alone (approveKyc body currentUser) tables).1 = .ok response ∧
    recordsOf (alone (approveKyc body currentUser) tables).2.records userID = rows

def recordsAfter (message : KYCApproveMessage) (payload : Payload) (tables : Tables status) (userID : Uuid) :
    List ComplianceRecord :=
  recordsOf (alone (approveKYC message payload) tables).2.records userID

/-- A successful call leaves records that the route could have left, and their status is legal. -/
structure ApprovalAgrees (tables : Tables status) (message : KYCApproveMessage) (payload : Payload) : Prop where
  produced : ∀ response userID, (alone (approveKYC message payload) tables).1 = .ok response →
    Uuid.read message.userID = some userID → RouteLeaves tables userID (recordsAfter message payload tables userID)
  legal : ∀ response userID, (alone (approveKYC message payload) tables).1 = .ok response →
    Uuid.read message.userID = some userID →
    ∀ row ∈ recordsAfter message payload tables userID, row.kycStatus ∈ kycStatusEnum

/-- The message names a participant with one record, the token names a user, and the column takes the status. -/
def Approvable (tables : Tables status) (message : KYCApproveMessage) (payload : Payload) : Prop :=
  ∃ userID record approvedBy, Uuid.read message.userID = some userID ∧
    Granted tables userID (callerID payload) message.approval record approvedBy

theorem alone_approveKYC {message : KYCApproveMessage} {userID : Uuid} (read : Uuid.read message.userID = some userID)
    (payload : Payload) (tables : Tables status) :
    alone (approveKYC message payload) tables =
      alone (approve userID (.aborted "NOT_FOUND" "Compliance record not found") (callerID payload) message.approval)
        tables := by
  rw [approveKYC, readUuid, read, Program.lift_ok_bind]

/-- A call succeeds exactly where it is approvable. -/
theorem approveKYC_succeeds_iff (tables : Tables status) (message : KYCApproveMessage) (payload : Payload) :
    (∃ response, (alone (approveKYC message payload) tables).1 = .ok response) ↔ Approvable tables message payload := by
  constructor
  · intro ⟨response, approved⟩
    cases read : Uuid.read message.userID with
    | none =>
        rw [approveKYC, readUuid, read] at approved
        cases approved
    | some userID =>
        rw [alone_approveKYC read] at approved
        obtain ⟨record, approvedBy, granted⟩ := granted_of_alone approved
        exact ⟨userID, record, approvedBy, read, granted⟩
  · intro ⟨userID, record, approvedBy, read, granted⟩
    obtain ⟨response, ended⟩ := @alone_of_granted _ _ _ _ (.aborted "NOT_FOUND" "Compliance record not found") _ _ _ granted
    exact ⟨response, by rw [alone_approveKYC read, ended]⟩

theorem recordsAfter_of_granted {tables : Tables status} {message : KYCApproveMessage} {payload : Payload}
    {userID approvedBy : Uuid} {record : ComplianceRecord} (read : Uuid.read message.userID = some userID)
    (granted : Granted tables userID (callerID payload) message.approval record approvedBy) :
    recordsAfter message payload tables userID = [message.approval.grant approvedBy tables.clock record] := by
  obtain ⟨response, ended⟩ := @alone_of_granted _ _ _ _ (.aborted "NOT_FOUND" "Compliance record not found") _ _ _ granted
  rw [recordsAfter, alone_approveKYC read, ended]
  exact recordsOf_apply_write granted

/-- The two approvals write different states, so they agree only where the call fails. -/
theorem approval_agrees_iff (tables : Tables status) (message : KYCApproveMessage) (payload : Payload) :
    ApprovalAgrees tables message payload ↔ ¬ Approvable tables message payload := by
  constructor
  · intro agrees approvable
    obtain ⟨response, approved⟩ := (approveKYC_succeeds_iff tables message payload).mpr approvable
    obtain ⟨userID, record, approvedBy, read, granted⟩ := approvable
    have legal := agrees.legal response userID approved read
    rw [recordsAfter_of_granted read granted] at legal
    have verified : "VERIFIE" ∈ kycStatusEnum := legal _ (List.mem_singleton_self _)
    exact absurd verified (by decide)
  · intro refused
    have fails (response : KYCApproveResponse) (approved : (alone (approveKYC message payload) tables).1 = .ok response) :
        False :=
      refused ((approveKYC_succeeds_iff tables message payload).mp ⟨response, approved⟩)
    exact ⟨fun response _ approved _ => (fails response approved).elim,
      fun response _ approved _ => (fails response approved).elim⟩

end Approvals

section Samples

open Zkp (aliceUuid holderUuid newRegistry eligibilityOf)

/-- The tables of the mapped classes hold the file of Alice, which waits for its approval. -/
def submittedTables : Tables ormStatus where
  clock := newRegistry.clock
  users := [aliceUuid, holderUuid]
  records := [aliceFile "EN_COURS" 4102444800000000]
  documents := []
  recordKey := List.nodup_singleton _
  documentKey := List.nodup_nil
  recordsLegal := by simpa using (by decide +kernel :
    legalRecord ormStatus [aliceUuid, holderUuid] (aliceFile "EN_COURS" 4102444800000000) = true)
  documentsLegal := Compliance.newFiles.documentsLegal

def aliceApproval : KYCApproveMessage where
  userID := aliceUuid.text
  level := 3
  validityDays := 365
  notes := ""
  levelWidth := by decide
  validityWidth := by decide

def aliceBody : KYCApproveRequest where
  userID := aliceUuid
  level := 3
  validityDays := 365
  notes := none
  levelRange := Compliance.approval.levelRange
  validityRange := Compliance.approval.validityRange
  notesLength := Compliance.approval.notesLength

def officerPayload : Payload := ⟨some holderUuid.text, none, none, none, []⟩

theorem alice_granted (approval : Approval) (listed : ormStatus.all (approval.kycStatus ∈ ·) = true)
    (level : isInt32 approval.level = true) (expiry : Representable newRegistry.clock approval.validityDays) :
    Granted submittedTables aliceUuid (.ok holderUuid) approval (aliceFile "EN_COURS" 4102444800000000) holderUuid where
  found := by decide +kernel
  called := rfl
  expiry
  listed
  level
  user := by decide +kernel

theorem officer_callerID : callerID officerPayload = .ok holderUuid := by decide +kernel

/-- Both approvals of one file succeed, and the issuer attests the file only after that of the route. -/
theorem alice_approvals_disagree :
    ¬ ApprovalAgrees submittedTables aliceApproval officerPayload ∧
    ∃ record routeRecord,
      recordsAfter aliceApproval officerPayload submittedTables aliceUuid = [record] ∧
      recordsOf (alone (approveKyc aliceBody holderUuid) submittedTables).2.records aliceUuid = [routeRecord] ∧
      (eligibilityOf record submittedTables.clock).kycOk = false ∧
      (eligibilityOf routeRecord submittedTables.clock).kycOk = true := by
  have read : Uuid.read aliceApproval.userID = some aliceUuid := by decide +kernel
  have granted := alice_granted aliceApproval.approval rfl (by decide) (by decide +kernel)
  have routeGranted := alice_granted aliceBody.approval rfl (by decide) (by decide +kernel)
  rw [← officer_callerID] at granted
  obtain ⟨response, ended⟩ := @alone_of_granted _ _ _ _ recordNotFound _ _ _ routeGranted
  constructor
  · rw [approval_agrees_iff, not_not]
    exact ⟨aliceUuid, _, holderUuid, read, granted⟩
  · have left : recordsOf (alone (approveKyc aliceBody holderUuid) submittedTables).2.records aliceUuid =
        [aliceBody.approval.grant holderUuid submittedTables.clock (aliceFile "EN_COURS" 4102444800000000)] := by
      rw [approveKyc, show aliceBody.userID = aliceUuid from rfl, ended]
      exact recordsOf_apply_write routeGranted
    exact ⟨_, _, recordsAfter_of_granted read granted, left, by decide +kernel, by decide +kernel⟩

end Samples

end Pxtly.Grpc
