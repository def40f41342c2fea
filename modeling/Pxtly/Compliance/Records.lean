/-
This file gives the rows and the tables of compliance, and the constraints of two schemas on the status of a record.
-/

import Mathlib.Data.List.Nodup
import Pxtly.Assets.Models
import Pxtly.Foundation.Transactions

namespace Pxtly.Compliance

open Assets (Uuid Numeric)

/-- Instants count microseconds in UTC. -/
structure ComplianceRecord where
  id : Uuid
  participantID : Uuid
  kycStatus : String := "NON_INITIE"
  kycLevel : Int := 1
  amlScore : Numeric := ⟨0⟩
  riskCategory : String := "FAIBLE"
  sanctionsHit : Bool := false
  checkedBy : Option Uuid := none
  approvedBy : Option Uuid := none
  checkDate : Option Int := none
  expiresAt : Int
  notes : Option String := none
  createdAt : Int
  deriving DecidableEq

/-- A record has expired at the instant of its expiry. -/
def ComplianceRecord.isExpired (record : ComplianceRecord) (now : Int) : Bool := record.expiresAt ≤ now

/-- This is the row of a query ordered by the time of creation; the first one counts among rows of one time. -/
def newestRecord (records : List ComplianceRecord) (participantID : Uuid) : Option ComplianceRecord :=
  let own := records.filter fun record => record.participantID = participantID
  own.find? fun record => own.all fun other => other.createdAt ≤ record.createdAt

open Foundation Foundation.Database

/-- An instant counts microseconds in UTC. -/
abbrev Instant := Int

structure KYCDocument where
  id : Uuid
  userID : Uuid
  documentType : String
  fileHash : String
  documentNumber : Option String
  issuingCountry : Option String
  verified : Bool
  deriving DecidableEq

section Schema

/-- A status column holds the values of an enumeration, or any text. -/
abbrev StatusColumn := Option (List String)

/-- This is `kyc_status_enum` of the script that creates the tables. -/
def kycStatusEnum : List String := ["NON_INITIE", "EN_COURS", "APPROUVE", "REJETE", "EXPIRE", "SUSPENDU"]

def sqlStatus : StatusColumn := some kycStatusEnum

/-- The mapped class has a plain text. -/
def ormStatus : StatusColumn := none

def isInt32 (value : Int) : Bool := -2147483648 ≤ value && value ≤ 2147483647

/-- A record has a legal status and a level of 32 bits, and it names users. -/
def legalRecord (status : StatusColumn) (users : List Uuid) (row : ComplianceRecord) : Bool :=
  status.all (row.kycStatus ∈ ·) && isInt32 row.kycLevel && decide (row.participantID ∈ users) &&
    row.checkedBy.all (· ∈ users) && row.approvedBy.all (· ∈ users)

/-- A document names a user, and its texts fit their columns. -/
def legalDocument (users : List Uuid) (row : KYCDocument) : Bool :=
  decide (row.userID ∈ users) && decide (row.documentType.length ≤ 50) && decide (row.fileHash.length ≤ 128) &&
    row.documentNumber.all (·.length ≤ 100) && row.issuingCountry.all (·.length ≤ 2)

end Schema

structure Tables (status : StatusColumn) where
  clock : Instant
  users : List Uuid
  records : List ComplianceRecord
  documents : List KYCDocument
  recordKey : (records.map ComplianceRecord.id).Nodup
  documentKey : (documents.map KYCDocument.id).Nodup
  recordsLegal : ∀ row ∈ records, legalRecord status users row = true
  documentsLegal : ∀ row ∈ documents, legalDocument users row = true

section Queries

variable {status : StatusColumn}

inductive Query where
  | now
  | newestRecord (participantID : Uuid)
  | recordsOf (participantID : Uuid)

abbrev Query.Result : Query → Type
  | .now => Instant
  | .newestRecord _ => Option ComplianceRecord
  | .recordsOf _ => List ComplianceRecord

def recordsOf (records : List ComplianceRecord) (participantID : Uuid) : List ComplianceRecord :=
  records.filter fun row => row.participantID = participantID

def Tables.answer : (query : Query) → Tables status → query.Result
  | .now, tables => tables.clock
  | .newestRecord participantID, tables => newestRecord tables.records participantID
  | .recordsOf participantID, tables => recordsOf tables.records participantID

end Queries

section Writes

/-- Three functions update a record; notes are assigned only where there are some. -/
inductive Assignment where
  | submit (checkedBy : Uuid) (checkDate : Instant)
  | approve (kycStatus : String) (kycLevel : Int) (approvedBy : Uuid) (checkDate expiresAt : Instant)
      (notes : Option String)
  | score (amlScore : Assets.Numeric) (riskCategory : String)

def Assignment.apply : Assignment → ComplianceRecord → ComplianceRecord
  | .submit checkedBy checkDate, row =>
      { row with kycStatus := "EN_COURS", checkedBy := some checkedBy, checkDate := some checkDate }
  | .approve kycStatus kycLevel approvedBy checkDate expiresAt notes, row =>
      { row with
        kycStatus
        kycLevel
        approvedBy := some approvedBy
        checkDate := some checkDate
        expiresAt
        notes := notes.or row.notes }
  | .score amlScore riskCategory, row => { row with amlScore, riskCategory }

def assign (id : Uuid) (assignment : Assignment) (row : ComplianceRecord) : ComplianceRecord :=
  if row.id = id then assignment.apply row else row

@[simp] theorem assign_id (id : Uuid) (assignment : Assignment) (row : ComplianceRecord) :
    (assign id assignment row).id = row.id := by
  unfold assign
  split
  · cases assignment <;> rfl
  · rfl

@[simp] theorem assign_participantID (id : Uuid) (assignment : Assignment) (row : ComplianceRecord) :
    (assign id assignment row).participantID = row.participantID := by
  unfold assign
  split
  · cases assignment <;> rfl
  · rfl

inductive Write where
  | insertDocument (row : KYCDocument)
  | insertRecord (row : ComplianceRecord)
  | updateRecord (id : Uuid) (assignment : Assignment)

variable {status : StatusColumn}

/-- The primary keys refuse a second row, and no constraint refuses a second record of a participant. -/
def Tables.admits (tables : Tables status) : Write → Bool
  | .insertDocument row => row.id ∉ tables.documents.map KYCDocument.id && legalDocument tables.users row
  | .insertRecord row => row.id ∉ tables.records.map ComplianceRecord.id && legalRecord status tables.users row
  | .updateRecord id assignment =>
      tables.records.all fun row => legalRecord status tables.users (assign id assignment row)

theorem Tables.documentsLegal_append {tables : Tables status} {row : KYCDocument}
    (admitted : tables.admits (.insertDocument row) = true) :
    ∀ other ∈ tables.documents ++ [row], legalDocument tables.users other = true := by
  intro other member
  rcases List.mem_append.mp member with old | new
  · exact tables.documentsLegal other old
  · rw [List.mem_singleton.mp new]
    exact (Bool.and_eq_true_iff.mp admitted).2

theorem Tables.recordsLegal_append {tables : Tables status} {row : ComplianceRecord}
    (admitted : tables.admits (.insertRecord row) = true) :
    ∀ other ∈ tables.records ++ [row], legalRecord status tables.users other = true := by
  intro other member
  rcases List.mem_append.mp member with old | new
  · exact tables.recordsLegal other old
  · rw [List.mem_singleton.mp new]
    exact (Bool.and_eq_true_iff.mp admitted).2

def Tables.apply (tables : Tables status) : Write → Tables status
  | .insertDocument row =>
      if admitted : tables.admits (.insertDocument row) = true then
        { tables with
          documents := tables.documents ++ [row]
          documentKey := by
            have fresh := (Bool.and_eq_true_iff.mp admitted).1
            simpa [List.nodup_append, tables.documentKey] using fresh
          documentsLegal := Tables.documentsLegal_append admitted }
      else tables
  | .insertRecord row =>
      if admitted : tables.admits (.insertRecord row) = true then
        { tables with
          records := tables.records ++ [row]
          recordKey := by
            have fresh := (Bool.and_eq_true_iff.mp admitted).1
            simpa [List.nodup_append, tables.recordKey] using fresh
          recordsLegal := Tables.recordsLegal_append admitted }
      else tables
  | .updateRecord id assignment =>
      if admitted : tables.admits (.updateRecord id assignment) = true then
        { tables with
          records := tables.records.map (assign id assignment)
          recordKey := by simpa [Function.comp_def] using tables.recordKey
          recordsLegal := by simpa [Tables.admits] using admitted }
      else tables

/-- Insertions with one primary key wait for each other, and so do updates of one row. -/
def Write.clashes : Write → Write → Bool
  | .insertDocument first, .insertDocument second => first.id = second.id
  | .insertRecord first, .insertRecord second => first.id = second.id
  | .updateRecord first _, .updateRecord second _ => first = second
  | _, _ => false

abbrev database (status : StatusColumn) : Database where
  Tables := Tables status
  Query := Query
  Result := Query.Result
  Write := Write
  answer := Tables.answer
  apply := Tables.apply
  admits := Tables.admits
  clashes := Write.clashes

end Writes

section Services

/-- These exceptions leave a function of the compliance feature. -/
inductive Fault where
  | valueError (message : String)
  | badUuid (text : String)
  | overflowError
  | keyError (key : String)
  | http (status : Nat) (detail : String)
  | aborted (code message : String)
  | multipleResultsFound
  | databaseError
  deriving DecidableEq

abbrev RecordService (status : StatusColumn) (A : Type) := Program (database status).signature Fault A

variable {status : StatusColumn}

/-- A failed operation of the database leaves the function with its error. -/
abbrev perform (operation : (database status).Operation) : RecordService status operation.Result :=
  ask .databaseError operation

abbrev fetch (query : Query) : RecordService status query.Result := @perform status (.read query)

abbrev save (write : Write) : RecordService status Unit := @perform status (.write write)

abbrev commit : RecordService status Unit := @perform status .commit

def scalarOneOrNone {A : Type} : List A → Except Fault (Option A)
  | [] => .ok none
  | [row] => .ok (some row)
  | _ => .error .multipleResultsFound

end Services

end Pxtly.Compliance
