/-
This file gives the routes that submit, approve and read a KYC file.
-/

import Pxtly.Compliance.Kyc

namespace Pxtly.Compliance

open Foundation Foundation.Database
open Assets (Uuid Numeric)

section Requests

structure KYCSubmitRequest where
  userID : Uuid
  documentType : String
  fileHash : String
  documentNumber : Option String
  issuingCountry : Option String
  documentTypeLength : documentType.length ≤ 50
  fileHashLength : 32 ≤ fileHash.length ∧ fileHash.length ≤ 128
  documentNumberLength : documentNumber.all (·.length ≤ 100) = true
  issuingCountryLength : issuingCountry.all (·.length = 2) = true

structure KYCApproveRequest where
  userID : Uuid
  level : Int
  validityDays : Int
  notes : Option String
  levelRange : 1 ≤ level ∧ level ≤ 5
  validityRange : 30 ≤ validityDays ∧ validityDays ≤ 1095
  notesLength : notes.all (·.length ≤ 1000) = true

structure KYCSubmitResponse where
  message : String
  documentType : String
  deriving DecidableEq

structure KYCApproveResponse where
  message : String
  kycStatus : String
  expiresAt : String
  needsRenewal : Bool
  deriving DecidableEq

end Requests

section Instants

/-- These are the first and the last instant that a `datetime` holds, and the longest `timedelta`. -/
def datetimeMin : Int := -62135596800000000
def datetimeMax : Int := 253402300799999999
def timedeltaMaxDays : Nat := 999999999

def Representable (instant : Instant) (days : Int) : Prop :=
  days.natAbs ≤ timedeltaMaxDays ∧ datetimeMin ≤ instant + days * microsPerDay ∧
    instant + days * microsPerDay ≤ datetimeMax

instance (instant : Instant) (days : Int) : Decidable (Representable instant days) := by
  unfold Representable
  infer_instance

/-- This is `instant + timedelta(days=days)`. -/
def addDays (instant : Instant) (days : Int) : Except Fault Instant :=
  if Representable instant days then .ok (instant + days * microsPerDay) else .error .overflowError

end Instants

section Routes

variable {status : StatusColumn}

def recordNotFound : Fault := .http 404 "Dossier compliance introuvable."

/-- The only record of a participant is found; two records are a fault. -/
def findRecord (userID : Uuid) : RecordService status (Option ComplianceRecord) := do
  let rows ← fetch (.recordsOf userID)
  Program.lift (scalarOneOrNone rows)

def getComplianceStatus (userID : Uuid) : RecordService status ComplianceRecord := do
  match ← findRecord userID with
  | none => .raise recordNotFound
  | some record => return record

/-- The application makes the keys of the new rows. -/
structure Submission where
  documentID : Uuid
  recordID : Uuid
  userID : Uuid
  documentType : String
  fileHash : String
  documentNumber : Option String
  issuingCountry : Option String

def Submission.document (submission : Submission) : KYCDocument where
  id := submission.documentID
  userID := submission.userID
  documentType := submission.documentType
  fileHash := submission.fileHash
  documentNumber := submission.documentNumber
  issuingCountry := submission.issuingCountry
  verified := false

def Submission.record (submission : Submission) (checkedBy : Uuid) (checkDate expiresAt createdAt : Instant) :
    ComplianceRecord where
  id := submission.recordID
  participantID := submission.userID
  kycStatus := "EN_COURS"
  kycLevel := 1
  amlScore := ⟨0⟩
  riskCategory := "FAIBLE"
  checkedBy := some checkedBy
  checkDate := some checkDate
  expiresAt
  createdAt

/-- A submission sends an old record back to the verification, or makes a new one; each instant is read for itself. -/
def fileRecord (submission : Submission) (checkedBy : Uuid) (began : Instant) :
    Option ComplianceRecord → RecordService status Unit
  | some record => do
      let checkDate ← fetch .now
      save (.insertDocument submission.document)
      save (.updateRecord record.id (.submit checkedBy checkDate))
  | none => do
      let checkDate ← fetch .now
      let now ← fetch .now
      let expiresAt ← Program.lift (addDays now 365)
      save (.insertDocument submission.document)
      save (.insertRecord (submission.record checkedBy checkDate expiresAt began))

/-- A new row is stamped with the start of its transaction, and nothing is written before the commit. -/
def submit (submission : Submission) (caller : Except Fault Uuid) : RecordService status KYCSubmitResponse := do
  let began ← fetch .now
  let found ← findRecord submission.userID
  let checkedBy ← Program.lift caller
  fileRecord submission checkedBy began found
  commit
  return ⟨"Document KYC soumis. Dossier en cours de vérification.", submission.documentType⟩

def KYCSubmitRequest.submission (body : KYCSubmitRequest) (documentID recordID : Uuid) : Submission where
  documentID
  recordID
  userID := body.userID
  documentType := body.documentType
  fileHash := body.fileHash
  documentNumber := body.documentNumber
  issuingCountry := body.issuingCountry

def submitKyc (documentID recordID : Uuid) (body : KYCSubmitRequest) (currentUser : Uuid) :
    RecordService status KYCSubmitResponse :=
  submit (body.submission documentID recordID) (.ok currentUser)

structure Approval where
  kycStatus : String
  level : Int
  validityDays : Int
  notes : String

/-- An empty text leaves the notes of a record as they are. -/
def Approval.assignment (approval : Approval) (approvedBy : Uuid) (checkDate expiresAt : Instant) : Assignment :=
  .approve approval.kycStatus approval.level approvedBy checkDate expiresAt
    (if approval.notes = "" then none else some approval.notes)

def Approval.response (approval : Approval) (expiresAt : Instant) (result : KYCResult) : KYCApproveResponse where
  message := s!"KYC approuvé au niveau {approval.level}."
  kycStatus := approval.kycStatus
  expiresAt := isoformat expiresAt
  needsRenewal := result.needsRenewal

/-- The record is updated and committed, and then the gate reads it again. -/
def approveRecord (userID : Uuid) (caller : Except Fault Uuid) (approval : Approval) (record : ComplianceRecord) :
    RecordService status KYCApproveResponse := do
  let now ← fetch .now
  let approvedBy ← Program.lift caller
  let expiresAt ← Program.lift (addDays now approval.validityDays)
  save (.updateRecord record.id (approval.assignment approvedBy now expiresAt))
  commit
  let result ← verify userID kycRequiredLevel
  return approval.response expiresAt result

def approve (userID : Uuid) (missing : Fault) (caller : Except Fault Uuid) (approval : Approval) :
    RecordService status KYCApproveResponse := do
  match ← findRecord userID with
  | none => .raise missing
  | some record => approveRecord userID caller approval record

def KYCApproveRequest.approval (body : KYCApproveRequest) : Approval where
  kycStatus := "APPROUVE"
  level := body.level
  validityDays := body.validityDays
  notes := body.notes.getD ""

/-- The text of the response tells `needsRenewal` as `str` does. -/
def approveKyc (body : KYCApproveRequest) (currentUser : Uuid) : RecordService status KYCApproveResponse :=
  approve body.userID recordNotFound (.ok currentUser) body.approval

end Routes

section Approvals

variable {status : StatusColumn} {tables : Tables status} {userID approvedBy : Uuid} {missing : Fault}
  {caller : Except Fault Uuid} {approval : Approval} {record : ComplianceRecord}

theorem evaluate_findRecord {A : Type} (tables : Tables status) (userID : Uuid)
    (next : Option ComplianceRecord → RecordService status A) :
    (findRecord userID >>= next).evaluate respond (tables, []) =
      match scalarOneOrNone (recordsOf tables.records userID) with
      | .error fault => (.error fault, tables, [])
      | .ok found => (next found).evaluate respond (tables, []) := by
  change (Program.lift (scalarOneOrNone (recordsOf tables.records userID)) >>= next).evaluate respond (tables, []) = _
  cases scalarOneOrNone (recordsOf tables.records userID) <;> rfl

theorem scalarOneOrNone_eq_some {A : Type} {rows : List A} {row : A} :
    scalarOneOrNone rows = .ok (some row) ↔ rows = [row] := by
  match rows with
  | [] => simp [scalarOneOrNone]
  | [other] => simp [scalarOneOrNone]
  | first :: second :: rest => simp [scalarOneOrNone]

theorem scalarOneOrNone_eq_none {A : Type} {rows : List A} : scalarOneOrNone rows = .ok none ↔ rows = [] := by
  match rows with
  | [] => simp [scalarOneOrNone]
  | [row] => simp [scalarOneOrNone]
  | first :: second :: rest => simp [scalarOneOrNone]

/-- The record, the approver and the instants that an approval needs are there, and the columns take them. -/
structure Granted (tables : Tables status) (userID : Uuid) (caller : Except Fault Uuid) (approval : Approval)
    (record : ComplianceRecord) (approvedBy : Uuid) : Prop where
  found : recordsOf tables.records userID = [record]
  called : caller = .ok approvedBy
  expiry : Representable tables.clock approval.validityDays
  listed : status.all (approval.kycStatus ∈ ·) = true
  level : isInt32 approval.level = true
  user : approvedBy ∈ tables.users

def Approval.expiresAt (approval : Approval) (now : Instant) : Instant := now + approval.validityDays * microsPerDay

/-- This is the record after an approval. -/
def Approval.grant (approval : Approval) (approvedBy : Uuid) (now : Instant) (record : ComplianceRecord) :
    ComplianceRecord :=
  (approval.assignment approvedBy now (approval.expiresAt now)).apply record

def Approval.write (approval : Approval) (approvedBy : Uuid) (now : Instant) (record : ComplianceRecord) : Write :=
  .updateRecord record.id (approval.assignment approvedBy now (approval.expiresAt now))

theorem mem_of_recordsOf (found : recordsOf tables.records userID = [record]) :
    record ∈ tables.records ∧ record.participantID = userID := by
  have member : record ∈ recordsOf tables.records userID := by
    rw [found]
    exact List.mem_singleton_self record
  simpa [recordsOf] using member

/-- The primary key tells the record from the others. -/
theorem eq_of_same_id (first second : ComplianceRecord) (firstMember : first ∈ tables.records)
    (secondMember : second ∈ tables.records) (same : first.id = second.id) : first = second :=
  List.inj_on_of_nodup_map tables.recordKey firstMember secondMember same

theorem admits_approval (member : record ∈ tables.records) (now : Instant) :
    tables.admits (approval.write approvedBy now record) = true ↔
      status.all (approval.kycStatus ∈ ·) = true ∧ isInt32 approval.level = true ∧ approvedBy ∈ tables.users := by
  have legal := tables.recordsLegal record member
  simp only [legalRecord, Bool.and_eq_true, decide_eq_true_eq] at legal
  rw [Approval.write, Tables.admits, List.all_eq_true]
  constructor
  · intro admitted
    have own := admitted record member
    simp only [assign, if_true, Approval.assignment, Assignment.apply, legalRecord, Bool.and_eq_true,
      decide_eq_true_eq, Option.all_some] at own
    exact ⟨own.1.1.1.1, own.1.1.1.2, own.2⟩
  · intro ⟨listed, level, user⟩ row rowMember
    by_cases own : row.id = record.id
    · obtain rfl := eq_of_same_id row record rowMember member own
      simp only [assign, if_true, Approval.assignment, Assignment.apply, legalRecord, Bool.and_eq_true,
        decide_eq_true_eq, Option.all_some]
      exact ⟨⟨⟨⟨listed, level⟩, legal.1.1.2⟩, legal.1.2⟩, user⟩
    · rw [assign, if_neg own]
      exact tables.recordsLegal row rowMember

/-- The update is committed where it is admitted, and the gate reads what it has left behind. -/
theorem evaluate_grant (tables : Tables status) (record : ComplianceRecord) (approvedBy : Uuid) (approval : Approval)
    (called : caller = .ok approvedBy) (expiry : Representable tables.clock approval.validityDays) :
    (approveRecord userID caller approval record).evaluate respond (tables, []) =
      if tables.admits (approval.write approvedBy tables.clock record) then
        (verify userID kycRequiredLevel >>= fun result =>
          pure (approval.response (approval.expiresAt tables.clock) result)).evaluate respond
            (tables.apply (approval.write approvedBy tables.clock record), [])
      else (.error .databaseError, tables, []) := by
  rw [approveRecord, evaluate_fetch, Tables.answer, called, Program.lift_ok_bind, addDays, if_pos expiry,
    Program.lift_ok_bind, evaluate_write]
  rfl

theorem newestRecord_of_recordsOf {records : List ComplianceRecord} (found : recordsOf records userID = [record]) :
    newestRecord records userID = some record := by
  have own : records.filter (fun row => row.participantID = userID) = [record] := found
  rw [newestRecord, own]
  simp

/-- An update of a record keeps the number of the participant's records. -/
theorem recordsOf_map_assign (records : List ComplianceRecord) (id : Uuid) (assignment : Assignment) (userID : Uuid) :
    recordsOf (records.map (assign id assignment)) userID = (recordsOf records userID).map (assign id assignment) := by
  rw [recordsOf, List.filter_map, recordsOf]
  congr 2
  funext row
  simp

theorem recordsOf_apply_write (granted : Granted tables userID caller approval record approvedBy) :
    recordsOf (tables.apply (approval.write approvedBy tables.clock record)).records userID =
      [approval.grant approvedBy tables.clock record] := by
  have member := (mem_of_recordsOf granted.found).1
  have admitted := (admits_approval member tables.clock).mpr ⟨granted.listed, granted.level, granted.user⟩
  rw [Approval.write] at admitted ⊢
  rw [Tables.apply, dif_pos admitted]
  rw [recordsOf_map_assign, granted.found, List.map_singleton, assign, if_pos rfl]
  rfl

/-- An approval that is granted commits its record and returns. -/
theorem alone_of_granted (granted : Granted tables userID caller approval record approvedBy) :
    ∃ response, alone (approve userID missing caller approval) tables =
      (.ok response, tables.apply (approval.write approvedBy tables.clock record)) := by
  have member := (mem_of_recordsOf granted.found).1
  have admitted := (admits_approval member tables.clock).mpr ⟨granted.listed, granted.level, granted.user⟩
  have newest := newestRecord_of_recordsOf (recordsOf_apply_write granted)
  have single := scalarOneOrNone_eq_some.mpr granted.found
  rw [alone, approve, evaluate_findRecord, single]
  simp only
  rw [evaluate_grant tables record approvedBy approval granted.called granted.expiry, if_pos admitted,
    Program.evaluate_bind, evaluate_verify, newest]
  exact ⟨_, rfl⟩

/-- An approval that returns was granted. -/
theorem granted_of_alone {response : KYCApproveResponse}
    (approved : (alone (approve userID missing caller approval) tables).1 = .ok response) :
    ∃ record approvedBy, Granted tables userID caller approval record approvedBy := by
  rw [alone, approve, evaluate_findRecord] at approved
  cases found : scalarOneOrNone (recordsOf tables.records userID) with
  | error fault =>
      rw [found] at approved
      cases approved
  | ok rows =>
      cases rows with
      | none =>
          rw [found] at approved
          cases approved
      | some record =>
          have single := scalarOneOrNone_eq_some.mp found
          rw [found] at approved
          simp only at approved
          cases called : caller with
          | error fault =>
              rw [called] at approved
              cases approved
          | ok approvedBy =>
              by_cases expiry : Representable tables.clock approval.validityDays
              · rw [evaluate_grant tables record approvedBy approval called expiry] at approved
                by_cases admitted : tables.admits (approval.write approvedBy tables.clock record) = true
                · have columns := (admits_approval (mem_of_recordsOf single).1 tables.clock).mp admitted
                  exact ⟨record, approvedBy, single, rfl, expiry, columns.1, columns.2.1, columns.2.2⟩
                · rw [if_neg admitted] at approved
                  cases approved
              · rw [called, approveRecord, evaluate_fetch, Tables.answer, Program.lift_ok_bind, addDays,
                  if_neg expiry] at approved
                cases approved

end Approvals

section Submissions

variable {status : StatusColumn} {tables : Tables status} {submission : Submission} {caller : Except Fault Uuid}

/-- A submission writes the old record of the participant or a new one. -/
def Submission.write (submission : Submission) (checkedBy : Uuid) (now : Instant) : Option ComplianceRecord → Write
  | some record => .updateRecord record.id (.submit checkedBy now)
  | none => .insertRecord (submission.record checkedBy now (now + 365 * microsPerDay) now)

/-- A new document does not change what the constraints admit of a record. -/
theorem admits_write_after_document (document : KYCDocument) (checkedBy : Uuid) (now : Instant)
    (found : Option ComplianceRecord) :
    (tables.apply (.insertDocument document)).admits (submission.write checkedBy now found) =
      tables.admits (submission.write checkedBy now found) := by
  rw [Tables.apply]
  split
  · cases found <;> rfl
  · rfl

/-- A submission saves its two rows where the columns take both. -/
def Submission.Fits (submission : Submission) (tables : Tables status) (checkedBy : Uuid)
    (found : Option ComplianceRecord) : Prop :=
  tables.admits (.insertDocument submission.document) = true ∧
    tables.admits (submission.write checkedBy tables.clock found) = true

instance (checkedBy : Uuid) (found : Option ComplianceRecord) : Decidable (submission.Fits tables checkedBy found) :=
  inferInstanceAs (Decidable (_ ∧ _))

theorem evaluate_saves (checkedBy : Uuid) (found : Option ComplianceRecord) :
    (save (.insertDocument submission.document) >>= fun _ =>
        (save (submission.write checkedBy tables.clock found) : RecordService status Unit)).evaluate respond
        (tables, []) =
      if submission.Fits tables checkedBy found then
        (.ok (), tables, [.insertDocument submission.document, submission.write checkedBy tables.clock found])
      else (.error .databaseError, tables, []) := by
  have saved := @evaluate_writes (database status) _ Fault.databaseError (.insertDocument submission.document)
    (submission.write checkedBy tables.clock found) tables
  have pending : (database status).admits ((database status).apply tables (.insertDocument submission.document))
      (submission.write checkedBy tables.clock found) = tables.admits (submission.write checkedBy tables.clock found) :=
    admits_write_after_document _ _ _ _
  rw [pending] at saved
  exact saved

theorem evaluate_fileRecord (checkedBy : Uuid) (found : Option ComplianceRecord)
    (expiry : found = none → Representable tables.clock 365) :
    (fileRecord submission checkedBy tables.clock found).evaluate respond (tables, []) =
      if submission.Fits tables checkedBy found then
        (.ok (), tables, [.insertDocument submission.document, submission.write checkedBy tables.clock found])
      else (.error .databaseError, tables, []) := by
  rw [← evaluate_saves]
  cases found with
  | some record =>
      rw [fileRecord, evaluate_fetch]
      rfl
  | none =>
      rw [fileRecord, evaluate_fetch, evaluate_fetch, Tables.answer, addDays, if_pos (expiry rfl), Program.lift_ok_bind]
      rfl

/-- The caller is known, the participant has at most one record, and the columns take both rows. -/
structure Submittable (tables : Tables status) (submission : Submission) (caller : Except Fault Uuid)
    (checkedBy : Uuid) (found : Option ComplianceRecord) : Prop where
  single : scalarOneOrNone (recordsOf tables.records submission.userID) = .ok found
  called : caller = .ok checkedBy
  expiry : found = none → Representable tables.clock 365
  fits : submission.Fits tables checkedBy found

/-- The expiry of a new record can be too late for a `datetime`. -/
theorem evaluate_fileRecord_late (checkedBy : Uuid) (late : ¬ Representable tables.clock 365) :
    (fileRecord submission checkedBy tables.clock none).evaluate respond (tables, []) =
      (.error .overflowError, tables, []) := by
  rw [fileRecord, evaluate_fetch, evaluate_fetch, Tables.answer, addDays, if_neg late]
  rfl

theorem alone_submit {found : Option ComplianceRecord} {checkedBy : Uuid}
    (single : scalarOneOrNone (recordsOf tables.records submission.userID) = .ok found)
    (called : caller = .ok checkedBy) :
    (alone (submit submission caller) tables).1 =
      ((fileRecord submission checkedBy tables.clock found).evaluate respond (tables, [])).1.map fun _ =>
        ⟨"Document KYC soumis. Dossier en cours de vérification.", submission.documentType⟩ := by
  rw [alone, submit, evaluate_fetch, Tables.answer, evaluate_findRecord, single]
  simp only
  rw [called, Program.lift_ok_bind, Program.evaluate_bind]
  generalize (fileRecord submission checkedBy tables.clock found).evaluate respond (tables, []) = filed
  obtain ⟨outcome, later⟩ := filed
  cases outcome <;> rfl

/-- A submission that runs alone succeeds exactly where it is submittable. -/
theorem submit_succeeds_iff :
    (∃ response, (alone (submit submission caller) tables).1 = .ok response) ↔
      ∃ checkedBy found, Submittable tables submission caller checkedBy found := by
  constructor
  · rintro ⟨response, submitted⟩
    cases single : scalarOneOrNone (recordsOf tables.records submission.userID) with
    | error fault =>
        rw [alone, submit, evaluate_fetch, Tables.answer, evaluate_findRecord, single] at submitted
        cases submitted
    | ok found =>
        cases called : caller with
        | error fault =>
            rw [alone, submit, evaluate_fetch, Tables.answer, evaluate_findRecord, single, called] at submitted
            cases submitted
        | ok checkedBy =>
            rw [alone_submit single called] at submitted
            by_cases expiry : found = none → Representable tables.clock 365
            · rw [evaluate_fileRecord checkedBy found expiry] at submitted
              by_cases fits : submission.Fits tables checkedBy found
              · exact ⟨checkedBy, found, single, rfl, expiry, fits⟩
              · rw [if_neg fits] at submitted
                cases submitted
            · obtain ⟨rfl, late⟩ := Classical.not_imp.mp expiry
              rw [evaluate_fileRecord_late checkedBy late] at submitted
              cases submitted
  · rintro ⟨checkedBy, found, submittable⟩
    rw [alone_submit submittable.single submittable.called, evaluate_fileRecord checkedBy found submittable.expiry,
      if_pos submittable.fits]
    exact ⟨_, rfl⟩

end Submissions

end Pxtly.Compliance
