/-
This file gives how many KYC records a participant can have after calls that interleave.
-/

import Mathlib.Data.Fintype.Basic
import Pxtly.Compliance.Router
import Pxtly.Foundation.CheckedInserts

namespace Pxtly.Compliance

open Foundation Foundation.Database
open Program (Executes)
open Assets (Uuid)

section Rows

variable {status : StatusColumn}

/-- The write inserts a record of the participant. -/
def Write.Opens (userID : Uuid) (write : Write) : Prop := ∃ row, write = .insertRecord row ∧ row.participantID = userID

theorem not_opens_insertDocument (userID : Uuid) (row : KYCDocument) : ¬ (Write.insertDocument row).Opens userID := by
  intro ⟨record, wrong, _⟩
  cases wrong

theorem not_opens_updateRecord (userID id : Uuid) (assignment : Assignment) :
    ¬ (Write.updateRecord id assignment).Opens userID := by
  intro ⟨record, wrong, _⟩
  cases wrong

theorem recordsOf_apply_of_not_opens {tables : Tables status} {write : Write} {userID : Uuid}
    (other : ¬ write.Opens userID) :
    (recordsOf (tables.apply write).records userID).length = (recordsOf tables.records userID).length := by
  cases write with
  | insertDocument row =>
      rw [Tables.apply]
      split <;> rfl
  | insertRecord row =>
      have foreign : row.participantID ≠ userID := fun own => other ⟨row, rfl, own⟩
      rw [Tables.apply]
      split
      · simp [recordsOf, foreign]
      · rfl
  | updateRecord id assignment =>
      rw [Tables.apply]
      split
      · rw [recordsOf_map_assign, List.length_map]
      · rfl

theorem recordsOf_insertRecord (tables : Tables status) (row : ComplianceRecord) (userID : Uuid) :
    (recordsOf tables.records userID).length ≤ (recordsOf (tables.apply (.insertRecord row)).records userID).length ∧
      (recordsOf (tables.apply (.insertRecord row)).records userID).length ≤
        (recordsOf tables.records userID).length + 1 := by
  rw [Tables.apply]
  split
  · by_cases own : row.participantID = userID
    · simp [recordsOf, own]
    · simp [recordsOf, own]
  · omega

/-- This counts the records of a participant. -/
def recordCounter (status : StatusColumn) (userID : Uuid) : Counter (database status) where
  count tables := (recordsOf tables.records userID).length
  Adds := Write.Opens userID
  keeps tables write other := recordsOf_apply_of_not_opens other
  grows tables write := by
    by_cases opens : write.Opens userID
    · obtain ⟨row, rfl, _⟩ := opens
      exact recordsOf_insertRecord tables row userID
    · have same := @recordsOf_apply_of_not_opens _ tables _ _ opens
      show (recordsOf tables.records userID).length ≤ (recordsOf (tables.apply write).records userID).length ∧
        (recordsOf (tables.apply write).records userID).length ≤ (recordsOf tables.records userID).length + 1
      omega

end Rows

section Calls

inductive Call where
  | submitKyc (documentID recordID : Uuid) (body : KYCSubmitRequest) (currentUser : Uuid)
  | approveKyc (body : KYCApproveRequest) (currentUser : Uuid)
  | getComplianceStatus (userID : Uuid)

inductive Reply where
  | submitted (response : KYCSubmitResponse)
  | approved (response : KYCApproveResponse)
  | found (record : ComplianceRecord)

def Call.participant : Call → Uuid
  | .submitKyc _ _ body _ => body.userID
  | .approveKyc body _ => body.userID
  | .getComplianceStatus userID => userID

variable {status : StatusColumn}

def Call.program : Call → RecordService status Reply
  | .submitKyc documentID recordID body currentUser =>
      return .submitted (← Compliance.submitKyc documentID recordID body currentUser)
  | .approveKyc body currentUser => return .approved (← Compliance.approveKyc body currentUser)
  | .getComplianceStatus userID => return .found (← Compliance.getComplianceStatus userID)

/-- The call submits a file of the participant. -/
def Call.Submits (userID : Uuid) (call : Call) : Prop :=
  ∃ documentID recordID body currentUser, call = .submitKyc documentID recordID body currentUser ∧ body.userID = userID

abbrev Event (status : StatusColumn) := Database.Event (database status)

/-- The look-up found no record of the participant. -/
def foundNoRecord (status : StatusColumn) (userID : Uuid) : Event status :=
  ⟨.read (.recordsOf userID), some ([] : List ComplianceRecord)⟩

theorem findsNone_recordsOf (userID : Uuid) : FindsNone (recordCounter status userID) (foundNoRecord status userID) := by
  refine ⟨.recordsOf userID, _, rfl, fun tables answer => ?_⟩
  exact congrArg List.length answer.symm

theorem findRecord_reads (userID : Uuid) : (findRecord userID : RecordService status _).Within Reads :=
  (within_ask ⟨_, rfl⟩ _).bind fun _ => Program.within_lift _ _

theorem executes_findRecord {userID : Uuid} {events : List (Event status)} {found : Option ComplianceRecord}
    (executed : Executes (findRecord userID) events (.ok found)) :
    ∃ rows : List ComplianceRecord, events = [⟨.read (.recordsOf userID), some rows⟩] ∧
      scalarOneOrNone rows = .ok found := by
  obtain ⟨rows, later, rfl, ended⟩ := executes_ask_ok executed
  obtain ⟨rfl, same⟩ := (Program.executes_lift _ _ _).mp ended
  exact ⟨rows, rfl, same.symm⟩

/-- A submission saves one document, and it changes the old record or makes a new one. -/
theorem pending_fileRecord {submission : Submission} {checkedBy : Uuid} {began : Instant}
    {found : Option ComplianceRecord} {events : List (Event status)}
    (executed : Executes (fileRecord submission checkedBy began found) events (.ok ())) :
    ∃ write, events.foldl saveEvent [] = [.insertDocument submission.document, write] ∧
      (found ≠ none → ∀ userID, ¬ write.Opens userID) := by
  cases found with
  | some record =>
      obtain ⟨checkDate, _, rfl, saved⟩ := executes_ask_ok executed
      obtain ⟨_, _, rfl, updated⟩ := executes_ask_ok saved
      obtain rfl := executes_ask updated
      exact ⟨.updateRecord record.id (.submit checkedBy checkDate), rfl, fun _ userID => not_opens_updateRecord userID _ _⟩
  | none =>
      obtain ⟨checkDate, _, rfl, timed⟩ := executes_ask_ok executed
      obtain ⟨now, _, rfl, expires⟩ := executes_ask_ok timed
      cases expiry : addDays now 365 with
      | error fault =>
          rw [expiry, Program.lift_error_bind] at expires
          cases expires.2
      | ok expiresAt =>
          rw [expiry, Program.lift_ok_bind] at expires
          obtain ⟨_, _, rfl, inserted⟩ := executes_ask_ok expires
          obtain rfl := executes_ask inserted
          exact ⟨.insertRecord (submission.record checkedBy checkDate expiresAt began), rfl, fun found => absurd rfl found⟩

theorem fileRecord_keepsOpen (submission : Submission) (checkedBy : Uuid) (began : Instant)
    (found : Option ComplianceRecord) :
    (fileRecord submission checkedBy began found : RecordService status _).Within KeepsOpen := by
  have fetched (query : Query) : (fetch query : RecordService status _).Within KeepsOpen :=
    within_ask (@keepsOpen_read (database status) query) _
  have saved (write : Write) : (save write : RecordService status _).Within KeepsOpen :=
    within_ask (@keepsOpen_write (database status) write) _
  cases found with
  | some record => exact (fetched _).bind fun _ => (saved _).bind fun _ => saved _
  | none =>
      exact (fetched _).bind fun _ => (fetched _).bind fun _ =>
        (Program.within_lift _ _).bind fun _ => (saved _).bind fun _ => saved _

/-- A submission commits one new record after it has found none, or it commits no new record. -/
theorem pending_submit {submission : Submission} {caller : Except Fault Uuid} {events later : List (Event status)}
    {outcome : Except Fault KYCSubmitResponse}
    (executed : Executes (submit submission caller) (events ++ committed :: later) outcome) (userID : Uuid) :
    (∀ write ∈ events.foldl saveEvent [], ¬ (recordCounter status userID).Adds write) ∨
      foundNoRecord status submission.userID ∈ events ∧
        (recordCounter status userID).AddsOne (events.foldl saveEvent []) := by
  have document := not_opens_insertDocument userID submission.document
  obtain ⟨began, _, rfl, looks⟩ := ask_before_commit executed (by simp)
  obtain ⟨first, _, found, rfl, looked, files⟩ :=
    executes_before (findRecord_reads submission.userID) not_reads_committed looks
  obtain ⟨rows, rfl, lookup⟩ := executes_findRecord looked
  cases caller with
  | error fault =>
      rw [Program.lift_error_bind] at files
      exact absurd files.1 (by simp)
  | ok checkedBy =>
      rw [Program.lift_ok_bind] at files
      obtain ⟨filed, _, _, rfl, saved, commits⟩ :=
        executes_before (fileRecord_keepsOpen submission checkedBy began found) not_keepsOpen_committed files
      obtain ⟨rfl, _, _⟩ := committed_of_last commits
      obtain ⟨write, pending, old⟩ := pending_fileRecord saved
      rw [List.append_nil]
      change (∀ write ∈ filed.foldl saveEvent [], ¬ (recordCounter status userID).Adds write) ∨
        _ ∧ (recordCounter status userID).AddsOne (filed.foldl saveEvent [])
      rw [pending]
      cases found with
      | some record =>
          refine .inl fun other member => ?_
          rcases List.mem_cons.mp member with rfl | member
          · exact document
          · rw [List.mem_singleton.mp member]
            exact old (by simp) userID
      | none =>
          refine .inr ⟨?_, [.insertDocument submission.document], write, [], rfl, ?_⟩
          · obtain rfl : rows = [] := scalarOneOrNone_eq_none.mp lookup
            simp [foundNoRecord]
          · intro other member
            obtain rfl : other = .insertDocument submission.document := by simpa using member
            exact document

/-- Only the submissions of a participant insert his records. -/
theorem program_abstains {userID : Uuid} {call : Call} (other : ¬ call.Submits userID) :
    (call.program : RecordService status Reply).Within (recordCounter status userID).Abstains := by
  have fetched (query : Query) : (fetch query : RecordService status _).Within (recordCounter status userID).Abstains :=
    within_ask ((recordCounter status userID).abstains_of_reads ⟨query, rfl⟩) _
  have committing : (commit : RecordService status _).Within (recordCounter status userID).Abstains :=
    within_ask (recordCounter status userID).abstains_commit _
  have saved (write : Write) (keeps : ¬ write.Opens userID) :
      (save write : RecordService status _).Within (recordCounter status userID).Abstains :=
    within_ask ((recordCounter status userID).abstains_write keeps) _
  have looked (participant : Uuid) :
      (findRecord participant : RecordService status _).Within (recordCounter status userID).Abstains :=
    (fetched _).bind fun _ => Program.within_lift _ _
  cases call with
  | submitKyc documentID recordID body currentUser =>
      have document := not_opens_insertDocument userID (body.submission documentID recordID).document
      refine Program.Within.bind ?_ fun response => True.intro
      refine (fetched _).bind fun began => (looked _).bind fun found => ?_
      refine (Program.within_lift _ _).bind fun checkedBy => Program.Within.bind ?_ fun _ =>
        committing.bind fun _ => True.intro
      cases found with
      | some record =>
          exact (fetched _).bind fun checkDate => (saved _ document).bind fun _ =>
            saved _ (not_opens_updateRecord userID _ _)
      | none =>
          refine (fetched _).bind fun checkDate => (fetched _).bind fun now => ?_
          refine (Program.within_lift _ _).bind fun expiresAt => (saved _ document).bind fun _ => saved _ ?_
          intro opens
          obtain ⟨row, same, own⟩ := opens
          cases same
          exact other ⟨documentID, recordID, body, currentUser, rfl, own⟩
  | approveKyc body currentUser =>
      refine Program.Within.bind ?_ fun response => True.intro
      refine (looked _).bind fun found => ?_
      cases found with
      | none => exact True.intro
      | some record =>
          refine (fetched _).bind fun now => (Program.within_lift _ _).bind fun approvedBy =>
            (Program.within_lift _ _).bind fun expiresAt => (saved _ (not_opens_updateRecord userID _ _)).bind fun _ =>
              committing.bind fun _ => ?_
          refine Program.Within.bind ?_ fun result => True.intro
          refine (fetched _).bind fun newest => (fetched _).bind fun now => ?_
          cases newest <;> exact True.intro
  | getComplianceStatus participant =>
      refine Program.Within.bind ?_ fun record => True.intro
      refine (looked _).bind fun found => ?_
      cases found <;> exact True.intro

/-- A submission looks for a record first, and only submissions insert one. -/
theorem checksFirst {C : Type} (calls : C → Call) (userID : Uuid) :
    ChecksFirst (recordCounter status userID) (foundNoRecord status userID) (fun call => (calls call).Submits userID)
      (fun call => (calls call).program) where
  findsNone := findsNone_recordsOf userID
  foreign _ other := program_abstains other
  checked call submits events later outcome executed := by
    obtain ⟨documentID, recordID, body, currentUser, same, rfl⟩ := submits
    rw [same] at executed
    obtain ⟨inner, submitted⟩ := Program.executes_of_map executed
    exact pending_submit submitted body.userID

section Faults

theorem databaseError_ne_multiple : Fault.databaseError ≠ .multipleResultsFound := nofun

theorem recordNotFound_ne_multiple : recordNotFound ≠ .multipleResultsFound := nofun

theorem avoids_fetch (query : Query) : (fetch query : RecordService status _).Avoids .multipleResultsFound :=
  avoids_ask databaseError_ne_multiple _

theorem avoids_save (write : Write) : (save write : RecordService status _).Avoids .multipleResultsFound :=
  avoids_ask databaseError_ne_multiple _

theorem avoids_commit : (commit : RecordService status _).Avoids .multipleResultsFound :=
  avoids_ask databaseError_ne_multiple _

theorem avoids_addDays (now : Instant) (days : Int) :
    (Program.lift (addDays now days) : RecordService status _).Avoids .multipleResultsFound := by
  refine Program.avoids_lift ?_
  unfold addDays
  split <;> simp

theorem avoids_fileRecord (submission : Submission) (checkedBy : Uuid) (began : Instant)
    (found : Option ComplianceRecord) :
    (fileRecord submission checkedBy began found : RecordService status _).Avoids .multipleResultsFound := by
  cases found with
  | some record => exact (avoids_fetch _).bind fun _ => (avoids_save _).bind fun _ => avoids_save _
  | none =>
      exact (avoids_fetch _).bind fun _ => (avoids_fetch _).bind fun _ => (avoids_addDays _ _).bind fun _ =>
        (avoids_save _).bind fun _ => avoids_save _

theorem avoids_verify (userID : Uuid) (requiredLevel : Int) :
    (verify userID requiredLevel : RecordService status _).Avoids .multipleResultsFound := by
  refine (avoids_fetch _).bind fun found => (avoids_fetch _).bind fun now => ?_
  cases found with
  | none => exact nofun
  | some record => exact True.intro

theorem avoids_approveRecord (userID approvedBy : Uuid) (approval : Approval) (record : ComplianceRecord) :
    (approveRecord userID (.ok approvedBy) approval record : RecordService status _).Avoids .multipleResultsFound :=
  (avoids_fetch _).bind fun _ => Program.Avoids.bind True.intro fun _ => (avoids_addDays _ _).bind fun _ =>
    (avoids_save _).bind fun _ => avoids_commit.bind fun _ => (avoids_verify _ _).bind fun _ => True.intro

/-- Only the look-up can find several records. -/
theorem read_of_multiple {A : Type} {userID : Uuid} {next : Option ComplianceRecord → RecordService status A}
    {events : List (Event status)} (avoids : ∀ found, (next found).Avoids .multipleResultsFound)
    (executed : Executes (findRecord userID >>= next) events (.error .multipleResultsFound)) :
    ∃ (rows : List ComplianceRecord) (later : List (Event status)),
      events = ⟨.read (.recordsOf userID), some rows⟩ :: later ∧ 2 ≤ rows.length := by
  rcases (Program.executes_bind _ _ _ _).mp executed with ⟨fault, same, faulted⟩ | ⟨_, second, found, _, _, continued⟩
  · cases same
    rcases (executes_ask_bind _ _ _ _ _).mp faulted with ⟨rows, later, rfl, ended⟩ | ⟨_, wrong⟩
    · refine ⟨rows, later, rfl, ?_⟩
      obtain ⟨_, several⟩ := (Program.executes_lift _ _ _).mp ended
      match rows with
      | [] => cases several
      | [row] => cases several
      | first :: second :: rest => simp
    · cases wrong
  · exact absurd continued ((avoids found).not_executes second)

/-- A call that fails with several results has read several records of its participant, before any write. -/
theorem read_before_multiple {call : Call} {events : List (Event status)}
    (executed : Executes (call.program : RecordService status Reply) events (.error .multipleResultsFound)) :
    ∃ (before later : List (Event status)) (rows : List ComplianceRecord),
      events = before ++ ⟨.read (.recordsOf call.participant), some rows⟩ :: later ∧
      before.foldl saveEvent [] = [] ∧ 2 ≤ rows.length := by
  have failed {A : Type} {program : RecordService status A} {reply : A → Reply}
      (whole : Executes (program >>= fun value => pure (reply value)) events (.error .multipleResultsFound)) :
      Executes program events (.error .multipleResultsFound) := by
    rcases (Program.executes_bind _ _ _ _).mp whole with ⟨fault, same, faulted⟩ | ⟨_, _, _, _, _, ended⟩
    · rwa [← Except.error.inj same] at faulted
    · cases ended.2
  cases call with
  | submitKyc documentID recordID body currentUser =>
      rcases (executes_ask_bind _ _ _ _ _).mp (failed executed) with ⟨began, later, rfl, looks⟩ | ⟨_, wrong⟩
      · have avoids (found : Option ComplianceRecord) : Program.Avoids .multipleResultsFound (do
            fileRecord (body.submission documentID recordID) currentUser began found
            commit
            return ⟨"Document KYC soumis. Dossier en cours de vérification.", body.documentType⟩ :
              RecordService status KYCSubmitResponse) :=
          (avoids_fileRecord _ _ _ _).bind fun _ => avoids_commit.bind fun _ => True.intro
        obtain ⟨rows, rest, rfl, several⟩ := read_of_multiple avoids looks
        exact ⟨[⟨.read .now, some began⟩], rest, rows, rfl, rfl, several⟩
      · cases wrong
  | approveKyc body currentUser =>
      obtain ⟨rows, rest, rfl, several⟩ := read_of_multiple (fun found => by
        cases found with
        | none => exact recordNotFound_ne_multiple
        | some record => exact avoids_approveRecord _ _ _ _) (failed executed)
      exact ⟨[], rest, rows, rfl, rfl, several⟩
  | getComplianceStatus userID =>
      obtain ⟨rows, rest, rfl, several⟩ := read_of_multiple (fun found => by
        cases found with
        | none => exact recordNotFound_ne_multiple
        | some record => exact True.intro) (failed executed)
      exact ⟨[], rest, rows, rfl, rfl, several⟩

end Faults

end Calls

section Runs

variable {status : StatusColumn} {C : Type} [DecidableEq C]

/-- Other functions may change anything, and they insert no records. -/
def Drifts (before after : Tables status) : Prop :=
  ∀ userID, (recordsOf after.records userID).length ≤ (recordsOf before.records userID).length

/-- Between a look-up that found no record of the participant and its commit, no submission for him commits. -/
def Alternating (calls : C → Call) (userID : Uuid) (trace : List (C × Event status)) : Prop :=
  Undisturbed (foundNoRecord status userID) (fun call => (calls call).Submits userID) trace

variable {calls : C → Call} {tables : Tables status} {trace : List (C × Event status)}
  {state : Store (database status) C}

theorem one_record (run : Concurrent Drifts tables trace state) (begun : Begun (fun call => (calls call).program) trace)
    {userID : Uuid} (initial : (recordsOf tables.records userID).length ≤ 1)
    (alternating : Alternating calls userID trace) :
    (recordsOf (Tables.records state.tables) userID).length ≤ 1 :=
  (checksFirst calls userID).count_le_one (fun _ _ fewer => fewer userID) run begun initial alternating

/-- The submissions of a participant leave one record where they do not overlap, and no call finds several. -/
theorem one_record_of_alternating (run : Concurrent Drifts tables trace state)
    (begun : Begun (fun call => (calls call).program) trace) {userID : Uuid}
    (initial : (recordsOf tables.records userID).length ≤ 1) (alternating : Alternating calls userID trace) :
    (recordsOf (Tables.records state.tables) userID).length ≤ 1 ∧
      ∀ call, (calls call).participant = userID →
        ¬ Executes (calls call).program (eventsOf trace call) (.error .multipleResultsFound) := by
  refine ⟨one_record run begun initial alternating, fun call own executed => ?_⟩
  obtain ⟨earlier, later, rows, events, nothing, several⟩ := read_before_multiple executed
  obtain ⟨before, after, rfl, rfl, _⟩ := exists_split_of_eventsOf events
  obtain ⟨moment, reached, answer⟩ := exists_state_of_read run rfl
  have single := one_record reached begun.of_append initial alternating.of_append
  rw [reached.pending_eq call, nothing] at answer
  have found : rows = recordsOf (Tables.records moment.tables) (calls call).participant := answer
  rw [found, own] at several
  omega

end Runs

section Schedules

open Zkp (aliceUuid holderUuid newRegistry)

/-- Alice has no file yet. -/
def newFiles : Tables sqlStatus where
  clock := newRegistry.clock
  users := [aliceUuid, holderUuid]
  records := []
  documents := []
  recordKey := List.nodup_nil
  documentKey := List.nodup_nil
  recordsLegal := by simp
  documentsLegal := by simp

def passport : KYCSubmitRequest where
  userID := aliceUuid
  documentType := "PASSPORT"
  fileHash := "00000000000000000000000000000000"
  documentNumber := none
  issuingCountry := none
  documentTypeLength := by decide
  fileHashLength := by decide
  documentNumberLength := by decide
  issuingCountryLength := by decide

def approval : KYCApproveRequest where
  userID := aliceUuid
  level := 3
  validityDays := 365
  notes := none
  levelRange := by decide
  validityRange := by decide
  notesLength := by decide

/-- Two requests send a document of Alice, and a third one approves her file. -/
def aliceCalls : Fin 3 → Call
  | 0 => .submitKyc ⟨"00000000-0000-4000-8000-0000000000d0", by decide⟩ ⟨"00000000-0000-4000-8000-0000000000e0", by decide⟩
      passport holderUuid
  | 1 => .submitKyc ⟨"00000000-0000-4000-8000-0000000000d1", by decide⟩ ⟨"00000000-0000-4000-8000-0000000000e1", by decide⟩
      passport holderUuid
  | 2 => .approveKyc approval holderUuid

/-- Both look-ups come before the first commit. -/
def overlap : List (Fin 3) := [0, 0, 1, 1, 0, 0, 0, 0, 0, 1, 1, 1, 1, 1, 2]

def commits (event : Event sqlStatus) : Bool :=
  match event.operation, event.answer with
  | .commit, some _ => true
  | _, _ => false

def alicePrograms (call : Fin 3) : RecordService sqlStatus Reply := (aliceCalls call).program

def aliceRun (schedule : List (Fin 3)) : List (Fin 3 × Event sqlStatus) × (Fin 3 → RecordService sqlStatus Reply) ×
    Store (database sqlStatus) (Fin 3) :=
  advance alicePrograms ⟨newFiles, fun _ => []⟩ schedule

/-- The second submission has not committed in this run. -/
theorem alice_has_one_record :
    (recordsOf (Tables.records (aliceRun [0, 0, 0, 0, 0, 0, 0, 1, 1, 1, 1, 1]).2.2.tables) aliceUuid).length ≤ 1 ∧
      ∀ call, (aliceCalls call).participant = aliceUuid →
        ¬ Executes (aliceCalls call).program (eventsOf (aliceRun [0, 0, 0, 0, 0, 0, 0, 1, 1, 1, 1, 1]).1 call)
          (.error .multipleResultsFound) := by
  have single : ((aliceRun [0, 0, 0, 0, 0, 0, 0, 1, 1, 1, 1, 1]).1.countP fun entry => commits entry.2) ≤ 1 := by
    decide +kernel
  exact one_record_of_alternating (concurrent_advance alicePrograms _) (begun_advance alicePrograms _ _) (by decide)
    (undisturbed_of_one_commit rfl single)

/-- Two submissions that overlap make two records, and the approval fails. -/
theorem two_records_of_one_participant :
    ∃ trace state, Concurrent Drifts newFiles trace state ∧
      Begun alicePrograms trace ∧
      recordsOf newFiles.records aliceUuid = [] ∧
      (∀ call ≠ 2, ∃ reply, Returned alicePrograms trace call reply) ∧
      (recordsOf (Tables.records state.tables) aliceUuid).length = 2 ∧
      Executes (alicePrograms 2) (eventsOf trace 2) (.error .multipleResultsFound) := by
  have submitted : ∀ call ≠ 2, (remaining alicePrograms ⟨newFiles, fun _ => []⟩ overlap call).value.isSome = true := by
    decide +kernel
  have failed : (remaining alicePrograms ⟨newFiles, fun _ => []⟩ overlap 2).fault = some .multipleResultsFound := by
    decide +kernel
  refine ⟨_, _, concurrent_advance alicePrograms overlap, begun_advance alicePrograms _ _, rfl, fun call other => ?_,
    by decide +kernel, failed_advance failed⟩
  obtain ⟨reply, ended⟩ := Option.isSome_iff_exists.mp (submitted call other)
  exact ⟨reply, returned_advance ended⟩

end Schedules

end Pxtly.Compliance
