/-
This file gives the suspicious activity reports and what becomes of a suspicious score in the compliance pipeline.
-/

import Pxtly.Compliance.Scoring

namespace Pxtly.Compliance

open Foundation Program
open Assets (Uuid ComplianceCheck)

section Schema

/-- This is a user with the code of the organisation that he belongs to. -/
structure Member where
  id : Uuid
  role : String
  isActive : Bool
  orgCode : String
  deriving DecidableEq

structure SARReport where
  id : Uuid
  sarRef : String
  transactionID : Option Uuid
  reportedUserID : Uuid
  reportingOfficer : Uuid
  reasonCode : String
  reasonDescription : String
  amountInvolved : Float
  submittedTo : String
  status : String

/-- A column of type `NUMERIC(20,4)` has sixteen digits before the point. -/
def fitsNumeric (amount : Float) : Bool := amount.isNaN || amount.abs < 1e16

/-- The script that creates the tables and the mapped class have the same bounds. -/
def SARReport.fits (report : SARReport) : Bool :=
  decide (report.sarRef.length ≤ 50) && decide (report.reasonCode.length ≤ 20) && fitsNumeric report.amountInvolved &&
    decide (report.submittedTo.length ≤ 100) && decide (report.status.length ≤ 30)

/-- The reports fit their columns and name users, and each reference stands once. -/
structure ReportTables where
  members : List Member
  transactions : List Uuid
  reports : List SARReport
  audit : List AuditLog
  fit : ∀ report ∈ reports, report.fits = true
  key : (reports.map SARReport.id).Nodup
  reference : (reports.map SARReport.sarRef).Nodup

namespace ReportTables

variable (tables : ReportTables)

def isUser (id : Uuid) : Bool := tables.members.any (·.id = id)

def admits (report : SARReport) : Bool :=
  report.fits && decide (report.id ∉ tables.reports.map SARReport.id) &&
    decide (report.sarRef ∉ tables.reports.map SARReport.sarRef) && tables.isUser report.reportedUserID &&
    tables.isUser report.reportingOfficer && report.transactionID.all (· ∈ tables.transactions)

def file (report : SARReport) (admitted : tables.admits report = true) : ReportTables :=
  { tables with
    reports := tables.reports ++ [report]
    fit := by
      simp only [admits, Bool.and_eq_true] at admitted
      intro other member
      rcases List.mem_append.mp member with old | new
      · exact tables.fit other old
      · rw [List.mem_singleton.mp new]
        exact admitted.1.1.1.1.1
    key := by
      simp only [admits, Bool.and_eq_true, decide_eq_true_eq] at admitted
      have fresh := admitted.1.1.1.1.2
      simpa [List.nodup_append, tables.key] using fresh
    reference := by
      simp only [admits, Bool.and_eq_true, decide_eq_true_eq] at admitted
      have fresh := admitted.1.1.1.2
      simpa [List.nodup_append, tables.reference] using fresh }

def log (entry : AuditLog) : ReportTables := { tables with audit := tables.audit ++ [entry] }

end ReportTables

end Schema

section Reporter

/-- This is the message about a new report. -/
structure Publication where
  reference : String
  amount : Float
  status : String
  participantID : String
  reasonCode : String
  timestamp : String

inductive ReportStep where
  | now
  | orgCode (participantID : Uuid)
  | incr (key : String)
  | tokenHex (bytes : Nat)
  | complianceOfficer
  | uuid4
  | commitReport (report : SARReport)
  | publish (channel : String) (payload : Publication)

/-- A counter that cannot be reached has no value, and a refused commit answers with `false`. -/
abbrev ReportStep.Result : ReportStep → Type
  | .now => Instant
  | .orgCode _ => Option String
  | .incr _ => Option Int
  | .tokenHex _ => String
  | .complianceOfficer => Option Uuid
  | .uuid4 => Uuid
  | .commitReport _ => Bool
  | .publish _ _ => Bool

def reportSignature : Signature where
  Operation := ReportStep
  Answer := ReportStep.Result

abbrev Reporter (A : Type) := Program reportSignature String A

def inquire (step : ReportStep) : Reporter step.Result := .perform step .done

def yearOf (instant : Instant) : Int := (civilOfDay (instant / microsPerDay)).1

/-- This is the format `04d`. -/
def fourDigits (value : Int) : String :=
  let digits := (toString value.natAbs).toList
  let width := if value < 0 then 3 else 4
  (if value < 0 then "-" else "") ++ String.ofList (List.replicate (width - digits.length) '0' ++ digits)

/-- An empty code counts as a missing one. -/
def shortCode (code : Option String) : String := String.ofList ((textOr code "UNK").toList.take 20)

def sarReference (year : Int) (tail : String) (counter : Int) (orgCode : String) : String :=
  "TMA-" ++ toString year ++ "-" ++ tail ++ "-" ++ fourDigits counter ++ "-" ++ orgCode

def draft (id : Uuid) (sarRef : String) (txID : Option Uuid) (participantID officer : Uuid) (reasonCode : String)
    (amount : Float) : SARReport where
  id
  sarRef
  transactionID := txID
  reportedUserID := participantID
  reportingOfficer := officer
  reasonCode
  reasonDescription := reasonCode
  amountInvolved := amount
  submittedTo := "TRACFIN"
  status := "DRAFT"

/-- This is `SARReporter.generate`; a counter that cannot be reached counts as zero, and a lost publication is ignored. -/
def generate (participantID : Uuid) (txID : Option Uuid) (reasonCode : String) (amount : Float) : Reporter String := do
  let now ← inquire .now
  let orgCode ← inquire (.orgCode participantID)
  let counter ← inquire (.incr ("sar:counter:" ++ toString (yearOf now)))
  let tail ← inquire (.tokenHex 3)
  let sarRef := sarReference (yearOf now) tail (counter.getD 0) (shortCode orgCode)
  let officer ← inquire .complianceOfficer
  let id ← inquire .uuid4
  let committed ← inquire (.commitReport
    (draft id sarRef txID participantID (officer.getD participantID) reasonCode amount))
  if committed then
    let published ← inquire .now
    let _ ← inquire (.publish "compliance:sar" {
      reference := sarRef, amount, status := "OUVERT", participantID := participantID.text, reasonCode
      timestamp := isoformat published })
    return sarRef
  else raise "the report is refused"

/-- The database answers from its tables and admits what the constraints admit; the rest answers freely. -/
def reportResponds : (step : ReportStep) → ReportTables → step.Result → ReportTables → Prop
  | .orgCode participantID, tables, answer, later =>
      later = tables ∧ answer = (tables.members.find? (·.id = participantID)).map Member.orgCode
  | .complianceOfficer, tables, answer, later =>
      later = tables ∧
        ((answer = none ∧ ∀ member ∈ tables.members, ¬ (member.role = "COMPLIANCE_OFFICER" ∧ member.isActive)) ∨
        ∃ member ∈ tables.members, member.role = "COMPLIANCE_OFFICER" ∧ member.isActive ∧ answer = some member.id)
  | .commitReport report, tables, answer, later =>
      (∃ admitted, answer = true ∧ later = tables.file report admitted) ∨
        (tables.admits report = false ∧ answer = false ∧ later = tables)
  | .now, tables, _, later => later = tables
  | .incr _, tables, _, later => later = tables
  | .tokenHex _, tables, _, later => later = tables
  | .uuid4, tables, _, later => later = tables
  | .publish _ _, tables, _, later => later = tables

theorem exists_reportResponds (step : ReportStep) (tables : ReportTables) :
    ∃ answer later, reportResponds step tables answer later := by
  cases step with
  | orgCode participantID => exact ⟨_, _, rfl, rfl⟩
  | complianceOfficer =>
      by_cases officer : ∃ member ∈ tables.members, member.role = "COMPLIANCE_OFFICER" ∧ member.isActive
      · obtain ⟨member, listed, role, active⟩ := officer
        exact ⟨some member.id, tables, rfl, .inr ⟨member, listed, role, active, rfl⟩⟩
      · push Not at officer
        exact ⟨none, tables, rfl, .inl ⟨rfl, fun member listed both => officer member listed both.1 both.2⟩⟩
  | commitReport report =>
      cases admitted : tables.admits report with
      | true => exact ⟨true, _, .inl ⟨admitted, rfl, rfl⟩⟩
      | false => exact ⟨false, tables, .inr ⟨admitted, rfl, rfl⟩⟩
  | now => exact ⟨(0 : Int), tables, rfl⟩
  | incr key => exact ⟨(none : Option Int), tables, rfl⟩
  | tokenHex bytes => exact ⟨"", tables, rfl⟩
  | uuid4 => exact ⟨Assets.bondUuid, tables, rfl⟩
  | publish channel payload => exact ⟨false, tables, rfl⟩

/-- A reporter files the report that it names, or its report is refused and nothing changes. -/
theorem generate_reaches {participantID : Uuid} {txID : Option Uuid} {reasonCode : String} {amount : Float}
    {tables final : ReportTables} {outcome : Except String String}
    (reached : (generate participantID txID reasonCode amount).Reaches reportResponds tables outcome final) :
    ∃ report : SARReport, report.reasonCode = reasonCode ∧ report.reportedUserID = participantID ∧
      ((∃ admitted, outcome = .ok report.sarRef ∧ final = tables.file report admitted) ∨
        (tables.admits report = false ∧ outcome = .error "the report is refused" ∧ final = tables)) := by
  obtain ⟨now, _, rfl, orgCode, _, ⟨rfl, _⟩, counter, _, rfl, tail, _, rfl, officer, _, ⟨rfl, _⟩, id, _, rfl, committed,
    later, stored, ended⟩ := reached
  refine ⟨draft id (sarReference (yearOf now) tail (Option.getD counter 0) (shortCode orgCode)) txID participantID
    (Option.getD officer participantID) reasonCode amount, rfl, rfl, ?_⟩
  rcases stored with ⟨admitted, rfl, rfl⟩ | ⟨refused, rfl, rfl⟩
  · obtain ⟨published, _, rfl, heard, _, rfl, rfl, rfl⟩ := ended
    exact .inl ⟨admitted, rfl, rfl⟩
  · obtain ⟨rfl, rfl⟩ := ended
    exact .inr ⟨refused, rfl, rfl⟩

/-- A report with a longer reason code is refused. -/
theorem generate_of_long_code {participantID : Uuid} {txID : Option Uuid} {reasonCode : String} {amount : Float}
    {tables final : ReportTables} {outcome : Except String String} (long : 20 < reasonCode.length)
    (reached : (generate participantID txID reasonCode amount).Reaches reportResponds tables outcome final) :
    outcome = .error "the report is refused" ∧ final = tables := by
  obtain ⟨report, code, _, ⟨admitted, _⟩ | ⟨_, failed, same⟩⟩ := generate_reaches reached
  · simp only [ReportTables.admits, SARReport.fits, code, Bool.and_eq_true, decide_eq_true_eq] at admitted
    omega
  · exact ⟨failed, same⟩

/-- A reference names a report that is stored, and the report fits its columns. -/
theorem generate_names_report {participantID : Uuid} {txID : Option Uuid} {reasonCode reference : String} {amount : Float}
    {tables final : ReportTables}
    (reached : (generate participantID txID reasonCode amount).Reaches reportResponds tables (.ok reference) final) :
    ∃ report ∈ final.reports, report.sarRef = reference ∧ report.fits = true := by
  obtain ⟨report, _, _, ⟨admitted, same, rfl⟩ | ⟨_, failed, _⟩⟩ := generate_reaches reached
  · have stored : report ∈ (tables.file report admitted).reports := List.mem_append_right _ (List.mem_singleton_self _)
    exact ⟨report, stored, (Except.ok.inj same).symm, (tables.file report admitted).fit report stored⟩
  · cases failed

end Reporter

end Pxtly.Compliance
