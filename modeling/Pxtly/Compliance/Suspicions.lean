/-
This file gives what the compliance pipeline does with a score that asks for a report.
-/

import Pxtly.Compliance.Reports

namespace Pxtly.Compliance

open Foundation Program
open Assets (Uuid ComplianceCheck)

section Pipeline

/-- A participant passes the first two gates and has some indicators. -/
structure Passing where
  kyc : KYCResult
  sanctions : SanctionsResult
  indicators : AMLIndicators
  approved : kyc.approved = true
  clean : sanctions.hit = false

variable (floatText : Float → String) (passing : Passing) (check : ComplianceCheck)

def Passing.score : Float := finalScore passing.indicators check.amount

/-- The score of the participant exceeds the threshold of the reports. -/
def Passing.Suspicious : Prop := sarThreshold < passing.score check

instance : Decidable (passing.Suspicious check) := inferInstanceAs (Decidable (sarThreshold < passing.score check))

/-- The stages answer as their functions do, and nothing fails but what a constraint refuses. -/
def stageResponds : (stage : Stage) → ReportTables → stage.Result → ReportTables → Prop
  | .time, tables, _, later => later = tables
  | .requestIP, tables, _, later => later = tables
  | .verify _ _, tables, answer, later => later = tables ∧ answer = .ok passing.kyc
  | .screen _ _, tables, answer, later => later = tables ∧ answer = .ok passing.sanctions
  | .score _ amount _, tables, answer, later =>
      later = tables ∧ answer = .ok (amlResult floatText (finalScore passing.indicators amount))
  | .generate participantID reasonCode amount, tables, answer, later =>
      ∃ outcome, (generate participantID none reasonCode amount).Reaches reportResponds tables outcome later ∧
        answer = outcome.mapError .other
  | .check _ _ _ _, tables, _, later => later = tables
  | .commitLog entry, tables, answer, later =>
      (tables.isUser entry.userID = true ∧ answer = .ok () ∧ later = tables.log entry) ∨
        (tables.isUser entry.userID = false ∧ answer = .error (.other "the entry is refused") ∧ later = tables)

theorem exists_stageResponds (stage : Stage) (tables : ReportTables) :
    ∃ answer later, stageResponds floatText passing stage tables answer later := by
  cases stage with
  | time => exact ⟨(0 : Float), tables, rfl⟩
  | requestIP => exact ⟨"", tables, rfl⟩
  | verify participantID requiredLevel => exact ⟨_, _, rfl, rfl⟩
  | screen participantID fullName => exact ⟨_, _, rfl, rfl⟩
  | score participantID amount counterpartyID => exact ⟨_, _, rfl, rfl⟩
  | generate participantID reasonCode amount =>
      obtain ⟨outcome, later, reached⟩ :=
        exists_reaches exists_reportResponds (generate participantID none reasonCode amount) tables
      exact ⟨_, later, outcome, reached, rfl⟩
  | check amount participantID assetID assetType => exact ⟨.error (.other ""), tables, rfl⟩
  | commitLog entry =>
      cases user : tables.isUser entry.userID with
      | true => exact ⟨.ok (), _, .inl ⟨user, rfl, rfl⟩⟩
      | false => exact ⟨_, tables, .inr ⟨user, rfl, rfl⟩⟩

/-- The pipeline reaches an outcome with its tables. -/
def Ends (tables : ReportTables) (outcome : Except StageFault ComplianceResult) (final : ReportTables) : Prop :=
  (serviceCheck check).Reaches (stageResponds floatText passing) tables outcome final

/-- The check is blocked by its score, its reference names a stored report that fits, and one entry is logged. -/
structure Filed (tables : ReportTables) (result : ComplianceResult) (final : ReportTables) : Prop where
  blocked : result.approved = false ∧ result.blockedBy = some "AML"
  reported : ∃ report ∈ final.reports, result.sarReference = some report.sarRef ∧ report.fits = true
  logged : ∃ entry, final.audit = tables.audit ++ [entry] ∧ entry.userID = check.participantID ∧
    entry.endpoint = "/COMPLIANCE_BLOCK"

/-- The check never raises, and its report is always filed. -/
def FilesReport (tables : ReportTables) : Prop :=
  ∀ outcome final, Ends floatText passing check tables outcome final →
    ∃ result, outcome = .ok result ∧ Filed check tables result final

variable {floatText passing check} {tables final : ReportTables} {outcome : Except StageFault ComplianceResult}

/-- The report of a suspicious score is refused, for its reason code is longer than its column. -/
theorem scoreAML_of_suspicious {start : Float} {kyc : KYCResult} {sanctions : SanctionsResult}
    (suspicious : passing.Suspicious check)
    (ended : (scoreAML check start kyc sanctions).Reaches (stageResponds floatText passing) tables outcome final) :
    outcome = .error (.other "the report is refused") ∧ final = tables := by
  obtain ⟨aml, _, ⟨rfl, rfl⟩, rest⟩ := ended
  have required : (amlResult floatText (finalScore passing.indicators check.amount)).sarRequired = true :=
    decide_eq_true suspicious
  have blocked := blocked_of_sarRequired required
  change Reaches _ (if (amlResult floatText (finalScore passing.indicators check.amount)).blocked then _ else _) _ _ _
    at rest
  rw [if_pos blocked, if_pos required] at rest
  obtain ⟨answer, later, ⟨refusal, generated, rfl⟩, raised⟩ := rest
  obtain ⟨rfl, rfl⟩ := generate_of_long_code (by decide) generated
  exact raised

/-- A suspicious score raises an error, and neither a report nor an entry is stored. -/
theorem ends_of_suspicious (suspicious : passing.Suspicious check)
    (ended : Ends floatText passing check tables outcome final) :
    outcome = .error (.other "the report is refused") ∧ final = tables := by
  obtain ⟨start, _, rfl, kyc, _, ⟨rfl, rfl⟩, verified⟩ := ended
  change Reaches _ (if passing.kyc.approved then screenSanctions check start passing.kyc else _) _ _ _ at verified
  rw [if_pos passing.approved] at verified
  obtain ⟨sanctions, _, ⟨rfl, rfl⟩, screened⟩ := verified
  change Reaches _ (if passing.sanctions.hit then _ else scoreAML check start passing.kyc passing.sanctions) _ _ _
    at screened
  rw [if_neg (by simp [passing.clean])] at screened
  exact scoreAML_of_suspicious suspicious screened

theorem not_filesReport (suspicious : passing.Suspicious check) (tables : ReportTables) :
    ¬ FilesReport floatText passing check tables := by
  intro files
  obtain ⟨outcome, final, ended⟩ := exists_reaches (exists_stageResponds floatText passing) (serviceCheck check) tables
  obtain ⟨result, returned, _⟩ := files outcome final ended
  rw [(ends_of_suspicious suspicious ended).1] at returned
  cases returned

/-- A suspicious score is never reported: each check of it raises an error and stores nothing. -/
theorem suspicious_never_filed (suspicious : passing.Suspicious check) (tables : ReportTables) :
    ¬ FilesReport floatText passing check tables ∧
      ∀ outcome final, Ends floatText passing check tables outcome final →
        outcome = .error (.other "the report is refused") ∧ final = tables :=
  ⟨not_filesReport suspicious tables, fun _ _ ended => ends_of_suspicious suspicious ended⟩

end Pipeline

section Samples

def severe : Passing where
  kyc := ⟨true, 3, "APPROUVE", 4102444800000000, "Score et niveau conformes.", false⟩
  sanctions := { hit := false, hits := [], screenedLists := listsToCheck }
  indicators := ⟨1.0, 1.0, 1.0⟩
  approved := rfl
  clean := rfl

/-- The participant belongs to a bank, and there is an officer. -/
theorem none_unfit : ∀ report ∈ ([] : List SARReport), report.fits = true := by simp

def newReports : ReportTables where
  members := [⟨Assets.bondUuid, "TRADER", true, "BANK"⟩, ⟨Zkp.holderUuid, "COMPLIANCE_OFFICER", true, "BANK"⟩]
  transactions := []
  reports := []
  audit := []
  fit := none_unfit
  key := List.nodup_nil
  reference := List.nodup_nil

theorem severe_suspicious : severe.Suspicious bondCheck := by decide +kernel

theorem severe_never_filed :
    ¬ FilesReport toString severe bondCheck newReports ∧
      ∀ outcome final, Ends toString severe bondCheck newReports outcome final →
        outcome = .error (.other "the report is refused") ∧ final = newReports :=
  suspicious_never_filed (by decide +kernel) newReports

/-- The highest score of a participant of a bank is not reported. -/
theorem severe_score_raises :
    severe.Suspicious bondCheck ∧ ¬ FilesReport toString severe bondCheck newReports ∧
      ∃ outcome final, Ends toString severe bondCheck newReports outcome final ∧
        outcome = .error (.other "the report is refused") ∧ final.reports = [] ∧ final.audit = [] := by
  obtain ⟨outcome, final, ended⟩ :=
    exists_reaches (exists_stageResponds toString severe) (serviceCheck bondCheck) newReports
  obtain ⟨raised, unchanged⟩ := ends_of_suspicious severe_suspicious ended
  refine ⟨severe_suspicious, not_filesReport severe_suspicious newReports, outcome, final, ended, raised, ?_⟩
  rw [unchanged]
  exact ⟨rfl, rfl⟩

end Samples

end Pxtly.Compliance
