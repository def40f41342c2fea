/-
This file gives the compliance pipeline over the behaviour of its stages.
-/

import Pxtly.Assets.Service
import Pxtly.Compliance.Sanctions

namespace Pxtly.Compliance

open Foundation Program
open Assets (Uuid ComplianceCheck)

def kycRequiredLevel : Nat := 3

structure KYCResult where
  approved : Bool
  level : Int
  kycStatus : String
  expiresAt : Int
  reason : String
  needsRenewal : Bool

structure AMLResult where
  score : Float
  riskCategory : String
  blocked : Bool
  blockedReason : Option String
  indicators : List String
  sarRequired : Bool

structure MiCAViolation where
  article : String
  description : String
  blocking : Bool

structure MiCAResult where
  compliant : Bool
  violations : List MiCAViolation
  alertRef : Option String
  identificationRequired : Bool

structure ComplianceResult where
  approved : Bool
  blockedBy : Option String := none
  blockingReason : Option String := none
  kyc : Option KYCResult := none
  aml : Option AMLResult := none
  mica : Option MiCAResult := none
  sanctions : Option SanctionsResult := none
  sarReference : Option String := none

/-- These are the columns of the audit log that the service fills. -/
structure AuditLog where
  userID : Uuid
  endpoint : String
  httpMethod : String
  ipAddress : String
  justification : Option String
  responseCode : Nat
  durationMs : Int

/-- A stage may raise an error; only a `ValueError` is caught. -/
inductive StageFault where
  | valueError (message : String)
  | screening (fault : ScreenFault)
  | other (cause : String)

inductive Stage where
  | time
  | requestIP
  | verify (participantID : Uuid) (requiredLevel : Nat)
  | screen (participantID : Uuid) (fullName : String)
  | score (participantID : Uuid) (amount : Float) (counterpartyID : Option Uuid)
  | generate (participantID : Uuid) (reasonCode : String) (amount : Float)
  | check (amount : Float) (participantID : Uuid) (assetID assetType : String)
  | commitLog (entry : AuditLog)

abbrev Stage.Result : Stage → Type
  | .time => Float
  | .requestIP => String
  | .verify .. => Except StageFault KYCResult
  | .screen .. => Except StageFault SanctionsResult
  | .score .. => Except StageFault AMLResult
  | .generate .. => Except StageFault String
  | .check .. => Except StageFault MiCAResult
  | .commitLog _ => Except StageFault Unit

def stageSignature : Signature where
  Operation := Stage
  Answer := Stage.Result

abbrev Pipeline (A : Type) := Program stageSignature StageFault A

abbrev StageEvent := Program.Event stageSignature

def observe (stage : Stage) : Pipeline stage.Result := .perform stage .done

/-- `int` cuts a duration off to whole milliseconds. -/
def durationMs (start now : Float) : Int := ((now - start) * 1000).toInt64.toInt

/-- This is Python's `text or otherwise`. -/
def textOr (text : Option String) (otherwise : String) : String :=
  match text with
  | none => otherwise
  | some "" => otherwise
  | some text => text

/-- A missing or empty justification leaves the column empty. -/
def logBlock (userID : Uuid) (action : String) (justification : Option String) (start : Float) : Pipeline Unit := do
  let now ← observe .time
  let ipAddress ← observe .requestIP
  let stored := (justification.filter fun text => text != "").map fun text => String.ofList (text.toList.take 1000)
  let committed ← observe (.commitLog {
    userID, endpoint := "/" ++ action, httpMethod := "BLOCK", ipAddress, justification := stored, responseCode := 403
    durationMs := durationMs start now })
  lift committed

def logPass (userID : Uuid) (start : Float) : Pipeline Unit := do
  let now ← observe .time
  let ipAddress ← observe .requestIP
  let committed ← observe (.commitLog {
    userID, endpoint := "COMPLIANCE_PASS", httpMethod := "VERIFY", ipAddress, justification := none, responseCode := 200
    durationMs := durationMs start now })
  lift committed

section Stages

variable (check : ComplianceCheck) (start : Float)

/-- The error of a missing dossier is logged before it is raised again. -/
def verifyKYC : Pipeline KYCResult := do
  match ← observe (.verify check.participantID kycRequiredLevel) with
  | .ok result => return result
  | .error (.valueError message) => do
      logBlock check.participantID "COMPLIANCE_BLOCK" message start
      raise (.valueError message)
  | .error fault => raise fault

def checkMiCA (kyc : KYCResult) (sanctions : SanctionsResult) (aml : AMLResult) : Pipeline ComplianceResult := do
  let mica ← lift (← observe (.check check.amount check.participantID check.assetID check.assetType))
  if mica.compliant then
    logPass check.participantID start
    return { approved := true, kyc, aml, mica, sanctions }
  else
    logBlock check.participantID "COMPLIANCE_BLOCK" (some "Vérifications MiCA échouées") start
    return {
      approved := false, blockedBy := "MICA", blockingReason := "Vérifications MiCA échouées", kyc, aml, mica, sanctions }

/-- A report is filed only for a score that is blocked. -/
def scoreAML (kyc : KYCResult) (sanctions : SanctionsResult) : Pipeline ComplianceResult := do
  let aml ← lift (← observe (.score check.participantID check.amount check.counterpartyID))
  if aml.blocked then
    let sarReference ←
      if aml.sarRequired then do
        let reference ← lift (← observe (.generate check.participantID "AML_CRITICAL_THRESHOLD" check.amount))
        pure (some reference)
      else pure none
    logBlock check.participantID "COMPLIANCE_BLOCK" (some (textOr aml.blockedReason "Limites AML dépassées")) start
    return { approved := false, blockedBy := "AML", blockingReason := aml.blockedReason, kyc, aml, sanctions, sarReference }
  else checkMiCA check start kyc sanctions aml

def screenSanctions (kyc : KYCResult) : Pipeline ComplianceResult := do
  let sanctions ← lift (← observe (.screen check.participantID check.fullName))
  if sanctions.hit then
    logBlock check.participantID "COMPLIANCE_BLOCK" (some "Identifié dans les listes de sanctions/PEP") start
    return {
      approved := false, blockedBy := "SANCTIONS", blockingReason := "Correspondance trouvée explicitement", kyc
      sanctions }
  else scoreAML check start kyc sanctions

end Stages

/-- This is `ComplianceService.full_check`. -/
def serviceCheck (check : ComplianceCheck) : Pipeline ComplianceResult := do
  let start ← observe .time
  let kyc ← verifyKYC check start
  if kyc.approved then screenSanctions check start kyc
  else
    logBlock check.participantID "COMPLIANCE_BLOCK" kyc.reason start
    return { approved := false, blockedBy := "KYC", blockingReason := kyc.reason, kyc }

/-- This is the wrapper that the asset service calls: whether the transfer is blocked, why, and by which stage. -/
def fullCheck (check : ComplianceCheck) : Pipeline (Bool × String × String) := do
  let result ← serviceCheck check
  if result.approved then return (false, "", "")
  else return (true, textOr result.blockingReason "Compliance check failed", textOr result.blockedBy "UNKNOWN")

theorem executes_observe_bind {A : Type} (stage : Stage) (next : stage.Result → Pipeline A) (events : List StageEvent)
    (outcome : Except StageFault A) :
    Executes (observe stage >>= next) events outcome ↔
      ∃ answer later, events = ⟨stage, answer⟩ :: later ∧ Executes (next answer) later outcome := Iff.rfl

/-- A program that returns a fixed value at its end returns no other. -/
theorem value_of_executes {A B : Type} {program : Pipeline A} {value result : B} {events : List StageEvent}
    (executed : Executes (do let _ ← program; return value) events (.ok result)) : result = value := by
  obtain ⟨_, _, _, _, _, _, ended⟩ := executes_bind_ok executed
  exact Except.ok.inj ended

/-- The sanctions stage goes on only behind a screening without a hit. -/
theorem screened_of_screenSanctions {check : ComplianceCheck} {start : Float} {kyc : KYCResult}
    {events : List StageEvent} {result : ComplianceResult}
    (executed : Executes (screenSanctions check start kyc) events (.ok result)) (approved : result.approved = true) :
    ∃ sanctions, ⟨.screen check.participantID check.fullName, .ok sanctions⟩ ∈ events ∧ sanctions.hit = false := by
  rw [screenSanctions, executes_observe_bind] at executed
  obtain ⟨answer, later, rfl, rest⟩ := executed
  cases answer with
  | error fault =>
      obtain ⟨_, failed⟩ := rest
      cases failed
  | ok sanctions =>
      rw [lift_ok_bind] at rest
      cases hit : sanctions.hit with
      | true =>
          rw [if_pos hit] at rest
          rw [value_of_executes rest] at approved
          cases approved
      | false => exact ⟨sanctions, List.mem_cons_self, hit⟩

/-- An approval stands behind a screening without a hit. -/
theorem screened_of_approved {check : ComplianceCheck} {events : List StageEvent} {result : ComplianceResult}
    (executed : Executes (serviceCheck check) events (.ok result)) (approved : result.approved = true) :
    ∃ sanctions, ⟨.screen check.participantID check.fullName, .ok sanctions⟩ ∈ events ∧ sanctions.hit = false := by
  rw [serviceCheck, executes_observe_bind] at executed
  obtain ⟨start, later, rfl, rest⟩ := executed
  obtain ⟨first, second, kyc, rfl, _, continued⟩ := executes_bind_ok rest
  cases passed : kyc.approved with
  | true =>
      rw [if_pos passed] at continued
      obtain ⟨sanctions, member, clean⟩ := screened_of_screenSanctions continued approved
      exact ⟨sanctions, List.mem_cons_of_mem _ (List.mem_append_right _ member), clean⟩
  | false =>
      rw [if_neg (by simp [passed])] at continued
      rw [value_of_executes continued] at approved
      cases approved

section FailClosed

variable (matcher : Matcher) (toolkit : Toolkit) (files : Files) (cache : Cache)

/-- Each screening of an execution answers as the screener does with these files and this cache. -/
def Screened (events : List StageEvent) : Prop :=
  ∀ participantID fullName answer, ⟨.screen participantID fullName, answer⟩ ∈ events →
    answer = (files.screen matcher toolkit cache fullName).mapError .screening

/-- No name is reported clean, and no check is approved. -/
structure FailsClosed : Prop where
  screens : ∀ fullName result, files.screen matcher toolkit cache fullName = .ok result → result.hit = true
  blocks : ∀ check events result, Executes (serviceCheck check) events (.ok result) →
    Screened matcher toolkit files cache events → result.approved = false

/-- Without a trusted manifest the screening fails closed exactly when the loader raises an error. -/
theorem failsClosed_iff_interrupted (unavailable : Unavailable toolkit files cache) :
    FailsClosed matcher toolkit files cache ↔ files.Interrupted toolkit := by
  rcases files.screen_of_unavailable matcher unavailable with ⟨interrupted, failing⟩ | ⟨calm, clean⟩
  · refine iff_of_true ⟨?_, ?_⟩ interrupted
    · intro fullName result screened
      obtain ⟨fault, failed⟩ := failing fullName
      cases failed.symm.trans screened
    · intro check events result executed screened
      by_contra approved
      obtain ⟨sanctions, member, _⟩ := screened_of_approved executed (by simpa using approved)
      obtain ⟨fault, failed⟩ := failing check.fullName
      have answered := screened _ _ _ member
      rw [failed] at answered
      cases answered
  · refine iff_of_false (fun closed => ?_) calm
    have hit := closed.screens "" _ (clean "")
    cases hit

end FailClosed

/-- These tools refuse every signature and every text. -/
def strictToolkit : Toolkit where
  verifies _ _ _ := false
  parse _ := .refused

def plainMatcher : Matcher where
  lower := String.toLower
  str _ := ""
  ratio _ _ := 0

/-- A key is configured, and the signature of the manifest does not fit it. -/
def tamperedFiles : Files where
  stat := .modified 1
  manifest := some (encode "\x7b\x7d")
  publicKey := some "d75a980182b10ab7d54bfed3c964073a0ee172f3daa62325af021a68f707511a"
  signatureIsFile := some true
  signature := some (List.replicate 64 0)

theorem tamperedFiles_unavailable : Unavailable strictToolkit tamperedFiles {} where
  unverified := by
    rintro ⟨mtime, raw, members, _, _, _, parsed⟩
    cases parsed
  uncached := rfl

/-- The screening of a tampered manifest is not closed. -/
theorem failsClosed_iff_interrupted_tampered : ¬ FailsClosed plainMatcher strictToolkit tamperedFiles {} := by
  rw [failsClosed_iff_interrupted plainMatcher strictToolkit tamperedFiles {} tamperedFiles_unavailable]
  rintro (failed | ⟨mtime, raw, _, _, unanswered | ⟨_, _, parsed⟩⟩)
  · cases failed
  · cases unanswered.2
  · cases parsed

def missingFiles : Files where
  stat := .missing
  manifest := none
  publicKey := none
  signatureIsFile := some false
  signature := none

def bondCheck : ComplianceCheck where
  participantID := Assets.bondUuid
  amount := 120
  assetID := "RWA-BANK-BOND-2026-001"
  assetType := "OBLIGATION"
  counterpartyID := none
  fullName := "Ivan Petrov"

/-- Without any file the name is reported clean and the check is approved. -/
theorem missing_manifest_approves :
    Unavailable strictToolkit missingFiles {} ∧
      missingFiles.screen plainMatcher strictToolkit {} "Ivan Petrov" =
        .ok { hit := false, hits := [], screenedLists := listsToCheck } ∧
      ∃ events result, Executes (serviceCheck bondCheck) events (.ok result) ∧
        Screened plainMatcher strictToolkit missingFiles {} events ∧ result.approved = true := by
  have unavailable : Unavailable strictToolkit missingFiles {} := by
    refine ⟨?_, rfl⟩
    rintro ⟨mtime, raw, members, found, _⟩
    cases found
  let kyc : KYCResult := ⟨true, 3, "APPROUVE", 0, "Score et niveau conformes.", false⟩
  let aml : AMLResult := ⟨0.05, "FAIBLE", false, none, [], false⟩
  let mica : MiCAResult := ⟨true, [], none, false⟩
  let clean : SanctionsResult := { hit := false, hits := [], screenedLists := listsToCheck }
  let entry : AuditLog :=
    ⟨Assets.bondUuid, "COMPLIANCE_PASS", "VERIFY", "internal", none, 200, durationMs 0 0⟩
  let events : List StageEvent := [⟨.time, (0 : Float)⟩, ⟨.verify Assets.bondUuid kycRequiredLevel, .ok kyc⟩,
    ⟨.screen Assets.bondUuid "Ivan Petrov", .ok clean⟩, ⟨.score Assets.bondUuid 120 none, .ok aml⟩,
    ⟨.check 120 Assets.bondUuid "RWA-BANK-BOND-2026-001" "OBLIGATION", .ok mica⟩, ⟨.time, (0 : Float)⟩,
    ⟨.requestIP, "internal"⟩, ⟨.commitLog entry, .ok ()⟩]
  refine ⟨unavailable, rfl, events, { approved := true, kyc, aml, mica, sanctions := clean }, ?_, ?_, rfl⟩
  · exact ⟨(0 : Float), _, rfl, .ok kyc, _, rfl, .ok clean, _, rfl, .ok aml, _, rfl, .ok mica, _, rfl, (0 : Float), _,
      rfl, "internal", _, rfl, .ok (), _, rfl, rfl, rfl⟩
  · intro participantID fullName answer member
    simp only [events, List.mem_cons, List.not_mem_nil, or_false] at member
    rcases member with same | same | same | same | same | same | same | same <;> cases same
    rfl

end Pxtly.Compliance
