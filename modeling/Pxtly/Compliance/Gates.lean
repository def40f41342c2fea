/-
This file gives the compliance pipeline as the ordered conjunction of its gates.
-/

import Mathlib.Data.List.TakeWhile
import Pxtly.Compliance.Service

namespace Pxtly.Compliance

open Foundation Program
open Assets (Uuid ComplianceCheck)

inductive Gate where
  | kyc
  | sanctions
  | aml
  | mica
  deriving DecidableEq

def Gate.name : Gate → String
  | .kyc => "KYC"
  | .sanctions => "SANCTIONS"
  | .aml => "AML"
  | .mica => "MICA"

def Gate.order : List Gate := [.kyc, .sanctions, .aml, .mica]

/-- A behaviour fixes the answer that each stage would give. -/
structure Behaviour where
  kyc : Except StageFault KYCResult
  sanctions : Except StageFault SanctionsResult
  aml : Except StageFault AMLResult
  mica : Except StageFault MiCAResult

namespace Behaviour

variable (behaviour : Behaviour)

/-- A gate that raises an error does not pass. -/
def passes : Gate → Bool
  | .kyc => behaviour.kyc.toOption.any fun result => result.approved
  | .sanctions => behaviour.sanctions.toOption.any fun result => !result.hit
  | .aml => behaviour.aml.toOption.any fun result => !result.blocked
  | .mica => behaviour.mica.toOption.any fun result => result.compliant

def firstFailing : Option Gate := Gate.order.find? fun gate => !behaviour.passes gate

/-- The gates up to the first failing one are consulted. -/
def consulted : List Gate := Gate.order.takeWhile behaviour.passes ++ behaviour.firstFailing.toList

/-- A score is suspicious when it is blocked behind two passed gates and asks for a report. -/
def suspicious : Bool :=
  behaviour.passes .kyc && behaviour.passes .sanctions &&
    behaviour.aml.toOption.any fun result => result.blocked && result.sarRequired

@[simp] theorem passes_verified (kyc : KYCResult) (sanctions : Except StageFault SanctionsResult)
    (aml : Except StageFault AMLResult) (mica : Except StageFault MiCAResult) :
    passes ⟨.ok kyc, sanctions, aml, mica⟩ .kyc = kyc.approved := rfl

@[simp] theorem passes_screened (kyc : Except StageFault KYCResult) (sanctions : SanctionsResult)
    (aml : Except StageFault AMLResult) (mica : Except StageFault MiCAResult) :
    passes ⟨kyc, .ok sanctions, aml, mica⟩ .sanctions = !sanctions.hit := rfl

@[simp] theorem passes_scored (kyc : Except StageFault KYCResult) (sanctions : Except StageFault SanctionsResult)
    (aml : AMLResult) (mica : Except StageFault MiCAResult) :
    passes ⟨kyc, sanctions, .ok aml, mica⟩ .aml = !aml.blocked := rfl

@[simp] theorem passes_checked (kyc : Except StageFault KYCResult) (sanctions : Except StageFault SanctionsResult)
    (aml : Except StageFault AMLResult) (mica : MiCAResult) :
    passes ⟨kyc, sanctions, aml, .ok mica⟩ .mica = mica.compliant := rfl

/-- All gates pass exactly when none is the first failing one. -/
theorem firstFailing_eq_none : behaviour.firstFailing = none ↔ ∀ gate, behaviour.passes gate = true := by
  rw [firstFailing, List.find?_eq_none]
  constructor
  · intro passed gate
    simpa using passed gate (by cases gate <;> simp [Gate.order])
  · intro passed gate _
    simp [passed gate]

/-- The first gate that fails behind passed ones is the last one consulted. -/
theorem stops (earlier : List Gate) (gate : Gate) (later : List Gate) (order : Gate.order = earlier ++ gate :: later)
    (passed : ∀ previous ∈ earlier, behaviour.passes previous = true) (failed : behaviour.passes gate = false) :
    behaviour.firstFailing = some gate ∧ behaviour.consulted = earlier ++ [gate] := by
  have found : behaviour.firstFailing = some gate := by
    rw [firstFailing, order, List.find?_append, List.find?_eq_none.mpr (by simpa using passed)]
    simp [failed]
  refine ⟨found, ?_⟩
  rw [consulted, found, order, List.takeWhile_append_of_pos passed, List.takeWhile_cons_of_neg (by simp [failed])]
  simp

/-- Without a failing gate all of them are consulted. -/
theorem passes_all (passed : ∀ gate ∈ Gate.order, behaviour.passes gate = true) :
    behaviour.firstFailing = none ∧ behaviour.consulted = Gate.order := by
  have found : behaviour.firstFailing = none := List.find?_eq_none.mpr (by simpa using passed)
  refine ⟨found, ?_⟩
  rw [consulted, found, List.takeWhile_eq_self_iff.mpr passed, Option.toList_none, List.append_nil]

end Behaviour

section Course

variable (check : ComplianceCheck)

def Gate.stage : Gate → Stage
  | .kyc => .verify check.participantID kycRequiredLevel
  | .sanctions => .screen check.participantID check.fullName
  | .aml => .score check.participantID check.amount check.counterpartyID
  | .mica => .check check.amount check.participantID check.assetID check.assetType

def Behaviour.answer (behaviour : Behaviour) : (gate : Gate) → (gate.stage check).Result
  | .kyc => behaviour.kyc
  | .sanctions => behaviour.sanctions
  | .aml => behaviour.aml
  | .mica => behaviour.mica

/-- Each stage that is consulted answers with its behaviour. -/
def Follows (behaviour : Behaviour) (events : List StageEvent) : Prop :=
  ∀ (gate : Gate) (answer : (gate.stage check).Result), ⟨gate.stage check, answer⟩ ∈ events →
    answer = behaviour.answer check gate

def Behaviour.event (behaviour : Behaviour) (gate : Gate) : StageEvent where
  operation := gate.stage check
  answer := behaviour.answer check gate

/-- These are the events of one entry of the audit log, with the answer to its commit. -/
inductive Logs (participantID : Uuid) (code : Nat) : List StageEvent → Except StageFault Unit → Prop
  | entry (now : Float) (ipAddress : String) (entry : AuditLog) (answer : Except StageFault Unit)
      (user : entry.userID = participantID) (status : entry.responseCode = code) :
      Logs participantID code [⟨.time, now⟩, ⟨.requestIP, ipAddress⟩, ⟨.commitLog entry, answer⟩] answer

/-- These are the events of a report that the reporter answers, and there are none without suspicion. -/
inductive Reports (behaviour : Behaviour) : List StageEvent → Except StageFault (Option String) → Prop
  | unsuspicious (calm : behaviour.suspicious = false) : Reports behaviour [] (.ok none)
  | generated (answer : Except StageFault String) (suspicious : behaviour.suspicious = true) :
      Reports behaviour [⟨.generate check.participantID "AML_CRITICAL_THRESHOLD" check.amount, answer⟩]
        (answer.map some)

/-- These are the fields of a result that the behaviour and the report decide. -/
structure Decides (behaviour : Behaviour) (reference : Option String) (result : ComplianceResult) : Prop where
  approved : result.approved = behaviour.firstFailing.isNone
  blockedBy : result.blockedBy = behaviour.firstFailing.map Gate.name
  kyc : result.kyc = behaviour.kyc.toOption
  sanctions : result.sanctions = if .sanctions ∈ behaviour.consulted then behaviour.sanctions.toOption else none
  aml : result.aml = if .aml ∈ behaviour.consulted then behaviour.aml.toOption else none
  mica : result.mica = if .mica ∈ behaviour.consulted then behaviour.mica.toOption else none
  sarReference : result.sarReference = reference

/-- A call is interrupted by another error than that of a missing dossier, or it logs its verdict at its end. -/
inductive Ending (behaviour : Behaviour) (report : Except StageFault (Option String)) :
    List StageEvent → Except StageFault ComplianceResult → Prop
  | interrupted (fault : StageFault) (found : ∀ message, behaviour.kyc ≠ .error (.valueError message)) :
      Ending behaviour report [] (.error fault)
  | missing (message : String) (log : List StageEvent) (answer : Except StageFault Unit)
      (absent : behaviour.kyc = .error (.valueError message)) (logged : Logs check.participantID 403 log answer) :
      Ending behaviour report log (answer.bind fun _ => .error (.valueError message))
  | decided (reference : Option String) (result : ComplianceResult) (log : List StageEvent)
      (answer : Except StageFault Unit) (reported : report = .ok reference)
      (decides : Decides behaviour reference result)
      (logged : Logs check.participantID (if result.approved then 200 else 403) log answer) :
      Ending behaviour report log (answer.map fun _ => result)

/-- Behind the gates asked earlier, a call asks the rest of the consulted ones, reports a suspicion and ends. -/
def Continues (behaviour : Behaviour) (earlier : List Gate) (events : List StageEvent)
    (outcome : Except StageFault ComplianceResult) : Prop :=
  ∃ gates filed log report, behaviour.consulted = earlier ++ gates ∧
    events = gates.map (behaviour.event check) ++ (filed ++ log) ∧
    Reports check behaviour filed report ∧ Ending check behaviour report log outcome

end Course

theorem executes_logBlock (userID : Uuid) (action : String) (justification : Option String) (start : Float)
    {events : List StageEvent} {outcome : Except StageFault Unit}
    (executed : Executes (logBlock userID action justification start) events outcome) :
    Logs userID 403 events outcome := by
  obtain ⟨now, _, rfl, ipAddress, _, rfl, answer, _, rfl, committed⟩ := executed
  obtain ⟨rfl, rfl⟩ := (executes_lift _ _ _).mp committed
  exact .entry now ipAddress _ _ rfl rfl

theorem executes_logPass (userID : Uuid) (start : Float) {events : List StageEvent} {outcome : Except StageFault Unit}
    (executed : Executes (logPass userID start) events outcome) : Logs userID 200 events outcome := by
  obtain ⟨now, _, rfl, ipAddress, _, rfl, answer, _, rfl, committed⟩ := executed
  obtain ⟨rfl, rfl⟩ := (executes_lift _ _ _).mp committed
  exact .entry now ipAddress _ _ rfl rfl

section Steps

variable {check : ComplianceCheck} {behaviour : Behaviour} {events : List StageEvent} {start : Float}
  {outcome : Except StageFault ComplianceResult}

/-- A gate that is asked first comes before the gates asked behind it. -/
theorem Continues.ask {earlier : List Gate} (gate : Gate)
    (rest : Continues check behaviour (earlier ++ [gate]) events outcome) :
    Continues check behaviour earlier (behaviour.event check gate :: events) outcome := by
  obtain ⟨gates, filed, log, report, consulted, rfl, reported, ended⟩ := rest
  exact ⟨gate :: gates, filed, log, report, by simp [consulted], rfl, reported, ended⟩

/-- The stage of a gate that is asked first answers with its behaviour. -/
theorem Follows.head (gate : Gate) {answer : (gate.stage check).Result}
    (followed : Follows check behaviour (⟨gate.stage check, answer⟩ :: events)) :
    answer = behaviour.answer check gate := followed gate answer List.mem_cons_self

theorem Follows.tail {event : StageEvent} (followed : Follows check behaviour (event :: events)) :
    Follows check behaviour events := fun _ _ member => followed _ _ (List.mem_cons_of_mem _ member)

theorem executes_blocked {userID : Uuid} {action : String} {justification : Option String} {result : ComplianceResult}
    (executed : Executes (do logBlock userID action justification start; return result) events outcome) :
    ∃ answer, Logs userID 403 events answer ∧ outcome = answer.map fun _ => result := by
  rcases (executes_bind _ _ _ _).mp executed with
    ⟨fault, rfl, failed⟩ | ⟨first, second, _, rfl, logged, rfl, rfl⟩
  · exact ⟨_, executes_logBlock _ _ _ _ failed, rfl⟩
  · rw [List.append_nil]
    exact ⟨_, executes_logBlock _ _ _ _ logged, rfl⟩

theorem executes_missing {userID : Uuid} {action : String} {justification : Option String} {fault : StageFault}
    {next : KYCResult → Pipeline ComplianceResult}
    (executed : Executes ((do logBlock userID action justification start; raise fault) >>= next) events outcome) :
    ∃ answer, Logs userID 403 events answer ∧ outcome = answer.bind fun _ => .error fault := by
  rcases (executes_bind _ _ _ _).mp executed with ⟨raised, rfl, failed⟩ | ⟨_, _, _, _, ended, _⟩
  · rcases (executes_bind _ _ _ _).mp failed with
      ⟨_, same, broken⟩ | ⟨first, second, _, rfl, logged, rfl, same⟩
    · cases same
      exact ⟨_, executes_logBlock _ _ _ _ broken, rfl⟩
    · cases same
      rw [List.append_nil]
      exact ⟨_, executes_logBlock _ _ _ _ logged, rfl⟩
  · rcases (executes_bind _ _ _ _).mp ended with ⟨_, same, _⟩ | ⟨_, _, _, _, _, _, same⟩ <;> cases same

theorem executes_passed {userID : Uuid} {result : ComplianceResult}
    (executed : Executes (do logPass userID start; return result) events outcome) :
    ∃ answer, Logs userID 200 events answer ∧ outcome = answer.map fun _ => result := by
  rcases (executes_bind _ _ _ _).mp executed with
    ⟨fault, rfl, failed⟩ | ⟨first, second, _, rfl, logged, rfl, rfl⟩
  · exact ⟨_, executes_logPass _ _ failed, rfl⟩
  · rw [List.append_nil]
    exact ⟨_, executes_logPass _ _ logged, rfl⟩

end Steps

section Stages

variable {check : ComplianceCheck} {start : Float} {kyc : KYCResult} {sanctions : SanctionsResult} {aml : AMLResult}
  {events : List StageEvent} {outcome : Except StageFault ComplianceResult}

/-- A stage that raises an error behind a found dossier interrupts the call. -/
theorem continues_of_fault {behaviour : Behaviour} {earlier : List Gate} (gate : Gate) (later : List Gate)
    {fault : StageFault} (order : Gate.order = earlier ++ gate :: later)
    (passed : ∀ previous ∈ earlier, behaviour.passes previous = true) (failed : behaviour.passes gate = false)
    (calm : behaviour.suspicious = false) (found : ∀ message, behaviour.kyc ≠ .error (.valueError message)) :
    Continues check behaviour earlier [behaviour.event check gate] (.error fault) :=
  ⟨[gate], [], [], .ok none, (behaviour.stops earlier gate later order passed failed).2, rfl, .unsuspicious calm,
    .interrupted fault found⟩

theorem continues_of_checkMiCA {mica : Except StageFault MiCAResult} (approved : kyc.approved = true)
    (clean : sanctions.hit = false) (calm : aml.blocked = false)
    (executed : Executes (checkMiCA check start kyc sanctions aml) events outcome)
    (followed : Follows check ⟨.ok kyc, .ok sanctions, .ok aml, mica⟩ events) :
    Continues check ⟨.ok kyc, .ok sanctions, .ok aml, mica⟩ [.kyc, .sanctions, .aml] events outcome := by
  rw [checkMiCA, executes_observe_bind] at executed
  obtain ⟨answer, later, rfl, rest⟩ := executed
  obtain rfl : mica = answer := (Follows.head .mica followed).symm
  have passed : ∀ gate ∈ [Gate.kyc, .sanctions, .aml],
      Behaviour.passes ⟨.ok kyc, .ok sanctions, .ok aml, mica⟩ gate = true := by
    simp [approved, clean, calm]
  have unsuspicious : Behaviour.suspicious ⟨.ok kyc, .ok sanctions, .ok aml, mica⟩ = false := by
    simp [Behaviour.suspicious, Except.toOption, calm]
  cases mica with
  | error fault =>
      obtain ⟨rfl, rfl⟩ := rest
      exact continues_of_fault .mica [] rfl passed rfl unsuspicious (by simp)
  | ok result =>
      rw [lift_ok_bind] at rest
      cases compliant : result.compliant with
      | true =>
          rw [if_pos compliant] at rest
          obtain ⟨answer, logged, rfl⟩ := executes_passed rest
          have finished := Behaviour.passes_all ⟨.ok kyc, .ok sanctions, .ok aml, .ok result⟩
            (by simp [Gate.order, approved, clean, calm, compliant])
          refine ⟨[.mica], [], later, .ok none, finished.2, rfl, .unsuspicious unsuspicious,
            .decided none _ later answer rfl ?_ logged⟩
          constructor <;> simp [finished, Gate.order, Except.toOption]
      | false =>
          rw [if_neg (by simp [compliant])] at rest
          obtain ⟨answer, logged, rfl⟩ := executes_blocked rest
          have stopped := Behaviour.stops ⟨.ok kyc, .ok sanctions, .ok aml, .ok result⟩ _ .mica [] rfl passed compliant
          refine ⟨[.mica], [], later, .ok none, stopped.2, rfl, .unsuspicious unsuspicious,
            .decided none _ later answer rfl ?_ logged⟩
          constructor <;> simp [stopped, Gate.name, Except.toOption]

/-- The events of a report come between the score and the log. -/
theorem continues_of_scoreAML {score : Except StageFault AMLResult} {mica : Except StageFault MiCAResult}
    (approved : kyc.approved = true) (clean : sanctions.hit = false)
    (executed : Executes (scoreAML check start kyc sanctions) events outcome)
    (followed : Follows check ⟨.ok kyc, .ok sanctions, score, mica⟩ events) :
    Continues check ⟨.ok kyc, .ok sanctions, score, mica⟩ [.kyc, .sanctions] events outcome := by
  rw [scoreAML, executes_observe_bind] at executed
  obtain ⟨answer, later, rfl, rest⟩ := executed
  obtain rfl : score = answer := (Follows.head .aml followed).symm
  have passed : ∀ gate ∈ [Gate.kyc, .sanctions],
      Behaviour.passes ⟨.ok kyc, .ok sanctions, score, mica⟩ gate = true := by
    simp [approved, clean]
  cases score with
  | error fault =>
      obtain ⟨rfl, rfl⟩ := rest
      exact continues_of_fault .aml [.mica] rfl passed rfl (by simp [Behaviour.suspicious, Except.toOption])
        (by simp)
  | ok aml =>
      rw [lift_ok_bind] at rest
      cases blocked : aml.blocked with
      | false =>
          rw [if_neg (by simp [blocked])] at rest
          exact Continues.ask .aml (continues_of_checkMiCA approved clean blocked rest followed.tail)
      | true =>
          rw [if_pos blocked] at rest
          have stopped := Behaviour.stops ⟨.ok kyc, .ok sanctions, .ok aml, mica⟩ _ .aml [.mica] rfl passed
            (by simp [blocked])
          have suspicion : Behaviour.suspicious ⟨.ok kyc, .ok sanctions, .ok aml, mica⟩ = aml.sarRequired := by
            simp [Behaviour.suspicious, Except.toOption, approved, clean, blocked]
          cases required : aml.sarRequired with
          | false =>
              rw [if_neg (by simp [required])] at rest
              obtain ⟨answer, logged, rfl⟩ := executes_blocked rest
              refine ⟨[.aml], [], later, .ok none, stopped.2, rfl, .unsuspicious (suspicion.trans required),
                .decided none _ later answer rfl ?_ logged⟩
              constructor <;> simp [stopped, Gate.name, Except.toOption]
          | true =>
              rw [if_pos required] at rest
              obtain ⟨report, log, rfl, rest⟩ := rest
              refine ⟨[.aml], _, log, report.map some, stopped.2, rfl,
                .generated report (suspicion.trans required), ?_⟩
              cases report with
              | error fault =>
                  obtain ⟨rfl, rfl⟩ := rest
                  exact .interrupted fault (by simp)
              | ok reference =>
                  obtain ⟨answer, logged, rfl⟩ := executes_blocked rest
                  refine .decided (some reference) _ log answer rfl ?_ logged
                  constructor <;> simp [stopped, Gate.name, Except.toOption]

theorem continues_of_screenSanctions {screening : Except StageFault SanctionsResult}
    {score : Except StageFault AMLResult} {mica : Except StageFault MiCAResult} (approved : kyc.approved = true)
    (executed : Executes (screenSanctions check start kyc) events outcome)
    (followed : Follows check ⟨.ok kyc, screening, score, mica⟩ events) :
    Continues check ⟨.ok kyc, screening, score, mica⟩ [.kyc] events outcome := by
  rw [screenSanctions, executes_observe_bind] at executed
  obtain ⟨answer, later, rfl, rest⟩ := executed
  obtain rfl : screening = answer := (Follows.head .sanctions followed).symm
  have passed : ∀ gate ∈ [Gate.kyc], Behaviour.passes ⟨.ok kyc, screening, score, mica⟩ gate = true := by
    simp [approved]
  cases screening with
  | error fault =>
      obtain ⟨rfl, rfl⟩ := rest
      exact continues_of_fault .sanctions [.aml, .mica] rfl passed rfl
        (by simp [Behaviour.suspicious, Behaviour.passes, Except.toOption]) (by simp)
  | ok sanctions =>
      rw [lift_ok_bind] at rest
      cases hit : sanctions.hit with
      | false =>
          rw [if_neg (by simp [hit])] at rest
          exact Continues.ask .sanctions (continues_of_scoreAML approved hit rest followed.tail)
      | true =>
          rw [if_pos hit] at rest
          obtain ⟨answer, logged, rfl⟩ := executes_blocked rest
          have stopped := Behaviour.stops ⟨.ok kyc, .ok sanctions, score, mica⟩ _ .sanctions [.aml, .mica] rfl passed
            (by simp [hit])
          refine ⟨[.sanctions], [], later, .ok none, stopped.2, rfl, .unsuspicious ?_,
            .decided none _ later answer rfl ?_ logged⟩
          · simp [Behaviour.suspicious, hit]
          · constructor <;> simp [stopped, Gate.name, Except.toOption]

/-- A call reads the clock and goes through its gates. -/
theorem continues_of_serviceCheck {behaviour : Behaviour} (executed : Executes (serviceCheck check) events outcome)
    (followed : Follows check behaviour events) :
    ∃ (start : Float) (later : List StageEvent), events = ⟨.time, start⟩ :: later ∧
      Continues check behaviour [] later outcome := by
  rw [serviceCheck, executes_observe_bind] at executed
  obtain ⟨start, _, rfl, rest⟩ := executed
  refine ⟨start, _, rfl, ?_⟩
  obtain ⟨verification, screening, score, mica⟩ := behaviour
  change Executes (perform _ _) _ _ at rest
  obtain ⟨answer, later, rfl, rest⟩ := rest
  obtain rfl : verification = answer := (Follows.head .kyc followed.tail).symm
  have stopped (failed : Behaviour.passes ⟨verification, screening, score, mica⟩ .kyc = false) :=
    Behaviour.stops ⟨verification, screening, score, mica⟩ [] .kyc [.sanctions, .aml, .mica] rfl (by simp) failed
  have calm (failed : Behaviour.passes ⟨verification, screening, score, mica⟩ .kyc = false) :
      Behaviour.suspicious ⟨verification, screening, score, mica⟩ = false := by
    simp [Behaviour.suspicious, failed]
  cases verification with
  | error fault =>
      cases fault with
      | valueError message =>
          obtain ⟨answer, logged, rfl⟩ := executes_missing rest
          exact ⟨[.kyc], [], later, .ok none, (stopped rfl).2, rfl, .unsuspicious (calm rfl),
            .missing message later answer rfl logged⟩
      | screening fault =>
          obtain ⟨rfl, rfl⟩ := rest
          exact ⟨[.kyc], [], [], .ok none, (stopped rfl).2, rfl, .unsuspicious (calm rfl),
            .interrupted _ (by simp)⟩
      | other cause =>
          obtain ⟨rfl, rfl⟩ := rest
          exact ⟨[.kyc], [], [], .ok none, (stopped rfl).2, rfl, .unsuspicious (calm rfl),
            .interrupted _ (by simp)⟩
  | ok kyc =>
      change Executes (if kyc.approved = true then _ else _) _ _ at rest
      cases approved : kyc.approved with
      | true =>
          rw [if_pos approved] at rest
          exact Continues.ask .kyc (continues_of_screenSanctions approved rest followed.tail.tail)
      | false =>
          rw [if_neg (by simp [approved])] at rest
          obtain ⟨answer, logged, rfl⟩ := executes_blocked rest
          refine ⟨[.kyc], [], later, .ok none, (stopped approved).2, rfl, .unsuspicious (calm approved),
            .decided none _ later answer rfl ?_ logged⟩
          constructor <;> simp [stopped approved, Gate.name, Except.toOption]

end Stages

def Stage.isGate : Stage → Bool
  | .verify .. | .screen .. | .score .. | .check .. => true
  | _ => false

def Stage.isReport : Stage → Bool
  | .generate .. => true
  | _ => false

def stageOf (event : StageEvent) : Stage := event.operation

def operations (events : List StageEvent) : List Stage := events.map stageOf

/-- A row is added when its commit succeeds. -/
def addedRow : StageEvent → Option AuditLog
  | ⟨.commitLog entry, .ok ()⟩ => some entry
  | _ => none

def auditLogs (events : List StageEvent) : List AuditLog := events.filterMap addedRow

/-- A row with this code is the only one that is added, and it names the participant. -/
def AddsOneRow (participantID : Uuid) (code : Nat) (events : List StageEvent) : Prop :=
  ∃ entry, auditLogs events = [entry] ∧ entry.userID = participantID ∧ entry.responseCode = code

/-- The call raises the error of the missing dossier again, and no error of a commit. -/
def Reraises (behaviour : Behaviour) (events : List StageEvent) (outcome : Except StageFault ComplianceResult) : Prop :=
  ∃ message, behaviour.kyc = .error (.valueError message) ∧ outcome = .error (.valueError message) ∧
    ∀ entry, ⟨.commitLog entry, .error (.valueError message)⟩ ∉ events

structure OrderedConjunction (check : ComplianceCheck) (behaviour : Behaviour) (events : List StageEvent)
    (outcome : Except StageFault ComplianceResult) : Prop where
  approves : ∀ result, outcome = .ok result → (result.approved = true ↔ ∀ gate, behaviour.passes gate = true)
  blocks : ∀ result, outcome = .ok result → result.blockedBy = behaviour.firstFailing.map Gate.name
  consults : (operations events).filter Stage.isGate = behaviour.consulted.map fun gate => gate.stage check
  fields : ∀ result, outcome = .ok result →
    result.kyc = behaviour.kyc.toOption ∧
    result.sanctions = (if .sanctions ∈ behaviour.consulted then behaviour.sanctions.toOption else none) ∧
    result.aml = (if .aml ∈ behaviour.consulted then behaviour.aml.toOption else none) ∧
    result.mica = (if .mica ∈ behaviour.consulted then behaviour.mica.toOption else none)
  reports : (operations events).filter Stage.isReport =
    if behaviour.suspicious then [.generate check.participantID "AML_CRITICAL_THRESHOLD" check.amount] else []
  refers : ∀ result, outcome = .ok result → result.sarReference.isSome = behaviour.suspicious
  audits : ∀ result, outcome = .ok result →
    AddsOneRow check.participantID (if result.approved then 200 else 403) events
  auditsMissing : Reraises behaviour events outcome → AddsOneRow check.participantID 403 events

section Fields

variable {check : ComplianceCheck} {behaviour : Behaviour} {outcome : Except StageFault ComplianceResult}

theorem operations_time (start : Float) (events : List StageEvent) :
    operations (⟨.time, start⟩ :: events) = .time :: operations events := rfl

theorem operations_append (first second : List StageEvent) :
    operations (first ++ second) = operations first ++ operations second := List.map_append

theorem operations_events (gates : List Gate) :
    operations (gates.map (behaviour.event check)) = gates.map fun gate => gate.stage check := by
  rw [operations, List.map_map]
  rfl

theorem isGate_stage (gate : Gate) : (gate.stage check).isGate = true := by
  cases gate <;> rfl

theorem isReport_stage (gate : Gate) : (gate.stage check).isReport = false := by
  cases gate <;> rfl

theorem addedRow_event (gate : Gate) : addedRow (behaviour.event check gate) = none := by
  cases gate <;> rfl

theorem filter_isGate_events (gates : List Gate) :
    (operations (gates.map (behaviour.event check))).filter Stage.isGate = gates.map fun gate => gate.stage check := by
  rw [operations_events, List.filter_eq_self]
  simp [isGate_stage]

theorem filter_isReport_events (gates : List Gate) :
    (operations (gates.map (behaviour.event check))).filter Stage.isReport = [] := by
  rw [operations_events, List.filter_eq_nil_iff]
  simp [isReport_stage]

theorem filterMap_addedRow_events (gates : List Gate) :
    (gates.map (behaviour.event check)).filterMap addedRow = [] := by
  rw [List.filterMap_eq_nil_iff]
  simp [addedRow_event]

/-- A report is no gate and adds no row to the log. -/
theorem Reports.operations {filed : List StageEvent} {report : Except StageFault (Option String)}
    (reported : Reports check behaviour filed report) :
    (operations filed).filter Stage.isGate = [] ∧ filed.filterMap addedRow = [] ∧
      (Compliance.operations filed).filter Stage.isReport =
        if behaviour.suspicious then [.generate check.participantID "AML_CRITICAL_THRESHOLD" check.amount] else [] := by
  cases reported with
  | unsuspicious calm =>
      rw [calm]
      exact ⟨rfl, rfl, rfl⟩
  | generated answer suspicious =>
      rw [if_pos suspicious]
      exact ⟨rfl, rfl, rfl⟩

theorem Reports.isSome {filed : List StageEvent} {reference : Option String}
    (reported : Reports check behaviour filed (.ok reference)) : reference.isSome = behaviour.suspicious := by
  generalize same : (Except.ok reference : Except StageFault (Option String)) = report at reported
  cases reported with
  | unsuspicious calm =>
      cases same
      exact calm.symm
  | generated answer suspicious =>
      cases answer with
      | error fault => cases same
      | ok filed =>
          cases same
          exact suspicious.symm

theorem Logs.operations {participantID : Uuid} {code : Nat} {log : List StageEvent} {answer : Except StageFault Unit}
    (logged : Logs participantID code log answer) :
    (operations log).filter Stage.isGate = [] ∧ (Compliance.operations log).filter Stage.isReport = [] := by
  cases logged
  exact ⟨rfl, rfl⟩

theorem Ending.operations {report : Except StageFault (Option String)} {log : List StageEvent}
    (ended : Ending check behaviour report log outcome) :
    (operations log).filter Stage.isGate = [] ∧ (Compliance.operations log).filter Stage.isReport = [] := by
  cases ended with
  | interrupted => exact ⟨rfl, rfl⟩
  | missing _ _ _ _ logged => exact logged.operations
  | decided _ _ _ _ _ _ logged => exact logged.operations

/-- A result is decided by the behaviour and the report, and its log is committed. -/
theorem Ending.decided_of_ok {report : Except StageFault (Option String)} {log : List StageEvent}
    {result : ComplianceResult} (ended : Ending check behaviour report log (.ok result)) :
    ∃ reference, report = .ok reference ∧ Decides behaviour reference result ∧
      Logs check.participantID (if result.approved then 200 else 403) log (.ok ()) := by
  generalize same : (Except.ok result : Except StageFault ComplianceResult) = outcome at ended
  cases ended with
  | interrupted => cases same
  | missing message log answer => cases answer <;> cases same
  | decided reference decision log answer reported decides logged =>
      cases answer with
      | error fault => cases same
      | ok _ =>
          cases same
          exact ⟨reference, reported, decides, logged⟩

/-- The log of a missing dossier is committed unless its commit raises the error. -/
theorem Ending.logged_of_missing {report : Except StageFault (Option String)} {log : List StageEvent}
    {message : String} (ended : Ending check behaviour report log (.error (.valueError message)))
    (absent : behaviour.kyc = .error (.valueError message))
    (committed : ∀ entry, ⟨.commitLog entry, .error (.valueError message)⟩ ∉ log) :
    Logs check.participantID 403 log (.ok ()) := by
  generalize same : (Except.error (.valueError message) : Except StageFault ComplianceResult) = outcome at ended
  cases ended with
  | interrupted fault found => exact absurd absent (found message)
  | missing _ _ answer _ logged =>
      cases answer with
      | ok _ => exact logged
      | error fault =>
          cases same
          cases logged with
          | entry now ipAddress entry => exact absurd (by simp) (committed entry)
  | decided reference result _ answer reported decides logged =>
      cases answer with
      | ok _ => cases same
      | error fault =>
          cases same
          cases logged with
          | entry now ipAddress entry => exact absurd (by simp) (committed entry)

theorem Logs.auditLogs {participantID : Uuid} {code : Nat} {log : List StageEvent}
    (logged : Logs participantID code log (.ok ())) :
    ∃ entry, log.filterMap addedRow = [entry] ∧ entry.userID = participantID ∧ entry.responseCode = code := by
  cases logged with
  | entry now ipAddress entry _ user status => exact ⟨entry, rfl, user, status⟩

end Fields

/-- Every execution of the service is the ordered conjunction of its gates. -/
theorem orderedConjunction_of_executes {check : ComplianceCheck} {behaviour : Behaviour} {events : List StageEvent}
    {outcome : Except StageFault ComplianceResult} (executed : Executes (serviceCheck check) events outcome)
    (followed : Follows check behaviour events) : OrderedConjunction check behaviour events outcome := by
  obtain ⟨start, _, rfl, gates, filed, log, report, consulted, rfl, reported, ended⟩ :=
    continues_of_serviceCheck executed followed
  rw [List.nil_append] at consulted
  subst consulted
  have rows {code : Nat} (logged : Logs check.participantID code log (.ok ())) :
      AddsOneRow check.participantID code
        (⟨.time, start⟩ :: (behaviour.consulted.map (behaviour.event check) ++ (filed ++ log))) := by
    obtain ⟨entry, added, user, status⟩ := logged.auditLogs
    refine ⟨entry, ?_, user, status⟩
    rw [auditLogs, List.filterMap_cons_none rfl, List.filterMap_append, List.filterMap_append,
      filterMap_addedRow_events, reported.operations.2.1, added]
    rfl
  refine ⟨?_, ?_, ?_, ?_, ?_, ?_, ?_, ?_⟩
  · rintro result rfl
    obtain ⟨reference, _, decides, _⟩ := ended.decided_of_ok
    rw [decides.approved, Option.isNone_iff_eq_none, behaviour.firstFailing_eq_none]
  · rintro result rfl
    obtain ⟨reference, _, decides, _⟩ := ended.decided_of_ok
    exact decides.blockedBy
  · rw [operations_time, List.filter_cons_of_neg Bool.false_ne_true, operations_append, operations_append,
      List.filter_append, List.filter_append, filter_isGate_events,
      reported.operations.1, ended.operations.1, List.append_nil, List.append_nil]
  · rintro result rfl
    obtain ⟨reference, _, decides, _⟩ := ended.decided_of_ok
    exact ⟨decides.kyc, decides.sanctions, decides.aml, decides.mica⟩
  · rw [operations_time, List.filter_cons_of_neg Bool.false_ne_true, operations_append, operations_append,
      List.filter_append, List.filter_append, filter_isReport_events,
      reported.operations.2.2, ended.operations.2, List.append_nil, List.nil_append]
  · rintro result rfl
    obtain ⟨reference, rfl, decides, _⟩ := ended.decided_of_ok
    rw [decides.sarReference, reported.isSome]
  · rintro result rfl
    obtain ⟨reference, _, _, logged⟩ := ended.decided_of_ok
    exact rows logged
  · rintro ⟨message, absent, rfl, committed⟩
    refine rows (ended.logged_of_missing absent fun entry member => committed entry ?_)
    exact List.mem_cons_of_mem _ (List.mem_append_right _ (List.mem_append_right _ member))

/-- The wrapper blocks exactly the checks that the service does not approve. -/
theorem executes_fullCheck (check : ComplianceCheck) (events : List StageEvent) (blocked : Bool) :
    (∃ reason stage, Executes (fullCheck check) events (.ok (blocked, reason, stage))) ↔
      ∃ result, Executes (serviceCheck check) events (.ok result) ∧ blocked = !result.approved := by
  constructor
  · rintro ⟨reason, stage, executed⟩
    obtain ⟨first, second, result, rfl, ended, verdict⟩ := executes_bind_ok executed
    cases approved : result.approved with
    | true =>
        rw [if_pos approved] at verdict
        obtain ⟨rfl, same⟩ := verdict
        cases same
        exact ⟨result, by rwa [List.append_nil], by simp [approved]⟩
    | false =>
        rw [if_neg (by simp [approved])] at verdict
        obtain ⟨rfl, same⟩ := verdict
        cases same
        exact ⟨result, by rwa [List.append_nil], by simp [approved]⟩
  · rintro ⟨result, executed, rfl⟩
    cases approved : result.approved with
    | true =>
        refine ⟨"", "", (executes_bind _ _ _ _).mpr (.inr ⟨events, [], result, by simp, executed, ?_⟩)⟩
        rw [if_pos approved]
        exact ⟨rfl, rfl⟩
    | false =>
        refine ⟨textOr result.blockingReason "Compliance check failed", textOr result.blockedBy "UNKNOWN",
          (executes_bind _ _ _ _).mpr (.inr ⟨events, [], result, by simp, executed, ?_⟩)⟩
        rw [if_neg (by simp [approved])]
        exact ⟨rfl, rfl⟩

/-- The service is the ordered conjunction of its gates, and the wrapper blocks what the service does not approve. -/
theorem full_check_is_ordered_conjunction (check : ComplianceCheck) :
    (∀ behaviour events outcome, Executes (serviceCheck check) events outcome → Follows check behaviour events →
      OrderedConjunction check behaviour events outcome) ∧
    ∀ events blocked, (∃ reason stage, Executes (fullCheck check) events (.ok (blocked, reason, stage))) ↔
      ∃ result, Executes (serviceCheck check) events (.ok result) ∧ blocked = !result.approved :=
  ⟨fun _ _ _ executed followed => orderedConjunction_of_executes executed followed, executes_fullCheck check⟩

/-- All stages pass the transfer of the bond. -/
def passingBehaviour : Behaviour where
  kyc := .ok ⟨true, 3, "APPROUVE", 0, "Score et niveau conformes.", false⟩
  sanctions := .ok { hit := false, hits := [], screenedLists := listsToCheck }
  aml := .ok ⟨0.05, "FAIBLE", false, none, [], false⟩
  mica := .ok ⟨true, [], none, false⟩

def passingEntry : AuditLog where
  userID := bondCheck.participantID
  endpoint := "COMPLIANCE_PASS"
  httpMethod := "VERIFY"
  ipAddress := "internal"
  justification := none
  responseCode := 200
  durationMs := durationMs 0 0

def passingEvents : List StageEvent :=
  ⟨.time, (0 : Float)⟩ :: Gate.order.map (passingBehaviour.event bondCheck) ++
    [⟨.time, (0 : Float)⟩, ⟨.requestIP, "internal"⟩, ⟨.commitLog passingEntry, .ok ()⟩]

/-- The transfer of the bond is approved with one row of code 200. -/
theorem full_check_approves_bond :
    ∃ result, Executes (serviceCheck bondCheck) passingEvents (.ok result) ∧ result.approved = true ∧
      AddsOneRow bondCheck.participantID 200 passingEvents := by
  have executed : ∃ result, Executes (serviceCheck bondCheck) passingEvents (.ok result) :=
    ⟨_, (0 : Float), _, rfl, passingBehaviour.kyc, _, rfl, passingBehaviour.sanctions, _, rfl, passingBehaviour.aml, _,
      rfl, passingBehaviour.mica, _, rfl, (0 : Float), _, rfl, "internal", _, rfl, .ok (), _, rfl, rfl, rfl⟩
  have followed : Follows bondCheck passingBehaviour passingEvents := by
    intro gate answer member
    simp only [passingEvents, Gate.order, List.map_cons, List.map_nil, List.cons_append, List.nil_append,
      List.mem_cons, List.not_mem_nil, or_false] at member
    cases gate <;> rcases member with same | same | same | same | same | same | same | same <;> cases same <;> rfl
  obtain ⟨result, executed⟩ := executed
  have ordered := (full_check_is_ordered_conjunction bondCheck).1 _ _ _ executed followed
  have approved : result.approved = true := (ordered.approves result rfl).mpr fun gate => by cases gate <;> rfl
  refine ⟨result, executed, approved, ?_⟩
  have added := ordered.audits result rfl
  rwa [if_pos approved] at added

end Pxtly.Compliance
