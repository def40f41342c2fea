/-
This file compares the arguments of each submission with the parameters of the contract's function.
-/

import Pxtly.Assets.Executions

namespace Pxtly.Assets

open Foundation Program
open Chaincode (Request Invocation dispatch convertFloat)

def submittedRequest : ServiceEvent → Option Request
  | ⟨.submitTransaction request _, _⟩ => some request
  | _ => none

/-- These are the requests that an execution handed to the ledger client, in order. -/
def submissions (events : List ServiceEvent) : List Request := events.filterMap submittedRequest

/-- These are the requests that a task can submit: its call, and its compensation behind it. -/
def Task.requests (task : Task) : List Request := task.call :: task.compensation.toList

/-- Every parameter of the first call stands for a field of the request. -/
def Task.meaning : Task → Invocation
  | .tokenize request =>
      .tokenizeAsset request.assetID request.isin request.assetType request.assetName request.issuerLEI
        request.nominalValue.toFloat request.currency request.issuanceDate.isoformat request.justification
  | .transfer request _ _ =>
      .transferAsset request.assetID request.toOwner request.justification request.price.toFloat
  | .freeze request _ _ => .freezeAsset request.assetID request.reason request.regulatoryRef
  | .unfreezeAsset request _ _ => .unfreezeAsset request.assetID request.justification

/-- A compensating transfer goes to the current user, at the price of the request. -/
def Task.compensationMeaning : Task → Option Invocation
  | .tokenize _ => none
  | .transfer _ none _ => none
  | .transfer request (some user) _ =>
      if user.email = "" then none
      else some (.transferAsset request.assetID user.email compensationText request.price.toFloat)
  | .freeze request _ _ => some (.unfreezeAsset request.assetID compensationText)
  | .unfreezeAsset request _ _ => some (.freezeAsset request.assetID compensationText "SAGA-COMP")

def Task.meanings (task : Task) : List Invocation := task.meaning :: task.compensationMeaning.toList

/-- Every submission of every execution is converted to what it stands for. -/
def Task.Agrees (identityLabel : String) (task : Task) : Prop :=
  ∀ events outcome, Executes (perform identityLabel task) events outcome →
    (submissions events).map dispatch <+: task.meanings.map Except.ok

/-- These requests survive the positional conversion. -/
def Task.Bindable : Task → Prop
  | .tokenize request => request.nominalValue.toFloat.isFinite = true
  | .transfer request currentUser fresh =>
      request.justification = request.price.str ∧ request.price.toFloat.isFinite = true ∧
        (Task.transfer request currentUser fresh).compensation = none
  | .freeze _ _ _ => True
  | .unfreezeAsset _ _ _ => True

theorem submissions_append (first second : List ServiceEvent) :
    submissions (first ++ second) = submissions first ++ submissions second :=
  List.filterMap_append

theorem submissions_reads {events : List ServiceEvent} (reads : Reads events) : submissions events = [] := by
  rw [submissions, List.filterMap_eq_nil_iff]
  intro event member
  have reading := reads event member
  obtain ⟨operation, reply⟩ := event
  cases operation <;> first | rfl | cases reading

theorem submissions_closes {events : List ServiceEvent} (closes : Closes events) :
    submissions events = [] := by
  rw [submissions, List.filterMap_eq_nil_iff]
  intro event member
  have closing := closes event member
  obtain ⟨operation, reply⟩ := event
  cases operation <;> first | rfl | cases closing

/-- Up to the commit, an execution has submitted its call. -/
theorem submissions_approach {identityLabel : String} {task : Task} {before lookups : List ServiceEvent}
    {payload : Json} (readsBefore : Reads before) (readsAfter : Reads lookups) :
    submissions (approach identityLabel task before payload lookups) = [task.call] := by
  have later : submissions (⟨.submitTransaction task.call identityLabel, Reply.success payload⟩ :: lookups) =
      task.call :: submissions lookups := rfl
  rw [approach, submissions_append, submissions_reads readsBefore, later, submissions_reads readsAfter,
    List.nil_append]

/-- An execution submits a prefix of the task's requests. -/
theorem submissions_within {identityLabel : String} {task : Task} {events : List ServiceEvent}
    {outcome : Except ServiceError AssetResponse}
    (executed : Executes (perform identityLabel task) events outcome) :
    submissions events <+: task.requests := by
  have callOnly : [task.call] <+: task.requests := List.prefix_append _ _
  cases sagaRun_of_executes executed with
  | refused before fault reads =>
      rw [submissions_reads reads]
      exact List.nil_prefix
  | unsubmitted before fault applied reads =>
      rw [submissions_append, submissions_reads reads]
      exact callOnly
  | unreadable before payload fault reads unread =>
      rw [submissions_approach reads (by simp [Reads])]
      exact callOnly
  | unfound before payload lookups fault readsBefore readsAfter misses =>
      rw [submissions_approach readsBefore readsAfter]
      exact callOnly
  | stuck before payload lookups work first second applied rolledBack reached =>
      rw [submissions_append, submissions_approach reached.readsBefore reached.readsAfter]
      exact callOnly
  | abandoned before payload lookups work fault applied reached none =>
      rw [submissions_append, submissions_approach reached.readsBefore reached.readsAfter]
      exact callOnly
  | compensated before payload lookups work fault applied request reply reached some =>
      rw [submissions_append, submissions_approach reached.readsBefore reached.readsAfter, Task.requests,
        some]
      exact List.prefix_refl _
  | committed before payload lookups work later outcome reached closes =>
      have closing : submissions (⟨.commit work, Reply.success ()⟩ :: later) = [] := by
        show submissions later = []
        exact submissions_closes closes
      rw [submissions_append, submissions_approach reached.readsBefore reached.readsAfter, closing]
      exact callOnly

theorem submissions_compensationAnswers (identityLabel : String) (compensation : Option Request) :
    submissions (compensationAnswers identityLabel compensation) = compensation.toList := by
  cases compensation <;> rfl

/-- Some execution of a task submits all its requests. -/
theorem exists_submits (identityLabel : String) (task : Task) :
    ∃ events outcome, Executes (perform identityLabel task) events outcome ∧
      submissions events = task.requests := by
  cases task with
  | tokenize request =>
      refine ⟨[⟨.submitTransaction (tokenizeCall request) identityLabel, Reply.failure .conversion false⟩],
        .error .conversion, ?_, rfl⟩
      exact ⟨Reply.failure .conversion false, [], rfl, rfl, rfl⟩
  | transfer request currentUser fresh =>
      have handled := executes_transferApproach request identityLabel currentUser fresh
        (executes_compensateTransfer request identityLabel currentUser fresh .conversion _)
      refine ⟨_, _, handled, ?_⟩
      rw [submissions_append, submissions_compensationAnswers]
      rfl
  | freeze request currentUser fresh =>
      have read : readResponse (freezeChange request).invalidResponse (.object []) = .ok unknownFabric := rfl
      exact ⟨_, _, executes_failedHold identityLabel _ currentUser fresh (.success .null) read, rfl⟩
  | unfreezeAsset request currentUser fresh =>
      have read : readResponse (unfreezeChange request).invalidResponse (.object []) = .ok unknownFabric :=
        rfl
      exact ⟨_, _, executes_failedHold identityLabel _ currentUser fresh (.success .null) read, rfl⟩

/-- A task agrees with the contract exactly when its requests are converted to their meanings. -/
theorem agrees_iff_dispatch (identityLabel : String) (task : Task) :
    task.Agrees identityLabel ↔ task.requests.map dispatch <+: task.meanings.map Except.ok := by
  constructor
  · intro agrees
    obtain ⟨events, outcome, executed, submitted⟩ := exists_submits identityLabel task
    have converted := agrees events outcome executed
    rw [submitted] at converted
    exact converted
  · intro converted events outcome executed
    exact ((submissions_within executed).map dispatch).trans converted

/-- No compensating transfer is converted: its last text is no number. -/
theorem convertFloat_compensationText (value : Float) : convertFloat compensationText ≠ .ok value := by
  intro converted
  have refused : (convertFloat compensationText).isOk = false := by decide +kernel
  rw [converted] at refused
  cases refused

/-- A price survives its text exactly when it is a finite float. -/
theorem convertFloat_str (decimal : PositiveDecimal) :
    convertFloat decimal.str = .ok decimal.toFloat ↔ decimal.toFloat.isFinite = true := by
  rw [Chaincode.convertFloat_eq_ok, decimal.parseFloat_str]
  split
  next finite => exact iff_of_true rfl finite
  next infinite => exact iff_of_false nofun infinite

/-- The main call of a transfer swaps two parameters. -/
theorem dispatch_transferCall (request : TransferRequest) :
    dispatch (transferCall request) =
        .ok (.transferAsset request.assetID request.toOwner request.justification request.price.toFloat) ↔
      request.justification = request.price.str ∧ request.price.toFloat.isFinite = true := by
  rw [transferCall, Chaincode.dispatch_transferAsset, ← convertFloat_str]
  cases converted : convertFloat request.justification with
  | error err =>
      refine iff_of_false nofun ?_
      rintro ⟨same, finite⟩
      rw [same, finite] at converted
      cases converted
  | ok value =>
      show Except.ok (Invocation.transferAsset request.assetID request.toOwner request.price.str value) =
        Except.ok _ ↔ _
      constructor
      · intro same
        obtain ⟨_, _, text, price⟩ := Invocation.transferAsset.inj (Except.ok.inj same)
        refine ⟨text.symm, ?_⟩
        rw [text, converted, price]
      · rintro ⟨text, finite⟩
        rw [text, finite] at converted
        rw [text, Except.ok.inj converted]

theorem dispatch_tokenizeCall (request : TokenizeRequest) :
    dispatch (tokenizeCall request) = .ok (Task.tokenize request).meaning ↔
      request.nominalValue.toFloat.isFinite = true := by
  rw [← convertFloat_str]
  show (do
    let nominalValue ← convertFloat request.nominalValue.str
    return Invocation.tokenizeAsset request.assetID request.isin request.assetType request.assetName
      request.issuerLEI nominalValue request.currency request.issuanceDate.isoformat
      request.justification) = _ ↔ _
  cases converted : convertFloat request.nominalValue.str with
  | error err => exact iff_of_false nofun nofun
  | ok value =>
      constructor
      · intro same
        have fields := Invocation.tokenizeAsset.inj (Except.ok.inj same)
        rw [fields.2.2.2.2.2.1]
      · intro same
        rw [Except.ok.inj same]
        rfl

/-- A compensating transfer fails at the conversion of its arguments. -/
theorem dispatch_transferCompensation (request : TransferRequest) (previousOwnerEmail : String)
    (invocation : Invocation) :
    dispatch (transferCompensation request previousOwnerEmail) ≠ .ok invocation := by
  rw [transferCompensation, Chaincode.dispatch_transferAsset]
  cases converted : convertFloat compensationText with
  | error err => nofun
  | ok value => exact absurd converted (convertFloat_compensationText value)

/-- The compensation of a transfer has its meaning only where it is missing. -/
theorem compensation_within (request : TransferRequest) (currentUser : Option User) (fresh : Uuid) :
    (Task.transfer request currentUser fresh).compensation.toList.map dispatch <+:
        (Task.transfer request currentUser fresh).compensationMeaning.toList.map Except.ok ↔
      (Task.transfer request currentUser fresh).compensation = none := by
  cases currentUser with
  | none => exact iff_of_true List.nil_prefix rfl
  | some user =>
      by_cases unknown : user.email = ""
      · simp [Task.compensation, unknown]
      · simp [Task.compensation, Task.compensationMeaning, unknown, List.cons_prefix_cons,
          dispatch_transferCompensation]

/-- The service and the contract agree on a task exactly when it is bindable. -/
theorem agrees_iff_bindable (identityLabel : String) (task : Task) :
    task.Agrees identityLabel ↔ task.Bindable := by
  rw [agrees_iff_dispatch]
  cases task with
  | tokenize request =>
      show [dispatch (tokenizeCall request)] <+: [Except.ok (Task.tokenize request).meaning] ↔ _
      rw [List.cons_prefix_cons, dispatch_tokenizeCall]
      simp [Task.Bindable]
  | transfer request currentUser fresh =>
      show dispatch (transferCall request) :: List.map dispatch _ <+: Except.ok _ :: List.map Except.ok _ ↔ _
      rw [List.cons_prefix_cons, compensation_within, Task.meaning, dispatch_transferCall, and_assoc]
      rfl
  | freeze request currentUser fresh => exact iff_of_true (List.prefix_refl _) trivial
  | unfreezeAsset request currentUser fresh => exact iff_of_true (List.prefix_refl _) trivial

/-- A sale to Alice hands its justification over as the price. -/
theorem bondTransfer_disagrees : ¬ (Task.transfer bondTransfer none bondUuid).Agrees "bank01" := by
  intro agrees
  have executed : Executes (perform "bank01" (.transfer bondTransfer none bondUuid))
      (transferApproach bondTransfer "bank01" none bondUuid ++ [⟨.rollback, Reply.success ()⟩])
      (.error .conversion) :=
    executes_transferApproach bondTransfer "bank01" none bondUuid ⟨Reply.success (), [], rfl, rfl, rfl⟩
  have converted := agrees _ _ executed
  revert converted
  decide +kernel

end Pxtly.Assets
