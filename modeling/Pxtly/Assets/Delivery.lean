/-
This file gives the effect on the ledger of the submissions of an execution.
-/

import Pxtly.Assets.Compensation
import Pxtly.FabricClient.Network

namespace Pxtly.Assets

open Foundation Program
open Chaincode (statusActif statusGele FinancialAsset Ledger Proposal ProvenanceRecord Request Response)
open Fabric (ClientError FabricClient)

/-- Every submission of an execution reaches its peers, and each reply tells whether it was accepted. -/
inductive Delivered (client : FabricClient) :
    Ledger → (Nat → Proposal) → List ServiceEvent → Ledger → Prop where
  | done (ledger : Ledger) (proposals : Nat → Proposal) : Delivered client ledger proposals [] ledger
  | other {ledger final : Ledger} {proposals : Nat → Proposal} {event : ServiceEvent}
      {events : List ServiceEvent} (plain : isSubmission event = false)
      (rest : Delivered client ledger proposals events final) :
      Delivered client ledger proposals (event :: events) final
  | submission {ledger final : Ledger} {proposals : Nat → Proposal} {request : Request}
      {identityLabel : String} {reply : Reply Json} {events : List ServiceEvent}
      (observed : reply.applied =
        (client.submitTransaction ledger (proposals 0) request identityLabel).2.isOk)
      (rest : Delivered client (client.submitTransaction ledger (proposals 0) request identityLabel).1
        (fun index => proposals (index + 1)) events final) :
      Delivered client ledger proposals (⟨.submitTransaction request identityLabel, reply⟩ :: events) final

/-- These are the submissions of an execution with their replies. -/
def submitted (events : List ServiceEvent) : List ServiceEvent := events.filter isSubmission

/-- Only the submissions matter to the ledger. -/
theorem Delivered.submitted {client : FabricClient} {ledger final : Ledger} {proposals : Nat → Proposal}
    {events : List ServiceEvent} (delivered : Delivered client ledger proposals events final) :
    Delivered client ledger proposals (submitted events) final := by
  induction delivered with
  | done ledger proposals => exact .done ledger proposals
  | other plain rest inductionHypothesis =>
      rw [Assets.submitted, List.filter_cons_of_neg (by simp [plain])]
      exact inductionHypothesis
  | submission observed rest inductionHypothesis =>
      rw [Assets.submitted, List.filter_cons_of_pos rfl]
      exact .submission observed inductionHypothesis

/-- One delivered submission leaves the ledger that its peers made. -/
theorem delivered_one {client : FabricClient} {ledger final : Ledger} {proposals : Nat → Proposal}
    {request : Request} {identityLabel : String} {reply : Reply Json}
    (delivered : Delivered client ledger proposals [⟨.submitTransaction request identityLabel, reply⟩] final) :
    reply.applied = (client.submitTransaction ledger (proposals 0) request identityLabel).2.isOk ∧
      final = (client.submitTransaction ledger (proposals 0) request identityLabel).1 := by
  cases delivered with
  | other plain rest => cases plain
  | submission observed rest =>
      cases rest
      exact ⟨observed, rfl⟩

/-- Two delivered submissions follow each other. -/
theorem delivered_two {client : FabricClient} {ledger final : Ledger} {proposals : Nat → Proposal}
    {first second : Request} {identityLabel : String} {reply later : Reply Json}
    (delivered : Delivered client ledger proposals
      [⟨.submitTransaction first identityLabel, reply⟩, ⟨.submitTransaction second identityLabel, later⟩]
      final) :
    ∃ middle, reply.applied = (client.submitTransaction ledger (proposals 0) first identityLabel).2.isOk ∧
      middle = (client.submitTransaction ledger (proposals 0) first identityLabel).1 ∧
      later.applied = (client.submitTransaction middle (proposals 1) second identityLabel).2.isOk ∧
      final = (client.submitTransaction middle (proposals 1) second identityLabel).1 := by
  cases delivered with
  | other plain rest => cases plain
  | submission observed rest =>
      obtain ⟨seen, last⟩ := delivered_one rest
      exact ⟨_, observed, rfl, seen, last⟩

theorem submitted_append (first second : List ServiceEvent) :
    submitted (first ++ second) = submitted first ++ submitted second :=
  List.filter_append first second

theorem submitted_reads {events : List ServiceEvent} (reads : Reads events) : submitted events = [] := by
  rw [submitted, List.filter_eq_nil_iff]
  intro event member
  simp [(reading_plain (reads event member)).1]

theorem submitted_approach {identityLabel : String} {task : Task} {before lookups : List ServiceEvent}
    {payload : Json} (readsBefore : Reads before) (readsAfter : Reads lookups) :
    submitted (approach identityLabel task before payload lookups) =
      [⟨.submitTransaction task.call identityLabel, Reply.success payload⟩] := by
  rw [approach, submitted_append, submitted_reads readsBefore, List.nil_append, submitted,
    List.filter_cons_of_pos rfl]
  exact congrArg (List.cons _) (submitted_reads readsAfter)

/-- The service saw its commit fail. -/
def raisesCommit : ServiceEvent → Bool
  | ⟨.commit _, .failure _ _⟩ => true
  | _ => false

theorem approach_keepsCommit {identityLabel : String} {task : Task} {before lookups : List ServiceEvent}
    {payload : Json} (readsBefore : Reads before) (readsAfter : Reads lookups) :
    ∀ event ∈ approach identityLabel task before payload lookups, raisesCommit event = false := by
  have plain : ∀ event : ServiceEvent, event.operation.isReading = true → raisesCommit event = false := by
    rintro ⟨operation, reply⟩ reading
    cases operation <;> first | rfl | cases reading
  intro event member
  rcases List.mem_append.mp member with inside | inside
  · exact plain event (readsBefore event inside)
  · rcases List.mem_cons.mp inside with rfl | inside
    · rfl
    · exact plain event (readsAfter event inside)

/-- Behind a failed commit, a task submits its compensation unless the rollback fails. -/
inductive Handled (identityLabel : String) (task : Task) (events : List ServiceEvent) : Prop where
  | stuck (payload : Json)
      (only : submitted events = [⟨.submitTransaction task.call identityLabel, Reply.success payload⟩])
      (failed : ∃ event ∈ events, failsRollback event = true)
  | abandoned (payload : Json)
      (only : submitted events = [⟨.submitTransaction task.call identityLabel, Reply.success payload⟩])
      (none : task.compensation = none)
  | compensated (payload : Json) (request : Request) (reply : Reply Json)
      (some : task.compensation = some request)
      (both : submitted events = [⟨.submitTransaction task.call identityLabel, Reply.success payload⟩,
        ⟨.submitTransaction request identityLabel, reply⟩])
      (rolledBack : ∀ event ∈ events, failsRollback event = false)

/-- An execution whose commit fails is handled in one of these ways. -/
theorem handled_of_executes {identityLabel : String} {task : Task} {events : List ServiceEvent}
    {outcome : Except ServiceError AssetResponse}
    (executed : Executes (perform identityLabel task) events outcome)
    (failed : ∃ event ∈ events, raisesCommit event = true) : Handled identityLabel task events := by
  obtain ⟨event, member, raises⟩ := failed
  have unraised : ∀ {before lookups : List ServiceEvent} {payload : Json}, Reads before → Reads lookups →
      event ∉ approach identityLabel task before payload lookups := by
    intro before lookups payload readsBefore readsAfter inside
    rw [approach_keepsCommit readsBefore readsAfter event inside] at raises
    cases raises
  have reading : event.operation.isReading = false := by
    obtain ⟨operation, reply⟩ := event
    cases operation <;> first | rfl | cases raises
  cases sagaRun_of_executes executed with
  | refused before fault reads =>
      rw [reads event member] at reading
      cases reading
  | unsubmitted before fault applied reads =>
      rcases List.mem_append.mp member with inside | inside
      · rw [reads event inside] at reading
        cases reading
      · obtain rfl := List.mem_singleton.mp inside
        cases raises
  | unreadable before payload fault reads unread =>
      exact absurd member (unraised reads (by simp [Reads]))
  | unfound before payload lookups fault readsBefore readsAfter misses =>
      exact absurd member (unraised readsBefore readsAfter)
  | stuck before payload lookups work first second applied rolledBack reached =>
      refine .stuck payload ?_ ⟨⟨.rollback, Reply.failure second rolledBack⟩, by simp, rfl⟩
      rw [submitted_append, submitted_approach reached.readsBefore reached.readsAfter]
      rfl
  | abandoned before payload lookups work fault applied reached none =>
      refine .abandoned payload ?_ none
      rw [submitted_append, submitted_approach reached.readsBefore reached.readsAfter]
      rfl
  | compensated before payload lookups work fault applied request reply reached some =>
      refine .compensated payload request reply some ?_ ?_
      · rw [submitted_append, submitted_approach reached.readsBefore reached.readsAfter]
        rfl
      · intro other inside
        rcases List.mem_append.mp inside with inside | inside
        · exact (approach_plain reached.readsBefore reached.readsAfter other inside).2.2
        · simp only [List.mem_cons, List.not_mem_nil, or_false] at inside
          rcases inside with rfl | rfl | rfl <;> rfl
  | committed before payload lookups work later outcome reached closes =>
      rcases List.mem_append.mp member with inside | inside
      · exact absurd inside (unraised reached.readsBefore reached.readsAfter)
      · rcases List.mem_cons.mp inside with rfl | inside
        · cases raises
        · have closing := closes event inside
          obtain ⟨operation, reply⟩ := event
          cases operation <;> first | cases raises | cases closing

theorem commit_not_mem_approach {identityLabel : String} {task : Task}
    {before lookups : List ServiceEvent} {payload : Json} (readsBefore : Reads before)
    (readsAfter : Reads lookups) (work : UnitOfWork) (reply : Reply Unit) :
    (⟨.commit work, reply⟩ : ServiceEvent) ∉ approach identityLabel task before payload lookups := by
  intro inside
  rcases List.mem_append.mp inside with inside | inside
  · cases readsBefore _ inside
  · rcases List.mem_cons.mp inside with same | inside
    · cases same
    · cases readsAfter _ inside

/-- This work is what a task prepared from the response of its first submission. -/
def Answered (identityLabel : String) (task : Task) (events : List ServiceEvent) (work : UnitOfWork) : Prop :=
  ∃ before payload lookups, Reached task before payload lookups work ∧
    events.find? isSubmission =
      some ⟨.submitTransaction task.call identityLabel, Reply.success payload⟩

/-- A tail with one commit gives the work of that commit. -/
theorem Reached.answered {identityLabel : String} {task : Task} {before lookups tail : List ServiceEvent}
    {payload : Json} {work other : UnitOfWork} {reply : Reply Unit}
    (reached : Reached task before payload lookups other)
    (committed : ⟨.commit work, reply⟩ ∈ approach identityLabel task before payload lookups ++ tail)
    (only : ⟨.commit work, reply⟩ ∈ tail → work = other) :
    Answered identityLabel task (approach identityLabel task before payload lookups ++ tail) work := by
  have found : (approach identityLabel task before payload lookups ++ tail).find? isSubmission =
      some ⟨.submitTransaction task.call identityLabel, Reply.success payload⟩ := by
    rw [approach, List.append_assoc, List.cons_append, find_submission reached.readsBefore]
  rcases List.mem_append.mp committed with inside | inside
  · exact absurd inside (commit_not_mem_approach reached.readsBefore reached.readsAfter work reply)
  · obtain rfl := only inside
    exact ⟨before, payload, lookups, reached, found⟩

/-- A commit comes from a response that the task could read. -/
theorem answered_of_commit {identityLabel : String} {task : Task} {events : List ServiceEvent}
    {outcome : Except ServiceError AssetResponse} {work : UnitOfWork} {reply : Reply Unit}
    (executed : Executes (perform identityLabel task) events outcome)
    (committed : ⟨.commit work, reply⟩ ∈ events) : Answered identityLabel task events work := by
  cases sagaRun_of_executes executed with
  | refused before fault reads => cases reads _ committed
  | unsubmitted before fault applied reads =>
      rcases List.mem_append.mp committed with inside | inside
      · cases reads _ inside
      · cases List.mem_singleton.mp inside
  | unreadable before payload fault reads unread =>
      exact absurd committed (commit_not_mem_approach reads (by simp [Reads]) work reply)
  | unfound before payload lookups fault readsBefore readsAfter misses =>
      exact absurd committed (commit_not_mem_approach readsBefore readsAfter work reply)
  | stuck before payload lookups other first second applied rolledBack reached =>
      apply reached.answered committed
      intro inside
      simp only [List.mem_cons, List.not_mem_nil, or_false] at inside
      rcases inside with same | same <;> cases same
      rfl
  | abandoned before payload lookups other fault applied reached none =>
      apply reached.answered committed
      intro inside
      simp only [List.mem_cons, List.not_mem_nil, or_false] at inside
      rcases inside with same | same <;> cases same
      rfl
  | compensated before payload lookups other fault applied request later reached some =>
      apply reached.answered committed
      intro inside
      simp only [List.mem_cons, List.not_mem_nil, or_false] at inside
      rcases inside with same | same | same <;> cases same
      rfl
  | committed before payload lookups other later outcome reached closes =>
      apply reached.answered committed
      intro inside
      rcases List.mem_cons.mp inside with same | inside
      · cases same
        rfl
      · cases closes _ inside

/-- The row and the asset agree on owner, value and status. -/
structure Agrees (emailOf : Uuid → Option String) (row : AssetRow) (asset : FinancialAsset) : Prop where
  owner : row.currentOwnerID.bind emailOf = some asset.currentOwner
  value : row.currentValue.toFloat = asset.currentValue
  status : row.status = asset.status

/-- An accepted transfer moves an active asset, at the price that its last text reads as. -/
theorem accepted_transferAsset {client : FabricClient} {ledger final : Ledger} {proposal : Proposal}
    {assetID toOwner justification price identityLabel : String} {response : Response}
    (accepted : client.submitTransaction ledger proposal
      ⟨"TransferAsset", [assetID, toOwner, justification, price]⟩ identityLabel = (final, .ok response)) :
    ∃ before record, ledger.find assetID = some before ∧ before.status = statusActif ∧
      record.toOwner = toOwner ∧ parseFloat price = .ok record.amount ∧
      final.find assetID = some (before.afterTransfer record) := by
  obtain ⟨creator, invocation, stub, _, converted, invoked, rfl⟩ :=
    FabricClient.submitTransaction_eq_ok accepted
  rw [Chaincode.dispatch_transferAsset, bind_eq_ok] at converted
  obtain ⟨value, priced, same⟩ := converted
  obtain rfl := Except.ok.inj same
  obtain ⟨before, record, document, read, active, _, _, _, _, owner, amount, writes⟩ :=
    Chaincode.transferAsset_spec ((Chaincode.written_eq_ok _ _ _).mp invoked).1
  refine ⟨before, record, Chaincode.find_of_readAsset read, active, owner, ?_, ?_⟩
  · rw [amount]
    exact (Chaincode.convertFloat_eq_ok _ _).mp priced
  · rw [writes.writes]
    exact ledger.find_put _ _ _ document writes.marshalled

/-- An accepted freeze holds an asset that was free, in the name of the label's regulator. -/
theorem accepted_freezeAsset {client : FabricClient} {ledger final : Ledger} {proposal : Proposal}
    {assetID reason regulatoryRef identityLabel : String} {response : Response}
    (accepted : client.submitTransaction ledger proposal
      ⟨"FreezeAsset", [assetID, reason, regulatoryRef]⟩ identityLabel = (final, .ok response)) :
    ∃ creator before record,
      client.prepare ⟨"FreezeAsset", [assetID, reason, regulatoryRef]⟩ identityLabel = .ok creator ∧
      ledger.find assetID = some before ∧ before.status ≠ statusGele ∧
      Chaincode.Signed ({ proposal with creator }.context ledger) record ∧
      equalFold record.actorMSP "REG01MSP" = true ∧
      Chaincode.regulatoryRefPattern.matchString regulatoryRef = true ∧
      final.find assetID = some (before.afterFreeze record regulatoryRef) := by
  obtain ⟨creator, invocation, stub, prepared, converted, invoked, rfl⟩ :=
    FabricClient.submitTransaction_eq_ok accepted
  obtain rfl := Except.ok.inj converted
  obtain ⟨before, record, document, read, free, signed, role, _, reference, writes⟩ :=
    Chaincode.freezeAsset_spec ((Chaincode.written_eq_ok _ _ _).mp invoked).1
  refine ⟨creator, before, record, prepared, Chaincode.find_of_readAsset read, free, signed, role,
    reference, ?_⟩
  rw [writes.writes]
  exact ledger.find_put _ _ _ document writes.marshalled

/-- An accepted unfreeze releases a held asset. -/
theorem accepted_unfreezeAsset {client : FabricClient} {ledger final : Ledger} {proposal : Proposal}
    {assetID justification identityLabel : String} {response : Response}
    (accepted : client.submitTransaction ledger proposal ⟨"UnfreezeAsset", [assetID, justification]⟩
      identityLabel = (final, .ok response)) :
    ∃ before record, ledger.find assetID = some before ∧ before.status = statusGele ∧
      final.find assetID = some (before.afterUnfreeze record) := by
  obtain ⟨creator, invocation, stub, prepared, converted, invoked, rfl⟩ :=
    FabricClient.submitTransaction_eq_ok accepted
  obtain rfl := Except.ok.inj converted
  obtain ⟨before, record, document, read, held, _, _, _, writes⟩ :=
    Chaincode.unfreezeAsset_spec ((Chaincode.written_eq_ok _ _ _).mp invoked).1
  refine ⟨before, record, Chaincode.find_of_readAsset read, held, ?_⟩
  rw [writes.writes]
  exact ledger.find_put _ _ _ document writes.marshalled

end Pxtly.Assets
