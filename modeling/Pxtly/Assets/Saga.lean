/-
This file tells which compensating calls put the ledger back.
-/

import Pxtly.Assets.Arguments
import Pxtly.Assets.Delivery
import Pxtly.Chaincode.Provenance

namespace Pxtly.Assets

open Foundation Program
open Chaincode (statusActif statusGele AssetStatus FinancialAsset Ledger Proposal Request Response)
open Fabric (FabricClient isForbidden)

/-- A transfer changes the owner and the value of its asset. -/
def ownership (asset : FinancialAsset) : String × Float := (asset.currentOwner, asset.currentValue)

/-- A freeze and an unfreeze change these four fields. -/
def holdFields (asset : FinancialAsset) : AssetStatus × String × String × String :=
  (asset.status, asset.frozenBy, asset.frozenReason, asset.regulatoryRef)

/-- After a failed commit, the ledger of a transfer is the one that its main call made. -/
theorem transfer_final {client : FabricClient} {identityLabel : String} {request : TransferRequest}
    {currentUser : Option User} {fresh : Uuid} {ledger final : Ledger} {proposals : Nat → Proposal}
    {events : List ServiceEvent} {outcome : Except ServiceError AssetResponse}
    (executed : Executes (perform identityLabel (.transfer request currentUser fresh)) events outcome)
    (failed : ∃ event ∈ events, raisesCommit event = true)
    (delivered : Delivered client ledger proposals events final) :
    ∃ response, client.submitTransaction ledger (proposals 0) (transferCall request) identityLabel =
      (final, .ok response) := by
  have sent := delivered.submitted
  have alone : ∀ payload, submitted events = [⟨.submitTransaction (transferCall request) identityLabel,
      Reply.success payload⟩] → ∃ response, client.submitTransaction ledger (proposals 0)
        (transferCall request) identityLabel = (final, .ok response) := by
    intro payload only
    rw [only] at sent
    obtain ⟨observed, last⟩ := delivered_one sent
    obtain ⟨middle, response, accepted⟩ := FabricClient.exists_of_isOk observed.symm
    rw [accepted] at last
    exact ⟨response, last ▸ accepted⟩
  cases handled_of_executes executed failed with
  | stuck payload only rollback => exact alone payload only
  | abandoned payload only none => exact alone payload only
  | compensated payload other reply some both rolledBack =>
      rw [both] at sent
      obtain ⟨middle, observed, moved, _, last⟩ := delivered_two sent
      obtain ⟨_, response, accepted⟩ := FabricClient.exists_of_isOk observed.symm
      rw [accepted] at moved
      have unconverted : ∀ invocation, Chaincode.dispatch other ≠ .ok invocation := by
        cases currentUser with
        | none => cases some
        | some user =>
            simp only [Task.compensation, Option.ite_none_left_eq_some, Option.some.injEq] at some
            rw [← some.2]
            exact dispatch_transferCompensation request user.email
      have refused := client.submitTransaction_unconverted middle (proposals 1) other identityLabel
        unconverted
      rw [FabricClient.submitTransaction_refused refused, moved] at last
      exact ⟨response, last ▸ accepted⟩

/-- A failed transfer leaves owner and value exactly where its main call had written the old ones again. -/
theorem transferUndone_iff {client : FabricClient} {identityLabel : String} {request : TransferRequest}
    {currentUser : Option User} {fresh : Uuid} {ledger final : Ledger} {proposals : Nat → Proposal}
    {events : List ServiceEvent} {outcome : Except ServiceError AssetResponse} {before : FinancialAsset}
    (executed : Executes (perform identityLabel (.transfer request currentUser fresh)) events outcome)
    (failed : ∃ event ∈ events, raisesCommit event = true)
    (delivered : Delivered client ledger proposals events final)
    (found : ledger.find request.assetID = some before) :
    (final.find request.assetID).map ownership = some (ownership before) ↔
      request.toOwner = before.currentOwner ∧
        parseFloat request.justification = .ok before.currentValue := by
  obtain ⟨response, accepted⟩ := transfer_final executed failed delivered
  obtain ⟨asset, record, read, _, owner, price, moved⟩ := accepted_transferAsset accepted
  obtain rfl := Option.some.inj (found.symm.trans read)
  rw [moved, price, ← owner]
  simp [ownership, FinancialAsset.afterTransfer]

/-- A bond is issued and sold to Bob. -/
def soldLedger : Ledger := Ledger.empty.run [
  ⟨.healthy Chaincode.bank "t1", .tokenizeAsset "RWA-BANK-BOND-2026-001" "FR0000000001" "OBLIGATION" "Bond"
    "BANK0100000000000000" 100.0 "EUR" "2026-01-01" "issue"⟩,
  ⟨.healthy Chaincode.bank "t2", .transferAsset "RWA-BANK-BOND-2026-001" "bob@bank01.com" "sale" 100.0⟩]

def healthyProposals (index : Nat) : Proposal := .healthy Chaincode.bank ("t" ++ Nat.repr (index + 3))

/-- A justification can be a number. -/
def numberedTransfer (toOwner justification : String) (toOwnerBounded : Bounded 10 200 toOwner)
    (justificationBounded : Bounded 10 justificationMax justification) : TransferRequest :=
  { bondTransfer with toOwner, justification, toOwnerBounded, justificationBounded }

/-- The answers of a transfer by Bob whose commit fails. -/
def failedTransfer (request : TransferRequest) : List ServiceEvent :=
  transferApproach request "bank01" (some bondUser) bondUuid ++
    compensationAnswers "bank01" (Task.transfer request (some bondUser) bondUuid).compensation

theorem executes_failedTransfer (request : TransferRequest) :
    Executes (perform "bank01" (.transfer request (some bondUser) bondUuid)) (failedTransfer request)
      (.error .conversion) :=
  executes_transferApproach request "bank01" (some bondUser) bondUuid
    (executes_compensateTransfer request "bank01" (some bondUser) bondUuid .conversion _)

theorem raises_failedTransfer (request : TransferRequest) :
    ∃ event ∈ failedTransfer request, raisesCommit event = true :=
  List.any_eq_true.mp rfl

/-- Only the main call of a failed transfer changes the ledger. -/
theorem delivered_failedTransfer {client : FabricClient} {ledger middle : Ledger}
    {proposals : Nat → Proposal} {request : TransferRequest} {response : Response}
    (accepted : client.submitTransaction ledger (proposals 0) (transferCall request) "bank01" =
      (middle, .ok response)) :
    Delivered client ledger proposals (failedTransfer request) middle := by
  have refused := client.submitTransaction_unconverted middle (proposals 1) _ "bank01"
    (dispatch_transferCompensation request bondUser.email)
  have second : Delivered client middle (fun index => proposals (index + 1))
      [⟨.submitTransaction (transferCompensation request bondUser.email) "bank01",
        Reply.failure .conversion false⟩] middle := by
    refine .submission refused.symm ?_
    rw [FabricClient.submitTransaction_refused refused]
    exact .done _ _
  refine .other rfl (.other rfl (.other rfl (.submission ?_ (.other rfl (.other rfl ?_)))))
  · rw [accepted]
    rfl
  · rw [accepted]
    exact second

theorem soldLedger_bond : ∃ before, soldLedger.find "RWA-BANK-BOND-2026-001" = some before ∧
    before.currentOwner = "bob@bank01.com" ∧ before.currentValue = 100.0 ∧ before.status = statusActif := by
  have seen : (soldLedger.find "RWA-BANK-BOND-2026-001").map
      (fun asset => (asset.currentOwner, asset.currentValue, asset.status)) =
        some ("bob@bank01.com", 100.0, statusActif) := by decide +kernel
  obtain ⟨before, found, fields⟩ := Option.map_eq_some_iff.mp seen
  simp only [Prod.mk.injEq] at fields
  exact ⟨before, found, fields⟩

/-- A transfer to the old owner at the old value writes the old fields again. -/
def repeatedSale : TransferRequest := numberedTransfer "bob@bank01.com" "100.000000" (by decide) (by decide)

theorem transferUndone_iff_repeatedSale : ∃ final before,
    Executes (perform "bank01" (.transfer repeatedSale (some bondUser) bondUuid))
        (failedTransfer repeatedSale) (.error .conversion) ∧
      Delivered Fabric.defaultClient soldLedger healthyProposals (failedTransfer repeatedSale) final ∧
      soldLedger.find repeatedSale.assetID = some before ∧
      (final.find repeatedSale.assetID).map ownership = some (ownership before) := by
  obtain ⟨before, found, owner, value, _⟩ := soldLedger_bond
  have served : (Fabric.defaultClient.submitTransaction soldLedger (healthyProposals 0)
      (transferCall repeatedSale) "bank01").2.isOk = true := by decide +kernel
  obtain ⟨final, response, accepted⟩ := FabricClient.exists_of_isOk served
  have delivered := delivered_failedTransfer accepted
  refine ⟨final, before, executes_failedTransfer repeatedSale, delivered, found, ?_⟩
  rw [transferUndone_iff (executes_failedTransfer repeatedSale) (raises_failedTransfer repeatedSale)
    delivered found, owner, value]
  decide +kernel

/-- The justification of this sale is a number, so its main call is accepted. -/
def numberedSale : TransferRequest :=
  numberedTransfer "alice@bank01.com" "1234567890" bondTransfer.toOwnerBounded (by decide)

/-- A sale whose row agrees with the ledger fails to commit, and the ledger keeps the sale. -/
theorem numberedSale_kept : ∃ final before,
    Executes (perform "bank01" (.transfer numberedSale (some bondUser) bondUuid))
        (failedTransfer numberedSale) (.error .conversion) ∧
      (∃ event ∈ failedTransfer numberedSale, raisesCommit event = true) ∧
      soldLedger.find numberedSale.assetID = some before ∧
      Agrees (fun _ => some "bob@bank01.com") bondRow before ∧
      Delivered Fabric.defaultClient soldLedger healthyProposals (failedTransfer numberedSale) final ∧
      (final.find numberedSale.assetID).map ownership ≠ some (ownership before) := by
  obtain ⟨before, found, owner, value, status⟩ := soldLedger_bond
  have agrees : Agrees (fun _ => some "bob@bank01.com") bondRow before := by
    refine ⟨congrArg some owner.symm, ?_, status.symm⟩
    rw [value]
    decide +kernel
  have served : (Fabric.defaultClient.submitTransaction soldLedger (healthyProposals 0)
      (transferCall numberedSale) "bank01").2.isOk = true := by decide +kernel
  obtain ⟨final, response, accepted⟩ := FabricClient.exists_of_isOk served
  refine ⟨final, before, executes_failedTransfer numberedSale, raises_failedTransfer numberedSale, found,
    agrees, delivered_failedTransfer accepted, ?_⟩
  obtain ⟨_, record, _, _, buyer, _, moved⟩ := accepted_transferAsset accepted
  rw [moved]
  intro same
  have kept : record.toOwner = before.currentOwner := congrArg Prod.fst (Option.some.inj same)
  rw [buyer, owner] at kept
  exact absurd kept (by decide)

/-- A hold request is a freeze or an unfreeze. -/
inductive HoldRequest where
  | freeze (request : FreezeRequest)
  | unfreeze (request : UnfreezeRequest)

def HoldRequest.task (currentUser : Option User) (fresh : Uuid) : HoldRequest → Task
  | .freeze request => .freeze request currentUser fresh
  | .unfreeze request => .unfreezeAsset request currentUser fresh

def HoldRequest.assetID : HoldRequest → String
  | .freeze request => request.assetID
  | .unfreeze request => request.assetID

/-- The contract accepted the second submission. -/
def CompensationAccepted (events : List ServiceEvent) : Prop :=
  ∃ first second, submitted events = [first, second] ∧ appliesSubmission second = true

/-- The contract accepted the compensating call and the four fields are the old ones again. -/
structure HoldUndone (events : List ServiceEvent) (final : Ledger) (assetID : String)
    (before : FinancialAsset) : Prop where
  accepted : CompensationAccepted events
  restored : (final.find assetID).map holdFields = some (holdFields before)

/-- A freeze of a free asset can be undone when the rollback and the peer of the second call answer. -/
def HoldRequest.Undoable (before : FinancialAsset) (events : List ServiceEvent) (second : Proposal) :
    HoldRequest → Prop
  | .freeze _ => (∀ event ∈ events, failsRollback event = false) ∧ second.ServesUnfreeze ∧
      holdFields before = (statusActif, "", "", "")
  | .unfreeze _ => False

theorem not_compensationAccepted {events : List ServiceEvent} {first : ServiceEvent}
    (only : submitted events = [first]) : ¬ CompensationAccepted events := by
  rintro ⟨_, _, both, _⟩
  cases only.symm.trans both

theorem compensationAccepted_iff {events : List ServiceEvent} {first second : ServiceEvent}
    (both : submitted events = [first, second]) :
    CompensationAccepted events ↔ appliesSubmission second = true := by
  constructor
  · rintro ⟨_, other, same, accepted⟩
    have tails := (List.cons.inj (both.symm.trans same)).2
    rw [(List.cons.inj tails).1]
    exact accepted
  · intro accepted
    exact ⟨first, second, both, accepted⟩

/-- No unfreeze is compensated: its reference has no year and no number. -/
theorem compensationReference_refused :
    Chaincode.regulatoryRefPattern.matchString "SAGA-COMP" = false := by decide +kernel

/-- The compensating unfreeze is accepted exactly when its peer serves it. -/
theorem compensatingUnfreeze_isOk {client : FabricClient} {ledger middle : Ledger}
    {first second : Proposal} {request : FreezeRequest} {identityLabel : String} {response : Response}
    (accepted : client.submitTransaction ledger first (freezeChange request).call identityLabel =
      (middle, .ok response)) :
    (client.submitTransaction middle second (freezeChange request).compensation identityLabel).2.isOk =
      true ↔ second.ServesUnfreeze := by
  obtain ⟨creator, before, record, prepared, _, _, signed, role, _, frozen⟩ :=
    accepted_freezeAsset accepted
  obtain ⟨json, stored, decoded⟩ := (middle.find_eq_some _ _).mp frozen
  have preparedAgain : client.prepare (freezeChange request).compensation identityLabel = .ok creator := by
    rw [FabricClient.prepare_eq_ok] at prepared ⊢
    refine ⟨?_, prepared.2⟩
    intro argument member
    simp only [freezeChange, List.mem_cons, List.not_mem_nil, or_false] at member
    rcases member with rfl | rfl
    · exact prepared.1 _ List.mem_cons_self
    · decide +kernel
  have nonempty : request.assetID ≠ "" := by
    intro empty
    have long := request.assetIDBounded.1
    rw [empty] at long
    exact absurd long (by decide)
  rw [FabricClient.submitTransaction_isOk middle second preparedAgain rfl, isOk_iff]
  have serves := Chaincode.exists_unfreezeAsset_iff { second with creator } compensationText
    ⟨signed.msp, signed.mspNonempty⟩ role ⟨signed.dn, signed.dnNonempty⟩ nonempty stored decoded rfl
  constructor
  · rintro ⟨⟨stub, answer⟩, invoked⟩
    have served := serves.mp ⟨stub, ((Chaincode.written_eq_ok _ _ _).mp invoked).1⟩
    exact ⟨served.getState, served.setEvent, served.putState, served.timestamp⟩
  · intro served
    obtain ⟨stub, unfrozen⟩ :=
      serves.mpr ⟨served.getState, served.setEvent, served.putState, served.timestamp⟩
    exact ⟨(stub, .empty), (Chaincode.written_eq_ok _ _ _).mpr ⟨unfrozen, rfl⟩⟩

/-- An accepted compensating unfreeze leaves a free asset. -/
theorem compensatingUnfreeze_restores {client : FabricClient} {ledger middle final : Ledger}
    {first second : Proposal} {request : FreezeRequest} {identityLabel : String} {response : Response}
    {before : FinancialAsset}
    (accepted : client.submitTransaction ledger first (freezeChange request).call identityLabel =
      (middle, .ok response))
    (last : final =
      (client.submitTransaction middle second (freezeChange request).compensation identityLabel).1)
    (serves : second.ServesUnfreeze) :
    (final.find request.assetID).map holdFields = some (holdFields before) ↔
      holdFields before = (statusActif, "", "", "") := by
  obtain ⟨_, answer, unfrozen⟩ :=
    FabricClient.exists_of_isOk ((compensatingUnfreeze_isOk accepted).mpr serves)
  obtain ⟨asset, record, _, _, released⟩ := accepted_unfreezeAsset unfrozen
  rw [last, unfrozen, released]
  exact ⟨fun same => (Option.some.inj same).symm, fun same => congrArg some same.symm⟩

/-- A compensating freeze never reaches its write. -/
theorem compensatingFreeze_refused (client : FabricClient) (ledger : Ledger) (proposal : Proposal)
    (request : UnfreezeRequest) (identityLabel : String) :
    (client.submitTransaction ledger proposal (unfreezeChange request).compensation identityLabel).2.isOk =
      false := by
  apply Bool.eq_false_iff.mpr
  intro isOk
  obtain ⟨_, response, accepted⟩ := FabricClient.exists_of_isOk isOk
  obtain ⟨_, _, _, _, _, _, _, _, reference, _⟩ := accepted_freezeAsset accepted
  rw [compensationReference_refused] at reference
  cases reference

/-- After a failed commit, a hold is undone exactly when its request was an undoable freeze. -/
theorem holdUndone_iff {client : FabricClient} {identityLabel : String} {request : HoldRequest}
    {currentUser : Option User} {fresh : Uuid} {ledger final : Ledger} {proposals : Nat → Proposal}
    {events : List ServiceEvent} {outcome : Except ServiceError AssetResponse} {before : FinancialAsset}
    (executed : Executes (perform identityLabel (request.task currentUser fresh)) events outcome)
    (failed : ∃ event ∈ events, raisesCommit event = true)
    (delivered : Delivered client ledger proposals events final)
    (found : ledger.find request.assetID = some before) :
    HoldUndone events final request.assetID before ↔ request.Undoable before events (proposals 1) := by
  have sent := delivered.submitted
  have handled := handled_of_executes executed failed
  cases request with
  | unfreeze request =>
      refine iff_of_false ?_ id
      intro undone
      cases handled with
      | stuck payload only rollback => exact not_compensationAccepted only undone.accepted
      | abandoned payload only none => cases none
      | compensated payload other reply some both rolledBack =>
          have accepted := (compensationAccepted_iff both).mp undone.accepted
          rw [both] at sent
          obtain ⟨middle, _, _, observed, _⟩ := delivered_two sent
          obtain rfl := Option.some.inj some
          have refused := compensatingFreeze_refused client middle (proposals 1) request identityLabel
          rw [← observed] at refused
          cases accepted.symm.trans refused
  | freeze request =>
      cases handled with
      | stuck payload only rollback =>
          refine iff_of_false (fun undone => not_compensationAccepted only undone.accepted) ?_
          rintro ⟨rolledBack, _⟩
          obtain ⟨event, member, fails⟩ := rollback
          rw [rolledBack event member] at fails
          cases fails
      | abandoned payload only none => cases none
      | compensated payload other reply some both rolledBack =>
          rw [both] at sent
          obtain ⟨_, first, rfl, observed, last⟩ := delivered_two sent
          obtain rfl := Option.some.inj some
          obtain ⟨middle, response, accepted⟩ := FabricClient.exists_of_isOk first.symm
          change client.submitTransaction ledger (proposals 0) (freezeChange request).call identityLabel =
            _ at accepted
          simp only [HoldRequest.task, Task.call, accepted] at observed last
          have served : appliesSubmission ⟨.submitTransaction (freezeChange request).compensation
              identityLabel, reply⟩ = true ↔ (proposals 1).ServesUnfreeze := by
            rw [← compensatingUnfreeze_isOk accepted, ← observed]
            rfl
          constructor
          · intro undone
            have serves := served.mp ((compensationAccepted_iff both).mp undone.accepted)
            exact ⟨rolledBack, serves,
              (compensatingUnfreeze_restores accepted last serves).mp undone.restored⟩
          · rintro ⟨_, serves, free⟩
            exact ⟨(compensationAccepted_iff both).mpr (served.mpr serves),
              (compensatingUnfreeze_restores accepted last serves).mpr free⟩

/-- On a ledger that a run of calls made, an asset that is not held has empty hold fields. -/
theorem holdFields_of_run {calls : List Chaincode.Call} {assetID : String} {before : FinancialAsset}
    (found : (Ledger.empty.run calls).find assetID = some before) (free : before.status ≠ statusGele) :
    holdFields before = (statusActif, "", "", "") := by
  have sound := (Ledger.run_sound Ledger.empty_sound calls).of_find found
  obtain ⟨holding, _, reflects⟩ := sound.replay
  obtain ⟨status, frozenBy, _, frozenReason, reference⟩ := reflects.free (reflects.hold_eq_none free)
  rw [holdFields, status, frozenBy, frozenReason, reference]

/-- Both submissions of a failed hold reach their peers. -/
theorem delivered_failedHold {client : FabricClient} {ledger : Ledger} {proposals : Nat → Proposal}
    {change : HoldChange} {identityLabel : String} {response : Response} {middle : Ledger}
    (currentUser : Option User) (fresh : Uuid) (reply : Reply Json)
    (accepted : client.submitTransaction ledger (proposals 0) change.call identityLabel =
      (middle, .ok response))
    (observed : reply.applied =
      (client.submitTransaction middle (proposals 1) change.compensation identityLabel).2.isOk) :
    Delivered client ledger proposals
      (failedHold identityLabel change currentUser fresh (.object []) unknownFabric reply)
      (client.submitTransaction middle (proposals 1) change.compensation identityLabel).1 := by
  have second : Delivered client middle (fun index => proposals (index + 1))
      [⟨.submitTransaction change.compensation identityLabel, reply⟩]
      (client.submitTransaction middle (proposals 1) change.compensation identityLabel).1 :=
    .submission observed (.done _ _)
  refine .submission ?_ (.other rfl (.other rfl (.other rfl ?_)))
  · rw [accepted]
    rfl
  · rw [accepted]
    exact second

theorem raises_failedHold (identityLabel : String) (change : HoldChange) (currentUser : Option User)
    (fresh : Uuid) (reply : Reply Json) :
    ∃ event ∈ failedHold identityLabel change currentUser fresh (.object []) unknownFabric reply,
      raisesCommit event = true :=
  List.any_eq_true.mp rfl

/-- The regulator freezes the sold bond, fails to commit, and the ledger is put back. -/
theorem holdUndone_iff_bondFreeze : ∃ events final before,
    Executes (perform "reg01" ((HoldRequest.freeze bondFreeze).task none bondUuid)) events
        (.error .conversion) ∧
      Delivered Fabric.defaultClient soldLedger healthyProposals events final ∧
      soldLedger.find bondFreeze.assetID = some before ∧
      HoldUndone events final bondFreeze.assetID before := by
  have served : (Fabric.defaultClient.submitTransaction soldLedger (healthyProposals 0)
      (freezeChange bondFreeze).call "reg01").2.isOk = true := by decide +kernel
  obtain ⟨middle, response, accepted⟩ := FabricClient.exists_of_isOk served
  have serves : (healthyProposals 1).ServesUnfreeze :=
    ⟨rfl, rfl, rfl, Chaincode.zeroTime, rfl, by decide⟩
  have observed := ((compensatingUnfreeze_isOk accepted).mpr serves).symm
  have delivered := delivered_failedHold none bondUuid (.success .null) accepted observed
  have read : readResponse (freezeChange bondFreeze).invalidResponse (.object []) = .ok unknownFabric := rfl
  have executed : Executes (perform "reg01" ((HoldRequest.freeze bondFreeze).task none bondUuid))
      (failedHold "reg01" (freezeChange bondFreeze) none bondUuid (.object []) unknownFabric
        (.success .null)) (.error .conversion) :=
    executes_failedHold "reg01" (freezeChange bondFreeze) none bondUuid _ read
  obtain ⟨_, before, _, _, found, free, _⟩ := accepted_freezeAsset accepted
  have undoable : (HoldRequest.freeze bondFreeze).Undoable before
      (failedHold "reg01" (freezeChange bondFreeze) none bondUuid (.object []) unknownFabric
        (.success .null)) (healthyProposals 1) := by
    refine ⟨?_, serves, holdFields_of_run found free⟩
    intro event member
    simp only [failedHold, List.mem_cons, List.not_mem_nil, or_false] at member
    rcases member with rfl | rfl | rfl | rfl | rfl <;> rfl
  exact ⟨_, _, before, executed, delivered, found,
    (holdUndone_iff executed (raises_failedHold _ _ _ _ _) delivered found).mpr undoable⟩

def frozenLedger : Ledger := soldLedger.run [
  ⟨.healthy Chaincode.regulator "t3",
    .freezeAsset "RWA-BANK-BOND-2026-001" "market abuse inquiry" "REG-INV-2026-001"⟩]

/-- The regulator unfreezes the frozen bond, fails to commit, and the compensation is refused. -/
theorem bondUnfreeze_kept : ∃ events final before,
    Executes (perform "reg01" ((HoldRequest.unfreeze bondUnfreeze).task none bondUuid)) events
        (.error .conversion) ∧
      (∃ event ∈ events, raisesCommit event = true) ∧
      Delivered Fabric.defaultClient frozenLedger healthyProposals events final ∧
      frozenLedger.find bondUnfreeze.assetID = some before ∧
      ¬ HoldUndone events final bondUnfreeze.assetID before := by
  have served : (Fabric.defaultClient.submitTransaction frozenLedger (healthyProposals 0)
      (unfreezeChange bondUnfreeze).call "reg01").2.isOk = true := by decide +kernel
  obtain ⟨middle, response, accepted⟩ := FabricClient.exists_of_isOk served
  have refused := compensatingFreeze_refused Fabric.defaultClient middle (healthyProposals 1) bondUnfreeze
    "reg01"
  have delivered := delivered_failedHold none bondUuid (.failure .conversion false) accepted refused.symm
  have read : readResponse (unfreezeChange bondUnfreeze).invalidResponse (.object []) =
    .ok unknownFabric := rfl
  have executed := executes_failedHold "reg01" (unfreezeChange bondUnfreeze) none bondUuid
    (.failure .conversion false) read
  obtain ⟨before, _, found, _⟩ := accepted_unfreezeAsset accepted
  refine ⟨_, _, before, executed, raises_failedHold _ _ _ _ _, delivered, found, ?_⟩
  intro undone
  have both : submitted (failedHold "reg01" (unfreezeChange bondUnfreeze) none bondUuid (.object [])
      unknownFabric (.failure .conversion false)) = [_, _] := rfl
  cases (compensationAccepted_iff both).mp undone.accepted

end Pxtly.Assets
