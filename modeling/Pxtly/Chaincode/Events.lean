/-
This file gives the events that the writing calls of the contract leave to the clients of the ledger.
-/

import Pxtly.Chaincode.Calls

namespace Pxtly.Chaincode

open Foundation

/-- The four writing functions emit an event, and the read functions emit none. -/
def Invocation.eventName : Invocation → Option String
  | .tokenizeAsset .. => some "AssetCreated"
  | .transferAsset .. => some "AssetTransferred"
  | .freezeAsset .. => some "AssetFrozen"
  | .unfreezeAsset .. => some "AssetUnfrozen"
  | _ => none

/-- The last event of a call carries the document that the call writes. -/
structure Emits (ctx : TransactionContext) (stub : Stub) (name assetID : String) (asset : FinancialAsset)
    (document : Json) : Prop extends Writes ctx stub assetID asset document where
  event : stub.event = some (name, .document document)

section Functions

variable {ctx : TransactionContext} {assetID : String} {stub : Stub}

theorem tokenizeAsset_emits {isin assetType assetName issuerLEI currency issuanceDate justification : String}
    {nominalValue : Float}
    (accepted : tokenizeAsset ctx assetID isin assetType assetName issuerLEI nominalValue currency
      issuanceDate justification = .ok stub) :
    ∃ asset document, Emits ctx stub "AssetCreated" assetID asset document := by
  simp only [tokenizeAsset, bind_eq_ok, wrapping_eq_ok, Stub.putState_eq_ok, Stub.setEvent_eq_ok] at accepted
  obtain ⟨_, _, _, _, _, _, _, _, _, _, _, _, _, _, _, _, _, _, _, _, _, _, document, marshalled, _, ⟨_, _, rfl⟩, _,
    rfl⟩ := accepted
  exact ⟨_, document, ⟨marshalled, rfl⟩, rfl⟩

/-- The event of the MiCA threshold is lost, since a later event of the call replaces it. -/
theorem transferAsset_emits {toOwner justification : String} {price : Float}
    (accepted : transferAsset ctx assetID toOwner justification price = .ok stub) :
    ∃ asset document, Emits ctx stub "AssetTransferred" assetID asset document := by
  simp only [transferAsset, bind_eq_ok, wrapping_eq_ok, Stub.putState_eq_ok, Stub.setEvent_eq_ok] at accepted
  obtain ⟨_, _, _, _, _, _, _, _, checkedStub, checked, _, _, _, _, _, _, document, marshalled, _, ⟨_, _, rfl⟩, _,
    rfl⟩ := accepted
  obtain ⟨event, rfl⟩ := checkMiCAThreshold_frame _ _ _ _ checked
  exact ⟨_, document, ⟨marshalled, rfl⟩, rfl⟩

theorem freezeAsset_emits {reason regulatoryRef : String}
    (accepted : freezeAsset ctx assetID reason regulatoryRef = .ok stub) :
    ∃ asset document, Emits ctx stub "AssetFrozen" assetID asset document := by
  simp only [freezeAsset, bind_eq_ok, wrapping_eq_ok, Stub.putState_eq_ok, Stub.setEvent_eq_ok] at accepted
  obtain ⟨_, _, _, _, _, _, _, _, _, _, _, _, _, _, document, marshalled, _, ⟨_, _, rfl⟩, _, rfl⟩ := accepted
  exact ⟨_, document, ⟨marshalled, rfl⟩, rfl⟩

theorem unfreezeAsset_emits {justification : String} (accepted : unfreezeAsset ctx assetID justification = .ok stub) :
    ∃ asset document, Emits ctx stub "AssetUnfrozen" assetID asset document := by
  simp only [unfreezeAsset, bind_eq_ok, wrapping_eq_ok, Stub.putState_eq_ok, Stub.setEvent_eq_ok] at accepted
  obtain ⟨_, _, _, _, _, _, _, _, _, _, _, _, document, marshalled, _, ⟨_, rfl⟩, _, _, rfl⟩ := accepted
  exact ⟨_, document, ⟨marshalled, rfl⟩, rfl⟩

end Functions

/-- An accepted call with an event emits the document of an asset under the name of its function. -/
theorem invoke_emits {ctx : TransactionContext} {invocation : Invocation} {stub : Stub} {response : Response}
    {name : String}
    (accepted : invoke ctx invocation = .ok (stub, response)) (named : invocation.eventName = some name) :
    ∃ assetID asset document, Emits ctx stub name assetID asset document := by
  cases invocation <;> cases named <;> rw [invoke, written_eq_ok] at accepted
  · exact ⟨_, tokenizeAsset_emits accepted.1⟩
  · exact ⟨_, transferAsset_emits accepted.1⟩
  · exact ⟨_, freezeAsset_emits accepted.1⟩
  · exact ⟨_, unfreezeAsset_emits accepted.1⟩

/-- An accepted call without an event leaves the stub as it is. -/
theorem invoke_silent {ctx : TransactionContext} {invocation : Invocation} {stub : Stub} {response : Response}
    (accepted : invoke ctx invocation = .ok (stub, response)) (silent : invocation.eventName = none) :
    stub = ctx.stub := by
  cases invocation <;> cases silent <;> exact ((answered_eq_ok _ _ _ _ _).mp accepted).1

/-- The peers hand out the event of a call that they accept. -/
def Ledger.emit (ledger : Ledger) (call : Call) : Option (String × EventPayload) :=
  match invoke (call.proposal.context ledger) call.invocation with
  | .ok (stub, _) => stub.event
  | .error _ => none

/-- These are the events of a run of calls in their order. -/
def Ledger.emitted : Ledger → List Call → List (String × EventPayload)
  | _, [] => []
  | ledger, call :: later => (ledger.emit call).toList ++ (ledger.submit call).1.emitted later

/-- A call that emits nothing writes nothing. -/
theorem Ledger.submit_of_silent {ledger : Ledger} {call : Call} (silent : ledger.emit call = none) :
    (ledger.submit call).1 = ledger := by
  unfold emit at silent
  unfold submit
  cases accepted : invoke (call.proposal.context ledger) call.invocation with
  | error err => rfl
  | ok answer =>
      rw [accepted] at silent
      cases named : call.invocation.eventName with
      | none =>
          have same := invoke_silent accepted named
          simp only [same]
          rfl
      | some name =>
          obtain ⟨assetID, asset, document, emits⟩ := invoke_emits accepted named
          cases emits.event.symm.trans silent

theorem Ledger.run_of_silent {ledger : Ledger} {calls : List Call} (silent : ledger.emitted calls = []) :
    ledger.run calls = ledger := by
  induction calls with
  | nil => rfl
  | cons call later inductionHypothesis =>
      obtain ⟨first, others⟩ := List.append_eq_nil_iff.mp silent
      have same := submit_of_silent (Option.toList_eq_nil_iff.mp first)
      rw [same] at others
      rw [run, List.foldl_cons, same]
      exact inductionHypothesis others

end Pxtly.Chaincode
