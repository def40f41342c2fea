/-
This file gives the positional conversion of a call's texts to the parameters of a function.
-/

import Pxtly.Foundation.Numerals
import Pxtly.Chaincode.Calls

namespace Pxtly.Chaincode

open Foundation

/-- A call of the contract arrives as a function name and texts. -/
structure Request where
  function : String
  arguments : List String
  deriving DecidableEq, Repr

def wrongCount (expected : Nat) (arguments : List String) : GoError :=
  .errorf "Incorrect number of params. Expected %d, received %d"
    [.integer expected, .integer arguments.length]

/-- A parameter of type `float64` takes a text that `strconv.ParseFloat` accepts. -/
def convertFloat (text : String) : Except GoError Float :=
  match parseFloat text with
  | .ok value => .ok value
  | .error _ => .error (.errorf "cannot convert passed value %s to float64" [.text text])

/-- Each text is converted to the type of the parameter at its position. -/
def dispatch (request : Request) : Except GoError Invocation :=
  match request.function, request.arguments with
  | "TokenizeAsset", [assetID, isin, assetType, assetName, issuerLEI, nominalValue, currency,
      issuanceDate, justification] => do
      let nominalValue ← convertFloat nominalValue
      return .tokenizeAsset assetID isin assetType assetName issuerLEI nominalValue currency issuanceDate
        justification
  | "TransferAsset", [assetID, toOwner, justification, price] => do
      let price ← convertFloat price
      return .transferAsset assetID toOwner justification price
  | "FreezeAsset", [assetID, reason, regulatoryRef] => .ok (.freezeAsset assetID reason regulatoryRef)
  | "UnfreezeAsset", [assetID, justification] => .ok (.unfreezeAsset assetID justification)
  | "GetAsset", [assetID] => .ok (.getAsset assetID)
  | "GetAssetHistory", [assetID] => .ok (.getAssetHistory assetID)
  | "GetProvenanceTrail", [assetID] => .ok (.getProvenanceTrail assetID)
  | "QueryAssets", [queryString] => .ok (.queryAssets queryString)
  | "TokenizeAsset", arguments => .error (wrongCount 9 arguments)
  | "TransferAsset", arguments => .error (wrongCount 4 arguments)
  | "FreezeAsset", arguments => .error (wrongCount 3 arguments)
  | "UnfreezeAsset", arguments => .error (wrongCount 2 arguments)
  | "GetAsset", arguments => .error (wrongCount 1 arguments)
  | "GetAssetHistory", arguments => .error (wrongCount 1 arguments)
  | "GetProvenanceTrail", arguments => .error (wrongCount 1 arguments)
  | "QueryAssets", arguments => .error (wrongCount 1 arguments)
  | function, _ => .error (.errorf "Function %s not found in contract %s"
      [.text function, .text "AssetTraceContract"])

/-- A request that cannot be converted fails before the contract runs. -/
def Ledger.deliver (ledger : Ledger) (proposal : Proposal) (request : Request) :
    Ledger × Except GoError Response :=
  match dispatch request with
  | .ok invocation => ledger.submit ⟨proposal, invocation⟩
  | .error err => (ledger, .error err)

@[simp] theorem convertFloat_eq_ok (text : String) (value : Float) :
    convertFloat text = .ok value ↔ parseFloat text = .ok value := by
  unfold convertFloat
  cases parseFloat text <;> simp

@[simp] theorem dispatch_transferAsset (assetID toOwner justification price : String) :
    dispatch ⟨"TransferAsset", [assetID, toOwner, justification, price]⟩ =
      (do return .transferAsset assetID toOwner justification (← convertFloat price)) := rfl

/-- A converted request is submitted. -/
theorem Ledger.deliver_ok {ledger : Ledger} {proposal : Proposal} {request : Request}
    {invocation : Invocation} (converted : dispatch request = .ok invocation) :
    ledger.deliver proposal request = ledger.submit ⟨proposal, invocation⟩ := by
  rw [deliver, converted]

theorem Ledger.deliver_error {ledger : Ledger} {proposal : Proposal} {request : Request} {err : GoError}
    (refused : dispatch request = .error err) :
    ledger.deliver proposal request = (ledger, .error err) := by
  rw [deliver, refused]

/-- What the peers hand out is what the contract returns. -/
theorem Ledger.response_of_deliver {ledger : Ledger} {proposal : Proposal} {request : Request} {invocation : Invocation}
    {response : Response} (converted : dispatch request = .ok invocation)
    (delivered : (ledger.deliver proposal request).2 = .ok response) :
    ∃ stub, invoke (proposal.context ledger) invocation = .ok (stub, response) := by
  rw [deliver_ok converted, submit] at delivered
  split at delivered
  next stub answer accepted =>
    obtain rfl := Except.ok.inj delivered
    exact ⟨stub, accepted⟩
  next => cases delivered

theorem Ledger.response_of_getAsset {ledger : Ledger} {proposal : Proposal} {assetID : String} {response : Response}
    (delivered : (ledger.deliver proposal ⟨"GetAsset", [assetID]⟩).2 = .ok response) :
    ∃ asset, ledger.find assetID = some asset ∧ response = .asset asset := by
  obtain ⟨stub, accepted⟩ := response_of_deliver rfl delivered
  obtain ⟨_, asset, read, same⟩ := (answered_eq_ok _ _ _ _ _).mp accepted
  exact ⟨asset, find_of_readAsset read, same⟩

theorem Ledger.response_of_getProvenanceTrail {ledger : Ledger} {proposal : Proposal} {assetID : String}
    {response : Response} (delivered : (ledger.deliver proposal ⟨"GetProvenanceTrail", [assetID]⟩).2 = .ok response) :
    ∃ asset, ledger.find assetID = some asset ∧ response = .trail asset.provenance := by
  obtain ⟨stub, accepted⟩ := response_of_deliver rfl delivered
  obtain ⟨_, records, trail, same⟩ := (answered_eq_ok _ _ _ _ _).mp accepted
  simp only [getProvenanceTrail, bind_eq_ok, wrapping_eq_ok] at trail
  obtain ⟨asset, read, returned⟩ := trail
  obtain rfl := Except.ok.inj returned
  exact ⟨asset, find_of_readAsset read, same⟩

/-- An iterator that hands out all of its entries has changed none. -/
theorem entries_of_next {stub : Stub} {A : Type} {message : String} (iterator : List A) {entries : List A}
    (listed : iterator.mapM (fun entry => wrapping message (stub.next entry)) = .ok entries) : entries = iterator := by
  induction iterator generalizing entries with
  | nil => exact (Except.ok.inj listed).symm
  | cons entry rest inductionHypothesis =>
      obtain ⟨first, others, given, later, rfl⟩ := mapM_cons_eq_ok.mp listed
      rw [wrapping_eq_ok] at given
      rw [inductionHypothesis later, Except.ok.inj ((Stub.ask_eq_ok _ _ _ _).mp given).2]

theorem Ledger.response_of_getAssetHistory {ledger : Ledger} {proposal : Proposal} {assetID : String}
    {response : Response} (delivered : (ledger.deliver proposal ⟨"GetAssetHistory", [assetID]⟩).2 = .ok response) :
    response = .history (ledger.history assetID) := by
  obtain ⟨stub, accepted⟩ := response_of_deliver rfl delivered
  obtain ⟨_, entries, listed, same⟩ := (answered_eq_ok _ _ _ _ _).mp accepted
  simp only [getAssetHistory, bind_eq_ok, wrapping_eq_ok] at listed
  obtain ⟨iterator, opened, handed⟩ := listed
  obtain rfl := Except.ok.inj ((Stub.ask_eq_ok _ _ _ _).mp opened).2
  rw [same, entries_of_next _ handed]
  rfl

end Pxtly.Chaincode
