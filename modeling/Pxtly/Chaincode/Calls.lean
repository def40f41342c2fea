/-
This file gives the calls of the contract and the runs of a ledger under them.
-/

import Pxtly.Chaincode.Operations

namespace Pxtly.Chaincode

open Foundation

/-- An invocation is a function of the contract with its converted arguments. -/
inductive Invocation where
  | tokenizeAsset (assetID isin assetType assetName issuerLEI : String) (nominalValue : Float)
      (currency issuanceDate justification : String)
  | transferAsset (assetID toOwner justification : String) (price : Float)
  | freezeAsset (assetID reason regulatoryRef : String)
  | unfreezeAsset (assetID justification : String)
  | getAsset (assetID : String)
  | getAssetHistory (assetID : String)
  | getProvenanceTrail (assetID : String)
  | queryAssets (queryString : String)
  deriving DecidableEq, Repr

/-- The writing functions return nothing but their error. -/
inductive Response where
  | empty
  | asset (value : FinancialAsset)
  | history (entries : List HistoryEntry)
  | trail (records : List ProvenanceRecord)
  | assets (values : List FinancialAsset)

def Invocation.functionName : Invocation → String
  | .tokenizeAsset .. => "TokenizeAsset"
  | .transferAsset .. => "TransferAsset"
  | .freezeAsset .. => "FreezeAsset"
  | .unfreezeAsset .. => "UnfreezeAsset"
  | .getAsset .. => "GetAsset"
  | .getAssetHistory .. => "GetAssetHistory"
  | .getProvenanceTrail .. => "GetProvenanceTrail"
  | .queryAssets .. => "QueryAssets"

/-- A writing function answers with the stub that collects its write. -/
def written (result : Except GoError Stub) : Except GoError (Stub × Response) := do
  let stub ← result
  return (stub, .empty)

/-- A read leaves the stub as it is. -/
def answered {A : Type} (ctx : TransactionContext) (response : A → Response)
    (result : Except GoError A) : Except GoError (Stub × Response) := do
  let value ← result
  return (ctx.stub, response value)

def invoke (ctx : TransactionContext) : Invocation → Except GoError (Stub × Response)
  | .tokenizeAsset assetID isin assetType assetName issuerLEI nominalValue currency issuanceDate
      justification =>
      written (tokenizeAsset ctx assetID isin assetType assetName issuerLEI nominalValue currency
        issuanceDate justification)
  | .transferAsset assetID toOwner justification price =>
      written (transferAsset ctx assetID toOwner justification price)
  | .freezeAsset assetID reason regulatoryRef => written (freezeAsset ctx assetID reason regulatoryRef)
  | .unfreezeAsset assetID justification => written (unfreezeAsset ctx assetID justification)
  | .getAsset assetID => answered ctx .asset (getAsset ctx assetID)
  | .getAssetHistory assetID => answered ctx .history (getAssetHistory ctx assetID)
  | .getProvenanceTrail assetID => answered ctx .trail (getProvenanceTrail ctx assetID)
  | .queryAssets queryString => answered ctx .assets (queryAssets ctx queryString)

/-- A call is an invocation that a caller proposes. -/
structure Call where
  proposal : Proposal
  invocation : Invocation

/-- Fabric applies the writes of a call only when the call returns no error. -/
def Ledger.submit (ledger : Ledger) (call : Call) : Ledger × Except GoError Response :=
  match invoke (call.proposal.context ledger) call.invocation with
  | .ok (stub, response) => (ledger.commit call.proposal.txID stub.writes, .ok response)
  | .error err => (ledger, .error err)

def Ledger.run (ledger : Ledger) (calls : List Call) : Ledger :=
  calls.foldl (fun ledger call => (ledger.submit call).1) ledger

@[simp] theorem written_eq_ok (result : Except GoError Stub) (stub : Stub) (response : Response) :
    written result = .ok (stub, response) ↔ result = .ok stub ∧ response = .empty := by
  simp only [written, bind_eq_ok]
  constructor
  · rintro ⟨middle, isOk, same⟩
    obtain ⟨rfl, rfl⟩ := Prod.mk.inj (Except.ok.inj same)
    exact ⟨isOk, rfl⟩
  · rintro ⟨isOk, rfl⟩
    exact ⟨stub, isOk, rfl⟩

@[simp] theorem answered_eq_ok {A : Type} (ctx : TransactionContext) (response : A → Response)
    (result : Except GoError A) (stub : Stub) (answer : Response) :
    answered ctx response result = .ok (stub, answer) ↔
      stub = ctx.stub ∧ ∃ value, result = .ok value ∧ answer = response value := by
  simp only [answered, bind_eq_ok]
  constructor
  · rintro ⟨value, isOk, same⟩
    obtain ⟨rfl, rfl⟩ := Prod.mk.inj (Except.ok.inj same)
    exact ⟨rfl, value, isOk, rfl⟩
  · rintro ⟨rfl, value, isOk, rfl⟩
    exact ⟨value, isOk, rfl⟩

/-- An accepted invocation changes one asset or writes nothing. -/
theorem invoke_cases {ctx : TransactionContext} {invocation : Invocation} {stub : Stub}
    {response : Response} (accepted : invoke ctx invocation = .ok (stub, response)) :
    stub = ctx.stub ∨
      ∃ assetID asset document, Change ctx assetID asset ∧ Writes ctx stub assetID asset document := by
  cases invocation with
  | tokenizeAsset =>
      rw [invoke, written_eq_ok] at accepted
      obtain ⟨asset, document, change, writes⟩ := tokenizeAsset_change accepted.1
      exact .inr ⟨_, asset, document, change, writes⟩
  | transferAsset =>
      rw [invoke, written_eq_ok] at accepted
      obtain ⟨before, record, document, read, active, signed, role, action, sender, _, _, writes⟩ :=
        transferAsset_spec accepted.1
      exact .inr ⟨_, _, document, .transferred before record read active signed role action sender, writes⟩
  | freezeAsset =>
      rw [invoke, written_eq_ok] at accepted
      obtain ⟨before, record, document, read, free, signed, role, action, reference, writes⟩ :=
        freezeAsset_spec accepted.1
      exact .inr ⟨_, _, document, .frozen before record _ read free signed role action reference, writes⟩
  | unfreezeAsset =>
      rw [invoke, written_eq_ok] at accepted
      obtain ⟨before, record, document, read, held, signed, role, action, writes⟩ :=
        unfreezeAsset_spec accepted.1
      exact .inr ⟨_, _, document, .unfrozen before record read held signed role action, writes⟩
  | getAsset => exact .inl ((answered_eq_ok _ _ _ _ _).mp accepted).1
  | getAssetHistory => exact .inl ((answered_eq_ok _ _ _ _ _).mp accepted).1
  | getProvenanceTrail => exact .inl ((answered_eq_ok _ _ _ _ _).mp accepted).1
  | queryAssets => exact .inl ((answered_eq_ok _ _ _ _ _).mp accepted).1

/-- A call leaves the ledger as it is or puts the document of one changed asset. -/
theorem Ledger.submit_cases (ledger : Ledger) (call : Call) :
    (ledger.submit call).1 = ledger ∨
      ∃ assetID asset document, Change (call.proposal.context ledger) assetID asset ∧
        asset.marshal = .ok document ∧
        (ledger.submit call).1 = ledger.put call.proposal.txID assetID document := by
  unfold submit
  split
  next stub response accepted =>
    rcases invoke_cases accepted with rfl | ⟨assetID, asset, document, change, writes⟩
    · exact .inl rfl
    · refine .inr ⟨assetID, asset, document, change, writes.marshalled, ?_⟩
      rw [writes.writes]
      rfl
  next => exact .inl rfl

/-- Every stored document is the document of some asset. -/
def Ledger.Serialised (ledger : Ledger) : Prop :=
  ∀ key document, ledger.worldState.lookup key = some document → ∃ asset : FinancialAsset, asset.marshal = .ok document

theorem Ledger.submit_serialised {ledger : Ledger} (serialised : ledger.Serialised) (call : Call) :
    (ledger.submit call).1.Serialised := by
  intro key stored found
  rcases ledger.submit_cases call with same | ⟨assetID, asset, document, _, marshalled, put⟩
  · rw [same] at found
    exact serialised key stored found
  · rw [put] at found
    by_cases here : key = assetID
    · rw [here, put_self] at found
      obtain rfl := Option.some.inj found
      exact ⟨asset, marshalled⟩
    · rw [put_other _ _ _ _ _ here] at found
      exact serialised key stored found

theorem Ledger.run_serialised {ledger : Ledger} (serialised : ledger.Serialised) (calls : List Call) :
    (ledger.run calls).Serialised := by
  induction calls generalizing ledger with
  | nil => exact serialised
  | cons call calls inductionHypothesis => exact inductionHypothesis (submit_serialised serialised call)

theorem Ledger.empty_serialised : Ledger.empty.Serialised := by
  intro key document found
  cases found

/-- This is the asset that the document under a key decodes to. -/
def Ledger.find (ledger : Ledger) (key : String) : Option FinancialAsset :=
  (ledger.worldState.lookup key).bind fun json => (FinancialAsset.unmarshal json).toOption

theorem Ledger.find_eq_some (ledger : Ledger) (key : String) (asset : FinancialAsset) :
    ledger.find key = some asset ↔
      ∃ json, ledger.worldState.lookup key = some json ∧ FinancialAsset.unmarshal json = .ok asset := by
  rw [find, Option.bind_eq_some_iff]
  apply exists_congr
  intro json
  cases decoded : FinancialAsset.unmarshal json <;> simp [Except.toOption]

theorem find_of_readAsset {proposal : Proposal} {ledger : Ledger} {assetID : String}
    {asset : FinancialAsset} (read : readAsset (proposal.context ledger) assetID = .ok asset) :
    ledger.find assetID = some asset := by
  rw [ledger.find_eq_some]
  exact ((readAsset_eq_ok _ _ _).mp read).2

theorem readAsset_of_find {proposal : Proposal} {ledger : Ledger} {assetID : String}
    {asset : FinancialAsset} (healthy : proposal.fault .getState = none)
    (found : ledger.find assetID = some asset) :
    readAsset (proposal.context ledger) assetID = .ok asset := by
  rw [readAsset_eq_ok]
  exact ⟨healthy, (ledger.find_eq_some assetID asset).mp found⟩

/-- A put document is found again as its asset. -/
theorem Ledger.find_put (ledger : Ledger) (txID key : String) (asset : FinancialAsset) (document : Json)
    (marshalled : asset.marshal = .ok document) :
    (ledger.put txID key document).find key = some asset := by
  rw [find_eq_some]
  exact ⟨document, ledger.put_self txID key document, asset.unmarshal_marshal document marshalled⟩

/-- Under one key, a call keeps the document or stores a changed asset. -/
theorem Ledger.lookup_submit (ledger : Ledger) (call : Call) (key : String) :
    (ledger.submit call).1.worldState.lookup key = ledger.worldState.lookup key ∨
      ∃ asset, Change (call.proposal.context ledger) key asset ∧
        (ledger.submit call).1.find key = some asset := by
  rcases ledger.submit_cases call with same | ⟨assetID, asset, document, change, marshalled, put⟩
  · exact .inl (by rw [same])
  · by_cases here : key = assetID
    · subst here
      refine .inr ⟨asset, change, ?_⟩
      rw [put]
      exact ledger.find_put _ key asset document marshalled
    · refine .inl ?_
      rw [put, put_other _ _ _ _ _ here]

/-- Under one key, a call keeps the asset or changes it. -/
theorem Ledger.find_submit (ledger : Ledger) (call : Call) (key : String) :
    (ledger.submit call).1.find key = ledger.find key ∨
      ∃ asset, Change (call.proposal.context ledger) key asset ∧
        (ledger.submit call).1.find key = some asset := by
  rcases ledger.lookup_submit call key with same | changed
  · exact .inl (by rw [find, find, same])
  · exact .inr changed

/-- These callers are the administrators of the two organisations. -/
def bank : ClientIdentity := ⟨.ok "BANK01MSP", .ok "CN=admin@bank01.finance-trust.com"⟩
def regulator : ClientIdentity := ⟨.ok "REG01MSP", .ok "CN=admin@reg01-regulateur.finance-trust.com"⟩

/-- A healthy peer answers every call, and its state database returns every document. -/
def Proposal.healthy (creator : ClientIdentity) (txID : String) : Proposal where
  creator
  txID
  txTimestamp := .ok zeroTime
  fault _ := none
  richQuery _ worldState := .ok (worldState.entries.map (·.2))

end Pxtly.Chaincode
