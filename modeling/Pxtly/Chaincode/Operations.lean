/-
This file states once what each of the four writing functions can do.
-/

import Pxtly.Chaincode.Contract

namespace Pxtly.Chaincode

open Foundation

/-- A record names the caller of its transaction. -/
structure Signed (ctx : TransactionContext) (record : ProvenanceRecord) : Prop where
  msp : ctx.clientIdentity.mspID = .ok record.actorMSP
  mspNonempty : record.actorMSP ≠ ""
  dn : ctx.clientIdentity.subject = .ok record.actorDN
  dnNonempty : record.actorDN ≠ ""
  timestamp : ctx.stub.txTimestamp = .ok record.timestamp
  txID : record.txID = ctx.stub.txID

def FinancialAsset.afterTransfer (asset : FinancialAsset) (record : ProvenanceRecord) : FinancialAsset :=
  { asset with
    provenance := asset.provenance ++ [record]
    currentOwner := record.toOwner
    currentValue := record.amount
    totalTransfers := asset.totalTransfers + 1 }

def FinancialAsset.afterFreeze (asset : FinancialAsset) (record : ProvenanceRecord)
    (regulatoryRef : String) : FinancialAsset :=
  { asset with
    status := statusGele
    frozenBy := record.actorDN
    frozenAt := record.timestamp.formatRFC3339
    frozenReason := record.justification
    regulatoryRef
    provenance := asset.provenance ++ [record] }

def FinancialAsset.afterUnfreeze (asset : FinancialAsset) (record : ProvenanceRecord) : FinancialAsset :=
  { asset with
    status := statusActif
    frozenBy := ""
    frozenAt := ""
    frozenReason := ""
    regulatoryRef := ""
    provenance := asset.provenance ++ [record] }

/-- An accepted call writes one asset in one of four ways. -/
inductive Change (ctx : TransactionContext) (assetID : String) : FinancialAsset → Prop where
  | tokenised (asset : FinancialAsset) (record : ProvenanceRecord)
      (absent : ctx.stub.ledger.worldState.lookup assetID = none)
      (identifier : assetIDPattern.matchString assetID = true)
      (key : asset.assetID = assetID)
      (signed : Signed ctx record)
      (role : equalFold record.actorMSP "BANK01MSP" = true)
      (action : record.action = "TOKENISE")
      (trail : asset.provenance = [record])
      (owner : asset.currentOwner = record.toOwner)
      (value : asset.currentValue = record.amount)
      (transfers : asset.totalTransfers = 0)
      (status : asset.status = statusActif)
      (unheld : asset.frozenBy = "" ∧ asset.frozenAt = "" ∧ asset.frozenReason = "" ∧
        asset.regulatoryRef = "") :
      Change ctx assetID asset
  | transferred (before : FinancialAsset) (record : ProvenanceRecord)
      (read : readAsset ctx assetID = .ok before)
      (active : before.status = statusActif)
      (signed : Signed ctx record)
      (role : equalFold record.actorMSP "BANK01MSP" = true)
      (action : record.action = "TRANSFERE")
      (sender : record.fromOwner = before.currentOwner) :
      Change ctx assetID (before.afterTransfer record)
  | frozen (before : FinancialAsset) (record : ProvenanceRecord) (regulatoryRef : String)
      (read : readAsset ctx assetID = .ok before)
      (free : before.status ≠ statusGele)
      (signed : Signed ctx record)
      (role : equalFold record.actorMSP "REG01MSP" = true)
      (action : record.action = "GELE")
      (reference : regulatoryRefPattern.matchString regulatoryRef = true) :
      Change ctx assetID (before.afterFreeze record regulatoryRef)
  | unfrozen (before : FinancialAsset) (record : ProvenanceRecord)
      (read : readAsset ctx assetID = .ok before)
      (held : before.status = statusGele)
      (signed : Signed ctx record)
      (role : equalFold record.actorMSP "REG01MSP" = true)
      (action : record.action = "DEGELE") :
      Change ctx assetID (before.afterUnfreeze record)

/-- An accepted call adds the write of the asset's document to the stub. -/
structure Writes (ctx : TransactionContext) (stub : Stub) (assetID : String) (asset : FinancialAsset)
    (document : Json) : Prop where
  marshalled : asset.marshal = .ok document
  writes : stub.writes = ctx.stub.writes ++ [(assetID, document)]

/-- A passed check and a readable MSP give the role of the caller. -/
theorem equalFold_of_verifyRole {ctx : TransactionContext} {functionName listed msp : String} {u : Unit}
    (passed : verifyRole ctx functionName = .ok u)
    (entry : authorisedMSPs.lookup functionName = some [listed])
    (known : ctx.clientIdentity.mspID = .ok msp) : equalFold msp listed = true := by
  obtain ⟨caller, allowed, callerKnown, _, found, authorised⟩ := (verifyRole_eq_ok _ _ _).mp passed
  obtain rfl := Except.ok.inj (known.symm.trans callerKnown)
  obtain rfl := Option.some.inj (entry.symm.trans found)
  simpa [authorises] using authorised

/-- The shared reads of the caller give a record that names the caller. -/
theorem signed_of_reads {ctx : TransactionContext} {msp dn : String} {ts : Time}
    (mspRead : ctx.clientIdentity.mspID = .ok msp ∧ msp ≠ "")
    (dnRead : ctx.clientIdentity.subject = .ok dn ∧ dn ≠ "")
    (tsRead : getTxTimestamp ctx = .ok ts) (action fromOwner toOwner justification : String)
    (amount : Float) :
    Signed ctx ⟨ctx.stub.txID, ts, msp, dn, action, fromOwner, toOwner, amount, justification⟩ where
  msp := mspRead.1
  mspNonempty := mspRead.2
  dn := dnRead.1
  dnNonempty := dnRead.2
  timestamp := (wrapping_eq_ok _ _ _).mp tsRead
  txID := rfl

theorem tokenizeAsset_change {ctx : TransactionContext}
    {assetID isin assetType assetName issuerLEI currency issuanceDate justification : String}
    {nominalValue : Float} {stub : Stub}
    (accepted : tokenizeAsset ctx assetID isin assetType assetName issuerLEI nominalValue currency
      issuanceDate justification = .ok stub) :
    ∃ asset document, Change ctx assetID asset ∧ Writes ctx stub assetID asset document := by
  simp only [tokenizeAsset, bind_eq_ok, wrapping_eq_ok, failWhen_eq_ok, getClientMSP_eq_ok,
    getClientDN_eq_ok, validateAssetID_eq_ok, Stub.putState_eq_ok, Stub.setEvent_eq_ok] at accepted
  obtain ⟨_, role, _, identifier, _, _, _, _, _, _, _, _, present, checked, _, fresh, msp, mspRead,
    dn, dnRead, ts, tsRead, document, marshalled, _, ⟨_, _, rfl⟩, _, rfl⟩ := accepted
  have absent : ctx.stub.ledger.worldState.lookup assetID = none := by
    simp only [assetExists, bind_eq_ok, wrapping_eq_ok, Stub.getState_eq_ok] at checked
    obtain ⟨found, ⟨_, rfl⟩, same⟩ := checked
    obtain rfl := Except.ok.inj same
    simpa using fresh
  have signed := signed_of_reads mspRead dnRead tsRead "TOKENISE" "" dn justification nominalValue
  exact ⟨_, document, .tokenised _ _ absent identifier rfl signed
    (equalFold_of_verifyRole role rfl mspRead.1) rfl rfl rfl rfl rfl rfl ⟨rfl, rfl, rfl, rfl⟩,
    ⟨marshalled, rfl⟩⟩

/-- An accepted transfer found an active asset and gives it the new owner and price. -/
theorem transferAsset_spec {ctx : TransactionContext} {assetID toOwner justification : String}
    {price : Float} {stub : Stub}
    (accepted : transferAsset ctx assetID toOwner justification price = .ok stub) :
    ∃ before record document, readAsset ctx assetID = .ok before ∧ before.status = statusActif ∧
      Signed ctx record ∧ equalFold record.actorMSP "BANK01MSP" = true ∧
      record.action = "TRANSFERE" ∧ record.fromOwner = before.currentOwner ∧
      record.toOwner = toOwner ∧ record.amount = price ∧
      Writes ctx stub assetID (before.afterTransfer record) document := by
  simp only [transferAsset, bind_eq_ok, wrapping_eq_ok, failWhen_eq_ok, getClientMSP_eq_ok,
    getClientDN_eq_ok, requireActiveAsset_eq_ok, Stub.putState_eq_ok, Stub.setEvent_eq_ok] at accepted
  obtain ⟨_, role, _, _, before, read, _, active, checkedStub, checked, msp, mspRead, dn, dnRead, ts,
    tsRead, document, marshalled, _, ⟨_, _, rfl⟩, _, rfl⟩ := accepted
  obtain ⟨event, rfl⟩ := checkMiCAThreshold_frame _ _ _ _ checked
  have signed := signed_of_reads mspRead dnRead tsRead "TRANSFERE" before.currentOwner toOwner
    justification price
  exact ⟨before, _, document, read, active, signed, equalFold_of_verifyRole role rfl mspRead.1, rfl, rfl, rfl,
    rfl, ⟨marshalled, rfl⟩⟩

/-- An accepted freeze found an asset that is not frozen. -/
theorem freezeAsset_spec {ctx : TransactionContext} {assetID reason regulatoryRef : String} {stub : Stub}
    (accepted : freezeAsset ctx assetID reason regulatoryRef = .ok stub) :
    ∃ before record document, readAsset ctx assetID = .ok before ∧ before.status ≠ statusGele ∧
      Signed ctx record ∧ equalFold record.actorMSP "REG01MSP" = true ∧ record.action = "GELE" ∧
      regulatoryRefPattern.matchString regulatoryRef = true ∧
      Writes ctx stub assetID (before.afterFreeze record regulatoryRef) document := by
  simp only [freezeAsset, bind_eq_ok, wrapping_eq_ok, failWhen_eq_ok, getClientMSP_eq_ok,
    getClientDN_eq_ok, validateRegulatoryRef_eq_ok, Stub.putState_eq_ok,
    Stub.setEvent_eq_ok] at accepted
  obtain ⟨_, role, _, reference, before, read, _, free, msp, mspRead, dn, dnRead, ts, tsRead,
    document, marshalled, _, ⟨_, _, rfl⟩, _, rfl⟩ := accepted
  have signed := signed_of_reads mspRead dnRead tsRead "GELE" "" "" reason 0
  exact ⟨before, _, document, read, free, signed, equalFold_of_verifyRole role rfl mspRead.1, rfl, reference,
    ⟨marshalled, rfl⟩⟩

/-- An accepted unfreeze found a frozen asset. -/
theorem unfreezeAsset_spec {ctx : TransactionContext} {assetID justification : String} {stub : Stub}
    (accepted : unfreezeAsset ctx assetID justification = .ok stub) :
    ∃ before record document, readAsset ctx assetID = .ok before ∧ before.status = statusGele ∧
      Signed ctx record ∧ equalFold record.actorMSP "REG01MSP" = true ∧ record.action = "DEGELE" ∧
      Writes ctx stub assetID (before.afterUnfreeze record) document := by
  simp only [unfreezeAsset, bind_eq_ok, wrapping_eq_ok, getClientMSP_eq_ok, getClientDN_eq_ok,
    requireFrozenAsset_eq_ok, Stub.putState_eq_ok, Stub.setEvent_eq_ok] at accepted
  obtain ⟨_, role, before, read, _, held, msp, mspRead, dn, dnRead, ts, tsRead, document, marshalled,
    _, ⟨_, rfl⟩, _, _, rfl⟩ := accepted
  have signed := signed_of_reads mspRead dnRead tsRead "DEGELE" "" "" justification 0
  exact ⟨before, _, document, read, held, signed, equalFold_of_verifyRole role rfl mspRead.1, rfl,
    ⟨marshalled, rfl⟩⟩

/-- The peer serves an unfreeze when its three calls and its clock answer. -/
structure Proposal.ServesUnfreeze (proposal : Proposal) : Prop where
  getState : proposal.fault .getState = none
  setEvent : proposal.fault (.setEvent "AssetUnfrozen") = none
  putState : proposal.fault .putState = none
  timestamp : ∃ ts, proposal.txTimestamp = .ok ts ∧ ts.representable = true

/-- An asset stays encodable under a record with a representable time. -/
theorem encodable_afterUnfreeze {asset : FinancialAsset} {record : ProvenanceRecord}
    (encodable : asset.Encodable) (added : record.Encodable) :
    (asset.afterUnfreeze record).Encodable where
  nominalValue := encodable.nominalValue
  currentValue := encodable.currentValue
  couponRate := encodable.couponRate
  provenance other member := by
    rcases List.mem_append.mp member with inside | inside
    · exact encodable.provenance other inside
    · obtain rfl := List.mem_singleton.mp inside
      exact added

/-- The regulator unfreezes a held asset exactly when the peer serves the call. -/
theorem exists_unfreezeAsset_iff (proposal : Proposal) (justification : String) {ledger : Ledger}
    {assetID msp dn : String} {json : Json} {before : FinancialAsset}
    (mspRead : proposal.creator.mspID = .ok msp ∧ msp ≠ "") (role : equalFold msp "REG01MSP" = true)
    (dnRead : proposal.creator.subject = .ok dn ∧ dn ≠ "") (nonempty : assetID ≠ "")
    (stored : ledger.worldState.lookup assetID = some json)
    (decoded : FinancialAsset.unmarshal json = .ok before) (held : before.status = statusGele) :
    (∃ stub, unfreezeAsset (proposal.context ledger) assetID justification = .ok stub) ↔
      proposal.ServesUnfreeze := by
  constructor
  · rintro ⟨stub, accepted⟩
    simp only [unfreezeAsset, bind_eq_ok, wrapping_eq_ok, Stub.putState_eq_ok,
      Stub.setEvent_eq_ok] at accepted
    obtain ⟨_, _, asset, read, _, _, _, _, _, _, ts, tsRead, document, marshalled, _, ⟨event, rfl⟩, _, put,
      rfl⟩ := accepted
    have known : proposal.txTimestamp = .ok ts := (wrapping_eq_ok _ _ _).mp tsRead
    have encodable := FinancialAsset.encodable_of_unmarshal document _
      (FinancialAsset.unmarshal_marshal _ document marshalled)
    have added := encodable.provenance _ (List.mem_append_right _ (List.mem_singleton_self _))
    exact ⟨((readAsset_eq_ok _ _ _).mp read).1, event, put, ts, known, added.1⟩
  · intro serves
    obtain ⟨ts, known, representable⟩ := serves.timestamp
    have passed : verifyRole (proposal.context ledger) "UnfreezeAsset" = .ok () := by
      rw [verifyRole_eq_ok]
      exact ⟨msp, ["REG01MSP"], mspRead.1, mspRead.2, rfl, by simpa [authorises] using role⟩
    have read : readAsset (proposal.context ledger) assetID = .ok before := by
      rw [readAsset_eq_ok]
      exact ⟨serves.getState, json, stored, decoded⟩
    have encodable := FinancialAsset.encodable_of_unmarshal json before decoded
    have finite : (0 : Float).isFinite = true := by decide +kernel
    have added : (⟨proposal.txID, ts, msp, dn, "DEGELE", "", "", 0, justification⟩ :
        ProvenanceRecord).Encodable := ⟨representable, finite⟩
    obtain ⟨document, marshalled⟩ :=
      FinancialAsset.exists_marshal _ (encodable_afterUnfreeze encodable added)
    simp only [unfreezeAsset, bind_eq_ok, wrapping_eq_ok, getClientMSP_eq_ok, getClientDN_eq_ok,
      requireFrozenAsset_eq_ok, Stub.putState_eq_ok, Stub.setEvent_eq_ok]
    exact ⟨_, (), passed, before, read, (), held, msp, mspRead, dn, dnRead, ts,
      (wrapping_eq_ok _ _ _).mpr known, document, marshalled, _, ⟨serves.setEvent, rfl⟩, nonempty,
      serves.putState, rfl⟩

end Pxtly.Chaincode
