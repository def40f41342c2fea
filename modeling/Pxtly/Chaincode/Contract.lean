/-
This file gives the eight functions of the contract.
-/

import Pxtly.Chaincode.Access
import Pxtly.Chaincode.Compliance

namespace Pxtly.Chaincode

open Foundation

def getTxTimestamp (ctx : TransactionContext) : Except GoError Time :=
  wrapping "getTxTimestamp: %w" ctx.stub.txTimestamp

/-- This is the unexported `getAsset`, which every operation on an existing asset calls. -/
def readAsset (ctx : TransactionContext) (assetID : String) : Except GoError FinancialAsset := do
  let found ← wrapping "getAsset: lecture ledger: %w" (ctx.stub.getState assetID)
  match found with
  | none => .error (.errorf "actif %s introuvable sur le ledger" [.text assetID])
  | some assetJSON =>
      wrapping "getAsset: désérialisation: %w" (FinancialAsset.unmarshal assetJSON)

def assetExists (ctx : TransactionContext) (assetID : String) : Except GoError Bool := do
  let found ← wrapping "assetExists: lecture ledger: %w" (ctx.stub.getState assetID)
  return found.isSome

def tokenizeAsset (ctx : TransactionContext)
    (assetID isin assetType assetName issuerLEI : String) (nominalValue : Float)
    (currency issuanceDate justification : String) : Except GoError Stub := do
  verifyRole ctx "TokenizeAsset"
  wrapping "TokenizeAsset: %w" (validateAssetID assetID)
  wrapping "TokenizeAsset: %w" (validateISIN isin)
  wrapping "TokenizeAsset: %w" (validateLEI issuerLEI)
  wrapping "TokenizeAsset: %w" (validateCurrency currency)
  failWhen (nominalValue ≤ 0) (.errorf
    "TokenizeAsset: valeur nominale doit être positive, reçu %f" [.float nominalValue])
  let present ← wrapping "TokenizeAsset: vérification existence: %w" (assetExists ctx assetID)
  failWhen (present = true) (.errorf "l'actif %s existe déjà sur le ledger" [.text assetID])
  let msp ← wrapping "TokenizeAsset: %w" (getClientMSP ctx)
  let dn ← wrapping "TokenizeAsset: %w" (getClientDN ctx)
  let txID := ctx.stub.txID
  let ts ← wrapping "TokenizeAsset: %w" (getTxTimestamp ctx)
  let record : ProvenanceRecord := {
    txID
    timestamp := ts
    actorMSP := msp
    actorDN := dn
    action := "TOKENISE"
    toOwner := dn
    amount := nominalValue
    justification }
  let asset : FinancialAsset := {
    assetID
    isin
    assetType := ⟨assetType⟩
    assetName
    issuerMSP := msp
    issuerLEI
    currentOwner := dn
    nominalValue
    currentValue := nominalValue
    currency
    status := statusActif
    issuanceDate
    provenance := [record] }
  let assetJSON ← wrapping "TokenizeAsset: sérialisation JSON: %w" asset.marshal
  let stub ← wrapping "TokenizeAsset: écriture ledger: %w" (ctx.stub.putState assetID assetJSON)
  wrapping "TokenizeAsset: émission événement: %w" (stub.setEvent "AssetCreated" (.document assetJSON))

def transferAsset (ctx : TransactionContext)
    (assetID toOwner justification : String) (price : Float) : Except GoError Stub := do
  verifyRole ctx "TransferAsset"
  failWhen (price ≤ 0) (.errorf "TransferAsset: prix doit être positif, reçu %f" [.float price])
  let asset ← wrapping "TransferAsset: %w" (readAsset ctx assetID)
  wrapping "TransferAsset: %w" (requireActiveAsset asset)
  let stub ← wrapping "TransferAsset: %w" (checkMiCAThreshold ctx.stub price assetID)
  let msp ← wrapping "TransferAsset: %w" (getClientMSP ctx)
  let dn ← wrapping "TransferAsset: %w" (getClientDN ctx)
  let ts ← wrapping "TransferAsset: %w" (getTxTimestamp ctx)
  let record : ProvenanceRecord := {
    txID := ctx.stub.txID
    timestamp := ts
    actorMSP := msp
    actorDN := dn
    action := "TRANSFERE"
    fromOwner := asset.currentOwner
    toOwner
    amount := price
    justification }
  let asset := { asset with
    provenance := asset.provenance ++ [record]
    currentOwner := toOwner
    currentValue := price
    totalTransfers := asset.totalTransfers + 1 }
  let assetJSON ← wrapping "TransferAsset: sérialisation JSON: %w" asset.marshal
  let stub ← wrapping "TransferAsset: écriture ledger: %w" (stub.putState assetID assetJSON)
  wrapping "TransferAsset: émission événement: %w"
    (stub.setEvent "AssetTransferred" (.document assetJSON))

def freezeAsset (ctx : TransactionContext) (assetID reason regulatoryRef : String) :
    Except GoError Stub := do
  verifyRole ctx "FreezeAsset"
  wrapping "FreezeAsset: %w" (validateRegulatoryRef regulatoryRef)
  let asset ← wrapping "FreezeAsset: %w" (readAsset ctx assetID)
  failWhen (asset.status = statusGele) (.errorf "actif %s déjà gelé" [.text assetID])
  let msp ← wrapping "FreezeAsset: %w" (getClientMSP ctx)
  let dn ← wrapping "FreezeAsset: %w" (getClientDN ctx)
  let ts ← wrapping "FreezeAsset: %w" (getTxTimestamp ctx)
  let record : ProvenanceRecord := {
    txID := ctx.stub.txID
    timestamp := ts
    actorMSP := msp
    actorDN := dn
    action := "GELE"
    justification := reason }
  let asset := { asset with
    status := statusGele
    frozenBy := dn
    frozenAt := ts.formatRFC3339
    frozenReason := reason
    regulatoryRef
    provenance := asset.provenance ++ [record] }
  let assetJSON ← wrapping "FreezeAsset: sérialisation JSON: %w" asset.marshal
  let stub ← wrapping "FreezeAsset: écriture ledger: %w" (ctx.stub.putState assetID assetJSON)
  wrapping "FreezeAsset: émission événement: %w" (stub.setEvent "AssetFrozen" (.document assetJSON))

/-- This function emits its event before it writes, unlike its siblings. -/
def unfreezeAsset (ctx : TransactionContext) (assetID justification : String) :
    Except GoError Stub := do
  verifyRole ctx "UnfreezeAsset"
  let asset ← wrapping "UnfreezeAsset: %w" (readAsset ctx assetID)
  wrapping "UnfreezeAsset: %w" (requireFrozenAsset asset)
  let msp ← wrapping "UnfreezeAsset: %w" (getClientMSP ctx)
  let dn ← wrapping "UnfreezeAsset: %w" (getClientDN ctx)
  let ts ← wrapping "UnfreezeAsset: %w" (getTxTimestamp ctx)
  let record : ProvenanceRecord := {
    txID := ctx.stub.txID
    timestamp := ts
    actorMSP := msp
    actorDN := dn
    action := "DEGELE"
    justification }
  let asset := { asset with
    status := statusActif
    frozenBy := ""
    frozenAt := ""
    frozenReason := ""
    regulatoryRef := ""
    provenance := asset.provenance ++ [record] }
  let assetJSON ← wrapping "UnfreezeAsset: sérialisation JSON: %w" asset.marshal
  let stub ← wrapping "UnfreezeAsset: émission événement: %w"
    (ctx.stub.setEvent "AssetUnfrozen" (.document assetJSON))
  stub.putState assetID assetJSON

/-- The read functions call no role check. -/
def getAsset (ctx : TransactionContext) (assetID : String) : Except GoError FinancialAsset :=
  readAsset ctx assetID

/-- The history entries keep the transaction, the deletion flag and the document. -/
def getAssetHistory (ctx : TransactionContext) (assetID : String) : Except GoError (List HistoryEntry) := do
  let iterator ← wrapping "GetAssetHistory: accès historique: %w" (ctx.stub.getHistoryForKey assetID)
  iterator.mapM fun entry => wrapping "GetAssetHistory: itération: %w" (ctx.stub.next entry)

def getProvenanceTrail (ctx : TransactionContext) (assetID : String) :
    Except GoError (List ProvenanceRecord) := do
  let asset ← wrapping "GetProvenanceTrail: %w" (readAsset ctx assetID)
  return asset.provenance

def queryAssets (ctx : TransactionContext) (queryString : String) : Except GoError (List FinancialAsset) := do
  let iterator ← wrapping "QueryAssets: exécution requête: %w" (ctx.stub.getQueryResult queryString)
  iterator.mapM fun entry => do
    let result ← wrapping "QueryAssets: itération: %w" (ctx.stub.next entry)
    wrapping "QueryAssets: désérialisation: %w" (FinancialAsset.unmarshal result)

/-- An asset is read when the peer answers with a document of an asset. -/
theorem readAsset_eq_ok (ctx : TransactionContext) (assetID : String) (asset : FinancialAsset) :
    readAsset ctx assetID = .ok asset ↔ ctx.stub.fault .getState = none ∧
      ∃ json, ctx.stub.ledger.worldState.lookup assetID = some json ∧
        FinancialAsset.unmarshal json = .ok asset := by
  unfold readAsset
  simp only [bind_eq_ok, wrapping_eq_ok, Stub.getState_eq_ok]
  constructor
  · rintro ⟨found, ⟨healthy, stored⟩, decoded⟩
    cases found with
    | none => cases decoded
    | some json => exact ⟨healthy, json, stored, (wrapping_eq_ok _ _ _).mp decoded⟩
  · rintro ⟨healthy, json, stored, decoded⟩
    exact ⟨some json, ⟨healthy, stored⟩, (wrapping_eq_ok _ _ _).mpr decoded⟩

end Pxtly.Chaincode
