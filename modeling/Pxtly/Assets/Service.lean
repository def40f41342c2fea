/-
This file gives the four service functions as programs over the ledger client and the database.
-/

import Pxtly.Assets.Models
import Pxtly.Chaincode.Dispatch
import Pxtly.Foundation.Program

namespace Pxtly.Assets

open Foundation
open Chaincode (statusActif statusGele Request)

/-- These exceptions leave a service function. -/
inductive ServiceError where
  | assetNotFound (assetID : String)
  | assetFrozen (assetID regulatoryRef : String)
  | complianceBlocked (reason blockedBy : String)
  | valueError (message : String)
  | conversion
  | external (cause : String)
  deriving DecidableEq, Repr

structure ComplianceCheck where
  participantID : Uuid
  amount : Float
  assetID : String
  assetType : String
  counterpartyID : Option Uuid
  fullName : String

/-- The functions wait for these operations. -/
inductive Operation where
  | submitTransaction (request : Request) (identityLabel : String)
  | selectAsset (assetID : String)
  | selectUserByEmail (email : String)
  | selectOrganization (lei : String)
  | selectUserOfOrganization (orgID : Uuid)
  | fullCheck (check : ComplianceCheck)
  | commit (work : UnitOfWork)
  | rollback
  | refresh (assetID : String)
  | connectGraph
  | ingestTransaction (txID : PyText) (assetID fromActor toActor : String) (amount : Float)
      (updatedAt : Time)
  | ingestFreeze (assetID actor : String) (txID : PyText)
  | publish (channel message : String)

abbrev Operation.Result : Operation → Type
  | .submitTransaction .. => Json
  | .selectAsset _ => Option AssetRow
  | .selectUserByEmail _ => Option User
  | .selectOrganization _ => Option Organization
  | .selectUserOfOrganization _ => Option User
  | .fullCheck _ => Bool × String × String
  | .commit _ => Unit
  | .rollback => Unit
  | .refresh _ => AssetRow
  | .connectGraph => Unit
  | .ingestTransaction .. => Unit
  | .ingestFreeze .. => Unit
  | .publish .. => Unit

/-- An operation can take effect on the other side although its caller sees a failure. -/
inductive Reply (A : Type) where
  | success (value : A)
  | failure (fault : ServiceError) (applied : Bool)

def Reply.applied {A : Type} : Reply A → Bool
  | .success _ => true
  | .failure _ applied => applied

def signature : Signature where
  Operation := Operation
  Answer operation := Reply operation.Result

abbrev Service (A : Type) := Program signature ServiceError A

abbrev ServiceEvent := Program.Event signature

/-- The caller goes on with the value of a success and raises the fault of a failure. -/
def Reply.result {A : Type} : Reply A → Except ServiceError A
  | .success value => .ok value
  | .failure fault _ => .error fault

def ask (operation : Operation) : Service operation.Result :=
  .perform operation fun reply => Program.lift (Reply.result reply)

/-- A best-effort step logs its failure and goes on. -/
def quietly (step : Service Unit) : Service Unit := step.handle fun _ => pure ()

def asDict (message : String) : Json → Except ServiceError (List (String × Json))
  | .object members => .ok members
  | _ => .error (.valueError message)

/-- `str(payload.get("txID", ""))` -/
def readTxID (payload : List (String × Json)) : PyText :=
  pyStr ((dictGet payload "txID").getD (.string ""))

/-- `int(payload["blockNumber"]) if payload.get("blockNumber") else None` -/
def readBlockNumber (payload : List (String × Json)) : Except ServiceError (Option PyInt) :=
  match dictGet payload "blockNumber" with
  | none => .ok none
  | some source =>
      if truthy source then
        if readable : intReadable source = true then .ok (some ⟨source, readable⟩) else .error .conversion
      else .ok none

/-- Each function reads the response in the same way, under its own message. -/
def readResponse (invalidResponse : String) (payload : Json) : Except ServiceError (PyText × Option PyInt) := do
  let payload ← asDict invalidResponse payload
  let fabricBlockNumber ← readBlockNumber payload
  return (readTxID payload, fabricBlockNumber)

def txRef (uuid : Uuid) : String := "TX-" ++ uuid.text

def compensationText : String := "SAGA_COMPENSATION: DB commit failure rollback"

/-- This is the guarded commit: a fault goes to the handler. -/
def commitOr (work : UnitOfWork) (handler : ServiceError → Service Unit) : Service Unit :=
  (ask (.commit work)).handle handler

def tokenizeCall (request : TokenizeRequest) : Request :=
  ⟨"TokenizeAsset", [request.assetID, request.isin, request.assetType, request.assetName,
    request.issuerLEI, request.nominalValue.str, request.currency, request.issuanceDate.isoformat,
    request.justification]⟩

def tokenizeInvalid : String := "Réponse invalide du chaincode lors de la tokenisation."

def TokenizeRequest.newAsset (request : TokenizeRequest) (org : Organization) (user : Option User)
    (fabric : PyText × Option PyInt) : NewAsset where
  assetID := request.assetID
  isin := request.isin
  assetType := request.assetType
  assetName := request.assetName
  issuerOrgID := org.id
  currentOwnerID := (user.map User.id).getD org.id
  nominalValue := request.nominalValue
  currentValue := request.nominalValue
  currency := request.currency
  status := statusActif
  issuanceDate := request.issuanceDate
  fabricTxID := fabric.1
  fabricBlockNumber := fabric.2

def finishTokenize (request : TokenizeRequest) : Service AssetResponse := do
  let row ← ask (.refresh request.assetID)
  quietly (ask (.publish "asset:events" ("TOKENIZE:" ++ request.assetID)))
  return row.response

/-- The failed commit of a tokenisation is rolled back and nothing else. -/
def abandon (fault : ServiceError) : Service Unit := do
  ask .rollback
  .raise fault

def tokenize (request : TokenizeRequest) (identityLabel : String) : Service AssetResponse := do
  let payload ← ask (.submitTransaction (tokenizeCall request) identityLabel)
  let fabric ← Program.lift (readResponse tokenizeInvalid payload)
  let found ← ask (.selectOrganization request.issuerLEI)
  match found with
  | none => .raise (.valueError ("Organisation introuvable pour le LEI: " ++ request.issuerLEI))
  | some org => do
      let user ← ask (.selectUserOfOrganization org.id)
      commitOr (.insert (request.newAsset org user fabric)) abandon
      finishTokenize request

def transferCall (request : TransferRequest) : Request :=
  ⟨"TransferAsset", [request.assetID, request.toOwner, request.price.str, request.justification]⟩

def transferCompensation (request : TransferRequest) (previousOwnerEmail : String) : Request :=
  ⟨"TransferAsset", [request.assetID, previousOwnerEmail, request.price.str, compensationText]⟩

def transferInvalid : String := "Réponse invalide du chaincode lors du transfert."

/-- A recipient without a name is checked under the e-mail address. -/
def User.fullName (user : User) : String :=
  let name := strip ((user.firstName.getD "").toList ++ ' ' :: (user.lastName.getD "").toList)
  if name = [] then user.email else String.ofList name

/-- The initiator is the caller, or the present owner where no caller is known. -/
def initiator (currentUser : Option User) (asset : AssetRow) : Option Uuid :=
  match currentUser with
  | some user => some user.id
  | none => asset.currentOwnerID

def TransferRequest.check (request : TransferRequest) (currentUser : Option User) (asset : AssetRow)
    (recipient : User) : ComplianceCheck where
  participantID := recipient.id
  amount := request.price.toFloat
  assetID := request.assetID
  assetType := asset.assetType
  counterpartyID := initiator currentUser asset
  fullName := recipient.fullName

def TransferRequest.update (request : TransferRequest) (recipient : User)
    (fabric : PyText × Option PyInt) : AssetUpdate where
  currentOwnerID := some recipient.id
  currentValue := some request.price
  fabricTxID := fabric.1
  fabricBlockNumber := fabric.2

/-- The result of `uuid.uuid4()` is the argument `fresh`. -/
def TransferRequest.transaction (request : TransferRequest) (currentUser : Option User) (fresh : Uuid)
    (asset : AssetRow) (recipient : User) (fabric : PyText × Option PyInt) : TransactionRow where
  txRef := txRef fresh
  fabricTxID := fabric.1
  fabricBlockNumber := fabric.2
  txType := "TRANSFERT"
  assetID := asset.id
  initiatorID := initiator currentUser asset
  fromOwnerID := asset.currentOwnerID
  toOwnerID := some recipient.id
  amount := .round request.price
  settlementDate := asset.updatedAt
  regulatoryFlag := false
  justification := request.justification

/-- The failed commit is compensated only for a known user with an e-mail address. -/
def compensateTransfer (request : TransferRequest) (identityLabel : String) (currentUser : Option User)
    (fault : ServiceError) : Service Unit := do
  ask .rollback
  match currentUser with
  | none => .raise fault
  | some user =>
      if user.email = "" then .raise fault
      else do
        quietly do
          let _ ← ask (.submitTransaction (transferCompensation request user.email) identityLabel)
        .raise fault

def actorName (currentUser : Option User) (otherwise : Option Uuid) : String :=
  match currentUser with
  | some user => user.email
  | none => (otherwise.map Uuid.text).getD "None"

def finishTransfer (request : TransferRequest) (currentUser : Option User) (asset : AssetRow)
    (fabricTxID : PyText) : Service AssetResponse := do
  let row ← ask (.refresh request.assetID)
  quietly do
    ask .connectGraph
    ask (.ingestTransaction fabricTxID request.assetID (actorName currentUser asset.currentOwnerID)
      request.toOwner request.price.toFloat row.updatedAt)
  quietly (ask (.publish "asset:events" ("TRANSFER:" ++ request.assetID)))
  return row.response

def transfer (request : TransferRequest) (identityLabel : String) (currentUser : Option User)
    (fresh : Uuid) : Service AssetResponse := do
  let found ← ask (.selectAsset request.assetID)
  match found with
  | none => .raise (.assetNotFound request.assetID)
  | some asset =>
      if asset.status = statusGele then .raise (.assetFrozen asset.assetID "REG01-INV-2026-001")
      else do
        let known ← ask (.selectUserByEmail request.toOwner)
        match known with
        | none => .raise (.valueError ("Destinataire introuvable: " ++ request.toOwner))
        | some recipient => do
            let (isBlocked, reason, blockedBy) ←
              ask (.fullCheck (request.check currentUser asset recipient))
            if isBlocked then .raise (.complianceBlocked reason blockedBy)
            else do
              let payload ← ask (.submitTransaction (transferCall request) identityLabel)
              let fabric ← Program.lift (readResponse transferInvalid payload)
              commitOr (.update asset (request.update recipient fabric)
                  (request.transaction currentUser fresh asset recipient fabric))
                (compensateTransfer request identityLabel currentUser)
              finishTransfer request currentUser asset fabric.1

/-- A freeze and an unfreeze differ in these data. -/
structure HoldChange where
  assetID : String
  call : Request
  compensation : Request
  invalidResponse : String
  status : Chaincode.AssetStatus
  txType : String
  justification : String
  ingests : Bool
  message : String

def freezeChange (request : FreezeRequest) : HoldChange where
  assetID := request.assetID
  call := ⟨"FreezeAsset", [request.assetID, request.reason, request.regulatoryRef]⟩
  compensation := ⟨"UnfreezeAsset", [request.assetID, compensationText]⟩
  invalidResponse := "Réponse invalide du chaincode lors du gel."
  status := statusGele
  txType := "GEL"
  justification := request.reason
  ingests := true
  message := "FREEZE:" ++ request.assetID

def unfreezeChange (request : UnfreezeRequest) : HoldChange where
  assetID := request.assetID
  call := ⟨"UnfreezeAsset", [request.assetID, request.justification]⟩
  compensation := ⟨"FreezeAsset", [request.assetID, compensationText, "SAGA-COMP"]⟩
  invalidResponse := "Réponse invalide du chaincode lors du dégel."
  status := statusActif
  txType := "DEGEL"
  justification := request.justification
  ingests := false
  message := "UNFREEZE:" ++ request.assetID

def HoldChange.update (change : HoldChange) (fabric : PyText × Option PyInt) : AssetUpdate where
  status := some change.status
  fabricTxID := fabric.1
  fabricBlockNumber := fabric.2

def HoldChange.transaction (change : HoldChange) (currentUser : Option User) (fresh : Uuid)
    (asset : AssetRow) (fabric : PyText × Option PyInt) : TransactionRow where
  txRef := txRef fresh
  fabricTxID := fabric.1
  fabricBlockNumber := fabric.2
  txType := change.txType
  assetID := asset.id
  initiatorID := initiator currentUser asset
  amount := asset.nominalValue
  settlementDate := asset.updatedAt
  regulatoryFlag := true
  justification := change.justification

def compensateHold (change : HoldChange) (identityLabel : String) (fault : ServiceError) :
    Service Unit := do
  ask .rollback
  quietly do
    let _ ← ask (.submitTransaction change.compensation identityLabel)
  .raise fault

/-- Only a freeze is sent to the graph. -/
def finishHold (change : HoldChange) (currentUser : Option User) (asset : AssetRow)
    (fabricTxID : PyText) : Service AssetResponse := do
  let row ← ask (.refresh change.assetID)
  quietly do
    if change.ingests then
      ask .connectGraph
      ask (.ingestFreeze change.assetID (actorName currentUser (initiator currentUser asset)) fabricTxID)
  quietly (ask (.publish "asset:events" change.message))
  return row.response

/-- The row is read only after the ledger has moved. -/
def changeHold (change : HoldChange) (identityLabel : String) (currentUser : Option User)
    (fresh : Uuid) : Service AssetResponse := do
  let payload ← ask (.submitTransaction change.call identityLabel)
  let fabric ← Program.lift (readResponse change.invalidResponse payload)
  let found ← ask (.selectAsset change.assetID)
  match found with
  | none => .raise (.assetNotFound change.assetID)
  | some asset => do
      commitOr (.update asset (change.update fabric)
          (change.transaction currentUser fresh asset fabric))
        (compensateHold change identityLabel)
      finishHold change currentUser asset fabric.1

def freeze (request : FreezeRequest) (identityLabel : String) (currentUser : Option User)
    (fresh : Uuid) : Service AssetResponse :=
  changeHold (freezeChange request) identityLabel currentUser fresh

def unfreezeAsset (request : UnfreezeRequest) (identityLabel : String) (currentUser : Option User)
    (fresh : Uuid) : Service AssetResponse :=
  changeHold (unfreezeChange request) identityLabel currentUser fresh

/-- A task is a service function with its arguments. -/
inductive Task where
  | tokenize (request : TokenizeRequest)
  | transfer (request : TransferRequest) (currentUser : Option User) (fresh : Uuid)
  | freeze (request : FreezeRequest) (currentUser : Option User) (fresh : Uuid)
  | unfreezeAsset (request : UnfreezeRequest) (currentUser : Option User) (fresh : Uuid)

def perform (identityLabel : String) : Task → Service AssetResponse
  | .tokenize request => tokenize request identityLabel
  | .transfer request currentUser fresh => transfer request identityLabel currentUser fresh
  | .freeze request currentUser fresh => freeze request identityLabel currentUser fresh
  | .unfreezeAsset request currentUser fresh => unfreezeAsset request identityLabel currentUser fresh

end Pxtly.Assets
