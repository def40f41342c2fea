/-
This file gives the two reads of the ledger over REST and what becomes of an asset and its trail on the way.
-/

import Pxtly.Assets.Validation
import Pxtly.Chaincode.Provenance
import Pxtly.FabricClient.Evaluation
import Pxtly.Foundation.Floats

namespace Pxtly.Assets

open Foundation Validated Fabric
open Chaincode (FinancialAsset Ledger Proposal)

section Schema

structure ResponseReaders extends Readers where
  integer : Json → Except String Int

def checkStr : Json → Except String String
  | .string text => .ok text
  | _ => .error "Input should be a valid string"

/-- This is the type `date | str`: a text stays a text. -/
inductive IssuanceDate where
  | text (value : String)
  | date (value : Date)

def checkIssuanceDate (readers : ResponseReaders) : Json → Except String IssuanceDate
  | .string text => .ok (.text text)
  | value => (readers.date value).map fun date => .date date.val

/-- This is `AssetResponse` as a dictionary gives it. -/
structure AssetReading where
  assetID : String
  isin : Option String
  assetType : String
  assetName : String
  issuerOrgID : PyText
  currentOwnerID : PyText
  nominalValue : SignedDecimal
  currentValue : SignedDecimal
  currency : String
  status : String
  issuanceDate : IssuanceDate
  fabricTxID : Option String
  fabricBlockNumber : Option Int

/-- The validator `coerce_uuid_to_str` runs before the type `uuid.UUID | str`, which keeps a text. -/
def coerceUuidToStr (value : Json) : Except String PyText := .ok (pyStr value)

def AssetReading.validate (readers : ResponseReaders) (arguments : Arguments) : Validated AssetReading :=
  (both (required arguments "asset_id" checkStr) <|
    both (optional arguments "isin" checkStr) <|
    both (required arguments "asset_type" checkStr) <|
    both (required arguments "asset_name" checkStr) <|
    both (required arguments "issuer_org_id" coerceUuidToStr) <|
    both (required arguments "current_owner_id" coerceUuidToStr) <|
    both (required arguments "nominal_value" readers.decimal) <|
    both (required arguments "current_value" readers.decimal) <|
    both (required arguments "currency" checkStr) <|
    both (required arguments "status" checkStr) <|
    both (required arguments "issuance_date" (checkIssuanceDate readers)) <|
    both (optional arguments "fabric_tx_id" checkStr)
      (optional arguments "fabric_block_number" readers.integer)).map
  fun (assetID, isin, assetType, assetName, issuerOrgID, currentOwnerID, nominalValue, currentValue, currency, status,
      issuanceDate, fabricTxID, fabricBlockNumber) =>
    { assetID, isin, assetType, assetName, issuerOrgID, currentOwnerID, nominalValue, currentValue, currency, status,
      issuanceDate, fabricTxID, fabricBlockNumber }

structure ProvenanceRecord where
  txID : String
  timestamp : String
  actorMSP : String
  actorDN : String
  action : String
  fromOwner : Option String
  toOwner : Option String
  amount : Option SignedDecimal
  justification : Option String
  blockNumber : Option Int

def ProvenanceRecord.validateMembers (readers : ResponseReaders) (arguments : Arguments) : Validated ProvenanceRecord :=
  (both (required arguments "txID" checkStr) <|
    both (required arguments "timestamp" checkStr) <|
    both (required arguments "actorMSP" checkStr) <|
    both (required arguments "actorDN" checkStr) <|
    both (required arguments "action" checkStr) <|
    both (optional arguments "fromOwner" checkStr) <|
    both (optional arguments "toOwner" checkStr) <|
    both (optional arguments "amount" readers.decimal) <|
    both (optional arguments "justification" checkStr)
      (optional arguments "blockNumber" readers.integer)).map
  fun (txID, timestamp, actorMSP, actorDN, action, fromOwner, toOwner, amount, justification, blockNumber) =>
    { txID, timestamp, actorMSP, actorDN, action, fromOwner, toOwner, amount, justification, blockNumber }

def ProvenanceRecord.validate (readers : ResponseReaders) : Json → Validated ProvenanceRecord
  | .object members => ProvenanceRecord.validateMembers readers members
  | _ => .error [⟨"", "Input should be a valid dictionary or object to extract fields from"⟩]

end Schema

section Router

inductive ReadFault where
  | client (fault : ClientError)
  | valueError (message : String)
  | validation (errors : List FieldError)

variable (readers : ResponseReaders)

def assetOfPayload : Json → Except ReadFault AssetReading
  | .object members => (AssetReading.validate readers members).mapError .validation
  | _ => .error (.valueError "Réponse invalide du chaincode lors de la lecture de l'actif.")

def trailOfPayload : Json → Except ReadFault (List ProvenanceRecord)
  | .array items => (Validated.list (ProvenanceRecord.validate readers) 0 items).mapError .validation
  | _ => .error (.valueError "Réponse invalide du chaincode lors de la lecture de la provenance.")

variable (documentText : Json → String) (client : FabricClient) (ledger : Ledger) (proposal : Proposal)
  (assetID identityLabel : String)

def readAsset : Except ReadFault AssetReading := do
  let payload ← (client.evaluateTransaction documentText ledger proposal ⟨"GetAsset", [assetID]⟩ identityLabel).mapError
    ReadFault.client
  assetOfPayload readers payload

def readAssetHistory : Except ReadFault (List ProvenanceRecord) := do
  let payload ← (client.evaluateTransaction documentText ledger proposal ⟨"GetProvenanceTrail", [assetID]⟩
    identityLabel).mapError ReadFault.client
  trailOfPayload readers payload

end Router

section Survival

variable (readers : ResponseReaders)

structure KeepsAsset (asset : FinancialAsset) (response : AssetReading) : Prop where
  assetID : response.assetID = asset.assetID
  owner : response.currentOwnerID = .text asset.currentOwner
  nominalValue : readers.decimal (.number asset.nominalValue) = .ok response.nominalValue
  currentValue : readers.decimal (.number asset.currentValue) = .ok response.currentValue
  status : response.status = asset.status.text

structure KeepsRecord (record : Chaincode.ProvenanceRecord) (response : ProvenanceRecord) : Prop where
  txID : response.txID = record.txID
  actor : response.actorMSP = record.actorMSP ∧ response.actorDN = record.actorDN
  action : response.action = record.action
  owners : response.fromOwner = some record.fromOwner ∧ response.toOwner = some record.toOwner
  amount : ∃ amount, response.amount = some amount ∧ readers.decimal (.number record.amount) = .ok amount
  justification : response.justification = some record.justification

/-- The document of the asset is converted and read, and its fields are kept. -/
def AssetSurvives (asset : FinancialAsset) : Prop :=
  ∃ document response, asset.marshal = .ok document ∧ assetOfPayload readers (convertKeys document) = .ok response ∧
    KeepsAsset readers asset response

/-- The documents of the records are converted and read in order, and their fields are kept. -/
def TrailSurvives (records : List Chaincode.ProvenanceRecord) : Prop :=
  ∃ documents responses, records.mapM Chaincode.ProvenanceRecord.marshal = .ok documents ∧
    trailOfPayload readers (convertKeys (.array documents)) = .ok responses ∧
    List.Forall₂ (KeepsRecord readers) records responses

def assetKeys : List String :=
  ["assetID", "isin", "assetType", "assetName", "issuerMSP", "issuerLEI", "currentOwner", "nominalValue", "currentValue",
    "currency", "status", "issuanceDate", "maturityDate", "couponRate", "ratingMoodys", "frozenBy", "frozenAt",
    "frozenReason", "regulatoryRef", "totalTransfers", "provenance"]

def recordKeys : List String :=
  ["txID", "timestamp", "actorMSP", "actorDN", "action", "fromOwner", "toOwner", "amount", "justification"]

theorem asset_members {asset : FinancialAsset} {document : Json} (marshalled : asset.marshal = .ok document) :
    ∃ members, document = .object members ∧ members.map Prod.fst = assetKeys := by
  simp only [FinancialAsset.marshal, bind_eq_ok] at marshalled
  obtain ⟨nominalValue, _, currentValue, _, couponRate, _, provenance, _, same⟩ := marshalled
  exact ⟨_, (Except.ok.inj same).symm, rfl⟩

theorem record_members {record : Chaincode.ProvenanceRecord} {document : Json}
    (marshalled : record.marshal = .ok document) :
    ∃ members, document = .object members ∧ members.map Prod.fst = recordKeys := by
  simp only [Chaincode.ProvenanceRecord.marshal, bind_eq_ok] at marshalled
  obtain ⟨timestamp, _, amount, _, same⟩ := marshalled
  exact ⟨_, (Except.ok.inj same).symm, rfl⟩

/-- The document of an asset has no issuing organisation and no identifier of an owner. -/
theorem issuerOrgID_missing : "issuer_org_id" ∉ assetKeys.map snakeCase := by decide +kernel

/-- The converted key of a transaction is `tx_id`. -/
theorem txID_missing : "txID" ∉ recordKeys.map snakeCase := by decide +kernel

theorem assetOfPayload_refuses {asset : FinancialAsset} {document : Json} (marshalled : asset.marshal = .ok document)
    (response : AssetReading) : assetOfPayload readers (convertKeys document) ≠ .ok response := by
  obtain ⟨members, rfl, names⟩ := asset_members marshalled
  intro read
  rw [convertKeys, assetOfPayload, mapError_eq_ok] at read
  simp only [AssetReading.validate, map_eq_ok, both_eq_ok] at read
  obtain ⟨fields, ⟨_, _, _, _, issuer, _⟩, _⟩ := read
  rw [required_of_missing (dictGet_convertMembers names issuerOrgID_missing)] at issuer
  cases issuer

theorem validate_refuses {record : Chaincode.ProvenanceRecord} {document : Json}
    (marshalled : record.marshal = .ok document) (response : ProvenanceRecord) :
    ProvenanceRecord.validate readers (convertKeys document) ≠ .ok response := by
  obtain ⟨members, rfl, names⟩ := record_members marshalled
  intro read
  rw [convertKeys, ProvenanceRecord.validate, ProvenanceRecord.validateMembers] at read
  simp only [map_eq_ok, both_eq_ok] at read
  obtain ⟨fields, ⟨txID, _⟩, _⟩ := read
  rw [required_of_missing (dictGet_convertMembers names txID_missing)] at txID
  cases txID

theorem not_assetSurvives (asset : FinancialAsset) : ¬ AssetSurvives readers asset := by
  intro ⟨document, response, marshalled, read, _⟩
  exact assetOfPayload_refuses readers marshalled response read

theorem trailOfPayload_refuses {records : List Chaincode.ProvenanceRecord} {documents : List Json}
    (nonempty : records ≠ []) (marshalled : records.mapM Chaincode.ProvenanceRecord.marshal = .ok documents)
    (responses : List ProvenanceRecord) : trailOfPayload readers (convertKeys (.array documents)) ≠ .ok responses := by
  intro read
  rw [convertKeys, trailOfPayload, mapError_eq_ok] at read
  cases records with
  | nil => exact nonempty rfl
  | cons record later =>
      obtain ⟨document, others, first, _, rfl⟩ := mapM_cons_eq_ok.mp marshalled
      obtain ⟨response, validated⟩ := exists_of_list read List.mem_cons_self
      exact validate_refuses readers first response validated

theorem not_trailSurvives {records : List Chaincode.ProvenanceRecord} (nonempty : records ≠ []) :
    ¬ TrailSurvives readers records := by
  intro ⟨documents, responses, marshalled, read, _⟩
  exact trailOfPayload_refuses readers nonempty marshalled responses read

end Survival

section Reads

variable {readers : ResponseReaders} {documentText : Json → String} {client : FabricClient} {ledger : Ledger}
  {proposal : Proposal} {assetID identityLabel : String}

/-- No asset is read over REST, whatever the ledger holds. -/
theorem readAsset_fails (response : AssetReading) :
    readAsset readers documentText client ledger proposal assetID identityLabel ≠ .ok response := by
  intro read
  simp only [readAsset, bind_eq_ok, mapError_eq_ok] at read
  obtain ⟨payload, evaluated, answered⟩ := read
  obtain ⟨creator, given, document, delivered, marshalled, rfl⟩ := evaluateTransaction_eq_ok evaluated
  obtain ⟨asset, _, rfl⟩ := Ledger.response_of_getAsset delivered
  exact assetOfPayload_refuses readers marshalled response answered

/-- The trail of an asset with a record is not read over REST. -/
theorem readAssetHistory_fails {asset : FinancialAsset} (found : ledger.find assetID = some asset)
    (nonempty : asset.provenance ≠ []) (responses : List ProvenanceRecord) :
    readAssetHistory readers documentText client ledger proposal assetID identityLabel ≠ .ok responses := by
  intro read
  simp only [readAssetHistory, bind_eq_ok, mapError_eq_ok] at read
  obtain ⟨payload, evaluated, answered⟩ := read
  obtain ⟨creator, given, document, delivered, marshalled, rfl⟩ := evaluateTransaction_eq_ok evaluated
  obtain ⟨stored, again, rfl⟩ := Ledger.response_of_getProvenanceTrail delivered
  obtain rfl := Option.some.inj (found.symm.trans again)
  simp only [Fabric.payload, bind_eq_ok] at marshalled
  obtain ⟨documents, written, same⟩ := marshalled
  obtain rfl := Except.ok.inj same
  exact trailOfPayload_refuses readers nonempty written responses answered

end Reads

/-- No asset and no trail that a run of calls leaves on the ledger can be read back. -/
theorem ledger_reads_never_survive (readers : ResponseReaders) (documentText : Json → String) (calls : List Chaincode.Call)
    (key : String) (asset : FinancialAsset) (found : (Ledger.empty.run calls).find key = some asset) :
    ¬ AssetSurvives readers asset ∧ ¬ TrailSurvives readers asset.provenance ∧
      ∀ client proposal identityLabel,
        (∀ response, readAsset readers documentText client (Ledger.empty.run calls) proposal key identityLabel ≠
          .ok response) ∧
        ∀ responses, readAssetHistory readers documentText client (Ledger.empty.run calls) proposal key identityLabel ≠
          .ok responses := by
  have nonempty : asset.provenance ≠ [] :=
    (Ledger.Sound.of_find (Ledger.run_sound Ledger.empty_sound calls) found).eventSourced.nonempty
  exact ⟨not_assetSurvives readers asset, not_trailSurvives readers nonempty, fun _ _ _ =>
    ⟨readAsset_fails, readAssetHistory_fails found nonempty⟩⟩

section Samples

def failures {A : Type} : Except ReadFault A → List FieldError
  | .error (.validation errors) => errors
  | _ => []

/-- The numbers of the sample are whole, and its dates are texts. -/
def wholeReaders : ResponseReaders where
  decimal
    | .integer value => .ok ⟨value, 0⟩
    | .number value =>
        if Float.ofInt (decimalUnits value 0) = value then .ok ⟨decimalUnits value 0, 0⟩
        else .error "Input should be a valid decimal"
    | _ => .error "Input should be a valid decimal"
  date _ := .error "Input should be a valid date"
  integer
    | .integer value => .ok value
    | _ => .error "Input should be a valid integer"

def bondID : String := "RWA-BANK-BOND-2026-001"

theorem frozenSale_never_survives :
    ∃ asset, (Ledger.empty.run Chaincode.frozenSale).find bondID = some asset ∧
      ¬ AssetSurvives wholeReaders asset ∧ ¬ TrailSurvives wholeReaders asset.provenance ∧
      ∀ client proposal identityLabel,
        (∀ response, readAsset wholeReaders (dumps toString) client (Ledger.empty.run Chaincode.frozenSale) proposal bondID
          identityLabel ≠ .ok response) ∧
        ∀ responses, readAssetHistory wholeReaders (dumps toString) client (Ledger.empty.run Chaincode.frozenSale) proposal bondID
          identityLabel ≠ .ok responses := by
  have seen : ((Ledger.empty.run Chaincode.frozenSale).find bondID).isSome = true := by decide +kernel
  obtain ⟨asset, found⟩ := Option.isSome_iff_exists.mp seen
  exact ⟨asset, found, ledger_reads_never_survive wholeReaders (dumps toString) Chaincode.frozenSale bondID asset found⟩

/-- The bank reads a bond that was sold and frozen, and both answers lack fields that the contract names otherwise. -/
theorem frozenSale_unread :
    (∃ asset, (Ledger.empty.run Chaincode.frozenSale).find bondID = some asset ∧ ¬ AssetSurvives wholeReaders asset ∧
      ¬ TrailSurvives wholeReaders asset.provenance) ∧
    failures (readAsset wholeReaders (dumps toString) defaultClient (Ledger.empty.run Chaincode.frozenSale)
      (.healthy Chaincode.bank "q1") bondID "bank01") =
      [⟨"issuer_org_id", "Field required"⟩, ⟨"current_owner_id", "Field required"⟩] ∧
    (failures (readAssetHistory wholeReaders (dumps toString) defaultClient (Ledger.empty.run Chaincode.frozenSale)
      (.healthy Chaincode.bank "q1") bondID "bank01")).map FieldError.field =
      ["0.txID", "0.actorMSP", "0.actorDN", "1.txID", "1.actorMSP", "1.actorDN", "2.txID", "2.actorMSP", "2.actorDN"] := by
  have seen : ((Ledger.empty.run Chaincode.frozenSale).find bondID).isSome = true := by decide +kernel
  obtain ⟨asset, found⟩ := Option.isSome_iff_exists.mp seen
  have nonempty : asset.provenance ≠ [] :=
    (Ledger.Sound.of_find (Ledger.run_sound Ledger.empty_sound _) found).eventSourced.nonempty
  refine ⟨⟨asset, found, not_assetSurvives _ asset, not_trailSurvives _ nonempty⟩, ?_, ?_⟩
  · decide +kernel
  · decide +kernel

end Samples

end Pxtly.Assets
