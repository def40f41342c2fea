/-
This file gives the on-chain records and their JSON documents.
-/

import Pxtly.Foundation.Json
import Pxtly.Foundation.Timestamps

namespace Pxtly.Chaincode

open Foundation

/-- A status is a text, as the Go type is. -/
structure AssetStatus where
  text : String
  deriving DecidableEq, Repr

structure AssetType where
  text : String
  deriving DecidableEq, Repr

def statusActif : AssetStatus := ⟨"ACTIF"⟩
def statusGele : AssetStatus := ⟨"GELE"⟩
def statusEnEmission : AssetStatus := ⟨"EN_EMISSION"⟩
def statusRembourse : AssetStatus := ⟨"REMBOURSE"⟩

structure ProvenanceRecord where
  txID : String
  timestamp : Time
  actorMSP : String
  actorDN : String
  action : String
  fromOwner : String := ""
  toOwner : String := ""
  amount : Float := 0
  justification : String
  deriving DecidableEq, Repr

/-- The counter is a Go `int`. The trail holds a record for each of its units, so it cannot wrap. -/
structure FinancialAsset where
  assetID : String
  isin : String
  assetType : AssetType
  assetName : String
  issuerMSP : String
  issuerLEI : String
  currentOwner : String
  nominalValue : Float
  currentValue : Float
  currency : String
  status : AssetStatus
  issuanceDate : String
  maturityDate : String := ""
  couponRate : Float := 0
  ratingMoodys : String := ""
  frozenBy : String := ""
  frozenAt : String := ""
  frozenReason : String := ""
  regulatoryRef : String := ""
  totalTransfers : Int := 0
  provenance : List ProvenanceRecord
  deriving DecidableEq, Repr

/-- A time outside the years 0 to 9999 has no document. -/
def marshalTime (time : Time) : Except GoError Json :=
  if time.representable then .ok (.string time.formatRFC3339Nano)
  else .error (.errorf "Time.MarshalJSON: year outside of range [0,9999]" [])

/-- The zero time stands in for an absent member. -/
def zeroTime : Time where
  year := 1
  month := 1
  day := 1
  hour := 0
  minute := 0
  second := 0
  nanosecond := 0
  monthRange := by decide
  dayRange := by decide
  hourRange := by decide
  minuteRange := by decide
  secondRange := by decide
  nanosecondRange := by decide

def unmarshalTime : Json → Except GoError Time
  | .null => .ok zeroTime
  | .string text => match Time.parseRFC3339 text with
    | some time => .ok time
    | none => .error (.errorf "parsing time %q" [.text text])
  | _ => .error (typeError "time.Time")

def ProvenanceRecord.marshal (record : ProvenanceRecord) : Except GoError Json := do
  let timestamp ← marshalTime record.timestamp
  let amount ← Json.encodeFloat record.amount
  return .object [
    ("txID", .string record.txID),
    ("timestamp", timestamp),
    ("actorMSP", .string record.actorMSP),
    ("actorDN", .string record.actorDN),
    ("action", .string record.action),
    ("fromOwner", .string record.fromOwner),
    ("toOwner", .string record.toOwner),
    ("amount", amount),
    ("justification", .string record.justification)]

def ProvenanceRecord.unmarshal (json : Json) : Except GoError ProvenanceRecord := do
  let members ← Json.decodeObject json
  let txID ← Json.decodeField members "txID" Json.decodeString
  let timestamp ← Json.decodeField members "timestamp" unmarshalTime
  let actorMSP ← Json.decodeField members "actorMSP" Json.decodeString
  let actorDN ← Json.decodeField members "actorDN" Json.decodeString
  let action ← Json.decodeField members "action" Json.decodeString
  let fromOwner ← Json.decodeField members "fromOwner" Json.decodeString
  let toOwner ← Json.decodeField members "toOwner" Json.decodeString
  let amount ← Json.decodeField members "amount" Json.decodeFloat
  let justification ← Json.decodeField members "justification" Json.decodeString
  return { txID, timestamp, actorMSP, actorDN, action, fromOwner, toOwner, amount, justification }

/-- This is `json.Marshal` on an asset. -/
def FinancialAsset.marshal (asset : FinancialAsset) : Except GoError Json := do
  let nominalValue ← Json.encodeFloat asset.nominalValue
  let currentValue ← Json.encodeFloat asset.currentValue
  let couponRate ← Json.encodeFloat asset.couponRate
  let provenance ← asset.provenance.mapM ProvenanceRecord.marshal
  return .object [
    ("assetID", .string asset.assetID),
    ("isin", .string asset.isin),
    ("assetType", .string asset.assetType.text),
    ("assetName", .string asset.assetName),
    ("issuerMSP", .string asset.issuerMSP),
    ("issuerLEI", .string asset.issuerLEI),
    ("currentOwner", .string asset.currentOwner),
    ("nominalValue", nominalValue),
    ("currentValue", currentValue),
    ("currency", .string asset.currency),
    ("status", .string asset.status.text),
    ("issuanceDate", .string asset.issuanceDate),
    ("maturityDate", .string asset.maturityDate),
    ("couponRate", couponRate),
    ("ratingMoodys", .string asset.ratingMoodys),
    ("frozenBy", .string asset.frozenBy),
    ("frozenAt", .string asset.frozenAt),
    ("frozenReason", .string asset.frozenReason),
    ("regulatoryRef", .string asset.regulatoryRef),
    ("totalTransfers", .integer asset.totalTransfers),
    ("provenance", .array provenance)]

/-- This is `json.Unmarshal` into an asset. -/
def FinancialAsset.unmarshal (json : Json) : Except GoError FinancialAsset := do
  let members ← Json.decodeObject json
  let assetID ← Json.decodeField members "assetID" Json.decodeString
  let isin ← Json.decodeField members "isin" Json.decodeString
  let assetType ← Json.decodeField members "assetType" Json.decodeString
  let assetName ← Json.decodeField members "assetName" Json.decodeString
  let issuerMSP ← Json.decodeField members "issuerMSP" Json.decodeString
  let issuerLEI ← Json.decodeField members "issuerLEI" Json.decodeString
  let currentOwner ← Json.decodeField members "currentOwner" Json.decodeString
  let nominalValue ← Json.decodeField members "nominalValue" Json.decodeFloat
  let currentValue ← Json.decodeField members "currentValue" Json.decodeFloat
  let currency ← Json.decodeField members "currency" Json.decodeString
  let status ← Json.decodeField members "status" Json.decodeString
  let issuanceDate ← Json.decodeField members "issuanceDate" Json.decodeString
  let maturityDate ← Json.decodeField members "maturityDate" Json.decodeString
  let couponRate ← Json.decodeField members "couponRate" Json.decodeFloat
  let ratingMoodys ← Json.decodeField members "ratingMoodys" Json.decodeString
  let frozenBy ← Json.decodeField members "frozenBy" Json.decodeString
  let frozenAt ← Json.decodeField members "frozenAt" Json.decodeString
  let frozenReason ← Json.decodeField members "frozenReason" Json.decodeString
  let regulatoryRef ← Json.decodeField members "regulatoryRef" Json.decodeString
  let totalTransfers ← Json.decodeField members "totalTransfers" Json.decodeInt
  let provenance ← Json.decodeField members "provenance"
    (Json.decodeArray ProvenanceRecord.unmarshal)
  return FinancialAsset.mk assetID isin ⟨assetType⟩ assetName issuerMSP issuerLEI currentOwner
    nominalValue currentValue currency ⟨status⟩ issuanceDate maturityDate couponRate ratingMoodys
    frozenBy frozenAt frozenReason regulatoryRef totalTransfers provenance

theorem unmarshalTime_marshalTime (time : Time) (json : Json) (marshalled : marshalTime time = .ok json) :
    unmarshalTime json = .ok time := by
  unfold marshalTime at marshalled
  split at marshalled
  next representable =>
    obtain rfl := Except.ok.inj marshalled
    simp only [unmarshalTime, Time.parse_format time representable]
  next => cases marshalled

theorem ProvenanceRecord.unmarshal_marshal (record : ProvenanceRecord) (json : Json)
    (marshalled : record.marshal = .ok json) : ProvenanceRecord.unmarshal json = .ok record := by
  simp only [ProvenanceRecord.marshal, bind_eq_ok, Json.encodeFloat_eq_ok] at marshalled
  obtain ⟨timestamp, timestampOk, amount, ⟨finite, rfl⟩, same⟩ := marshalled
  obtain rfl := Except.ok.inj same
  have time := unmarshalTime_marshalTime record.timestamp timestamp timestampOk
  have amount := Json.decodeFloat_number record.amount finite
  change (do
    let timestamp ← unmarshalTime timestamp
    let amount ← Json.decodeFloat (.number record.amount)
    return { record with timestamp, amount } : Except GoError ProvenanceRecord) = .ok record
  simp only [time, amount]
  rfl

/-- Decoding inverts encoding on every asset that has a document. -/
theorem FinancialAsset.unmarshal_marshal (asset : FinancialAsset) (json : Json)
    (marshalled : asset.marshal = .ok json) : FinancialAsset.unmarshal json = .ok asset := by
  simp only [FinancialAsset.marshal, bind_eq_ok, Json.encodeFloat_eq_ok] at marshalled
  obtain ⟨_, ⟨nominal, rfl⟩, _, ⟨current, rfl⟩, _, ⟨coupon, rfl⟩, records, recordsOk, same⟩ :=
    marshalled
  obtain rfl := Except.ok.inj same
  have nominal := Json.decodeFloat_number asset.nominalValue nominal
  have current := Json.decodeFloat_number asset.currentValue current
  have coupon := Json.decodeFloat_number asset.couponRate coupon
  have trail := mapM_inverse ProvenanceRecord.unmarshal_marshal asset.provenance records recordsOk
  change (do
    let nominalValue ← Json.decodeFloat (.number asset.nominalValue)
    let currentValue ← Json.decodeFloat (.number asset.currentValue)
    let couponRate ← Json.decodeFloat (.number asset.couponRate)
    let provenance ← records.mapM ProvenanceRecord.unmarshal
    return { asset with nominalValue, currentValue, couponRate, provenance } :
      Except GoError FinancialAsset) = .ok asset
  rw [nominal, current, coupon, trail]
  rfl

/-- A record with a document has a representable time and a finite amount. -/
def ProvenanceRecord.Encodable (record : ProvenanceRecord) : Prop :=
  record.timestamp.representable = true ∧ record.amount.isFinite = true

/-- An asset with a document has finite values and an encodable trail. -/
structure FinancialAsset.Encodable (asset : FinancialAsset) : Prop where
  nominalValue : asset.nominalValue.isFinite = true
  currentValue : asset.currentValue.isFinite = true
  couponRate : asset.couponRate.isFinite = true
  provenance : ∀ record ∈ asset.provenance, record.Encodable

theorem ProvenanceRecord.exists_marshal (record : ProvenanceRecord) (encodable : record.Encodable) :
    ∃ json, record.marshal = .ok json := by
  simp [ProvenanceRecord.marshal, marshalTime, Json.encodeFloat, encodable.1, encodable.2, pure,
    Except.pure]

/-- Every encodable asset has a document. -/
theorem FinancialAsset.exists_marshal (asset : FinancialAsset) (encodable : asset.Encodable) :
    ∃ json, asset.marshal = .ok json := by
  obtain ⟨records, trail⟩ := exists_mapM asset.provenance fun record member =>
    record.exists_marshal (encodable.provenance record member)
  simp [FinancialAsset.marshal, Json.encodeFloat, encodable.nominalValue, encodable.currentValue,
    encodable.couponRate, trail, pure, Except.pure]

theorem representable_of_unmarshalTime (json : Json) (time : Time)
    (decoded : unmarshalTime json = .ok time) : time.representable = true := by
  cases json with
  | null =>
      obtain rfl := Except.ok.inj decoded
      decide
  | string text =>
      simp only [unmarshalTime] at decoded
      split at decoded
      next parsed equal =>
        obtain rfl := Except.ok.inj decoded
        exact Time.representable_of_parse text parsed equal
      next => cases decoded
  | bool value => cases decoded
  | integer value => cases decoded
  | number value => cases decoded
  | array items => cases decoded
  | object members => cases decoded

theorem ProvenanceRecord.encodable_of_unmarshal (json : Json) (record : ProvenanceRecord)
    (decoded : ProvenanceRecord.unmarshal json = .ok record) : record.Encodable := by
  simp only [ProvenanceRecord.unmarshal, bind_eq_ok] at decoded
  obtain ⟨_, _, _, _, _, time, _, _, _, _, _, _, _, _, _, _, _, amount, _, _, same⟩ := decoded
  obtain rfl := Except.ok.inj same
  exact ⟨representable_of_unmarshalTime _ _ time, Json.isFinite_of_decodeFloat _ _ amount⟩

/-- Every decoded asset can be encoded again. -/
theorem FinancialAsset.encodable_of_unmarshal (json : Json) (asset : FinancialAsset)
    (decoded : FinancialAsset.unmarshal json = .ok asset) : asset.Encodable := by
  simp only [FinancialAsset.unmarshal, bind_eq_ok] at decoded
  obtain ⟨_, _, _, _, _, _, _, _, _, _, _, _, _, _, _, _, _, nominal, _, current, decoded⟩ := decoded
  obtain ⟨_, _, _, _, _, _, _, _, _, coupon, decoded⟩ := decoded
  obtain ⟨_, _, _, _, _, _, _, _, _, _, _, _, _, trail, same⟩ := decoded
  obtain rfl := Except.ok.inj same
  refine ⟨Json.isFinite_of_decodeFloat _ _ nominal, Json.isFinite_of_decodeFloat _ _ current,
    Json.isFinite_of_decodeFloat _ _ coupon, ?_⟩
  intro record member
  obtain ⟨item, decoded⟩ := Json.decodeArray_mem _ _ _ trail record member
  exact ProvenanceRecord.encodable_of_unmarshal item record decoded

end Pxtly.Chaincode
