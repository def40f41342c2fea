/-
This file gives the trail of the audit: how it reads the provenance and the history of an asset, and what is lost.
-/

import Pxtly.Assets.Synchronisation
import Pxtly.Audit.Integrity
import Pxtly.FabricClient.Evaluation
import Pxtly.Foundation.Datetimes

namespace Pxtly.Audit

open Foundation Fabric
open Assets (pyFloat)
open Chaincode (FinancialAsset Ledger Proposal)

section Readers

/-- The decoded values keep the types that the response gives them. -/
structure TrailRecord where
  txID : Json
  timestamp : Datetime
  actorMSP : Json
  actorDN : Json
  action : Json
  fromOwner : Json
  toOwner : Json
  amount : Float
  justification : Json
  blockNumber : PyInt

/-- This is the class `HistoryEntry`, whose value is a dictionary. -/
structure AuditEntry where
  txID : Json
  isDelete : Bool
  value : List (String × Json)
  timestamp : Option Datetime

inductive TrailFault where
  | client (fault : ClientError)
  | raised (message : String)

variable (isoparse : String → Except String Datetime) (readFloat : String → Except String Float)

/-- This is `isoparse(ts_str) if ts_str else …`; only a text is parsed. -/
def parseTimestamp : Option Json → Except String (Option Datetime)
  | none => .ok none
  | some value =>
      if truthy value then
        match value with
        | .string text => (isoparse text).map some
        | _ => .error "Parser must be a string or character stream"
      else .ok none

/-- This is `int` on a decoded value. -/
def pyInt (source : Json) : Except String PyInt :=
  if readable : intReadable source = true then .ok ⟨source, readable⟩
  else .error "int() argument must be a string, a bytes-like object or a real number"

def TrailRecord.read (item : List (String × Json)) : Except String TrailRecord := do
  let txID := (dictGet item "tx_id").getD (.string "")
  let actorMSP := (dictGet item "actor_msp").getD (.string "")
  let action := (dictGet item "action").getD (.string "")
  if truthy txID && truthy actorMSP && truthy action then
    let timestamp ← parseTimestamp isoparse (dictGet item "timestamp")
    let amount ← pyFloat readFloat ((dictGet item "amount").getD (.number 0))
    let blockNumber ← pyInt ((dictGet item "block_number").getD (.integer 0))
    return {
      txID, timestamp := timestamp.getD Datetime.min, actorMSP, action, amount, blockNumber
      actorDN := (dictGet item "actor_dn").getD (.string "")
      fromOwner := (dictGet item "from_owner").getD (.string "")
      toOwner := (dictGet item "to_owner").getD (.string "")
      justification := (dictGet item "justification").getD (.string "") }
  else throw "Incomplete provenance record detected (missing tx_id, actor_msp or action)."

def AuditEntry.read (item : List (String × Json)) : Except String AuditEntry := do
  let timestamp ← parseTimestamp isoparse (dictGet item "timestamp")
  return {
    txID := (dictGet item "tx_id").getD (.string "")
    isDelete := truthy ((dictGet item "is_delete").getD (.bool false))
    value := match dictGet item "value" with
      | some (.object members) => members
      | _ => []
    timestamp }

/-- An item that is no dictionary is passed over. -/
def dictionaries (items : List Json) : List (List (String × Json)) :=
  items.filterMap fun item => match item with
    | .object members => some members
    | _ => none

/-- The response has to be a list. -/
def readItems {A : Type} (read : List (String × Json) → Except String A) : Json → Except String (List A)
  | .array items => (dictionaries items).mapM read
  | _ => .error "Invalid format received from Fabric chaincode."

variable (documentText : Json → String) (client : FabricClient) (ledger : Ledger) (proposal : Proposal)
  (identityLabel assetID : String)

def getProvenance : Except TrailFault (List TrailRecord) := do
  let rawData ← (client.evaluateTransaction documentText ledger proposal ⟨"GetProvenanceTrail", [assetID]⟩
    identityLabel).mapError TrailFault.client
  (readItems (TrailRecord.read isoparse readFloat) rawData).mapError TrailFault.raised

def getFullHistory : Except TrailFault (List AuditEntry) := do
  let rawData ← (client.evaluateTransaction documentText ledger proposal ⟨"GetAssetHistory", [assetID]⟩
    identityLabel).mapError TrailFault.client
  (readItems (AuditEntry.read isoparse) rawData).mapError TrailFault.raised

end Readers

section Lossless

/-- The parser keeps six digits of a second, and no datetime has the year zero. -/
structure ReadsUtc (isoparse : String → Except String Datetime) : Prop where
  parses : ∀ (time : Time) (range : 1 ≤ time.year ∧ time.year ≤ 9999),
    isoparse time.formatRFC3339Nano = .ok ⟨Clock.ofTime time range, some 0⟩
  refuses : ∀ time : Time, time.year = 0 → ∃ message, isoparse time.formatRFC3339Nano = .error message

/-- The record has every field of the one on the ledger. -/
structure KeepsRecord (record : Chaincode.ProvenanceRecord) (read : TrailRecord) : Prop where
  txID : read.txID = .string record.txID
  timestamp : read.timestamp.Shows record.timestamp
  actor : read.actorMSP = .string record.actorMSP ∧ read.actorDN = .string record.actorDN
  action : read.action = .string record.action
  owners : read.fromOwner = .string record.fromOwner ∧ read.toOwner = .string record.toOwner
  amount : read.amount = record.amount
  justification : read.justification = .string record.justification

/-- The entry has the document of the version, as a text or as a dictionary with the keys of either side. -/
structure KeepsVersion (documentText : Json → String) (version : Chaincode.HistoryEntry) (entry : AuditEntry) :
    Prop where
  txID : entry.txID = .string version.txId
  isDelete : entry.isDelete = version.isDelete
  value : .object entry.value ∈ [.string (documentText version.value), version.value, convertKeys version.value]

end Lossless

section Provenance

variable {isoparse : String → Except String Datetime} {readFloat : String → Except String Float}

/-- This is the record that is read for one of the ledger. -/
def TrailRecord.ofLedger (record : Chaincode.ProvenanceRecord) (timestamp : Datetime) : TrailRecord where
  txID := .string record.txID
  timestamp := timestamp
  actorMSP := .string record.actorMSP
  actorDN := .string record.actorDN
  action := .string record.action
  fromOwner := .string record.fromOwner
  toOwner := .string record.toOwner
  amount := record.amount
  justification := .string record.justification
  blockNumber := ⟨.integer 0, rfl⟩

theorem keepsRecord_ofLedger_iff (record : Chaincode.ProvenanceRecord) (timestamp : Datetime) :
    KeepsRecord record (.ofLedger record timestamp) ↔ timestamp.Shows record.timestamp :=
  ⟨fun keeps => keeps.timestamp, fun shows => ⟨rfl, shows, ⟨rfl, rfl⟩, rfl, ⟨rfl, rfl⟩, rfl, rfl⟩⟩

/-- None of the three texts that a record needs is empty. -/
def Named (record : Chaincode.ProvenanceRecord) : Prop :=
  record.txID ≠ "" ∧ record.actorMSP ≠ "" ∧ record.action ≠ ""

theorem formatRFC3339Nano_ne_empty (time : Time) : time.formatRFC3339Nano ≠ "" := by
  intro same
  have length := congrArg (fun text : String => text.toList.length) same
  simp [Time.formatRFC3339Nano, Time.civil] at length

variable (isoparse readFloat) in
/-- The converted document of a record is read field by field. -/
theorem read_of_marshal {record : Chaincode.ProvenanceRecord} {document : Json} (marshalled : record.marshal = .ok document) :
    record.timestamp.representable = true ∧ ∃ members, convertKeys document = .object members ∧
      (Named record → TrailRecord.read isoparse readFloat members =
        (isoparse record.timestamp.formatRFC3339Nano).map (TrailRecord.ofLedger record)) ∧
      (¬ Named record → ∃ message, TrailRecord.read isoparse readFloat members = .error message) := by
  simp only [Chaincode.ProvenanceRecord.marshal, bind_eq_ok, Json.encodeFloat_eq_ok] at marshalled
  obtain ⟨timestamp, timed, amount, ⟨_, rfl⟩, same⟩ := marshalled
  obtain rfl := Except.ok.inj same
  unfold Chaincode.marshalTime at timed
  split at timed
  next representable =>
    obtain rfl := Except.ok.inj timed
    refine ⟨representable, _, rfl, ?_⟩
    generalize given : convertMembers _ = members
    have txID : dictGet members "tx_id" = some (.string record.txID) := by
      rw [← given]
      rfl
    have actorMSP : dictGet members "actor_msp" = some (.string record.actorMSP) := by
      rw [← given]
      rfl
    have action : dictGet members "action" = some (.string record.action) := by
      rw [← given]
      rfl
    have complete : (truthy (.string record.txID) && truthy (.string record.actorMSP) &&
        truthy (.string record.action)) = true ↔ Named record := by
      simp [truthy, Named, and_assoc]
    constructor
    · intro named
      have rest : dictGet members "timestamp" = some (.string record.timestamp.formatRFC3339Nano) ∧
          dictGet members "actor_dn" = some (.string record.actorDN) ∧
          dictGet members "from_owner" = some (.string record.fromOwner) ∧
          dictGet members "to_owner" = some (.string record.toOwner) ∧
          dictGet members "amount" = some (.number record.amount) ∧
          dictGet members "justification" = some (.string record.justification) ∧
          dictGet members "block_number" = none := by
        rw [← given]
        exact ⟨rfl, rfl, rfl, rfl, rfl, rfl, rfl⟩
      obtain ⟨timestamp, actorDN, fromOwner, toOwner, amount, justification, blockNumber⟩ := rest
      have present : truthy (.string record.timestamp.formatRFC3339Nano) = true := by
        simpa [truthy] using formatRFC3339Nano_ne_empty record.timestamp
      unfold TrailRecord.read
      simp only [txID, actorMSP, action, timestamp, actorDN, fromOwner, toOwner, amount, justification, blockNumber,
        Option.getD_some, Option.getD_none, complete.mpr named, if_true, parseTimestamp, present]
      cases isoparse record.timestamp.formatRFC3339Nano <;> rfl
    · intro unnamed
      refine ⟨"Incomplete provenance record detected (missing tx_id, actor_msp or action).", ?_⟩
      unfold TrailRecord.read
      simp only [txID, actorMSP, action, Option.getD_some]
      rw [if_neg fun all => unnamed (complete.mp all)]
      rfl
  next => cases timed

/-- A record is kept exactly where it can be read and its time has no part of a microsecond. -/
def Keepable (record : Chaincode.ProvenanceRecord) : Prop :=
  Named record ∧ 1 ≤ record.timestamp.year ∧ record.timestamp.nanosecond % 1000 = 0

variable (readFloat) in
theorem keepsRecord_iff (reads : ReadsUtc isoparse) {record : Chaincode.ProvenanceRecord} {document : Json}
    (marshalled : record.marshal = .ok document) :
    ∃ members, convertKeys document = .object members ∧
      ((∃ read, TrailRecord.read isoparse readFloat members = .ok read ∧ KeepsRecord record read) ↔ Keepable record) := by
  obtain ⟨representable, members, converted, whole, incomplete⟩ :=
    read_of_marshal isoparse readFloat marshalled
  refine ⟨members, converted, ?_⟩
  simp only [Time.representable, Bool.and_eq_true, decide_eq_true_eq] at representable
  by_cases named : Named record
  · rw [whole named]
    by_cases early : 1 ≤ record.timestamp.year
    · have parsed := reads.parses record.timestamp ⟨early, representable.2⟩
      rw [parsed]
      constructor
      · rintro ⟨read, same, keeps⟩
        obtain rfl := Except.ok.inj same
        rw [keepsRecord_ofLedger_iff, shows_ofTime_iff] at keeps
        exact ⟨named, early, keeps⟩
      · intro keepable
        exact ⟨_, rfl, (keepsRecord_ofLedger_iff _ _).mpr ((shows_ofTime_iff _).mpr keepable.2.2)⟩
    · obtain ⟨message, refused⟩ := reads.refuses record.timestamp (by omega)
      rw [refused]
      constructor
      · rintro ⟨read, same, _⟩
        cases same
      · exact fun keepable => absurd keepable.2.1 early
  · obtain ⟨message, failed⟩ := incomplete named
    rw [failed]
    constructor
    · rintro ⟨read, same, _⟩
      cases same
    · exact fun keepable => absurd keepable.1 named

variable (readFloat) in
/-- A trail is kept exactly where each of its records is. -/
theorem keepsRecords_iff (reads : ReadsUtc isoparse) {records : List Chaincode.ProvenanceRecord} {documents : List Json}
    (marshalled : records.mapM Chaincode.ProvenanceRecord.marshal = .ok documents) :
    (∃ trail, readItems (TrailRecord.read isoparse readFloat) (convertKeys (.array documents)) = .ok trail ∧
      List.Forall₂ KeepsRecord records trail) ↔ ∀ record ∈ records, Keepable record := by
  rw [convertKeys, readItems]
  induction records generalizing documents with
  | nil =>
      obtain rfl := Except.ok.inj marshalled
      exact iff_of_true ⟨[], rfl, .nil⟩ fun record member => absurd member List.not_mem_nil
  | cons record records inductionHypothesis =>
      obtain ⟨document, others, first, later, rfl⟩ := mapM_cons_eq_ok.mp marshalled
      obtain ⟨members, converted, kept⟩ := keepsRecord_iff readFloat reads first
      have split : dictionaries (convertItems (document :: others)) = members :: dictionaries (convertItems others) := by
        rw [convertItems, converted]
        rfl
      rw [split, List.forall_mem_cons, ← kept, ← inductionHypothesis later]
      constructor
      · rintro ⟨trail, read, keeps⟩
        obtain ⟨head, tail, headRead, tailRead, rfl⟩ := mapM_cons_eq_ok.mp read
        obtain ⟨keepsHead, keepsTail⟩ := List.forall₂_cons.mp keeps
        exact ⟨⟨head, headRead, keepsHead⟩, tail, tailRead, keepsTail⟩
      · rintro ⟨⟨head, headRead, keepsHead⟩, tail, tailRead, keepsTail⟩
        exact ⟨head :: tail, mapM_cons_eq_ok.mpr ⟨head, tail, headRead, tailRead, rfl⟩, .cons keepsHead keepsTail⟩

end Provenance

section History

variable {isoparse : String → Except String Datetime}

/-- The document of a version comes as a text, so that no value is taken over. -/
def AuditEntry.ofVersion (version : Chaincode.HistoryEntry) : AuditEntry where
  txID := .string version.txId
  isDelete := version.isDelete
  value := []
  timestamp := none

variable (isoparse) in
theorem read_historyEntry (documentText : Json → String) (version : Chaincode.HistoryEntry) :
    ∃ members, convertKeys (historyEntry documentText version) = .object members ∧
      AuditEntry.read isoparse members = .ok (.ofVersion version) := ⟨_, rfl, rfl⟩

/-- The versions are read in order, each without its document; a key without versions is refused. -/
theorem readItems_history (documentText : Json → String) (versions : List Chaincode.HistoryEntry) :
    readItems (AuditEntry.read isoparse) (convertKeys (filled (versions.map (historyEntry documentText)))) =
      if versions = [] then .error "Invalid format received from Fabric chaincode."
      else .ok (versions.map AuditEntry.ofVersion) := by
  have each : (dictionaries (convertItems (versions.map (historyEntry documentText)))).mapM (AuditEntry.read isoparse) =
      .ok (versions.map AuditEntry.ofVersion) := by
    induction versions with
    | nil => rfl
    | cons version later inductionHypothesis =>
        obtain ⟨members, converted, read⟩ := read_historyEntry isoparse documentText version
        have split : dictionaries (convertItems ((version :: later).map (historyEntry documentText))) =
            members :: dictionaries (convertItems (later.map (historyEntry documentText))) := by
          rw [List.map_cons, convertItems, converted]
          rfl
        rw [split]
        exact mapM_cons_eq_ok.mpr ⟨_, _, read, inductionHypothesis, rfl⟩
  cases versions with
  | nil => rfl
  | cons version later => exact each

theorem not_keepsVersion {documentText : Json → String} {version : Chaincode.HistoryEntry} {asset : FinancialAsset}
    (marshalled : asset.marshal = .ok version.value) :
    ¬ KeepsVersion documentText version (AuditEntry.ofVersion version) := by
  intro keeps
  simp only [FinancialAsset.marshal, bind_eq_ok] at marshalled
  obtain ⟨nominalValue, _, currentValue, _, couponRate, _, provenance, _, same⟩ := marshalled
  have value := keeps.value
  rw [← Except.ok.inj same] at value
  simp [AuditEntry.ofVersion, convertKeys, convertMembers] at value

end History

section Queries

variable {isoparse : String → Except String Datetime} {readFloat : String → Except String Float}
  {documentText : Json → String} {client : FabricClient} {proposal : Proposal} {identityLabel key : String}

theorem named_of_run (calls : List Chaincode.Call) {asset : FinancialAsset}
    (found : (Ledger.empty.run calls).find key = some asset) {record : Chaincode.ProvenanceRecord}
    (member : record ∈ asset.provenance) : record.actorMSP ≠ "" ∧ record.action ≠ "" := by
  have known : record.action ∈ allowedActions :=
    (isTrace_of_run calls key asset found).known (onChain record) (List.mem_map_of_mem member)
  obtain ⟨traders, regulators⟩ := (Chaincode.run_historyLaws calls).authorised key asset found record member
  have signed : equalFold record.actorMSP "BANK01MSP" = true ∨ equalFold record.actorMSP "REG01MSP" = true := by
    simp only [allowedActions, List.mem_cons, List.not_mem_nil, or_false] at known
    rcases known with action | action | action | action
    · exact .inl (traders (.inl action))
    · exact .inl (traders (.inr action))
    · exact .inr (regulators (.inl action))
    · exact .inr (regulators (.inr action))
  constructor
  · intro empty
    rw [empty] at signed
    revert signed
    decide
  · intro empty
    rw [empty] at known
    revert known
    decide

/-- Where the peer answers, the provenance is kept exactly where each record can be. -/
theorem getProvenance_keeps_iff (reads : ReadsUtc isoparse) (calls : List Chaincode.Call) {asset : FinancialAsset}
    (found : (Ledger.empty.run calls).find key = some asset) {answer : Json}
    (evaluated : client.evaluateTransaction documentText (Ledger.empty.run calls) proposal
      ⟨"GetProvenanceTrail", [key]⟩ identityLabel = .ok answer) :
    (∃ trail, getProvenance isoparse readFloat documentText client (Ledger.empty.run calls) proposal identityLabel key =
        .ok trail ∧ List.Forall₂ KeepsRecord asset.provenance trail) ↔
      ∀ record ∈ asset.provenance, record.txID ≠ "" ∧ 1 ≤ record.timestamp.year ∧
        record.timestamp.nanosecond % 1000 = 0 := by
  obtain ⟨creator, response, document, delivered, written, rfl⟩ := evaluateTransaction_eq_ok evaluated
  obtain ⟨stored, again, rfl⟩ := Ledger.response_of_getProvenanceTrail delivered
  obtain rfl := Option.some.inj (found.symm.trans again)
  simp only [payload, bind_eq_ok] at written
  obtain ⟨documents, marshalled, same⟩ := written
  obtain rfl := Except.ok.inj same
  have kept := keepsRecords_iff readFloat reads marshalled
  have conditions : (∀ record ∈ asset.provenance, Keepable record) ↔ ∀ record ∈ asset.provenance, record.txID ≠ "" ∧
      1 ≤ record.timestamp.year ∧ record.timestamp.nanosecond % 1000 = 0 := by
    refine forall₂_congr fun record member => ?_
    obtain ⟨actor, action⟩ := named_of_run calls found member
    simp [Keepable, Named, actor, action]
  rw [← conditions, ← kept, getProvenance, evaluated]
  refine exists_congr fun trail => and_congr_left fun _ => ?_
  exact mapError_eq_ok _ _ _

/-- Where a history is returned, it lists the versions without their documents. -/
theorem getFullHistory_eq_ok {ledger : Ledger} {entries : List AuditEntry}
    (returned : getFullHistory isoparse documentText client ledger proposal identityLabel key = .ok entries) :
    ledger.history key ≠ [] ∧ entries = (ledger.history key).map AuditEntry.ofVersion := by
  simp only [getFullHistory, bind_eq_ok, mapError_eq_ok] at returned
  obtain ⟨answer, evaluated, read⟩ := returned
  obtain ⟨creator, response, document, delivered, written, rfl⟩ := evaluateTransaction_eq_ok evaluated
  obtain rfl := Ledger.response_of_getAssetHistory delivered
  obtain rfl := Except.ok.inj written
  rw [readItems_history] at read
  split at read
  next => cases read
  next nonempty => exact ⟨nonempty, (Except.ok.inj read).symm⟩

/-- No history is kept, for no document comes through. -/
theorem getFullHistory_never_keeps (calls : List Chaincode.Call) :
    ¬ ∃ entries, getFullHistory isoparse documentText client (Ledger.empty.run calls) proposal identityLabel key =
        .ok entries ∧
      List.Forall₂ (KeepsVersion documentText) ((Ledger.empty.run calls).history key) entries := by
  rintro ⟨entries, returned, keeps⟩
  obtain ⟨nonempty, rfl⟩ := getFullHistory_eq_ok returned
  obtain ⟨version, later, versions⟩ := List.exists_cons_of_ne_nil nonempty
  have documented : (Ledger.empty.run calls).Documented := by
    apply Ledger.run_documented
    intro key entry member
    cases member
  obtain ⟨asset, marshalled⟩ := documented key version (versions ▸ List.mem_cons_self)
  rw [versions] at keeps
  exact not_keepsVersion marshalled (List.forall₂_cons.mp keeps).1

/-- Where the peer answers, the provenance is kept but for parts of microseconds, whereas no history is ever kept. -/
theorem trail_lossless_iff (reads : ReadsUtc isoparse) (calls : List Chaincode.Call) {asset : FinancialAsset}
    (found : (Ledger.empty.run calls).find key = some asset) {answer : Json}
    (evaluated : client.evaluateTransaction documentText (Ledger.empty.run calls) proposal
      ⟨"GetProvenanceTrail", [key]⟩ identityLabel = .ok answer) :
    ((∃ trail, getProvenance isoparse readFloat documentText client (Ledger.empty.run calls) proposal identityLabel key =
          .ok trail ∧ List.Forall₂ KeepsRecord asset.provenance trail) ↔
        ∀ record ∈ asset.provenance, record.txID ≠ "" ∧ 1 ≤ record.timestamp.year ∧
          record.timestamp.nanosecond % 1000 = 0) ∧
      ∀ client proposal identityLabel key, ¬ ∃ entries,
        getFullHistory isoparse documentText client (Ledger.empty.run calls) proposal identityLabel key = .ok entries ∧
          List.Forall₂ (KeepsVersion documentText) ((Ledger.empty.run calls).history key) entries :=
  ⟨getProvenance_keeps_iff reads calls found evaluated, fun _ _ _ _ => getFullHistory_never_keeps calls⟩

end Queries

section Samples

/-- The texts of the ledger are in UTC, and a datetime keeps their microseconds. -/
def utcIsoparse (text : String) : Except String Datetime :=
  match Time.parseRFC3339 text with
  | some time =>
      if range : 1 ≤ time.year ∧ time.year ≤ 9999 then .ok ⟨Clock.ofTime time range, some 0⟩
      else .error "year 0 is out of range"
  | none => .error "String contains unknown ISO components"

theorem utcIsoparse_reads : ReadsUtc utcIsoparse where
  parses time range := by
    have representable : time.representable = true := by
      simp only [Time.representable, Bool.and_eq_true, decide_eq_true_eq]
      omega
    rw [utcIsoparse, Time.parse_format time representable]
    exact dif_pos range
  refuses time zero := by
    have representable : time.representable = true := by
      simp only [Time.representable, Bool.and_eq_true, decide_eq_true_eq]
      omega
    refine ⟨"year 0 is out of range", ?_⟩
    rw [utcIsoparse, Time.parse_format time representable]
    exact dif_neg (by omega)

def frozenLedger : Ledger := Ledger.empty.run Chaincode.frozenSale

def auditQuery : Proposal := .healthy Chaincode.bank "q1"

def auditedID : String := "RWA-BANK-BOND-2026-001"

theorem frozenSale_lossless_iff : ∃ asset, frozenLedger.find auditedID = some asset ∧
    (((∃ trail, getProvenance utcIsoparse Assets.noText (dumps toString) defaultClient frozenLedger auditQuery
            "admin@bank01" auditedID = .ok trail ∧ List.Forall₂ KeepsRecord asset.provenance trail) ↔
          ∀ record ∈ asset.provenance, record.txID ≠ "" ∧ 1 ≤ record.timestamp.year ∧
            record.timestamp.nanosecond % 1000 = 0) ∧
        ∀ client proposal identityLabel key, ¬ ∃ entries,
          getFullHistory utcIsoparse (dumps toString) client frozenLedger proposal identityLabel key = .ok entries ∧
            List.Forall₂ (KeepsVersion (dumps toString)) (frozenLedger.history key) entries) := by
  have seen : (frozenLedger.find auditedID).isSome = true := by decide +kernel
  have answered : (defaultClient.evaluateTransaction (dumps toString) frozenLedger auditQuery
      ⟨"GetProvenanceTrail", [auditedID]⟩ "admin@bank01").toOption.isSome = true := by decide +kernel
  obtain ⟨asset, found⟩ := Option.isSome_iff_exists.mp seen
  cases evaluated : defaultClient.evaluateTransaction (dumps toString) frozenLedger auditQuery
      ⟨"GetProvenanceTrail", [auditedID]⟩ "admin@bank01" with
  | error fault =>
      rw [evaluated] at answered
      cases answered
  | ok answer => exact ⟨asset, found, trail_lossless_iff utcIsoparse_reads Chaincode.frozenSale found evaluated⟩

/-- The ledger hands out three versions with their documents, and the audit has three empty dictionaries. -/
theorem frozenSale_history_lost :
    (getFullHistory utcIsoparse (dumps toString) defaultClient frozenLedger auditQuery "admin@bank01"
        auditedID).toOption.map (fun entries => entries.map fun entry => (entry.isDelete, entry.value.length)) =
      some [(false, 0), (false, 0), (false, 0)] ∧
    ¬ ∃ entries, getFullHistory utcIsoparse (dumps toString) defaultClient frozenLedger auditQuery "admin@bank01"
        auditedID = .ok entries ∧
      List.Forall₂ (KeepsVersion (dumps toString)) (frozenLedger.history auditedID) entries :=
  ⟨by decide +kernel, getFullHistory_never_keeps Chaincode.frozenSale⟩

end Samples

end Pxtly.Audit
