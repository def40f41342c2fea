/-
This file gives which report of a large transfer reaches the clients of the ledger.
-/

import Pxtly.Chaincode.Events
import Pxtly.Foundation.Python

namespace Pxtly.Chaincode

open Foundation

/-- This is the text that the threshold check reports. -/
def micaReport (txID assetID : String) (amount : Float) : EventPayload := .formatted
  "\x7b\"event\":\"MICA_ART68_TRIGGERED\",\"txID\":\"%s\",\"assetID\":\"%s\",\"amount\":%f\x7d"
  [.text txID, .text assetID, .float amount]

/-- The check reports exactly the amounts above the threshold. -/
theorem checkMiCAThreshold_event {stub next : Stub} {amount : Float} {assetID : String}
    (checked : checkMiCAThreshold stub amount assetID = .ok next) :
    next.event = if amount > micaThresholdEUR then
      some ("MiCAThresholdExceeded", micaReport stub.txID assetID amount) else stub.event := by
  unfold checkMiCAThreshold at checked
  split at checked
  next large =>
    rw [wrapping_eq_ok, Stub.setEvent_eq_ok] at checked
    rw [if_pos large, ← checked.2]
    rfl
  next small => rw [if_neg small, ← Except.ok.inj checked]

/-- A document reports a transfer where an object with these members occurs in it. -/
def Reports (txID assetID : String) (amount : Float) (document : Json) : Prop :=
  ∃ members, Json.Occurs (.object members) document ∧
    dictGet members "event" = some (.string "MICA_ART68_TRIGGERED") ∧ dictGet members "txID" = some (.string txID) ∧
    dictGet members "assetID" = some (.string assetID) ∧ dictGet members "amount" = some (.number amount)

/-- An event is the report of the threshold check, or its document contains the report. -/
def Carries (txID assetID : String) (amount : Float) (event : String × EventPayload) : Prop :=
  event = ("MiCAThresholdExceeded", micaReport txID assetID amount) ∨
    ∃ document, event.2 = .document document ∧ Reports txID assetID amount document

section Documents

variable {members : List (String × Json)}

/-- The objects of an asset's document are the asset and its records, and none of them has an event. -/
theorem not_event_of_record {record : ProvenanceRecord} {document : Json} (marshalled : record.marshal = .ok document)
    (occurs : Json.Occurs (.object members) document) : dictGet members "event" = none := by
  simp only [ProvenanceRecord.marshal, bind_eq_ok, Json.encodeFloat_eq_ok] at marshalled
  obtain ⟨timestamp, written, _, ⟨_, rfl⟩, same⟩ := marshalled
  obtain rfl := Except.ok.inj same
  have stamped : ∃ text, timestamp = .string text := by
    unfold marshalTime at written
    split at written
    next => exact ⟨_, (Except.ok.inj written).symm⟩
    next => cases written
  obtain ⟨text, rfl⟩ := stamped
  rcases (Json.occurs_object _).mp occurs with same | inside
  · obtain rfl := Json.object.inj same
    rfl
  · simp at inside

theorem not_event_of_asset {asset : FinancialAsset} {document : Json} (marshalled : asset.marshal = .ok document)
    (occurs : Json.Occurs (.object members) document) : dictGet members "event" = none := by
  simp only [FinancialAsset.marshal, bind_eq_ok, Json.encodeFloat_eq_ok] at marshalled
  obtain ⟨_, ⟨_, rfl⟩, _, ⟨_, rfl⟩, _, ⟨_, rfl⟩, records, trail, same⟩ := marshalled
  obtain rfl := Except.ok.inj same
  rcases (Json.occurs_object _).mp occurs with same | inside
  · obtain rfl := Json.object.inj same
    rfl
  · simp only [List.mem_cons, List.not_mem_nil, or_false, exists_eq_or_imp, exists_eq_left, Json.occurs_string,
      Json.occurs_number, Json.occurs_integer, reduceCtorEq, false_or] at inside
    rcases (Json.occurs_array records).mp inside with same | ⟨document, member, inside⟩
    · cases same
    · obtain ⟨record, _, marshalled⟩ := mem_of_mapM asset.provenance records trail document member
      exact not_event_of_record marshalled inside

theorem not_reports_of_asset {asset : FinancialAsset} {document : Json} (marshalled : asset.marshal = .ok document)
    (txID assetID : String) (amount : Float) : ¬ Reports txID assetID amount document := by
  rintro ⟨members, occurs, event, _⟩
  rw [not_event_of_asset marshalled occurs] at event
  cases event

end Documents

section Transfers

/-- The event that the peers hand out carries the report of a transfer. -/
def Ledger.Reported (ledger : Ledger) (proposal : Proposal) (assetID toOwner justification : String)
    (price : Float) : Prop :=
  ∃ event, ledger.emit ⟨proposal, .transferAsset assetID toOwner justification price⟩ = some event ∧
    Carries proposal.txID assetID price event

/-- The threshold check sets its report, and the transfer replaces it by its own event. -/
theorem not_reported {ledger : Ledger} {proposal : Proposal} {assetID toOwner justification : String} {price : Float}
    (accepted : (ledger.submit ⟨proposal, .transferAsset assetID toOwner justification price⟩).2.isOk = true) :
    ¬ ledger.Reported proposal assetID toOwner justification price := by
  rintro ⟨event, emitted, carries⟩
  unfold Ledger.submit at accepted
  unfold Ledger.emit at emitted
  cases invoked : invoke (proposal.context ledger) (.transferAsset assetID toOwner justification price) with
  | error err =>
      rw [invoked] at accepted
      cases accepted
  | ok answer =>
      obtain ⟨stub, response⟩ := answer
      rw [invoked] at emitted
      obtain ⟨transferred, _⟩ := (written_eq_ok _ _ _).mp invoked
      obtain ⟨asset, document, emits⟩ := transferAsset_emits transferred
      obtain rfl := Option.some.inj (emits.event.symm.trans emitted)
      rcases carries with same | ⟨_, same, reports⟩
      · have names : "AssetTransferred" = "MiCAThresholdExceeded" := congrArg Prod.fst same
        exact absurd names (by decide)
      · obtain rfl := EventPayload.document.inj same
        exact not_reports_of_asset emits.marshalled _ _ _ reports

/-- A transfer is reported as it should be exactly when its price is not above the threshold. -/
theorem transfer_reported_iff (ledger : Ledger) (proposal : Proposal) (assetID toOwner justification : String)
    (price : Float)
    (accepted : (ledger.submit ⟨proposal, .transferAsset assetID toOwner justification price⟩).2.isOk = true) :
    (ledger.Reported proposal assetID toOwner justification price ↔ price > micaThresholdEUR) ↔
      ¬ price > micaThresholdEUR := by
  rw [iff_false_intro (not_reported accepted), false_iff]

/-- The bank has issued a bond and sells it for two million euros. -/
def issuedLedger : Ledger := Ledger.empty.run [
  ⟨.healthy bank "t1", .tokenizeAsset "RWA-BANK-BOND-2026-001" "FR0000000001" "OBLIGATION" "Bond"
    "BANK0100000000000000" 100.0 "EUR" "2026-01-01" "issue"⟩]

def largeSale : Call :=
  ⟨.healthy bank "t2", .transferAsset "RWA-BANK-BOND-2026-001" "alice@bank01.com" "sale" 2000000.0⟩

theorem smallSale_reported_iff :
    (issuedLedger.Reported (.healthy bank "t2") "RWA-BANK-BOND-2026-001" "alice@bank01.com" "sale" 120.0 ↔
      120.0 > micaThresholdEUR) ↔ ¬ 120.0 > micaThresholdEUR :=
  transfer_reported_iff issuedLedger (.healthy bank "t2") "RWA-BANK-BOND-2026-001" "alice@bank01.com" "sale" 120.0
    (by decide +kernel)

/-- The large sale succeeds, and its report is not delivered. -/
theorem largeSale_unreported :
    (issuedLedger.submit largeSale).2.isOk = true ∧ 2000000.0 > micaThresholdEUR ∧
      ¬ issuedLedger.Reported (.healthy bank "t2") "RWA-BANK-BOND-2026-001" "alice@bank01.com" "sale" 2000000.0 := by
  have accepted : (issuedLedger.submit largeSale).2.isOk = true := by decide +kernel
  exact ⟨accepted, by decide +kernel, not_reported accepted⟩

end Transfers

end Pxtly.Chaincode
