/-
This file gives the format checks and the status guards of the contract.
-/

import Pxtly.Chaincode.Context

namespace Pxtly.Chaincode

open Foundation

/-- `^RWA-[A-Z]{2,12}-[A-Z]{2,6}-[0-9]{4}-[0-9]{3}$` -/
def assetIDPattern : Pattern := [
  .literal 'R', .literal 'W', .literal 'A', .literal '-', .between isUpperLetter 2 12, .literal '-',
  .between isUpperLetter 2 6, .literal '-', .exactly isAsciiDigit 4, .literal '-', .exactly isAsciiDigit 3]

/-- `^[A-Z]{2,6}-[A-Z0-9]{2,8}-[0-9]{4}-[A-Z0-9]{3,8}$` -/
def regulatoryRefPattern : Pattern := [
  .between isUpperLetter 2 6, .literal '-', .between isUpperOrDigit 2 8, .literal '-',
  .exactly isAsciiDigit 4, .literal '-', .between isUpperOrDigit 3 8]

def supportedCurrencies : List String := ["EUR", "USD", "GBP", "CHF", "JPY", "MAD", "AED", "SGD"]

def requireActiveAsset (asset : FinancialAsset) : Except GoError Unit :=
  failWhen (asset.status ≠ statusActif) (.errorf
    "actif %s non disponible: statut=%s (réf réglementaire: %s)"
    [.text asset.assetID, .text asset.status.text, .text asset.regulatoryRef])

def requireFrozenAsset (asset : FinancialAsset) : Except GoError Unit :=
  failWhen (asset.status ≠ statusGele) (.errorf
    "actif %s n'est pas gelé (statut actuel: %s)" [.text asset.assetID, .text asset.status.text])

def validateAssetID (assetID : String) : Except GoError Unit :=
  failWhen (assetIDPattern.matchString assetID = false) (.errorf
    "assetID invalide: doit suivre le format RWA-XX-XXX-YYYY-NNN, reçu %q" [.text assetID])

def validateCurrency (currency : String) : Except GoError Unit :=
  failWhen (currency ∉ supportedCurrencies) (.errorf
    "devise non supportée: %q (ISO 4217 attendu)" [.text currency])

/-- A Go `range` over a string gives each rune with the byte offset where it starts. -/
def runesFrom (offset : Nat) : List Char → List (Nat × Char)
  | [] => []
  | c :: rest => (offset, c) :: runesFrom (offset + c.utf8Size) rest

def validateISIN (isin : String) : Except GoError Unit := do
  failWhen (isin.utf8ByteSize ≠ 12) (.errorf
    "ISIN invalide: longueur attendue 12, reçu %d" [.integer isin.utf8ByteSize])
  (runesFrom 0 isin.toList).forM fun (i, ch) =>
    if i < 2 then failWhen (isUpperLetter ch = false) (.errorf
      "ISIN invalide: les 2 premiers caractères doivent être des lettres majuscules" [])
    else failWhen (isUpperOrDigit ch = false) (.errorf
      "ISIN invalide: caractère '%c' illégal en position %d" [.rune ch, .integer i])

def validateLEI (lei : String) : Except GoError Unit := do
  failWhen (lei.utf8ByteSize ≠ 20) (.errorf
    "LEI invalide: longueur attendue 20, reçu %d" [.integer lei.utf8ByteSize])
  (runesFrom 0 lei.toList).forM fun (i, ch) =>
    failWhen (isUpperOrDigit ch = false) (.errorf
      "LEI invalide: caractère '%c' illégal en position %d" [.rune ch, .integer i])

def validateRegulatoryRef (ref : String) : Except GoError Unit :=
  failWhen (regulatoryRefPattern.matchString ref = false) (.errorf
    "référence réglementaire invalide: format attendu AUTHORITY-CATEGORY-YYYY-NNN, reçu %q"
    [.text ref])

/-- The threshold of MiCA Article 68 in euros. -/
def micaThresholdEUR : Float := 1000000.0

def checkMiCAThreshold (stub : Stub) (amount : Float) (assetID : String) : Except GoError Stub :=
  if amount > micaThresholdEUR then
    wrapping "CheckMiCAThreshold: émission événement: %w"
      (stub.setEvent "MiCAThresholdExceeded" (.formatted
        "\x7b\"event\":\"MICA_ART68_TRIGGERED\",\"txID\":\"%s\",\"assetID\":\"%s\",\"amount\":%f\x7d"
        [.text stub.txID, .text assetID, .float amount]))
  else .ok stub

@[simp] theorem requireActiveAsset_eq_ok (asset : FinancialAsset) (u : Unit) :
    requireActiveAsset asset = .ok u ↔ asset.status = statusActif := by
  simp [requireActiveAsset]

@[simp] theorem requireFrozenAsset_eq_ok (asset : FinancialAsset) (u : Unit) :
    requireFrozenAsset asset = .ok u ↔ asset.status = statusGele := by
  simp [requireFrozenAsset]

@[simp] theorem validateAssetID_eq_ok (assetID : String) (u : Unit) :
    validateAssetID assetID = .ok u ↔ assetIDPattern.matchString assetID = true := by
  simp [validateAssetID]

@[simp] theorem validateRegulatoryRef_eq_ok (ref : String) (u : Unit) :
    validateRegulatoryRef ref = .ok u ↔ regulatoryRefPattern.matchString ref = true := by
  simp [validateRegulatoryRef]

/-- The threshold check only changes the pending event. -/
theorem checkMiCAThreshold_frame (stub next : Stub) (amount : Float) (assetID : String)
    (checked : checkMiCAThreshold stub amount assetID = .ok next) :
    ∃ event, next = { stub with event } := by
  unfold checkMiCAThreshold at checked
  split at checked
  · rw [wrapping_eq_ok, Stub.setEvent_eq_ok] at checked
    exact ⟨_, checked.2.symm⟩
  · exact ⟨stub.event, (Except.ok.inj checked).symm⟩

theorem regulatoryRef_nonempty (ref : String) (matched : regulatoryRefPattern.matchString ref = true) :
    ref ≠ "" :=
  Pattern.ne_empty_of_matchString (by decide) matched

end Pxtly.Chaincode
