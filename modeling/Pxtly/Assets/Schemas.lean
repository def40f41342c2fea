/-
This file gives the requests that the schemas accept.
-/

import Pxtly.Foundation.Numerals
import Pxtly.Foundation.Patterns

namespace Pxtly.Assets

open Foundation

/-- A length counts characters. -/
def Bounded (least most : Nat) (text : String) : Prop := least ≤ text.length ∧ text.length ≤ most

instance (least most : Nat) (text : String) : Decidable (Bounded least most text) :=
  inferInstanceAs (Decidable (_ ∧ _))

/-- `^RWA-[A-Z]{2,12}-[A-Z0-9]{2,8}-\d{4}-\d{3}$` -/
def tokenizeAssetIDPattern : Pattern := [
  .literal 'R', .literal 'W', .literal 'A', .literal '-', .between isUpperLetter 2 12, .literal '-',
  .between isUpperOrDigit 2 8, .literal '-', .exactly unicodeDigit 4, .literal '-',
  .exactly unicodeDigit 3]

/-- `^[A-Z]{2}[A-Z0-9]{10}$` -/
def isinPattern : Pattern := [.exactly isUpperLetter 2, .exactly isUpperOrDigit 10]

/-- `^[A-Z0-9]{20}$` -/
def leiPattern : Pattern := [.exactly isUpperOrDigit 20]

/-- `^[A-Z]{3}$` -/
def currencyPattern : Pattern := [.exactly isUpperLetter 3]

/-- `^[A-Z0-9]{2,8}-[A-Z]{2,4}-\d{4}-\d{3,}$` -/
def freezeRefPattern : Pattern := [
  .between isUpperOrDigit 2 8, .literal '-', .between isUpperLetter 2 4, .literal '-',
  .exactly unicodeDigit 4, .literal '-', .atLeast unicodeDigit 3]

def assetTypes : List String :=
  ["OBLIGATION", "OPCVM", "IMMOBILIER", "DERIVE", "MATIERE_PREMIERE", "PRIVATE_EQUITY", "INFRASTRUCTURE"]

def assetNameMax : Nat := 200
def justificationMax : Nat := 500
def regulatoryRefMax : Nat := 100

structure TokenizeRequest where
  assetID : String
  isin : String
  assetType : String
  assetName : String
  issuerLEI : String
  nominalValue : PositiveDecimal
  currency : String
  issuanceDate : Date
  justification : String
  assetIDMatches : tokenizeAssetIDPattern.matchString assetID = true
  isinBounded : Bounded 12 12 isin
  isinMatches : isinPattern.matchString isin = true
  assetTypeListed : assetType ∈ assetTypes
  assetNameBounded : Bounded 3 assetNameMax assetName
  issuerLEIBounded : Bounded 20 20 issuerLEI
  issuerLEIMatches : leiPattern.matchString issuerLEI = true
  currencyBounded : Bounded 3 3 currency
  currencyMatches : currencyPattern.matchString currency = true
  issuanceYear : 1 ≤ issuanceDate.year ∧ issuanceDate.year ≤ 9999
  justificationBounded : Bounded 10 justificationMax justification

structure TransferRequest where
  assetID : String
  toOwner : String
  price : PositiveDecimal
  justification : String
  assetIDBounded : Bounded 5 100 assetID
  toOwnerBounded : Bounded 10 200 toOwner
  justificationBounded : Bounded 10 justificationMax justification

structure FreezeRequest where
  assetID : String
  reason : String
  regulatoryRef : String
  assetIDBounded : Bounded 5 100 assetID
  reasonBounded : Bounded 10 justificationMax reason
  regulatoryRefShort : regulatoryRef.length ≤ regulatoryRefMax
  regulatoryRefMatches : freezeRefPattern.matchString regulatoryRef = true

structure UnfreezeRequest where
  assetID : String
  justification : String
  assetIDBounded : Bounded 5 100 assetID
  justificationBounded : Bounded 10 justificationMax justification

/-- These requests are about one bond. -/
def bondTransfer : TransferRequest where
  assetID := "RWA-BANK-BOND-2026-001"
  toOwner := "alice@bank01.com"
  price := ⟨120, 0, by decide⟩
  justification := "quarterly sale"
  assetIDBounded := by decide
  toOwnerBounded := by decide
  justificationBounded := by decide

def bondFreeze : FreezeRequest where
  assetID := "RWA-BANK-BOND-2026-001"
  reason := "market abuse inquiry"
  regulatoryRef := "REG-INV-2026-001"
  assetIDBounded := by decide
  reasonBounded := by decide
  regulatoryRefShort := by decide
  regulatoryRefMatches := by decide +kernel

def bondUnfreeze : UnfreezeRequest where
  assetID := "RWA-BANK-BOND-2026-001"
  justification := "inquiry closed"
  assetIDBounded := by decide
  justificationBounded := by decide

end Pxtly.Assets
