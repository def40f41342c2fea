/-
This file gives the checks of the four request schemas on named arguments.
-/

import Pxtly.Assets.Schemas
import Pxtly.Foundation.Validation

namespace Pxtly.Assets

open Foundation Validated

/-- A decimal is a signed coefficient scaled by a power of ten. -/
structure SignedDecimal where
  coefficient : Int
  exponent : Int
  deriving DecidableEq, Repr

/-- The schema library reads decimals and dates; a date has a year of at most four digits. -/
structure Readers where
  decimal : Json → Except String SignedDecimal
  date : Json → Except String {date : Date // 1 ≤ date.year ∧ date.year ≤ 9999}

/-- This is the check of `Field(..., gt=0)`. -/
def Readers.positive (readers : Readers) (value : Json) : Except String PositiveDecimal := do
  let decimal ← readers.decimal value
  if positive : 0 < decimal.coefficient.toNat then return ⟨decimal.coefficient.toNat, decimal.exponent, positive⟩
  else throw "Input should be greater than 0"

def assetTypeText : String :=
  "Input should be 'OBLIGATION', 'OPCVM', 'IMMOBILIER', 'DERIVE', 'MATIERE_PREMIERE', 'PRIVATE_EQUITY' or " ++
    "'INFRASTRUCTURE'"

def checkAssetType : Json → Except String {text : String // text ∈ assetTypes}
  | .string text => if listed : text ∈ assetTypes then .ok ⟨text, listed⟩ else .error assetTypeText
  | _ => .error assetTypeText

def tokenizeAssetIDRule : TextRule where
  pattern := some ("^RWA-[A-Z]{2,12}-[A-Z0-9]{2,8}-\\d{4}-\\d{3}$", tokenizeAssetIDPattern)

def isinRule : TextRule where
  least := 12
  most := some 12
  pattern := some ("^[A-Z]{2}[A-Z0-9]{10}$", isinPattern)

def assetNameRule : TextRule where
  least := 3
  most := some assetNameMax

def issuerLEIRule : TextRule where
  least := 20
  most := some 20
  pattern := some ("^[A-Z0-9]{20}$", leiPattern)

def currencyRule : TextRule where
  least := 3
  most := some 3
  pattern := some ("^[A-Z]{3}$", currencyPattern)

def justificationRule : TextRule where
  least := 10
  most := some justificationMax

def assetIDRule : TextRule where
  least := 5
  most := some 100

def toOwnerRule : TextRule where
  least := 10
  most := some 200

def regulatoryRefRule : TextRule where
  most := some regulatoryRefMax
  pattern := some ("^[A-Z0-9]{2,8}-[A-Z]{2,4}-\\d{4}-\\d{3,}$", freezeRefPattern)

theorem bounded_of_admits {rule : TextRule} {most : Nat} (bound : rule.most = some most) {text : String}
    (admits : rule.Admits text) : Bounded rule.least most text :=
  ⟨admits.2.1, admits.1 most bound⟩

theorem matches_of_admits {rule : TextRule} {source : String} {pattern : Pattern}
    (given : rule.pattern = some (source, pattern)) {text : String} (admits : rule.Admits text) :
    pattern.matchString text = true :=
  admits.2.2 (source, pattern) given

abbrev Arguments := List (String × Json)

def TokenizeRequest.validate (readers : Readers) (arguments : Arguments) : Validated TokenizeRequest :=
  (both (required arguments "asset_id" tokenizeAssetIDRule.check) <|
    both (required arguments "isin" isinRule.check) <|
    both (required arguments "asset_type" checkAssetType) <|
    both (required arguments "asset_name" assetNameRule.check) <|
    both (required arguments "issuer_lei" issuerLEIRule.check) <|
    both (required arguments "nominal_value" readers.positive) <|
    both (required arguments "currency" currencyRule.check) <|
    both (required arguments "issuance_date" readers.date)
      (required arguments "justification" justificationRule.check)).map
  fun (assetID, isin, assetType, assetName, issuerLEI, nominalValue, currency, issuanceDate, justification) =>
    { assetID := assetID
      isin := isin
      assetType := assetType
      assetName := assetName
      issuerLEI := issuerLEI
      nominalValue := nominalValue
      currency := currency
      issuanceDate := issuanceDate
      justification := justification
      assetIDMatches := matches_of_admits rfl assetID.property
      isinBounded := bounded_of_admits rfl isin.property
      isinMatches := matches_of_admits rfl isin.property
      assetTypeListed := assetType.property
      assetNameBounded := bounded_of_admits rfl assetName.property
      issuerLEIBounded := bounded_of_admits rfl issuerLEI.property
      issuerLEIMatches := matches_of_admits rfl issuerLEI.property
      currencyBounded := bounded_of_admits rfl currency.property
      currencyMatches := matches_of_admits rfl currency.property
      issuanceYear := issuanceDate.property
      justificationBounded := bounded_of_admits rfl justification.property }

def TransferRequest.validate (readers : Readers) (arguments : Arguments) : Validated TransferRequest :=
  (both (required arguments "asset_id" assetIDRule.check) <|
    both (required arguments "to_owner" toOwnerRule.check) <|
    both (required arguments "price" readers.positive)
      (required arguments "justification" justificationRule.check)).map
  fun (assetID, toOwner, price, justification) =>
    { assetID := assetID
      toOwner := toOwner
      price := price
      justification := justification
      assetIDBounded := bounded_of_admits rfl assetID.property
      toOwnerBounded := bounded_of_admits rfl toOwner.property
      justificationBounded := bounded_of_admits rfl justification.property }

def FreezeRequest.validate (arguments : Arguments) : Validated FreezeRequest :=
  (both (required arguments "asset_id" assetIDRule.check) <|
    both (required arguments "reason" justificationRule.check)
      (required arguments "regulatory_ref" regulatoryRefRule.check)).map
  fun (assetID, reason, regulatoryRef) =>
    { assetID := assetID
      reason := reason
      regulatoryRef := regulatoryRef
      assetIDBounded := bounded_of_admits rfl assetID.property
      reasonBounded := bounded_of_admits rfl reason.property
      regulatoryRefShort := (bounded_of_admits rfl regulatoryRef.property).2
      regulatoryRefMatches := matches_of_admits rfl regulatoryRef.property }

def UnfreezeRequest.validate (arguments : Arguments) : Validated UnfreezeRequest :=
  (both (required arguments "asset_id" assetIDRule.check)
    (required arguments "justification" justificationRule.check)).map
  fun (assetID, justification) =>
    { assetID := assetID
      justification := justification
      assetIDBounded := bounded_of_admits rfl assetID.property
      justificationBounded := bounded_of_admits rfl justification.property }

/-- A validated request is the argument of one of the service functions. -/
inductive AssetRequest where
  | tokenize (request : TokenizeRequest)
  | transfer (request : TransferRequest)
  | freeze (request : FreezeRequest)
  | unfreeze (request : UnfreezeRequest)

inductive AssetOperation where
  | tokenize
  | transfer
  | freeze
  | unfreeze
  deriving DecidableEq, Repr

def AssetOperation.fields : AssetOperation → List String
  | .tokenize => ["asset_id", "isin", "asset_type", "asset_name", "issuer_lei", "nominal_value", "currency",
      "issuance_date", "justification"]
  | .transfer => ["asset_id", "to_owner", "price", "justification"]
  | .freeze => ["asset_id", "reason", "regulatory_ref"]
  | .unfreeze => ["asset_id", "justification"]

def AssetOperation.validate (readers : Readers) (arguments : Arguments) : AssetOperation → Validated AssetRequest
  | .tokenize => (TokenizeRequest.validate readers arguments).map .tokenize
  | .transfer => (TransferRequest.validate readers arguments).map .transfer
  | .freeze => (FreezeRequest.validate arguments).map .freeze
  | .unfreeze => (UnfreezeRequest.validate arguments).map .unfreeze

/-- A refused request fails for some field of its schema, and every failure names one. -/
theorem AssetOperation.names (readers : Readers) (arguments : Arguments) (operation : AssetOperation) :
    Names operation.fields (operation.validate readers arguments) := by
  have head (name : String) {A : Type} (check : Json → Except String A) :=
    Names.required arguments name check
  cases operation with
  | tokenize =>
      apply Names.map
      apply Names.map
      exact (head _ _).both <| (head _ _).both <| (head _ _).both <| (head _ _).both <| (head _ _).both <|
        (head _ _).both <| (head _ _).both <| (head _ _).both (head _ _)
  | transfer =>
      apply Names.map
      apply Names.map
      exact (head _ _).both <| (head _ _).both <| (head _ _).both (head _ _)
  | freeze =>
      apply Names.map
      apply Names.map
      exact (head _ _).both <| (head _ _).both (head _ _)
  | unfreeze =>
      apply Names.map
      apply Names.map
      exact (head _ _).both (head _ _)

/-- A schema accepts a request only when every one of its fields is present. -/
theorem AssetOperation.present (readers : Readers) (arguments : Arguments) (operation : AssetOperation)
    (request : AssetRequest) (accepted : operation.validate readers arguments = .ok request) :
    ∀ name ∈ operation.fields, dictGet arguments name ≠ none := by
  intro name member missing
  cases operation <;>
    simp only [validate, TokenizeRequest.validate, TransferRequest.validate, FreezeRequest.validate,
      UnfreezeRequest.validate, map_eq_ok, both_eq_ok, required_eq_ok] at accepted <;>
    simp only [fields, List.mem_cons, List.not_mem_nil, or_false] at member <;>
    grind

/-- A rule without a pattern admits the texts within its bounds. -/
theorem admits_of_bounded (rule : TextRule) {most : Nat} (bound : rule.most = some most) (plain : rule.pattern = none)
    {text : String} (bounded : Bounded rule.least most text) : rule.Admits text := by
  refine ⟨fun upper given => ?_, bounded.1, by simp [plain]⟩
  obtain rfl := Option.some.inj (bound.symm.trans given)
  exact bounded.2

theorem admits_of_matches (rule : TextRule) {most : Nat} {source : String} {pattern : Pattern}
    (bound : rule.most = some most) (given : rule.pattern = some (source, pattern)) {text : String}
    (bounded : Bounded rule.least most text) (matched : pattern.matchString text = true) : rule.Admits text := by
  refine ⟨fun upper same => ?_, bounded.1, fun asked same => ?_⟩
  · obtain rfl := Option.some.inj (bound.symm.trans same)
    exact bounded.2
  · obtain rfl := Option.some.inj (given.symm.trans same)
    exact matched

/-- Every validated request comes from some arguments when decimals and dates can be written down. -/
theorem AssetRequest.exists_arguments (readers : Readers)
    (decimals : ∀ decimal, ∃ given, readers.positive given = .ok decimal)
    (dates : ∀ date, ∃ given, readers.date given = .ok date) (request : AssetRequest) :
    ∃ operation arguments, AssetOperation.validate readers arguments operation = .ok request := by
  cases request with
  | tokenize request =>
      obtain ⟨price, priced⟩ := decimals request.nominalValue
      obtain ⟨day, dated⟩ := dates ⟨request.issuanceDate, request.issuanceYear⟩
      let arguments : Arguments := [("asset_id", .string request.assetID), ("isin", .string request.isin),
        ("asset_type", .string request.assetType), ("asset_name", .string request.assetName),
        ("issuer_lei", .string request.issuerLEI), ("nominal_value", price), ("currency", .string request.currency),
        ("issuance_date", day), ("justification", .string request.justification)]
      have listed : tokenizeAssetIDRule.Admits request.assetID :=
        ⟨by simp [tokenizeAssetIDRule], Nat.zero_le _, by simpa [tokenizeAssetIDRule] using request.assetIDMatches⟩
      have assetID := required_text arguments "asset_id" listed rfl
      have isin := required_text arguments "isin"
        (admits_of_matches isinRule rfl rfl request.isinBounded request.isinMatches) rfl
      have assetType : required arguments "asset_type" checkAssetType = .ok ⟨_, request.assetTypeListed⟩ := by
        rw [required_eq_ok]
        exact ⟨_, rfl, dif_pos request.assetTypeListed⟩
      have assetName := required_text arguments "asset_name"
        (admits_of_bounded assetNameRule rfl rfl request.assetNameBounded) rfl
      have issuerLEI := required_text arguments "issuer_lei"
        (admits_of_matches issuerLEIRule rfl rfl request.issuerLEIBounded request.issuerLEIMatches) rfl
      have nominalValue := (required_eq_ok arguments "nominal_value" _ _).mpr ⟨_, rfl, priced⟩
      have currency := required_text arguments "currency"
        (admits_of_matches currencyRule rfl rfl request.currencyBounded request.currencyMatches) rfl
      have issuanceDate := (required_eq_ok arguments "issuance_date" _ _).mpr ⟨_, rfl, dated⟩
      have justification := required_text arguments "justification"
        (admits_of_bounded justificationRule rfl rfl request.justificationBounded) rfl
      refine ⟨.tokenize, arguments, ?_⟩
      simp only [AssetOperation.validate, TokenizeRequest.validate, assetID, isin, assetType, assetName, issuerLEI,
        nominalValue, currency, issuanceDate, justification, both]
      rfl
  | transfer request =>
      obtain ⟨price, priced⟩ := decimals request.price
      let arguments : Arguments := [("asset_id", .string request.assetID), ("to_owner", .string request.toOwner),
        ("price", price), ("justification", .string request.justification)]
      have assetID := required_text arguments "asset_id"
        (admits_of_bounded assetIDRule rfl rfl request.assetIDBounded) rfl
      have toOwner := required_text arguments "to_owner"
        (admits_of_bounded toOwnerRule rfl rfl request.toOwnerBounded) rfl
      have amount := (required_eq_ok arguments "price" _ _).mpr ⟨_, rfl, priced⟩
      have justification := required_text arguments "justification"
        (admits_of_bounded justificationRule rfl rfl request.justificationBounded) rfl
      refine ⟨.transfer, arguments, ?_⟩
      simp only [AssetOperation.validate, TransferRequest.validate, assetID, toOwner, amount, justification, both]
      rfl
  | freeze request =>
      let arguments : Arguments := [("asset_id", .string request.assetID), ("reason", .string request.reason),
        ("regulatory_ref", .string request.regulatoryRef)]
      have assetID := required_text arguments "asset_id"
        (admits_of_bounded assetIDRule rfl rfl request.assetIDBounded) rfl
      have reason := required_text arguments "reason"
        (admits_of_bounded justificationRule rfl rfl request.reasonBounded) rfl
      have regulatoryRef := required_text arguments "regulatory_ref"
        (admits_of_matches regulatoryRefRule rfl rfl ⟨Nat.zero_le _, request.regulatoryRefShort⟩
          request.regulatoryRefMatches) rfl
      refine ⟨.freeze, arguments, ?_⟩
      simp only [AssetOperation.validate, FreezeRequest.validate, assetID, reason, regulatoryRef, both]
      rfl
  | unfreeze request =>
      let arguments : Arguments := [("asset_id", .string request.assetID),
        ("justification", .string request.justification)]
      have assetID := required_text arguments "asset_id"
        (admits_of_bounded assetIDRule rfl rfl request.assetIDBounded) rfl
      have justification := required_text arguments "justification"
        (admits_of_bounded justificationRule rfl rfl request.justificationBounded) rfl
      refine ⟨.unfreeze, arguments, ?_⟩
      simp only [AssetOperation.validate, UnfreezeRequest.validate, assetID, justification, both]
      rfl

end Pxtly.Assets
