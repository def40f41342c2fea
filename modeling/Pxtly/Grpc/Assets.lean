/-
This file gives the asset servicer of the gRPC server and compares it with the REST routes.
-/

import Pxtly.Assets.Service
import Pxtly.Assets.Validation

namespace Pxtly.Grpc

open Foundation Validated Program
open Assets (AssetOperation AssetRequest AssetResponse Arguments Readers ServiceError)

/-- These exceptions leave a servicer. -/
inductive AssetFault where
  | validation (errors : List FieldError)
  | permissionDenied
  | typeError
  | attributeError (message : String)
  | service (cause : ServiceError)

structure TokenizeMessage where
  assetID : String
  assetType : String
  isin : String
  lei : String
  currency : String
  faceValue : Float
  owner : String
  metadata : String

structure TransferMessage where
  assetID : String
  newOwner : String
  amount : Float

structure FreezeMessage where
  assetID : String
  reason : String

structure UnfreezeMessage where
  assetID : String
  reason : String

/-- Each servicer builds its schema from these named arguments. -/
def TokenizeMessage.arguments (request : TokenizeMessage) : Arguments :=
  [("asset_id", .string request.assetID), ("asset_type", .string request.assetType), ("isin", .string request.isin),
    ("lei", .string request.lei), ("currency", .string request.currency), ("face_value", .number request.faceValue),
    ("owner", .string request.owner), ("metadata", .string request.metadata)]

def TransferMessage.arguments (request : TransferMessage) : Arguments :=
  [("asset_id", .string request.assetID), ("new_owner", .string request.newOwner), ("amount", .number request.amount)]

def FreezeMessage.arguments (request : FreezeMessage) : Arguments :=
  [("asset_id", .string request.assetID), ("reason", .string request.reason)]

def UnfreezeMessage.arguments (request : UnfreezeMessage) : Arguments :=
  [("asset_id", .string request.assetID), ("reason", .string request.reason)]

inductive AssetMessage where
  | tokenize (request : TokenizeMessage)
  | transfer (request : TransferMessage)
  | freeze (request : FreezeMessage)
  | unfreeze (request : UnfreezeMessage)

def AssetMessage.operation : AssetMessage → AssetOperation
  | .tokenize _ => .tokenize
  | .transfer _ => .transfer
  | .freeze _ => .freeze
  | .unfreeze _ => .unfreeze

def AssetMessage.arguments : AssetMessage → Arguments
  | .tokenize request => request.arguments
  | .transfer request => request.arguments
  | .freeze request => request.arguments
  | .unfreeze request => request.arguments

def msps : List (String × String) := [("BANK01MSP", "admin@bank01"), ("REG01MSP", "admin@reg01-regulateur")]

/-- A list or a dictionary is no key of the table. -/
def resolveIdentityFromPayload (payload : List (String × Json)) : Except AssetFault String :=
  let mspID := (dictGet payload "msp_id").getD .null
  if truthy mspID then
    match mspID with
    | .string text =>
        match msps.lookup text with
        | none => .error .permissionDenied
        | some identity => .ok identity
    | .array _ => .error .typeError
    | .object _ => .error .typeError
    | _ => .error .permissionDenied
  else .error .permissionDenied

/-- An attribute of a response is a text, a number, a date or `None`. -/
inductive Attribute where
  | none
  | text (value : String)
  | printed (value : PyText)
  | decimal (value : Assets.Numeric)
  | date (value : Date)
  | integer (value : PyInt)

def textAttribute (value : Option String) : Attribute := (value.map .text).getD .none

/-- These are the attributes that `AssetResponse` declares. -/
def attributes (response : AssetResponse) : List (String × Attribute) :=
  [("asset_id", .text response.assetID), ("isin", textAttribute response.isin), ("asset_type", .text response.assetType),
    ("asset_name", .text response.assetName), ("issuer_org_id", .text response.issuerOrgID),
    ("current_owner_id", .text response.currentOwnerID), ("nominal_value", .decimal response.nominalValue),
    ("current_value", .decimal response.currentValue), ("currency", .text response.currency),
    ("status", .text response.status.text), ("issuance_date", .date response.issuanceDate),
    ("fabric_tx_id", (response.fabricTxID.map .printed).getD .none),
    ("fabric_block_number", (response.fabricBlockNumber.map .integer).getD .none)]

def getAttribute (response : AssetResponse) (name : String) : Except AssetFault Attribute :=
  match (attributes response).lookup name with
  | some value => .ok value
  | none => .error (.attributeError ("'AssetResponse' object has no attribute '" ++ name ++ "'"))

/-- A converted attribute is known for a text or `None` and kept as its source for any other value. -/
inductive Converted (A : Type) where
  | known (value : A)
  | source (value : Attribute)

/-- `str(value or "")` -/
def strOrEmpty : Attribute → Converted String
  | .none => .known ""
  | .text value => .known value
  | value => .source value

/-- `float(value or 0)` -/
def floatOrZero : Attribute → Converted Float
  | .none => .known 0
  | .text "" => .known 0
  | .decimal value => .known value.toFloat
  | value => .source value

structure AssetReply where
  assetID : Converted String
  assetType : Converted String
  isin : Converted String
  lei : Converted String
  currency : Converted String
  faceValue : Converted Float
  owner : Converted String
  status : Converted String
  createdAt : Converted String
  updatedAt : Converted String

/-- This is `_asset_to_proto`; the attributes are read in the order of the reply's fields. -/
def assetToProto (response : AssetResponse) : Except AssetFault AssetReply := do
  let assetID ← getAttribute response "asset_id"
  let assetType ← getAttribute response "asset_type"
  let isin ← getAttribute response "isin"
  let lei ← getAttribute response "lei"
  let currency ← getAttribute response "currency"
  let faceValue ← getAttribute response "face_value"
  let owner ← getAttribute response "owner"
  let status ← getAttribute response "status"
  let createdAt ← getAttribute response "created_at"
  let updatedAt ← getAttribute response "updated_at"
  return {
    assetID := strOrEmpty assetID
    assetType := strOrEmpty assetType
    isin := strOrEmpty isin
    lei := strOrEmpty lei
    currency := strOrEmpty currency
    faceValue := floatOrZero faceValue
    owner := strOrEmpty owner
    status := strOrEmpty status
    createdAt := strOrEmpty createdAt
    updatedAt := strOrEmpty updatedAt }

/-- A servicer validates the request, finds the signer, runs the service function and encodes its response. -/
def answer {A : Type} (schema : Validated A) (payload : List (String × Json))
    (run : A → String → Assets.Service AssetResponse) : Program Assets.signature AssetFault AssetReply := do
  let request ← lift (schema.mapError .validation)
  let identity ← lift (resolveIdentityFromPayload payload)
  let result ← (run request identity).mapFault .service
  lift (assetToProto result)

section Servicers

variable (readers : Readers) (payload : List (String × Json)) (fresh : Assets.Uuid)

def tokenizeAsset (request : TokenizeMessage) : Program Assets.signature AssetFault AssetReply :=
  answer (Assets.TokenizeRequest.validate readers request.arguments) payload Assets.tokenize

/-- No servicer passes a current user on. -/
def transferAsset (request : TransferMessage) : Program Assets.signature AssetFault AssetReply :=
  answer (Assets.TransferRequest.validate readers request.arguments) payload fun schema identity =>
    Assets.transfer schema identity none fresh

def freezeAsset (request : FreezeMessage) : Program Assets.signature AssetFault AssetReply :=
  answer (Assets.FreezeRequest.validate request.arguments) payload fun schema identity =>
    Assets.freeze schema identity none fresh

def unfreezeAsset (request : UnfreezeMessage) : Program Assets.signature AssetFault AssetReply :=
  answer (Assets.UnfreezeRequest.validate request.arguments) payload fun schema identity =>
    Assets.unfreezeAsset schema identity none fresh

def AssetMessage.serve : AssetMessage → Program Assets.signature AssetFault AssetReply
  | .tokenize request => tokenizeAsset readers payload request
  | .transfer request => transferAsset readers payload fresh request
  | .freeze request => freezeAsset payload fresh request
  | .unfreeze request => unfreezeAsset payload fresh request

/-- This is the request that the service function of the message receives. -/
def AssetMessage.validated (message : AssetMessage) : Validated AssetRequest :=
  message.operation.validate readers message.arguments

/-- A route validates the members of its JSON body. -/
def restRequest (operation : AssetOperation) : Json → Validated AssetRequest
  | .object members => operation.validate readers members
  | _ => .error [⟨"body", "Input should be a valid dictionary or object to extract fields from"⟩]

end Servicers

/-- No message has a field under this name of its schema. -/
def AssetMessage.absent : AssetMessage → String
  | .tokenize _ => "asset_name"
  | .transfer _ => "to_owner"
  | .freeze _ => "regulatory_ref"
  | .unfreeze _ => "justification"

theorem AssetMessage.absent_field (message : AssetMessage) :
    message.absent ∈ message.operation.fields ∧ dictGet message.arguments message.absent = none := by
  cases message with
  | tokenize request => exact ⟨by simp [absent, operation, AssetOperation.fields], rfl⟩
  | transfer request => exact ⟨by simp [absent, operation, AssetOperation.fields], rfl⟩
  | freeze request => exact ⟨by simp [absent, operation, AssetOperation.fields], rfl⟩
  | unfreeze request => exact ⟨by simp [absent, operation, AssetOperation.fields], rfl⟩

/-- Every schema refuses the arguments that its servicer gives it. -/
theorem AssetMessage.refused (readers : Readers) (message : AssetMessage) :
    ∃ errors, message.validated readers = .error errors := by
  cases result : message.validated readers with
  | error errors => exact ⟨errors, rfl⟩
  | ok request =>
      have present := AssetOperation.present readers message.arguments message.operation request result
      obtain ⟨listed, missing⟩ := message.absent_field
      exact absurd missing (present _ listed)

theorem executes_answer {A : Type} {schema : Validated A} {errors : List FieldError} (refused : schema = .error errors)
    (payload : List (String × Json)) (run : A → String → Assets.Service AssetResponse)
    (events : List Assets.ServiceEvent) (outcome : Except AssetFault AssetReply) :
    Executes (answer schema payload run) events outcome ↔ events = [] ∧ outcome = .error (.validation errors) := by
  subst refused
  exact Iff.rfl

/-- The service function of a refused message is never called. -/
theorem AssetMessage.executes_serve {readers : Readers} {message : AssetMessage} {errors : List FieldError}
    (refused : message.validated readers = .error errors) (payload : List (String × Json)) (fresh : Assets.Uuid)
    (events : List Assets.ServiceEvent) (outcome : Except AssetFault AssetReply) :
    Executes (message.serve readers payload fresh) events outcome ↔
      events = [] ∧ outcome = .error (.validation errors) := by
  have unmapped {A B : Type} {result : Validated A} {f : A → B} (mapped : result.map f = .error errors) :
      result = .error errors := by
    cases result with
    | error own => exact congrArg _ (Except.error.inj mapped)
    | ok value => cases mapped
  cases message with
  | tokenize request => exact executes_answer (unmapped refused) _ _ _ _
  | transfer request => exact executes_answer (unmapped refused) _ _ _ _
  | freeze request => exact executes_answer (unmapped refused) _ _ _ _
  | unfreeze request => exact executes_answer (unmapped refused) _ _ _ _

/-- The response schema declares no such attribute. -/
theorem assetToProto_fails (response : AssetResponse) :
    assetToProto response = .error (.attributeError "'AssetResponse' object has no attribute 'lei'") := rfl

/-- No message reaches a service function, and no response of one could be sent back. -/
theorem asset_interfaces_disagree (readers : Readers) :
    (∀ operation body request, restRequest readers operation body = .ok request →
      ∀ message : AssetMessage, message.validated readers ≠ .ok request) ∧
    (∀ (message : AssetMessage) payload fresh, ∃ errors, ∀ events outcome,
      Executes (message.serve readers payload fresh) events outcome ↔
        events = [] ∧ outcome = .error (.validation errors)) ∧
    ∀ response, ∃ text, assetToProto response = .error (.attributeError text) := by
  constructor
  · intro operation body request accepted message reached
    obtain ⟨errors, refused⟩ := message.refused readers
    cases refused.symm.trans reached
  constructor
  · intro message payload fresh
    obtain ⟨errors, refused⟩ := message.refused readers
    exact ⟨errors, AssetMessage.executes_serve refused payload fresh⟩
  · intro response
    exact ⟨_, assetToProto_fails response⟩

/-- The fields of a message lie within the bounds of the schema fields that they stand for. -/
def AssetMessage.InBounds : AssetMessage → Prop
  | .tokenize request =>
      Assets.tokenizeAssetIDPattern.matchString request.assetID = true ∧
        Assets.isinPattern.matchString request.isin = true ∧ request.assetType ∈ Assets.assetTypes ∧
        Assets.leiPattern.matchString request.lei = true ∧ Assets.currencyPattern.matchString request.currency = true ∧
        0 < request.faceValue
  | .transfer request =>
      Assets.Bounded 5 100 request.assetID ∧ Assets.Bounded 10 200 request.newOwner ∧ 0 < request.amount
  | .freeze request =>
      Assets.Bounded 5 100 request.assetID ∧ Assets.Bounded 10 Assets.justificationMax request.reason
  | .unfreeze request =>
      Assets.Bounded 5 100 request.assetID ∧ Assets.Bounded 10 Assets.justificationMax request.reason

def bondFreezeMessage : FreezeMessage := ⟨Assets.bondFreeze.assetID, Assets.bondFreeze.reason⟩

/-- These readers know integer literals and no date. -/
def integerReaders : Readers where
  decimal
    | .integer value => .ok ⟨value, 0⟩
    | _ => .error "Decimal input should be an integer, float, string or Decimal object"
  date _ := .error "Input should be a valid date"

theorem bondFreezeMessage_refused :
    (AssetMessage.freeze bondFreezeMessage).InBounds ∧
      (AssetMessage.freeze bondFreezeMessage).validated integerReaders =
        .error [⟨"regulatory_ref", "Field required"⟩] := by
  constructor
  · exact ⟨Assets.bondFreeze.assetIDBounded, Assets.bondFreeze.reasonBounded⟩
  · rfl

def bondFreezeBody : Json := .object [("asset_id", .string Assets.bondFreeze.assetID),
  ("reason", .string Assets.bondFreeze.reason), ("regulatory_ref", .string Assets.bondFreeze.regulatoryRef)]

/-- The route accepts the freeze that no message asks for. -/
theorem asset_interfaces_disagree_bondFreeze :
    restRequest integerReaders .freeze bondFreezeBody = .ok (.freeze Assets.bondFreeze) ∧
      ∀ message : AssetMessage, message.validated integerReaders ≠ .ok (.freeze Assets.bondFreeze) := by
  have accepted : restRequest integerReaders .freeze bondFreezeBody = .ok (.freeze Assets.bondFreeze) := by rfl
  exact ⟨accepted, (asset_interfaces_disagree integerReaders).1 .freeze bondFreezeBody _ accepted⟩

end Pxtly.Grpc
