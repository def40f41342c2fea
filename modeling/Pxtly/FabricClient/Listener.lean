/-
This file gives the listener of the contract's events: the checks of a payload, the bucket of tokens and the delivery.
-/

import Pxtly.Assets.Formats
import Pxtly.Assets.Reading
import Pxtly.Chaincode.Events

namespace Pxtly.Fabric

open Foundation
open Assets (asset_members assetKeys eventAssetIDPattern pythonMatch)
open Chaincode (Call FinancialAsset Ledger Response Stub invoke)

/-- A callback receives the structured event, and it may raise an error. -/
abbrev Callback := Json → Option String

structure EventSettings where
  fabricChannel : String
  fabricChaincode : String
  fabricEventsTargets : String
  fabricEventsRequiredPayloadFields : String
  fabricEventsRateLimit : Float
  fabricEventsRedisChannel : String

/-- The store is absent until the listener starts, and a publication may raise an error. -/
structure FabricEventListener where
  settings : EventSettings
  targetEvents : List String
  requiredFields : List String
  redis : Option (Json → Option String)
  callbacks : List Callback
  tokens : Float
  lastTokenUpdate : Float

def splitCommas (text : String) : List String := (text.toList.splitOn ',').map String.ofList

def FabricEventListener.create (settings : EventSettings) (now : Float) : FabricEventListener where
  settings
  targetEvents := splitCommas settings.fabricEventsTargets
  requiredFields := splitCommas settings.fabricEventsRequiredPayloadFields
  redis := none
  callbacks := []
  tokens := settings.fabricEventsRateLimit
  lastTokenUpdate := now

def FabricEventListener.onEvent (listener : FabricEventListener) (callback : Callback) : FabricEventListener :=
  { listener with callbacks := listener.callbacks ++ [callback] }

section Bucket

def FabricEventListener.refilled (listener : FabricEventListener) (now : Float) : Float :=
  let tokens := listener.tokens + (now - listener.lastTokenUpdate) * listener.settings.fabricEventsRateLimit
  if tokens > listener.settings.fabricEventsRateLimit then listener.settings.fabricEventsRateLimit else tokens

/-- An event costs one token. -/
def FabricEventListener.acquireRateLimitToken (listener : FabricEventListener) (now : Float) :
    Bool × FabricEventListener :=
  let tokens := listener.refilled now
  if tokens ≥ 1.0 then (true, { listener with tokens := tokens - 1.0, lastTokenUpdate := now })
  else (false, { listener with tokens, lastTokenUpdate := now })

end Bucket

section Validation

def validChaincodeActions : List String := ["AssetCreated", "AssetTransferred", "AssetFrozen", "AssetUnfrozen"]

/-- A required field is neither absent nor `null` nor the empty text. -/
def fieldPresent : Option Json → Bool
  | none => false
  | some .null => false
  | some (.string text) => text != ""
  | some _ => true

/-- The actions are a set, and a list or a dictionary is not looked up in a set. -/
def actionKnown : Option Json → Except String Bool
  | some (.string text) => .ok (text ∈ validChaincodeActions)
  | some (.array _) => .error "unhashable type: 'list'"
  | some (.object _) => .error "unhashable type: 'dict'"
  | _ => .ok false

def transactionNamed : Option Json → Bool
  | some (.string text) => text != ""
  | _ => false

/-- The text of a value that is no text is not empty and does not begin as an asset ID does. -/
def assetIDAccepted : Option Json → Bool
  | none => true
  | some (.string text) => text == "" || pythonMatch eventAssetIDPattern text
  | some _ => false

def FabricEventListener.validatePayload (listener : FabricEventListener) (payload : List (String × Json)) :
    Except String Bool :=
  if listener.requiredFields.all fun field => fieldPresent (dictGet payload field) then do
    let known ← actionKnown (dictGet payload "action")
    return known && transactionNamed (dictGet payload "txID") && assetIDAccepted (dictGet payload "assetID")
  else .ok false

end Validation

section Handling

/-- The bytes of a payload raise an error, are empty or are the text of a JSON value. -/
inductive PayloadBytes where
  | unreadable (error : String)
  | empty
  | text (value : Json)

/-- A value that is no dictionary counts as the empty dictionary. -/
def PayloadBytes.data : PayloadBytes → Except String (List (String × Json))
  | .unreadable error => .error error
  | .text (.object members) => .ok members
  | _ => .ok []

/-- Handling an event publishes it at most once and gives it to the callbacks in their order. -/
structure Handling where
  listener : FabricEventListener
  published : Option (String × Json) := none
  received : Nat := 0
  error : Option String := none

/-- An error of a callback keeps the event from the later ones. -/
def runCallbacks (event : Json) : List Callback → Nat × Option String
  | [] => (0, none)
  | callback :: rest =>
      match callback event with
      | some error => (1, some error)
      | none => ((runCallbacks event rest).1 + 1, (runCallbacks event rest).2)

def FabricEventListener.structuredEvent (listener : FabricEventListener) (eventName : String)
    (payload : List (String × Json)) : Json :=
  .object [
    ("event", .string eventName),
    ("chaincode", .string listener.settings.fabricChaincode),
    ("channel", .string listener.settings.fabricChannel),
    ("payload", .object payload)]

/-- The event goes to the store first, and an error there keeps it from every callback. -/
def FabricEventListener.dispatch (listener : FabricEventListener) (event : Json) : Handling :=
  let delivered := runCallbacks event listener.callbacks
  match listener.redis with
  | none => { listener, received := delivered.1, error := delivered.2 }
  | some publish =>
      match publish event with
      | some error => { listener, error }
      | none =>
          { listener, published := some (listener.settings.fabricEventsRedisChannel, event), received := delivered.1,
            error := delivered.2 }

/-- Every error is caught and logged. -/
def FabricEventListener.handleIncomingEvent (listener : FabricEventListener) (now : Float) (eventName : String)
    (payload : PayloadBytes) : Handling :=
  if eventName ∉ listener.targetEvents then { listener }
  else
    match payload.data with
    | .error error => { listener, error }
    | .ok members =>
        match listener.validatePayload members with
        | .error error => { listener, error }
        | .ok false => { listener }
        | .ok true =>
            match listener.acquireRateLimitToken now with
            | (false, charged) => { listener := charged }
            | (true, charged) => charged.dispatch (charged.structuredEvent eventName members)

end Handling

/-- The event is accepted as valid and reaches every registered callback. -/
def FabricEventListener.Understands (listener : FabricEventListener) (now : Float) (eventName : String)
    (payload : PayloadBytes) : Prop :=
  (∃ members, payload.data = .ok members ∧ listener.validatePayload members = .ok true) ∧
    (listener.handleIncomingEvent now eventName payload).received = listener.callbacks.length

section Delivery

variable {listener : FabricEventListener}

theorem runCallbacks_all {event : Json} {callbacks : List Callback}
    (silent : ∀ callback ∈ callbacks, callback event = none) :
    runCallbacks event callbacks = (callbacks.length, none) := by
  induction callbacks with
  | nil => rfl
  | cons callback rest inductionHypothesis =>
      have first := silent callback List.mem_cons_self
      have later := inductionHypothesis fun other member => silent other (List.mem_cons_of_mem _ member)
      rw [runCallbacks, first]
      simp only [later, List.length_cons]

@[simp] theorem acquireRateLimitToken_callbacks (listener : FabricEventListener) (now : Float) :
    (listener.acquireRateLimitToken now).2.callbacks = listener.callbacks := by
  unfold FabricEventListener.acquireRateLimitToken
  dsimp only
  split <;> rfl

@[simp] theorem acquireRateLimitToken_redis (listener : FabricEventListener) (now : Float) :
    (listener.acquireRateLimitToken now).2.redis = listener.redis := by
  unfold FabricEventListener.acquireRateLimitToken
  dsimp only
  split <;> rfl

theorem dispatch_received {event : Json} (publishes : ∀ publish, listener.redis = some publish → publish event = none)
    (silent : ∀ callback ∈ listener.callbacks, callback event = none) :
    (listener.dispatch event).received = listener.callbacks.length := by
  unfold FabricEventListener.dispatch
  rw [runCallbacks_all silent]
  cases store : listener.redis with
  | none => rfl
  | some publish => simp only [publishes publish store]

/-- A valid payload is understood when nothing on its way raises an error. -/
theorem understands_of_valid {now : Float} {eventName : String} {payload : PayloadBytes}
    {members : List (String × Json)}
    (targeted : eventName ∈ listener.targetEvents) (token : (listener.acquireRateLimitToken now).1 = true)
    (readable : payload.data = .ok members) (valid : listener.validatePayload members = .ok true)
    (publishes : ∀ publish event, listener.redis = some publish → publish event = none)
    (silent : ∀ callback ∈ listener.callbacks, ∀ event, callback event = none) :
    listener.Understands now eventName payload := by
  refine ⟨⟨members, readable, valid⟩, ?_⟩
  have callbacks := acquireRateLimitToken_callbacks listener now
  have redis := acquireRateLimitToken_redis listener now
  cases taken : listener.acquireRateLimitToken now with
  | mk available charged =>
      rw [taken] at token callbacks redis
      obtain rfl : available = true := token
      simp only [FabricEventListener.handleIncomingEvent, targeted, not_true_eq_false, if_false, readable, valid, taken]
      rw [← callbacks]
      exact dispatch_received (fun publish store => publishes publish _ (redis ▸ store))
        fun callback member => silent callback (callbacks ▸ member) _

/-- A payload without an action is not valid, whatever fields are required. -/
theorem validatePayload_of_noAction {payload : List (String × Json)} (missing : dictGet payload "action" = none) :
    listener.validatePayload payload = .ok false := by
  unfold FabricEventListener.validatePayload
  split
  · rw [missing]
    rfl
  · rfl

/-- The document of an asset names no action at its top. -/
theorem validatePayload_document (listener : FabricEventListener) {asset : FinancialAsset} {document : Json}
    (marshalled : asset.marshal = .ok document) :
    ∃ members, (PayloadBytes.text document).data = .ok members ∧ listener.validatePayload members = .ok false := by
  obtain ⟨members, rfl, names⟩ := asset_members marshalled
  have missing : dictGet members "action" = none :=
    dictGet_of_notMem (by rw [names]; decide +kernel)
  exact ⟨members, rfl, validatePayload_of_noAction missing⟩

/-- The document of an asset is dropped before it costs a token. -/
theorem handle_document {asset : FinancialAsset} {document : Json} (marshalled : asset.marshal = .ok document)
    (now : Float) (eventName : String) :
    listener.handleIncomingEvent now eventName (.text document) = { listener } := by
  obtain ⟨members, readable, refused⟩ := validatePayload_document listener marshalled
  unfold FabricEventListener.handleIncomingEvent
  split
  · rfl
  · simp only [readable, refused]

theorem not_understands_document {asset : FinancialAsset} {document : Json}
    (marshalled : asset.marshal = .ok document) (now : Float) (eventName : String) :
    ¬ listener.Understands now eventName (.text document) := by
  intro ⟨⟨members, readable, valid⟩, _⟩
  obtain ⟨others, same, refused⟩ := validatePayload_document listener marshalled
  obtain rfl := Except.ok.inj (readable.symm.trans same)
  rw [valid] at refused
  cases Except.ok.inj refused

end Delivery

/-- No event of the contract is understood, so neither a target nor a token helps a listener. -/
theorem contract_events_dropped (calls : List Call) (call : Call) (stub : Stub) (response : Response)
    (eventName : String)
    (accepted : invoke (call.proposal.context (Ledger.empty.run calls)) call.invocation = .ok (stub, response))
    (emits : call.invocation.eventName = some eventName) :
    ∃ document, stub.event = some (eventName, .document document) ∧ ∀ (listener : FabricEventListener) (now : Float),
      ¬ listener.Understands now eventName (.text document) ∧
      listener.handleIncomingEvent now eventName (.text document) = { listener } := by
  obtain ⟨assetID, asset, document, emitted⟩ := Chaincode.invoke_emits accepted emits
  exact ⟨document, emitted.event, fun listener now => ⟨not_understands_document emitted.marshalled now eventName,
    handle_document emitted.marshalled now eventName⟩⟩

section Samples

def exampleSettings : EventSettings where
  fabricChannel := "rwa-channel"
  fabricChaincode := "rwa-token"
  fabricEventsTargets := "AssetCreated,AssetTransferred,AssetFrozen,AssetUnfrozen"
  fabricEventsRequiredPayloadFields := "txID,action,assetID"
  fabricEventsRateLimit := 100.0
  fabricEventsRedisChannel := "fabric:events"

def exampleListener : FabricEventListener := (FabricEventListener.create exampleSettings 0).onEvent fun _ => none

/-- The listener understands the messages that the service publishes itself. -/
example : exampleListener.Understands 1 "AssetFrozen" (.text (.object [
    ("action", .string "AssetFrozen"),
    ("assetID", .string "RWA-BANK-BOND-2026-001"),
    ("txID", .string "redis-event-FREEZE-RWA-BANK-BOND-2026-001")])) :=
  ⟨⟨_, rfl, by decide +kernel⟩, by decide +kernel⟩

def issue : Call :=
  ⟨.healthy Chaincode.bank "t1", .tokenizeAsset "RWA-BANK-BOND-2026-001" "FR0000000001" "OBLIGATION" "Bond"
    "BANK0100000000000000" 100.0 "EUR" "2026-01-01" "issue"⟩

theorem issue_accepted : (invoke (issue.proposal.context Ledger.empty) issue.invocation).isOk = true := by
  decide +kernel

theorem issue_dropped : ∃ document,
    ((invoke (issue.proposal.context Ledger.empty) issue.invocation).toOption.bind fun answer => answer.1.event) =
      some ("AssetCreated", .document document) ∧
    ¬ exampleListener.Understands 1 "AssetCreated" (.text document) := by
  obtain ⟨answer, accepted⟩ := (isOk_iff _).mp issue_accepted
  obtain ⟨document, event, dropped⟩ := contract_events_dropped [] issue answer.1 answer.2 "AssetCreated" accepted rfl
  refine ⟨document, ?_, (dropped exampleListener 1).1⟩
  rw [accepted]
  exact event

/-- The bank issues a bond, and the listener waits for its event in vain. -/
theorem issue_misunderstood : ∃ stub response document,
    invoke (issue.proposal.context Ledger.empty) issue.invocation = .ok (stub, response) ∧
    stub.event = some ("AssetCreated", .document document) ∧ "AssetCreated" ∈ exampleListener.targetEvents ∧
    (exampleListener.acquireRateLimitToken 1).1 = true ∧
    ¬ exampleListener.Understands 1 "AssetCreated" (.text document) := by
  obtain ⟨answer, accepted⟩ := (isOk_iff _).mp issue_accepted
  obtain ⟨assetID, asset, document, emitted⟩ := Chaincode.invoke_emits accepted rfl
  exact ⟨answer.1, answer.2, document, accepted, emitted.event, by decide +kernel, by decide +kernel,
    not_understands_document emitted.marshalled 1 "AssetCreated"⟩

end Samples

end Pxtly.Fabric
