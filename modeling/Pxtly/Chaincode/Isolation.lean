/-
This file shows that the calls on one asset do not depend on the calls on others.
-/

import Pxtly.Chaincode.Calls

namespace Pxtly.Chaincode

open Foundation

/-- A query names no asset. -/
def Invocation.assetID : Invocation → Option String
  | .tokenizeAsset assetID .. => some assetID
  | .transferAsset assetID .. => some assetID
  | .freezeAsset assetID .. => some assetID
  | .unfreezeAsset assetID .. => some assetID
  | .getAsset assetID => some assetID
  | .getAssetHistory assetID => some assetID
  | .getProvenanceTrail assetID => some assetID
  | .queryAssets _ => none

def Call.names (call : Call) (assetID : String) : Bool := call.invocation.assetID == some assetID

/-- The ledgers have one document and one history of the asset. -/
structure Ledger.Alike (assetID : String) (first second : Ledger) : Prop where
  document : first.worldState.lookup assetID = second.worldState.lookup assetID
  history : first.history assetID = second.history assetID

/-- A caller sees the event of a call and its response. -/
abbrev Answer := Except GoError (Option (String × EventPayload) × Response)

def Ledger.answer (ledger : Ledger) (call : Call) : Answer :=
  (invoke (call.proposal.context ledger) call.invocation).map fun result => (result.1.event, result.2)

def Ledger.transcript (ledger : Ledger) : List Call → List (Call × Answer)
  | [] => []
  | call :: rest => (call, ledger.answer call) :: (ledger.submit call).1.transcript rest

section Relocation

/-- The peer has another ledger. -/
def Stub.over (ledger : Ledger) (stub : Stub) : Stub := { stub with ledger }

def TransactionContext.over (ledger : Ledger) (ctx : TransactionContext) : TransactionContext :=
  { ctx with stub := ctx.stub.over ledger }

variable {A B : Type}

/-- The steps of a function that do not read the ledger are the same over another one. -/
theorem bind_map {E : Type} {first : Except E A} {next other : A → Except E B} {convert : B → B}
    (later : ∀ value, other value = (next value).map convert) : first >>= other = (first >>= next).map convert := by
  cases first with
  | error err => rfl
  | ok value => exact later value

/-- The steps behind a converted one are converted. -/
theorem map_bind_map {E : Type} {first : Except E A} {next other : A → Except E B} {convert : A → A} {change : B → B}
    (later : ∀ value, other (convert value) = (next value).map change) :
    first.map convert >>= other = (first >>= next).map change := by
  cases first with
  | error err => rfl
  | ok value => exact later value

theorem wrapping_map (format : String) (result : Except GoError A) (convert : A → B) :
    wrapping format (result.map convert) = (wrapping format result).map convert := by
  cases result <;> rfl

variable {ledger : Ledger}

theorem ask_map (stub : Stub) (call : PeerCall) (answer : Except GoError A) (convert : A → B) :
    stub.ask call (answer.map convert) = (stub.ask call answer).map convert := by
  unfold Stub.ask
  cases stub.fault call <;> rfl

theorem putState_over (stub : Stub) (key : String) (value : Json) :
    (stub.over ledger).putState key value = (stub.putState key value).map (Stub.over ledger) := by
  unfold Stub.putState
  split
  · rfl
  · exact ask_map stub .putState (.ok { stub with writes := stub.writes ++ [(key, value)] }) (Stub.over ledger)

theorem setEvent_over (stub : Stub) (name : String) (payload : EventPayload) :
    (stub.over ledger).setEvent name payload = (stub.setEvent name payload).map (Stub.over ledger) := by
  unfold Stub.setEvent
  exact ask_map stub (.setEvent name) (.ok { stub with event := some (name, payload) }) (Stub.over ledger)

theorem checkMiCAThreshold_over (stub : Stub) (amount : Float) (assetID : String) :
    checkMiCAThreshold (stub.over ledger) amount assetID =
      (checkMiCAThreshold stub amount assetID).map (Stub.over ledger) := by
  unfold checkMiCAThreshold
  split
  · rw [setEvent_over, wrapping_map]
    rfl
  · rfl

end Relocation

section Functions

variable {ledger : Ledger} {ctx : TransactionContext} {assetID : String}

theorem getState_over (same : ctx.stub.ledger.worldState.lookup assetID = ledger.worldState.lookup assetID) :
    (ctx.over ledger).stub.getState assetID = ctx.stub.getState assetID := by
  unfold Stub.getState
  rw [same]
  rfl

theorem readAsset_over (same : ctx.stub.ledger.worldState.lookup assetID = ledger.worldState.lookup assetID) :
    readAsset (ctx.over ledger) assetID = readAsset ctx assetID := by
  rw [readAsset, getState_over same]
  rfl

theorem assetExists_over (same : ctx.stub.ledger.worldState.lookup assetID = ledger.worldState.lookup assetID) :
    assetExists (ctx.over ledger) assetID = assetExists ctx assetID := by
  rw [assetExists, getState_over same]
  rfl

theorem tokenizeAsset_over (same : ctx.stub.ledger.worldState.lookup assetID = ledger.worldState.lookup assetID)
    (isin assetType assetName issuerLEI : String) (nominalValue : Float)
    (currency issuanceDate justification : String) :
    tokenizeAsset (ctx.over ledger) assetID isin assetType assetName issuerLEI nominalValue currency issuanceDate
        justification =
      (tokenizeAsset ctx assetID isin assetType assetName issuerLEI nominalValue currency issuanceDate
        justification).map (Stub.over ledger) := by
  unfold tokenizeAsset
  rw [assetExists_over same]
  refine bind_map fun _ => bind_map fun _ => bind_map fun _ => bind_map fun _ => bind_map fun _ => ?_
  refine bind_map fun _ => bind_map fun _ => bind_map fun _ => bind_map fun msp => bind_map fun dn => ?_
  refine bind_map fun ts => bind_map fun assetJSON => ?_
  change wrapping _ ((ctx.stub.over ledger).putState _ _) >>= _ = _
  rw [putState_over, wrapping_map]
  refine map_bind_map fun stub => ?_
  rw [setEvent_over, wrapping_map]

theorem transferAsset_over (same : ctx.stub.ledger.worldState.lookup assetID = ledger.worldState.lookup assetID)
    (toOwner justification : String) (price : Float) :
    transferAsset (ctx.over ledger) assetID toOwner justification price =
      (transferAsset ctx assetID toOwner justification price).map (Stub.over ledger) := by
  unfold transferAsset
  rw [readAsset_over same]
  refine bind_map fun _ => bind_map fun _ => bind_map fun asset => bind_map fun _ => ?_
  change wrapping _ (checkMiCAThreshold (ctx.stub.over ledger) _ _) >>= _ = _
  rw [checkMiCAThreshold_over, wrapping_map]
  refine map_bind_map fun stub => bind_map fun msp => bind_map fun dn => bind_map fun ts => ?_
  refine bind_map fun assetJSON => ?_
  rw [putState_over, wrapping_map]
  refine map_bind_map fun stub => ?_
  rw [setEvent_over, wrapping_map]

theorem freezeAsset_over (same : ctx.stub.ledger.worldState.lookup assetID = ledger.worldState.lookup assetID)
    (reason regulatoryRef : String) :
    freezeAsset (ctx.over ledger) assetID reason regulatoryRef =
      (freezeAsset ctx assetID reason regulatoryRef).map (Stub.over ledger) := by
  unfold freezeAsset
  rw [readAsset_over same]
  refine bind_map fun _ => bind_map fun _ => bind_map fun asset => bind_map fun _ => bind_map fun msp => ?_
  refine bind_map fun dn => bind_map fun ts => bind_map fun assetJSON => ?_
  change wrapping _ ((ctx.stub.over ledger).putState _ _) >>= _ = _
  rw [putState_over, wrapping_map]
  refine map_bind_map fun stub => ?_
  rw [setEvent_over, wrapping_map]

theorem unfreezeAsset_over (same : ctx.stub.ledger.worldState.lookup assetID = ledger.worldState.lookup assetID)
    (justification : String) :
    unfreezeAsset (ctx.over ledger) assetID justification =
      (unfreezeAsset ctx assetID justification).map (Stub.over ledger) := by
  unfold unfreezeAsset
  rw [readAsset_over same]
  refine bind_map fun _ => bind_map fun asset => bind_map fun _ => bind_map fun msp => bind_map fun dn => ?_
  refine bind_map fun ts => bind_map fun assetJSON => ?_
  change wrapping _ ((ctx.stub.over ledger).setEvent _ _) >>= _ = _
  rw [setEvent_over, wrapping_map]
  refine map_bind_map fun stub => ?_
  exact putState_over stub _ _

theorem getHistoryForKey_over (same : ctx.stub.ledger.history assetID = ledger.history assetID) :
    (ctx.over ledger).stub.getHistoryForKey assetID = ctx.stub.getHistoryForKey assetID := by
  unfold Stub.getHistoryForKey
  rw [same]
  rfl

theorem getAssetHistory_over (same : ctx.stub.ledger.history assetID = ledger.history assetID) :
    getAssetHistory (ctx.over ledger) assetID = getAssetHistory ctx assetID := by
  rw [getAssetHistory, getHistoryForKey_over same]
  rfl

theorem getProvenanceTrail_over (same : ctx.stub.ledger.worldState.lookup assetID = ledger.worldState.lookup assetID) :
    getProvenanceTrail (ctx.over ledger) assetID = getProvenanceTrail ctx assetID := by
  rw [getProvenanceTrail, readAsset_over same]
  rfl

theorem written_map (result : Except GoError Stub) :
    written (result.map (Stub.over ledger)) = (written result).map fun answer => (answer.1.over ledger, answer.2) := by
  cases result <;> rfl

theorem answered_over {A : Type} (response : A → Response) (result : Except GoError A) :
    answered (ctx.over ledger) response result =
      (answered ctx response result).map fun answer => (answer.1.over ledger, answer.2) := by
  cases result <;> rfl

/-- An invocation depends on the ledger only through the asset that it names. -/
theorem invoke_over {invocation : Invocation} (alike : ctx.stub.ledger.Alike assetID ledger)
    (names : invocation.assetID = some assetID) :
    invoke (ctx.over ledger) invocation =
      (invoke ctx invocation).map fun answer => (answer.1.over ledger, answer.2) := by
  cases invocation with
  | queryAssets => cases names
  | tokenizeAsset =>
      obtain rfl := Option.some.inj names
      rw [invoke, tokenizeAsset_over alike.document, written_map, invoke]
  | transferAsset =>
      obtain rfl := Option.some.inj names
      rw [invoke, transferAsset_over alike.document, written_map, invoke]
  | freezeAsset =>
      obtain rfl := Option.some.inj names
      rw [invoke, freezeAsset_over alike.document, written_map, invoke]
  | unfreezeAsset =>
      obtain rfl := Option.some.inj names
      rw [invoke, unfreezeAsset_over alike.document, written_map, invoke]
  | getAsset =>
      obtain rfl := Option.some.inj names
      rw [invoke, getAsset, readAsset_over alike.document, answered_over, invoke, getAsset]
  | getAssetHistory =>
      obtain rfl := Option.some.inj names
      rw [invoke, getAssetHistory_over alike.history, answered_over, invoke]
  | getProvenanceTrail =>
      obtain rfl := Option.some.inj names
      rw [invoke, getProvenanceTrail_over alike.document, answered_over, invoke]

end Functions

section Locality

/-- An accepted invocation writes under the asset that it names, and nowhere else. -/
theorem invoke_writes {ctx : TransactionContext} {invocation : Invocation} {stub : Stub} {response : Response}
    (accepted : invoke ctx invocation = .ok (stub, response)) :
    stub.writes = ctx.stub.writes ∨
      ∃ assetID document, invocation.assetID = some assetID ∧
        stub.writes = ctx.stub.writes ++ [(assetID, document)] := by
  cases invocation with
  | tokenizeAsset =>
      rw [invoke, written_eq_ok] at accepted
      obtain ⟨_, document, _, writes⟩ := tokenizeAsset_change accepted.1
      exact .inr ⟨_, document, rfl, writes.writes⟩
  | transferAsset =>
      rw [invoke, written_eq_ok] at accepted
      obtain ⟨_, _, document, _, _, _, _, _, _, _, _, writes⟩ := transferAsset_spec accepted.1
      exact .inr ⟨_, document, rfl, writes.writes⟩
  | freezeAsset =>
      rw [invoke, written_eq_ok] at accepted
      obtain ⟨_, _, document, _, _, _, _, _, _, writes⟩ := freezeAsset_spec accepted.1
      exact .inr ⟨_, document, rfl, writes.writes⟩
  | unfreezeAsset =>
      rw [invoke, written_eq_ok] at accepted
      obtain ⟨_, _, document, _, _, _, _, _, writes⟩ := unfreezeAsset_spec accepted.1
      exact .inr ⟨_, document, rfl, writes.writes⟩
  | getAsset => exact .inl (congrArg Stub.writes ((answered_eq_ok _ _ _ _ _).mp accepted).1)
  | getAssetHistory => exact .inl (congrArg Stub.writes ((answered_eq_ok _ _ _ _ _).mp accepted).1)
  | getProvenanceTrail => exact .inl (congrArg Stub.writes ((answered_eq_ok _ _ _ _ _).mp accepted).1)
  | queryAssets => exact .inl (congrArg Stub.writes ((answered_eq_ok _ _ _ _ _).mp accepted).1)

variable {assetID : String} {first second : Ledger}

theorem Ledger.Alike.put (alike : first.Alike assetID second) (txID key : String) (value : Json) :
    (first.put txID key value).Alike assetID (second.put txID key value) := by
  by_cases same : assetID = key
  · subst same
    constructor
    · rw [Ledger.put_self, Ledger.put_self]
    · rw [Ledger.put_history_self, Ledger.put_history_self, alike.history]
  · constructor
    · rw [Ledger.put_other _ _ _ _ _ same, Ledger.put_other _ _ _ _ _ same, alike.document]
    · rw [Ledger.put_history_other _ _ _ _ _ same, Ledger.put_history_other _ _ _ _ _ same, alike.history]

theorem Ledger.Alike.commit (alike : first.Alike assetID second) (txID : String) (writes : List (String × Json)) :
    (first.commit txID writes).Alike assetID (second.commit txID writes) := by
  induction writes generalizing first second with
  | nil => exact alike
  | cons write rest inductionHypothesis => exact inductionHypothesis (alike.put txID write.1 write.2)

/-- A call that names the asset has one answer over ledgers that agree on it, and leaves such ledgers. -/
theorem Ledger.Alike.submit (alike : first.Alike assetID second) {call : Call} (names : call.names assetID = true) :
    first.answer call = second.answer call ∧ (first.submit call).1.Alike assetID (second.submit call).1 := by
  have relocated : invoke (call.proposal.context second) call.invocation =
      (invoke (call.proposal.context first) call.invocation).map fun answer => (answer.1.over second, answer.2) := by
    have agree : (call.proposal.context first).stub.ledger.Alike assetID second := alike
    exact invoke_over agree (beq_iff_eq.mp names)
  unfold Ledger.answer Ledger.submit
  rw [relocated]
  cases invoke (call.proposal.context first) call.invocation with
  | error err => exact ⟨rfl, alike⟩
  | ok result => exact ⟨rfl, alike.commit call.proposal.txID result.1.writes⟩

/-- A call that does not name the asset leaves its document and its history. -/
theorem Ledger.submit_other (ledger : Ledger) {call : Call} (others : call.names assetID = false) :
    (ledger.submit call).1.Alike assetID ledger := by
  unfold Ledger.submit
  split
  next stub response accepted =>
    rcases invoke_writes accepted with none | ⟨named, document, names, one⟩
    · rw [none]
      exact ⟨rfl, rfl⟩
    · have different : assetID ≠ named := by
        intro same
        rw [Call.names, names, same, beq_self_eq_true] at others
        cases others
      rw [one]
      exact ⟨Ledger.put_other _ _ _ _ _ different, Ledger.put_history_other _ _ _ _ _ different⟩
  next => exact ⟨rfl, rfl⟩

theorem Ledger.Alike.trans {third : Ledger} (before : first.Alike assetID second) (after : second.Alike assetID third) :
    first.Alike assetID third :=
  ⟨before.document.trans after.document, before.history.trans after.history⟩

/-- The calls that name the asset have the same answers without the other ones, over a ledger that agrees on it. -/
theorem transcript_of_alike (alike : first.Alike assetID second) (calls : List Call) :
    (first.transcript calls).filter (fun entry => entry.1.names assetID) =
        second.transcript (calls.filter fun call => call.names assetID) ∧
      (first.run calls).Alike assetID (second.run (calls.filter fun call => call.names assetID)) := by
  induction calls generalizing first second with
  | nil => exact ⟨rfl, alike⟩
  | cons call rest inductionHypothesis =>
      cases names : call.names assetID with
      | true =>
          obtain ⟨answered, later⟩ := alike.submit names
          obtain ⟨transcribed, ended⟩ := inductionHypothesis later
          have kept : (call :: rest).filter (fun call => call.names assetID) =
              call :: rest.filter fun call => call.names assetID := List.filter_cons_of_pos names
          have shown : (first.transcript (call :: rest)).filter (fun entry => entry.1.names assetID) =
              (call, first.answer call) ::
                ((first.submit call).1.transcript rest).filter fun entry => entry.1.names assetID :=
            List.filter_cons_of_pos names
          rw [kept, shown, transcribed, answered]
          exact ⟨rfl, ended⟩
      | false =>
          obtain ⟨transcribed, ended⟩ := inductionHypothesis ((first.submit_other names).trans alike)
          have dropped : (call :: rest).filter (fun call => call.names assetID) =
              rest.filter fun call => call.names assetID := List.filter_cons_of_neg (by simp [names])
          have hidden : (first.transcript (call :: rest)).filter (fun entry => entry.1.names assetID) =
              ((first.submit call).1.transcript rest).filter fun entry => entry.1.names assetID :=
            List.filter_cons_of_neg (by simp [names])
          rw [dropped, hidden]
          exact ⟨transcribed, ended⟩

end Locality

/-- Each call on an asset has the event and the response that it has without the calls on other assets, and the asset
ends with the document and the history that it has without them. -/
theorem assets_isolated (ledger : Ledger) (calls : List Call) (assetID : String) :
    (ledger.transcript calls).filter (fun entry => entry.1.names assetID) =
        ledger.transcript (calls.filter fun call => call.names assetID) ∧
      (ledger.run calls).Alike assetID (ledger.run (calls.filter fun call => call.names assetID)) :=
  transcript_of_alike ⟨rfl, rfl⟩ calls

end Pxtly.Chaincode
