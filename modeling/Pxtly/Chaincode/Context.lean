/-
This file gives the ledger and what a peer hands to a chaincode call.
-/

import Pxtly.Chaincode.Models
import Mathlib.Data.List.AList

namespace Pxtly.Chaincode

open Foundation

/-- The world state maps each key to one document. -/
abbrev WorldState := AList fun _ : String => Json

structure HistoryEntry where
  txId : String
  isDelete : Bool
  value : Json

/-- A ledger keeps the current documents and the versions of every key, newest first. -/
structure Ledger where
  worldState : WorldState
  history : String → List HistoryEntry

def Ledger.empty : Ledger := ⟨∅, fun _ => []⟩

/-- These stub calls reach the peer and can fail there. -/
inductive PeerCall where
  | getState
  | putState
  | setEvent (name : String)
  | getHistoryForKey
  | getQueryResult
  | iteratorNext
  deriving DecidableEq, Repr

/-- The certificate of a caller gives an MSP and a subject, unless it cannot be read. -/
structure ClientIdentity where
  mspID : Except GoError String
  subject : Except GoError String

/-- An event carries a document or a formatted text. -/
inductive EventPayload where
  | document (json : Json)
  | formatted (format : String) (operands : List Operand)

/-- The state database answers rich queries. -/
abbrev QueryEngine := String → WorldState → Except GoError (List Json)

/-- A proposal is a call's caller, transaction data and peer. -/
structure Proposal where
  creator : ClientIdentity
  txID : String
  txTimestamp : Except GoError Time
  fault : PeerCall → Option GoError
  richQuery : QueryEngine

/-- The stub reads the committed ledger and collects writes and the last event. -/
structure Stub where
  ledger : Ledger
  txID : String
  txTimestamp : Except GoError Time
  fault : PeerCall → Option GoError
  richQuery : QueryEngine
  writes : List (String × Json) := []
  event : Option (String × EventPayload) := none

structure TransactionContext where
  clientIdentity : ClientIdentity
  stub : Stub

def Proposal.context (proposal : Proposal) (ledger : Ledger) : TransactionContext where
  clientIdentity := proposal.creator
  stub := {
    ledger
    txID := proposal.txID
    txTimestamp := proposal.txTimestamp
    fault := proposal.fault
    richQuery := proposal.richQuery }

/-- A peer call returns its answer or the peer's error. -/
def Stub.ask {A : Type} (stub : Stub) (call : PeerCall) (answer : Except GoError A) : Except GoError A :=
  match stub.fault call with
  | some err => .error err
  | none => answer

def Stub.getState (stub : Stub) (key : String) : Except GoError (Option Json) :=
  stub.ask .getState (.ok (stub.ledger.worldState.lookup key))

def Stub.putState (stub : Stub) (key : String) (value : Json) : Except GoError Stub :=
  if key = "" then .error (.errorf "key must not be an empty string" [])
  else stub.ask .putState (.ok { stub with writes := stub.writes ++ [(key, value)] })

/-- A transaction keeps only its last event. -/
def Stub.setEvent (stub : Stub) (name : String) (payload : EventPayload) : Except GoError Stub :=
  stub.ask (.setEvent name) (.ok { stub with event := some (name, payload) })

def Stub.getHistoryForKey (stub : Stub) (key : String) : Except GoError (List HistoryEntry) :=
  stub.ask .getHistoryForKey (.ok (stub.ledger.history key))

def Stub.getQueryResult (stub : Stub) (query : String) : Except GoError (List Json) :=
  stub.ask .getQueryResult (stub.richQuery query stub.ledger.worldState)

/-- An iterator hands out its entries one by one, and any of these steps may fail. -/
def Stub.next {A : Type} (stub : Stub) (entry : A) : Except GoError A :=
  stub.ask .iteratorNext (.ok entry)

/-- A committed write replaces the document and adds a version. -/
def Ledger.put (ledger : Ledger) (txID key : String) (value : Json) : Ledger where
  worldState := ledger.worldState.insert key value
  history := Function.update ledger.history key (⟨txID, false, value⟩ :: ledger.history key)

/-- The writes of an endorsed call enter the ledger in order. -/
def Ledger.commit (ledger : Ledger) (txID : String) (writes : List (String × Json)) : Ledger :=
  writes.foldl (fun ledger write => ledger.put txID write.1 write.2) ledger

@[simp] theorem Ledger.put_self (ledger : Ledger) (txID key : String) (value : Json) :
    (ledger.put txID key value).worldState.lookup key = some value :=
  AList.lookup_insert _

theorem Ledger.put_other (ledger : Ledger) (txID key other : String) (value : Json)
    (different : other ≠ key) :
    (ledger.put txID key value).worldState.lookup other = ledger.worldState.lookup other :=
  AList.lookup_insert_ne different

@[simp] theorem Ledger.put_history_self (ledger : Ledger) (txID key : String) (value : Json) :
    (ledger.put txID key value).history key = ⟨txID, false, value⟩ :: ledger.history key :=
  Function.update_self key _ ledger.history

theorem Ledger.put_history_other (ledger : Ledger) (txID key other : String) (value : Json)
    (different : other ≠ key) : (ledger.put txID key value).history other = ledger.history other :=
  Function.update_of_ne different _ ledger.history

theorem Stub.ask_eq_ok {A : Type} (stub : Stub) (call : PeerCall) (answer : Except GoError A) (value : A) :
    stub.ask call answer = .ok value ↔ stub.fault call = none ∧ answer = .ok value := by
  unfold ask
  cases stub.fault call <;> simp

theorem Stub.ask_error {A : Type} {stub : Stub} {call : PeerCall} {answer : Except GoError A}
    {err : GoError} (fault : stub.fault call = some err) : stub.ask call answer = .error err := by
  rw [ask, fault]

theorem Stub.ask_none {A : Type} {stub : Stub} {call : PeerCall} {answer : Except GoError A}
    (healthy : stub.fault call = none) : stub.ask call answer = answer := by
  rw [ask, healthy]

@[simp] theorem Stub.getState_eq_ok (stub : Stub) (key : String) (found : Option Json) :
    stub.getState key = .ok found ↔
      stub.fault .getState = none ∧ stub.ledger.worldState.lookup key = found := by
  rw [getState, ask_eq_ok, Except.ok.injEq]

@[simp] theorem Stub.putState_eq_ok (stub next : Stub) (key : String) (value : Json) :
    stub.putState key value = .ok next ↔ key ≠ "" ∧ stub.fault .putState = none ∧
      { stub with writes := stub.writes ++ [(key, value)] } = next := by
  unfold putState
  split
  next empty => simp [empty]
  next nonempty => rw [ask_eq_ok, Except.ok.injEq]; simp [nonempty]

@[simp] theorem Stub.setEvent_eq_ok (stub next : Stub) (name : String) (payload : EventPayload) :
    stub.setEvent name payload = .ok next ↔ stub.fault (.setEvent name) = none ∧
      { stub with event := some (name, payload) } = next := by
  rw [setEvent, ask_eq_ok, Except.ok.injEq]

end Pxtly.Chaincode
