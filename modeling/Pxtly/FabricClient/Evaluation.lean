/-
This file gives the client's queries: the payload of a response and the conversion of its keys.
-/

import Pxtly.FabricClient.Network
import Pxtly.Foundation.Python

namespace Pxtly.Fabric

open Foundation
open Chaincode (HistoryEntry Ledger Proposal Request Response)

section Keys

/-- An underscore goes between a small letter or a digit and a capital letter. -/
def separateWords : List Char → List Char
  | first :: second :: rest =>
      if (('a' ≤ first && first ≤ 'z') || isAsciiDigit first) && isUpperLetter second then
        first :: '_' :: separateWords (second :: rest)
      else first :: separateWords (second :: rest)
  | rest => rest

/-- The keys of the contract have ASCII letters only. -/
def snakeCase (key : String) : String := String.ofList ((separateWords key.toList).map Char.toLower)

mutual

/-- The keys change at every depth, and no member is added. -/
def convertKeys : Json → Json
  | .array items => .array (convertItems items)
  | .object members => .object (convertMembers members)
  | value => value

def convertItems : List Json → List Json
  | [] => []
  | item :: rest => convertKeys item :: convertItems rest

def convertMembers : List (String × Json) → List (String × Json)
  | [] => []
  | member :: rest => convertMember member :: convertMembers rest

def convertMember : String × Json → String × Json
  | (key, value) => (snakeCase key, convertKeys value)

end

theorem convertMembers_names (members : List (String × Json)) :
    (convertMembers members).map Prod.fst = (members.map Prod.fst).map snakeCase := by
  induction members with
  | nil => rfl
  | cons member rest inductionHypothesis =>
      obtain ⟨key, value⟩ := member
      simp only [convertMembers, convertMember, List.map_cons, inductionHypothesis]

theorem dictGet_of_notMem {members : List (String × Json)} {name : String} (absent : name ∉ members.map Prod.fst) :
    dictGet members name = none := by
  induction members with
  | nil => rfl
  | cons member rest inductionHypothesis =>
      simp only [List.map_cons, List.mem_cons, not_or] at absent
      rw [dictGet, inductionHypothesis absent.2, if_neg (Ne.symm absent.1)]
      rfl

/-- A field is missing when no key of the contract is converted to its name. -/
theorem dictGet_convertMembers {members : List (String × Json)} {keys : List String} (names : members.map Prod.fst = keys)
    {name : String} (absent : name ∉ keys.map snakeCase) : dictGet (convertMembers members) name = none := by
  apply dictGet_of_notMem
  rw [convertMembers_names, names]
  exact absent

end Keys

section Payloads

variable (documentText : Json → String)

/-- The entries are maps, whose keys are sorted; their documents are handed out as texts. -/
def historyEntry (entry : HistoryEntry) : Json :=
  .object [("isDelete", .bool entry.isDelete), ("txId", .string entry.txId), ("value", .string (documentText entry.value))]

/-- A list that was never filled is written as `null`. -/
def filled (items : List Json) : Json := if items.isEmpty then .null else .array items

/-- An empty answer is read as `None`, as `null` is. -/
def payload : Response → Except GoError Json
  | .empty => .ok .null
  | .asset value => value.marshal
  | .history entries => .ok (filled (entries.map (historyEntry documentText)))
  | .trail records => do return .array (← records.mapM Chaincode.ProvenanceRecord.marshal)
  | .assets values => do return filled (← values.mapM Chaincode.FinancialAsset.marshal)

/-- One attempt of `evaluate_transaction` asks a peer and leaves its ledger. -/
def FabricClient.evaluateTransaction (client : FabricClient) (ledger : Ledger) (proposal : Proposal) (request : Request)
    (identityLabel : String) : Except ClientError Json := do
  let creator ← client.prepare request identityLabel
  let response ← (ledger.deliver { proposal with creator } request).2.mapError ClientError.endorsement
  let answer ← (payload documentText response).mapError ClientError.endorsement
  return convertKeys answer

/-- The answer of a query is the converted payload of what the contract returns. -/
theorem evaluateTransaction_eq_ok {documentText : Json → String} {client : FabricClient} {ledger : Ledger}
    {proposal : Proposal} {request : Request} {identityLabel : String} {answer : Json}
    (evaluated : client.evaluateTransaction documentText ledger proposal request identityLabel = .ok answer) :
    ∃ creator response document, (ledger.deliver { proposal with creator } request).2 = .ok response ∧
      payload documentText response = .ok document ∧ answer = convertKeys document := by
  simp only [FabricClient.evaluateTransaction, bind_eq_ok, mapError_eq_ok] at evaluated
  obtain ⟨creator, _, response, delivered, document, written, same⟩ := evaluated
  exact ⟨creator, response, document, delivered, written, (Except.ok.inj same).symm⟩

end Payloads

end Pxtly.Fabric
