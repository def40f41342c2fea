/-
This file gives the client's checks of a request, its two identities, and the delivery to the peers.
-/

import Mathlib.Data.List.Infix
import Pxtly.Chaincode.Dispatch

namespace Pxtly.Fabric

open Foundation
open Chaincode (ClientIdentity Invocation Ledger Proposal Request Response dispatch)

/-- These faults stop a request before the peers or at them. -/
inductive ClientError where
  | forbiddenArgument (argument : String)
  | unknownIdentity (identityLabel : String)
  | endorsement (cause : GoError)

def isControl (c : Char) : Bool := c.toNat ≤ 0x1f || c.toNat == 0x7f

def shellCharacters : List Char := ['$', '\u0060', ';', '|', '&', '>', '<']

/-- This is the search for the forbidden pattern. -/
def isForbidden (argument : String) : Bool :=
  argument.toList.any (fun c => isControl c || c ∈ shellCharacters) || ['.', '.'] <:+: argument.toList

/-- The first forbidden argument stops the request. -/
def sanitizeArguments (arguments : List String) : Except ClientError Unit :=
  match arguments.find? isForbidden with
  | some argument => .error (.forbiddenArgument argument)
  | none => .ok ()

inductive Organisation where
  | bank01
  | reg01
  deriving DecidableEq, Repr

/-- The client finds its configuration in the environment and its certificates on the disk. -/
structure FabricClient where
  environ : String → Option String
  subject : Organisation → Except GoError String

/-- A variable of the environment replaces the name of the organisation's MSP. -/
def FabricClient.mspID (client : FabricClient) : Organisation → String
  | .bank01 => (client.environ "FABRIC_BANK01_MSPID").getD "BANK01MSP"
  | .reg01 => (client.environ "FABRIC_REG01_MSPID").getD "REG01MSP"

/-- One character outside ASCII has an ASCII letter as its small letter: the Kelvin sign. -/
def lowerRune (c : Char) : Char := if c = '\u212a' then 'k' else c.toLower

/-- A label names an organisation when it contains its short name. -/
def organisationOf (identityLabel : String) : Except ClientError Organisation :=
  let lower := identityLabel.toList.map lowerRune
  if "bank01".toList <:+: lower then .ok .bank01
  else if "reg01".toList <:+: lower then .ok .reg01
  else .error (.unknownIdentity identityLabel)

def FabricClient.creator (client : FabricClient) (organisation : Organisation) : ClientIdentity where
  mspID := .ok (client.mspID organisation)
  subject := client.subject organisation

/-- A request leaves the client under the identity of its label. -/
def FabricClient.prepare (client : FabricClient) (request : Request) (identityLabel : String) :
    Except ClientError ClientIdentity := do
  sanitizeArguments request.arguments
  let organisation ← organisationOf identityLabel
  return client.creator organisation

/-- One attempt of `submit_transaction` reaches the peers unless the client refuses it. -/
def FabricClient.submitTransaction (client : FabricClient) (ledger : Ledger) (proposal : Proposal)
    (request : Request) (identityLabel : String) : Ledger × Except ClientError Response :=
  match client.prepare request identityLabel with
  | .error fault => (ledger, .error fault)
  | .ok creator =>
      let delivered := ledger.deliver { proposal with creator } request
      (delivered.1, delivered.2.mapError ClientError.endorsement)

/-- An attempt is refused and leaves the ledger, or it is an accepted call of the contract. -/
theorem FabricClient.submitTransaction_cases (client : FabricClient) (ledger : Ledger)
    (proposal : Proposal) (request : Request) (identityLabel : String) :
    (∃ fault, client.submitTransaction ledger proposal request identityLabel = (ledger, .error fault)) ∨
      ∃ creator invocation stub response, client.prepare request identityLabel = .ok creator ∧
        dispatch request = .ok invocation ∧
        Chaincode.invoke ({ proposal with creator }.context ledger) invocation = .ok (stub, response) ∧
        client.submitTransaction ledger proposal request identityLabel =
          (ledger.commit proposal.txID stub.writes, .ok response) := by
  unfold submitTransaction
  cases prepared : client.prepare request identityLabel with
  | error fault => exact .inl ⟨fault, rfl⟩
  | ok creator =>
      simp only
      cases converted : dispatch request with
      | error err =>
          rw [Ledger.deliver_error converted]
          exact .inl ⟨.endorsement err, rfl⟩
      | ok invocation =>
          rw [Ledger.deliver_ok converted, Ledger.submit]
          simp only
          cases invoked : Chaincode.invoke ({ proposal with creator }.context ledger) invocation with
          | error err => exact .inl ⟨.endorsement err, rfl⟩
          | ok answer => exact .inr ⟨creator, invocation, answer.1, answer.2, rfl, rfl, invoked, rfl⟩

/-- An accepted attempt is an accepted call of the contract under the identity of its label. -/
theorem FabricClient.submitTransaction_eq_ok {client : FabricClient} {ledger final : Ledger}
    {proposal : Proposal} {request : Request} {identityLabel : String} {response : Response}
    (accepted : client.submitTransaction ledger proposal request identityLabel = (final, .ok response)) :
    ∃ creator invocation stub, client.prepare request identityLabel = .ok creator ∧
      dispatch request = .ok invocation ∧
      Chaincode.invoke ({ proposal with creator }.context ledger) invocation = .ok (stub, response) ∧
      final = ledger.commit proposal.txID stub.writes := by
  rcases client.submitTransaction_cases ledger proposal request identityLabel with
    ⟨fault, same⟩ | ⟨creator, invocation, stub, given, prepared, converted, invoked, same⟩
  · rw [accepted] at same
    cases congrArg Prod.snd same
  · obtain ⟨sameLedger, sameResponse⟩ := Prod.mk.inj (accepted.symm.trans same)
    obtain rfl := Except.ok.inj sameResponse
    exact ⟨creator, invocation, stub, prepared, converted, invoked, sameLedger⟩

theorem FabricClient.exists_of_isOk {client : FabricClient} {ledger : Ledger} {proposal : Proposal}
    {request : Request} {identityLabel : String}
    (isOk : (client.submitTransaction ledger proposal request identityLabel).2.isOk = true) :
    ∃ final response, client.submitTransaction ledger proposal request identityLabel =
      (final, .ok response) := by
  obtain ⟨response, same⟩ := (isOk_iff _).mp isOk
  exact ⟨_, response, Prod.ext rfl same⟩

/-- A refused attempt leaves the ledger. -/
theorem FabricClient.submitTransaction_refused {client : FabricClient} {ledger : Ledger}
    {proposal : Proposal} {request : Request} {identityLabel : String}
    (refused : (client.submitTransaction ledger proposal request identityLabel).2.isOk = false) :
    (client.submitTransaction ledger proposal request identityLabel).1 = ledger := by
  rcases client.submitTransaction_cases ledger proposal request identityLabel with
    ⟨fault, same⟩ | ⟨creator, invocation, stub, response, _, _, _, same⟩
  · rw [same]
  · rw [same] at refused
    cases refused

/-- An attempt is refused when its texts cannot be converted. -/
theorem FabricClient.submitTransaction_unconverted (client : FabricClient) (ledger : Ledger)
    (proposal : Proposal) (request : Request) (identityLabel : String)
    (unconverted : ∀ invocation, dispatch request ≠ .ok invocation) :
    (client.submitTransaction ledger proposal request identityLabel).2.isOk = false := by
  rcases client.submitTransaction_cases ledger proposal request identityLabel with
    ⟨fault, same⟩ | ⟨creator, invocation, stub, response, _, converted, _, same⟩
  · rw [same]
    rfl
  · exact absurd converted (unconverted invocation)

/-- A prepared and converted request is accepted when the contract accepts its call. -/
theorem FabricClient.submitTransaction_isOk {client : FabricClient} (ledger : Ledger) (proposal : Proposal)
    {request : Request} {identityLabel : String} {creator : ClientIdentity} {invocation : Invocation}
    (prepared : client.prepare request identityLabel = .ok creator)
    (converted : dispatch request = .ok invocation) :
    (client.submitTransaction ledger proposal request identityLabel).2.isOk =
      (Chaincode.invoke ({ proposal with creator }.context ledger) invocation).isOk := by
  rw [submitTransaction, prepared]
  simp only
  rw [Ledger.deliver_ok converted, Ledger.submit]
  cases Chaincode.invoke ({ proposal with creator }.context ledger) invocation <;> rfl

theorem sanitizeArguments_eq_ok (arguments : List String) :
    sanitizeArguments arguments = .ok () ↔ ∀ argument ∈ arguments, isForbidden argument = false := by
  unfold sanitizeArguments
  cases found : arguments.find? isForbidden with
  | none => simpa using List.find?_eq_none.mp found
  | some argument =>
      refine iff_of_false nofun ?_
      intro clean
      have forbidden := List.find?_some found
      rw [clean argument (List.mem_of_find?_eq_some found)] at forbidden
      cases forbidden

/-- A request is prepared when no argument is forbidden and its label names an organisation. -/
theorem FabricClient.prepare_eq_ok (client : FabricClient) (request : Request) (identityLabel : String)
    (creator : ClientIdentity) :
    client.prepare request identityLabel = .ok creator ↔
      (∀ argument ∈ request.arguments, isForbidden argument = false) ∧
        ∃ organisation, organisationOf identityLabel = .ok organisation ∧
          creator = client.creator organisation := by
  rw [← sanitizeArguments_eq_ok]
  simp only [prepare, bind_eq_ok]
  constructor
  · rintro ⟨_, clean, organisation, named, same⟩
    exact ⟨clean, organisation, named, (Except.ok.inj same).symm⟩
  · rintro ⟨clean, organisation, named, rfl⟩
    exact ⟨(), clean, organisation, named, rfl⟩

/-- The default network knows both administrators. -/
def defaultClient : FabricClient where
  environ _ := none
  subject
    | .bank01 => Chaincode.bank.subject
    | .reg01 => Chaincode.regulator.subject

end Pxtly.Fabric
