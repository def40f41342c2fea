/-
This file gives the REST routes that hand out a credential and verify a proof.
-/

import Pxtly.Foundation.Validation
import Pxtly.Zkp.Issuance
import Pxtly.Zkp.Verdicts

namespace Pxtly.Zkp

open Foundation Foundation.Database Validated
open Assets (Uuid)

/-- These are the answers of a route that are no success. -/
inductive RouteFault where
  | unprocessable (errors : List FieldError)
  | issuanceFailed (cause : RegistryFault)
  | badRequest (reason : Reason)
  | uncaught (cause : Fault)

structure SetupKeyResponse where
  credentialID : Uuid
  claim : Json
  issuerSig : String
  expiresAt : Instant
  sanctionsTreeRoot : String

structure ProofResponse where
  valid : Bool
  purpose : String
  message : Reason

def SetupKeyResponse.ofRow (root : Bytes) (row : ZKPCredential) : SetupKeyResponse where
  credentialID := row.id
  claim := row.claim
  issuerSig := row.issuerSig
  expiresAt := row.expiresAt
  sanctionsTreeRoot := hex root

section Routes

variable (platform : Platform)

def setupKey (root : Bytes) (call : Issue) : Program Registry.database.signature RouteFault SetupKeyResponse := do
  let credential ← (issueCredential platform call).mapFault .issuanceFailed
  return SetupKeyResponse.ofRow root credential

def anyText : TextRule := {}

def purposeRule : TextRule where
  most := some 128

def contextRule : TextRule where
  most := some 256

def checkDict : Json → Except String {claim : Json // ∃ members, claim = .object members}
  | .object members => .ok ⟨.object members, members, rfl⟩
  | _ => .error "Input should be a valid dictionary"

def ProofRequest.validate (arguments : List (String × Json)) : Validated ProofRequest :=
  (both (required arguments "public_key_x" anyText.check) <|
    both (required arguments "public_key_y" anyText.check) <|
    both (required arguments "proof_Rx" anyText.check) <|
    both (required arguments "proof_Ry" anyText.check) <|
    both (required arguments "proof_s" anyText.check) <|
    both (required arguments "purpose" purposeRule.check) <|
    both (required arguments "context" contextRule.check) <|
    both (required arguments "nullifier" anyText.check) <|
    both (required arguments "credential_claim" checkDict)
      (required arguments "credential_sig" anyText.check)).map
  fun (publicKeyX, publicKeyY, proofRx, proofRy, proofS, purpose, context, nullifier, claim, signature) =>
    { publicKeyX := publicKeyX
      publicKeyY := publicKeyY
      proofRx := proofRx
      proofRy := proofRy
      proofS := proofS
      purpose := purpose
      context := context
      nullifier := nullifier
      credentialClaim := claim
      credentialSig := signature }

/-- A route validates the members of its JSON body. -/
def readProofRequest : Json → Validated ProofRequest
  | .object members => ProofRequest.validate members
  | _ => .error [⟨"body", "Input should be a valid dictionary or object to extract fields from"⟩]

def concludeRoute (request : ProofRequest) : Bool × Reason → Except RouteFault ProofResponse
  | (false, message) => .error (.badRequest message)
  | (true, message) => .ok ⟨true, request.purpose, message⟩

def verify (body : Json) (nullifierID : Uuid) : Program database.signature RouteFault ProofResponse := do
  let request ← Program.lift ((readProofRequest body).mapError .unprocessable)
  let verdict ← (verifyProof platform request nullifierID).mapFault .uncaught
  Program.lift (concludeRoute request verdict)

end Routes

/-- The route limits two of the texts. -/
def ProofRequest.Short (request : ProofRequest) : Prop := request.purpose.length ≤ 128 ∧ request.context.length ≤ 256

theorem anyText_admits (text : String) : anyText.Admits text := by simp [anyText, TextRule.Admits]

/-- These are the members of the body. -/
def ProofRequest.members (request : ProofRequest) : List (String × Json) := [
  ("public_key_x", .string request.publicKeyX), ("public_key_y", .string request.publicKeyY),
  ("proof_Rx", .string request.proofRx), ("proof_Ry", .string request.proofRy), ("proof_s", .string request.proofS),
  ("purpose", .string request.purpose), ("context", .string request.context),
  ("nullifier", .string request.nullifier), ("credential_claim", request.credentialClaim),
  ("credential_sig", .string request.credentialSig)]

theorem validate_members (request : ProofRequest) {members : List (String × Json)}
    (claim : request.credentialClaim = .object members) (short : request.Short) :
    ProofRequest.validate request.members = .ok request := by
  have text (name value : String) (given : dictGet request.members name = some (.string value)) :=
    required_text request.members name (anyText_admits value) given
  have purposeAdmits : purposeRule.Admits request.purpose := by simpa [purposeRule, TextRule.Admits] using short.1
  have contextAdmits : contextRule.Admits request.context := by simpa [contextRule, TextRule.Admits] using short.2
  have publicKeyX := text "public_key_x" request.publicKeyX rfl
  have publicKeyY := text "public_key_y" request.publicKeyY rfl
  have proofRx := text "proof_Rx" request.proofRx rfl
  have proofRy := text "proof_Ry" request.proofRy rfl
  have proofS := text "proof_s" request.proofS rfl
  have purpose := required_text request.members "purpose" purposeAdmits rfl
  have context := required_text request.members "context" contextAdmits rfl
  have nullifier := text "nullifier" request.nullifier rfl
  have credentialSig := text "credential_sig" request.credentialSig rfl
  have credentialClaim : required request.members "credential_claim" checkDict =
      .ok ⟨request.credentialClaim, members, claim⟩ := by
    rw [required_eq_ok]
    refine ⟨request.credentialClaim, rfl, ?_⟩
    simp only [claim, checkDict]
  simp only [ProofRequest.validate, publicKeyX, publicKeyY, proofRx, proofRy, proofS, purpose, context, nullifier,
    credentialClaim, credentialSig, both]
  rfl

theorem short_of_validate {request read : ProofRequest} (validated : ProofRequest.validate request.members = .ok read) :
    request.Short := by
  simp only [ProofRequest.validate, map_eq_ok, both_eq_ok] at validated
  obtain ⟨_, ⟨_, _, _, _, _, purpose, context, _⟩, _⟩ := validated
  have purposeAdmits := admits_of_required request.members "purpose" rfl purpose
  have contextAdmits := admits_of_required request.members "context" rfl context
  exact ⟨purposeAdmits.1 _ rfl, contextAdmits.1 _ rfl⟩

section Acceptance

variable {platform : Platform} {request : ProofRequest} {nullifierID : Uuid} {tables : Tables}

/-- An interface accepts a request when its verification does. -/
theorem accepts_iff {G R : Type} (convert : Fault → G) (conclude : Bool × Reason → Except G R)
    (accepts : ∀ message, ∃ reply, conclude (true, message) = .ok reply)
    (refuses : ∀ message, ∃ fault, conclude (false, message) = .error fault) :
    (∃ reply, (alone ((verifyProof platform request nullifierID).mapFault convert >>= fun verdict =>
        Program.lift (conclude verdict)) tables).1 = .ok reply) ↔
      ∃ message, (alone (verifyProof platform request nullifierID) tables).1 = .ok (true, message) := by
  rw [alone_lift, alone_mapFault]
  generalize (alone (verifyProof platform request nullifierID) tables).1 = outcome
  cases outcome with
  | error fault => exact iff_of_false nofun nofun
  | ok verdict =>
      obtain ⟨valid, message⟩ := verdict
      cases valid with
      | true => exact iff_of_true (accepts message) ⟨message, rfl⟩
      | false =>
          obtain ⟨fault, refused⟩ := refuses message
          refine iff_of_false (fun accepted => ?_) (by simp)
          obtain ⟨reply, replied⟩ := accepted
          cases refused.symm.trans replied

def Accepts (platform : Platform) (body : Json) (nullifierID : Uuid) (tables : Tables) : Prop :=
  ∃ reply, (alone (verify platform body nullifierID) tables).1 = .ok reply

/-- The route accepts a request in its own body when two of its texts are short and its verification accepts it. -/
theorem accepts_members {claim : List (String × Json)} (dictionary : request.credentialClaim = .object claim) :
    Accepts platform (.object request.members) nullifierID tables ↔
      request.Short ∧ ∃ message, (alone (verifyProof platform request nullifierID) tables).1 = .ok (true, message) := by
  rw [← accepts_iff RouteFault.uncaught (concludeRoute request) (fun message => ⟨_, rfl⟩) (fun message => ⟨_, rfl⟩)]
  have read : readProofRequest (.object request.members) = ProofRequest.validate request.members := rfl
  rw [Accepts, verify, read]
  by_cases short : request.Short
  · rw [validate_members request dictionary short]
    exact (and_iff_right short).symm
  · refine iff_of_false ?_ (fun accepted => short accepted.1)
    intro ⟨reply, accepted⟩
    cases validated : ProofRequest.validate request.members with
    | ok read => exact short (short_of_validate validated)
    | error errors =>
        rw [validated] at accepted
        cases accepted

end Acceptance

end Pxtly.Zkp
