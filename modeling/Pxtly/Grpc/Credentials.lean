/-
This file gives the credential servicer of the gRPC server and compares it with the REST routes.
-/

import Pxtly.Zkp.Router

namespace Pxtly.Grpc

open Foundation Foundation.Database
open Assets (Uuid)
open Zkp (Platform ZKPCredential ProofRequest Reason Issue Registry RegistryFault Fault Tables Carries SetupKeyResponse)

/-- A servicer aborts a call, or an exception leaves it. -/
inductive CredentialFault where
  | issuanceFailed (cause : RegistryFault)
  | invalidArgument (message : Reason)
  | uncaught (cause : Fault)

structure SetupKeyReply where
  credentialID : String
  claim : String
  issuerSig : String
  expiresAt : String
  sanctionsTreeRoot : String

structure ProofReply where
  valid : Bool
  purpose : String
  message : Reason

/-- Every field of a proof message is a text. -/
structure ProofMessage where
  publicKeyX : String
  publicKeyY : String
  proofRx : String
  proofRy : String
  proofS : String
  purpose : String
  context : String
  nullifier : String
  credentialClaim : String
  credentialSig : String

section Servicer

variable (platform : Platform) (printable : Char → Bool)

/-- The claim of the reply is `str(claim)`. -/
def SetupKeyReply.ofRow (root : Bytes) (row : ZKPCredential) : SetupKeyReply where
  credentialID := row.id.text
  claim := reprJson printable platform.floatText row.claim
  issuerSig := row.issuerSig
  expiresAt := isoformat row.expiresAt
  sanctionsTreeRoot := hex root

def setupKey (root : Bytes) (call : Issue) : Program Registry.database.signature CredentialFault SetupKeyReply := do
  let credential ← (Zkp.issueCredential platform call).mapFault .issuanceFailed
  return SetupKeyReply.ofRow platform printable root credential

/-- The verification receives the text of the message as its claim. -/
def ProofMessage.request (message : ProofMessage) : ProofRequest where
  publicKeyX := message.publicKeyX
  publicKeyY := message.publicKeyY
  proofRx := message.proofRx
  proofRy := message.proofRy
  proofS := message.proofS
  purpose := message.purpose
  context := message.context
  nullifier := message.nullifier
  credentialClaim := .string message.credentialClaim
  credentialSig := message.credentialSig

def conclude (message : ProofMessage) : Bool × Reason → Except CredentialFault ProofReply
  | (false, reason) => .error (.invalidArgument reason)
  | (true, reason) => .ok ⟨true, message.purpose, reason⟩

def verifyProof (message : ProofMessage) (nullifierID : Uuid) :
    Program Zkp.database.signature CredentialFault ProofReply := do
  let verdict ← (Zkp.verifyProof platform message.request nullifierID).mapFault .uncaught
  Program.lift (conclude message verdict)

end Servicer

section Presentations

variable (platform : Platform)

/-- A client presents the claim and the signature of a reply, unchanged, with its proof. -/
def present (proof : ProofRequest) (reply : SetupKeyReply) : ProofMessage where
  publicKeyX := proof.publicKeyX
  publicKeyY := proof.publicKeyY
  proofRx := proof.proofRx
  proofRy := proof.proofRy
  proofS := proof.proofS
  purpose := proof.purpose
  context := proof.context
  nullifier := proof.nullifier
  credentialClaim := reply.claim
  credentialSig := reply.issuerSig

def presentBody (proof : ProofRequest) (response : SetupKeyResponse) : ProofRequest :=
  { proof with credentialClaim := response.claim, credentialSig := response.issuerSig }

/-- This is `_canonical_json`. -/
def canonicalJson (claim : Json) : Bytes := encode (dumps platform.floatText claim)

def Accepts (message : ProofMessage) (nullifierID : Uuid) (tables : Tables) : Prop :=
  ∃ reply, (alone (verifyProof platform message nullifierID) tables).1 = .ok reply

/-- Both interfaces accept the credential, or none does, and both check its signature over the same bytes. -/
structure InterfacesAgree (printable : Char → Bool) (root : Bytes) (row : ZKPCredential) (proof : ProofRequest)
    (nullifierID : Uuid) (tables : Tables) : Prop where
  acceptance :
    Accepts platform (present proof (.ofRow platform printable root row)) nullifierID tables ↔
      Zkp.Accepts platform (.object (presentBody proof (.ofRow root row)).members) nullifierID tables
  bytes : canonicalJson platform (.string (SetupKeyReply.ofRow platform printable root row).claim) =
    canonicalJson platform (SetupKeyResponse.ofRow root row).claim

end Presentations

section Disagreement

variable {platform : Platform}

/-- A text has no attribute `get`, whether or not its signature is valid. -/
theorem text_not_accepted {request : ProofRequest} {text : String} (claim : request.credentialClaim = .string text)
    (nullifierID : Uuid) (tables : Tables) :
    ¬ ∃ message, (alone (Zkp.verifyProof platform request nullifierID) tables).1 = .ok (true, message) := by
  intro ⟨message, accepted⟩
  rw [Zkp.alone_verifyProof, Zkp.checkRequest, claim] at accepted
  cases signed : Zkp.verifyIssuerSig platform (.string text) request.credentialSig with
  | false =>
      rw [signed] at accepted
      cases accepted
  | true =>
      rw [signed] at accepted
      cases accepted

theorem not_accepts (message : ProofMessage) (nullifierID : Uuid) (tables : Tables) :
    ¬ Accepts platform message nullifierID tables := by
  unfold Accepts verifyProof
  rw [Zkp.accepts_iff CredentialFault.uncaught (conclude message) (fun reason => ⟨_, rfl⟩) (fun reason => ⟨_, rfl⟩)]
  exact text_not_accepted rfl nullifierID tables

/-- The platform has signed the claim of the row. -/
def Signed (platform : Platform) (row : ZKPCredential) : Prop :=
  Zkp.verifyIssuerSig platform row.claim row.issuerSig = true

/-- A new row is signed when the platform verifies what its key signs. -/
theorem signed_newRow {call : Issue} (signs : ∀ message, platform.verifies message (call.sign message) = true)
    (registry : Registry) : Signed platform (registry.newRow platform call) := by
  unfold Signed Zkp.verifyIssuerSig
  have signature : (registry.newRow platform call).issuerSig =
      hex (call.sign (encode (dumps platform.floatText (registry.newRow platform call).claim))) := rfl
  rw [signature, fromHex_hex]
  exact signs _

theorem signed_of_issued {call : Issue} {registry next : Registry} {row : ZKPCredential}
    (signs : ∀ message, platform.verifies message (call.sign message) = true)
    (stored : ∀ row ∈ registry.credentials, Signed platform row)
    (issued : alone (Zkp.issueCredential platform call) registry = (.ok row, next)) : Signed platform row := by
  rcases Zkp.issueCredential_cases registry platform call with ⟨other, active, returned⟩ | ⟨_, registered⟩
  · cases returned.symm.trans issued
    exact stored _ active.stored
  · rw [registered] at issued
    split at issued
    · cases issued
      exact signed_newRow signs registry
    · cases issued

/-- The claim passes the route's own checks and every check of the verification. -/
structure Presentable (platform : Platform) (row : ZKPCredential) (proof : ProofRequest) (nullifierID : Uuid)
    (tables : Tables) : Prop where
  short : proof.Short
  acceptable : Zkp.Acceptable platform row proof nullifierID tables

theorem acceptable_presentBody (root : Bytes) (row : ZKPCredential) (proof : ProofRequest) (nullifierID : Uuid)
    (tables : Tables) :
    Zkp.Acceptable platform row (presentBody proof (.ofRow root row)) nullifierID tables ↔
      Zkp.Acceptable platform row proof nullifierID tables := by
  constructor
  · exact fun ⟨unexpired, keys, unrevoked, meets, proved, fresh⟩ => ⟨unexpired, keys, unrevoked, meets, proved, fresh⟩
  · exact fun ⟨unexpired, keys, unrevoked, meets, proved, fresh⟩ => ⟨unexpired, keys, unrevoked, meets, proved, fresh⟩

theorem route_accepts_iff {row : ZKPCredential} (signed : Signed platform row)
    (expiry : platform.fromIsoFormat (isoformat row.expiresAt) = some (.aware row.expiresAt)) (root : Bytes)
    (proof : ProofRequest) (nullifierID : Uuid) (tables : Tables) :
    Zkp.Accepts platform (.object (presentBody proof (.ofRow root row)).members) nullifierID tables ↔
      Presentable platform row proof nullifierID tables := by
  have carries : Carries platform row (presentBody proof (.ofRow root row)) := ⟨rfl, signed, expiry⟩
  have dictionary : (presentBody proof (.ofRow root row)).credentialClaim = row.claim := rfl
  rw [Zkp.accepts_members dictionary, Zkp.accepted_iff carries, acceptable_presentBody]
  exact ⟨fun both => ⟨both.1, both.2⟩, fun presentable => ⟨presentable.short, presentable.acceptable⟩⟩

/-- The interfaces never agree on the signed bytes, and they agree on acceptance only where the route refuses too. -/
theorem credential_interfaces_disagree {call : Issue} {registry next : Registry} {row : ZKPCredential}
    (printable : Char → Bool) (root : Bytes)
    (signs : ∀ message, platform.verifies message (call.sign message) = true)
    (stored : ∀ row ∈ registry.credentials, Signed platform row)
    (issued : alone (Zkp.issueCredential platform call) registry = (.ok row, next))
    (expiry : platform.fromIsoFormat (isoformat row.expiresAt) = some (.aware row.expiresAt))
    (proof : ProofRequest) (nullifierID : Uuid) (tables : Tables) :
    (alone (setupKey platform printable root call) registry).1 = .ok (.ofRow platform printable root row) ∧
    (alone (Zkp.setupKey platform root call) registry).1 = .ok (.ofRow root row) ∧
    ¬ InterfacesAgree platform printable root row proof nullifierID tables ∧
    ((Accepts platform (present proof (.ofRow platform printable root row)) nullifierID tables ↔
        Zkp.Accepts platform (.object (presentBody proof (.ofRow root row)).members) nullifierID tables) ↔
      ¬ Presentable platform row proof nullifierID tables) := by
  have route := route_accepts_iff (signed_of_issued signs stored issued) expiry root proof nullifierID tables
  have servicer : ¬ Accepts platform (present proof (.ofRow platform printable root row)) nullifierID tables :=
    not_accepts _ nullifierID tables
  constructor
  · rw [setupKey, alone_map, alone_mapFault, issued]
    rfl
  constructor
  · rw [Zkp.setupKey, alone_map, alone_mapFault, issued]
    rfl
  constructor
  · exact fun agree => encode_dumps_string_ne_object _ _ _ agree.bytes
  · rw [route]
    exact iff_false_left servicer

end Disagreement

section Samples

open Zkp (newRegistry newTables aliceUuid holderUuid issueTo devPlatform gateRequest issuedSignature)

/-- Alice has an approved record. -/
def aliceRecord : Compliance.ComplianceRecord where
  id := holderUuid
  participantID := aliceUuid
  kycStatus := "APPROUVE"
  kycLevel := 2
  expiresAt := 1775001600000000
  createdAt := 1767225600000000

def approvedRegistry : Registry := { newRegistry with records := [aliceRecord] }

def aliceCall : Issue := issueTo aliceUuid holderUuid

def aliceCredential : ZKPCredential := approvedRegistry.newRow devPlatform aliceCall

theorem issued_alice : alone (Zkp.issueCredential devPlatform aliceCall) approvedRegistry =
    (.ok aliceCredential, approvedRegistry.apply (.insertCredential aliceCredential)) := by
  rcases Zkp.issueCredential_cases approvedRegistry devPlatform aliceCall with ⟨row, active, _⟩ | ⟨_, registered⟩
  · cases active.stored
  · rw [registered]
    exact if_pos (by decide +kernel)

theorem alice_signs (message : Bytes) : devPlatform.verifies message (aliceCall.sign message) = true := by
  have read : (fromHex issuedSignature).isSome = true := by decide +kernel
  obtain ⟨signature, same⟩ := Option.isSome_iff_exists.mp read
  simp [aliceCall, issueTo, devPlatform, same]

theorem alice_expiry : devPlatform.fromIsoFormat (isoformat aliceCredential.expiresAt) =
    some (.aware aliceCredential.expiresAt) := by
  have expiresAt : aliceCredential.expiresAt = 1775001600000000 := by decide +kernel
  have text : isoformat 1775001600000000 = "2026-04-01T00:00:00+00:00" := by decide +kernel
  rw [expiresAt, text]
  rfl

theorem alice_presentable : Presentable devPlatform aliceCredential gateRequest holderUuid newTables where
  short := by constructor <;> decide +kernel
  acceptable := {
    unexpired := by decide +kernel
    keys := ⟨rfl, rfl⟩
    unrevoked := by decide +kernel
    meets := ⟨{ kycOk := true }, rfl, nofun, fun _ => by decide +kernel, nofun, by decide +kernel⟩
    proved := Zkp.gate_proved gateRequest.nullifier
    fresh := by decide +kernel }

/-- The interfaces disagree about the credential of Alice. -/
theorem alice_interfaces_disagree :
    ¬ InterfacesAgree devPlatform (fun _ => true) [] aliceCredential gateRequest holderUuid newTables ∧
    ¬ (Accepts devPlatform (present gateRequest (.ofRow devPlatform (fun _ => true) [] aliceCredential)) holderUuid
        newTables ↔
      Zkp.Accepts devPlatform (.object (presentBody gateRequest (.ofRow [] aliceCredential)).members) holderUuid
        newTables) := by
  obtain ⟨_, _, disagree, acceptance⟩ := credential_interfaces_disagree (fun _ => true) [] alice_signs
    (List.forall_mem_nil _) issued_alice alice_expiry gateRequest holderUuid newTables
  exact ⟨disagree, fun agree => acceptance.mp agree alice_presentable⟩

/-- The route accepts the credential of Alice, and the servicer does not. -/
theorem alice_accepted_by_route_only :
    alone (Zkp.issueCredential devPlatform aliceCall) approvedRegistry =
      (.ok aliceCredential, approvedRegistry.apply (.insertCredential aliceCredential)) ∧
    Zkp.Accepts devPlatform (.object (presentBody gateRequest (.ofRow [] aliceCredential)).members) holderUuid
      newTables ∧
    ¬ Accepts devPlatform (present gateRequest (.ofRow devPlatform (fun _ => true) [] aliceCredential)) holderUuid
      newTables := by
  have signed : Signed devPlatform aliceCredential := signed_newRow alice_signs approvedRegistry
  exact ⟨issued_alice, (route_accepts_iff signed alice_expiry [] gateRequest holderUuid newTables).mpr alice_presentable,
    not_accepts _ holderUuid newTables⟩

end Samples

end Pxtly.Grpc
