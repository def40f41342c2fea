/-
This file gives what the challenge of an accepted proof binds: its points, its purpose and its context.
-/

import Pxtly.Foundation.Framing
import Pxtly.Foundation.Patterns
import Pxtly.Zkp.Extraction
import Pxtly.Zkp.Verifier

namespace Pxtly.Zkp

open Foundation Foundation.Database
open Program (Executes Returns)
open Assets (Uuid)
open Secp256k1

section Points

theorem bigEndian_toNat_inj {first second : Int} (firstFits : 0 ≤ first ∧ first < 256 ^ 32)
    (secondFits : 0 ≤ second ∧ second < 256 ^ 32)
    (same : bigEndian 32 first.toNat = bigEndian 32 second.toNat) : first = second := by
  have numbers : first.toNat = second.toNat := by
    apply bigEndian_inj _ _ same
    · omega
    · omega
  omega

theorem pointToBytes_inj {first second : Point} (firstFits : FillsBytes first) (secondFits : FillsBytes second)
    (same : pointToBytes first = pointToBytes second) : first = second := by
  have sizes : (bigEndian 32 first.1.toNat).length = (bigEndian 32 second.1.toNat).length := by
    rw [length_bigEndian, length_bigEndian]
  obtain ⟨x, y⟩ := List.append_inj same sizes
  exact Prod.ext (bigEndian_toNat_inj firstFits.1 secondFits.1 x) (bigEndian_toNat_inj firstFits.2 secondFits.2 y)

end Points

section Purposes

/-- No known purpose has a colon. -/
theorem colon_notMem {purpose : String} (known : (purposeClaims purpose).isSome = true) : ':' ∉ purpose.toList := by
  unfold purposeClaims at known
  split at known
  · decide
  · decide
  · decide
  · decide
  · cases known

/-- A known purpose ends at the first colon of the text, whatever the context has. -/
theorem purpose_context_inj {first second : String} (firstKnown : (purposeClaims first).isSome = true)
    (secondKnown : (purposeClaims second).isSome = true) {firstContext secondContext : String}
    (same : first ++ ":" ++ firstContext = second ++ ":" ++ secondContext) :
    first = second ∧ firstContext = secondContext := by
  have colon : ":".toList = [':'] := by decide
  have texts := congrArg String.toList same
  simp only [String.toList_append, colon, List.append_assoc, List.singleton_append] at texts
  have purposes : first.toList = second.toList := by
    rw [← Pattern.takeWhile_field firstContext.toList (colon_notMem firstKnown), texts,
      Pattern.takeWhile_field secondContext.toList (colon_notMem secondKnown)]
  rw [purposes, List.append_cancel_left_eq, List.cons.injEq] at texts
  exact ⟨String.toList_inj.mp purposes, String.toList_inj.mp texts.2⟩

end Purposes

section Transcripts

/-- A transcript has a known purpose, a context that fits its frame, and two points that fill their bytes. -/
structure Transcript where
  commitment : Point
  key : Point
  purpose : String
  context : String
  commitmentFits : FillsBytes commitment
  keyFits : FillsBytes key
  known : (purposeClaims purpose).isSome = true
  contextFits : (encode (purpose ++ ":" ++ context)).length < 2 ^ 32

def Transcript.parts (transcript : Transcript) : List Bytes :=
  [pointToBytes transcript.commitment, pointToBytes transcript.key,
    encode (transcript.purpose ++ ":" ++ transcript.context)]

/-- SHA-256 is taken of these bytes. -/
def Transcript.preimage (transcript : Transcript) : Bytes := framed transcript.parts

/-- This is the challenge before its reduction. -/
def Transcript.challenge (transcript : Transcript) : Nat := readBigEndian (sha256 transcript.preimage)

theorem Transcript.parts_sized (transcript : Transcript) : ∀ part ∈ transcript.parts, part.length < 2 ^ 32 := by
  simp only [parts, List.forall_mem_cons, length_pointToBytes]
  exact ⟨by decide, by decide, transcript.contextFits, List.forall_mem_nil _⟩

/-- The verification takes its challenge from the preimage. -/
theorem hashToScalar_parts (transcript : Transcript) :
    hashToScalar transcript.parts = some (transcript.challenge % N) :=
  if_pos transcript.parts_sized

theorem preimage_inj {first second : Transcript} (same : first.preimage = second.preimage) : first = second := by
  have parts := framed_injective first.parts_sized second.parts_sized same
  obtain ⟨commitment, key, purpose, context, commitmentFits, keyFits, known, contextFits⟩ := first
  obtain ⟨commitment', key', purpose', context', commitmentFits', keyFits', known', contextFits'⟩ := second
  simp only [Transcript.parts, List.cons.injEq, and_true] at parts
  obtain ⟨commitments, keys, texts⟩ := parts
  obtain rfl := pointToBytes_inj commitmentFits commitmentFits' commitments
  obtain rfl := pointToBytes_inj keyFits keyFits' keys
  obtain ⟨rfl, rfl⟩ := purpose_context_inj known known' (encode_injective texts)
  rfl

/-- Where SHA-256 has no collision, different transcripts have different challenges. -/
theorem challenge_inj {hashed : Set Bytes} (clean : Set.InjOn sha256 hashed) {first second : Transcript}
    (firstHashed : first.preimage ∈ hashed) (secondHashed : second.preimage ∈ hashed)
    (same : first.challenge = second.challenge) : first = second := by
  have digests : sha256 first.preimage = sha256 second.preimage := by
    apply readBigEndian_inj _ same
    rw [length_sha256, length_sha256]
  exact preimage_inj (clean firstHashed secondHashed digests)

end Transcripts

section Requests

variable {platform : Platform} {request : ProofRequest} {nullifierID : Uuid}

/-- These checks know the purpose and end with a valid proof. -/
structure Proved (platform : Platform) (request : ProofRequest) : Prop where
  known : (purposeClaims request.purpose).isSome = true
  schnorr : checkSchnorr platform request = .ok none

theorem known_of_checkPurposeClaims {credential : FakeCred} {purpose : String} {reason : Reason}
    (passed : checkPurposeClaims credential purpose = .ok (true, reason)) : (purposeClaims purpose).isSome = true := by
  rw [checkPurposeClaims] at passed
  cases required : purposeClaims purpose with
  | none =>
      rw [required] at passed
      cases passed
  | some claims => rfl

/-- A refusal says nothing about the request. -/
theorem returns_refusal (reason : Reason) {conclusion : Prop} :
    (pure (some reason) : Service (Option Reason)).Returns fun refused => refused = none → conclusion := by
  intro passed
  cases passed

/-- The purpose is looked up before the proof is verified. -/
theorem checkRequest_returns : (checkRequest platform request).Returns fun refused =>
    refused = none → Proved platform request := by
  rw [checkRequest]
  split
  · exact returns_refusal _
  refine Program.returns_bind fun expiry => ?_
  cases expiry with
  | none => exact returns_refusal _
  | some expiresAt =>
      refine Program.returns_bind fun now => ?_
      split
      · exact returns_refusal _
      refine Program.returns_bind fun claimX => Program.returns_bind fun claimY => ?_
      split
      · exact returns_refusal _
      refine Program.returns_bind fun revoked => ?_
      split
      · exact returns_refusal _
      refine Program.returns_bind fun credential => ?_
      have claims : (Program.lift (checkPurposeClaims credential request.purpose) : Service (Bool × Reason)).Returns
          fun verdict => verdict.1 = true → (purposeClaims request.purpose).isSome = true := by
        refine Program.returns_lift fun verdict checked passed => ?_
        obtain ⟨ok, reason⟩ := verdict
        obtain rfl : ok = true := passed
        exact known_of_checkPurposeClaims checked
      refine claims.bind fun verdict known => ?_
      obtain ⟨ok, reason⟩ := verdict
      cases ok with
      | false => exact returns_refusal _
      | true =>
          refine Program.returns_lift fun refused checked passed => ?_
          rw [passed] at checked
          exact ⟨known rfl, checked⟩

theorem verifyProof_returns : (verifyProof platform request nullifierID).Returns fun verdict =>
    verdict.1 = true → Proved platform request := by
  rw [verifyProof]
  refine checkRequest_returns.bind fun refused passed => ?_
  cases refused with
  | some reason =>
      intro accepted
      cases accepted
  | none => exact Program.returns_of_forall (fun _ _ => passed rfl) _

/-- The verification of the request takes its challenge from the transcript. -/
structure ProofRequest.Hashes (request : ProofRequest) (transcript : Transcript) : Prop where
  parse : ∃ s, request.parse = some (transcript.key, ⟨transcript.commitment.1, transcript.commitment.2, s⟩)
  purpose : transcript.purpose = request.purpose
  context : transcript.context = request.context
  challenge : hashToScalar [pointToBytes transcript.commitment, pointToBytes transcript.key, request.contextBytes] =
    some (transcript.challenge % N)

/-- The mathematical part passes exactly where the proof of the request is accepted. -/
theorem checkSchnorr_eq_ok_none : checkSchnorr platform request = .ok none ↔
    ∃ key proof, request.parse = some (key, proof) ∧
      schnorrVerify platform.curve proof key request.contextBytes = some true := by
  rw [checkSchnorr]
  cases parsed : request.parse with
  | none => simp
  | some read =>
      obtain ⟨key, proof⟩ := read
      simp only [Option.some.injEq, Prod.mk.injEq]
      constructor
      · intro passed
        split at passed
        · cases passed
        · split at passed
          · cases passed
          · cases passed
          · next verified => exact ⟨key, proof, ⟨rfl, rfl⟩, verified⟩
      · rintro ⟨_, _, ⟨rfl, rfl⟩, verified⟩
        rw [schnorrVerify_eq] at verified
        obtain ⟨challenge, conditions⟩ := verifyWith_eq_true.mp verified
        simp [conditions.keyOnCurve, schnorrVerify_eq, verified]

theorem hashes_of_proved (proved : Proved platform request) : ∃ transcript, request.Hashes transcript := by
  obtain ⟨key, proof, parsed, verified⟩ := checkSchnorr_eq_ok_none.mp proved.schnorr
  rw [schnorrVerify_eq] at verified
  obtain ⟨challenge, conditions⟩ := verifyWith_eq_true.mp verified
  have sized : (encode (request.purpose ++ ":" ++ request.context)).length < 2 ^ 32 := by
    have hashed : (hashToScalar _).isSome = true := Option.isSome_of_eq_some conditions.hashed
    rw [hashToScalar, Option.isSome_ite] at hashed
    exact hashed _ (by simp [ProofRequest.contextBytes])
  let transcript : Transcript := ⟨(proof.rx, proof.ry), key, request.purpose, request.context,
    fillsBytes_of_isOnCurve conditions.commitmentOnCurve, fillsBytes_of_isOnCurve conditions.keyOnCurve, proved.known,
    sized⟩
  exact ⟨transcript, ⟨proof.s, parsed⟩, rfl, rfl, hashToScalar_parts transcript⟩

/-- A verification of the request returns true behind some answers of the store. -/
def Passes (platform : Platform) (request : ProofRequest) : Prop :=
  ∃ nullifierID events reason, Executes (verifyProof platform request nullifierID) events (.ok (true, reason))

theorem Passes.proved (passes : Passes platform request) : Proved platform request := by
  obtain ⟨nullifierID, events, reason, executed⟩ := passes
  exact verifyProof_returns.of_executes executed rfl

/-- The preimage of a challenge fixes its points, its purpose and its context, so an accepted proof shares its challenge
with no other transcript where SHA-256 has no collision. -/
theorem proofs_separated :
    (∀ first second : Transcript, first.preimage = second.preimage → first = second) ∧
      ∀ (platform : Platform) (request : ProofRequest), Passes platform request →
        ∃ transcript, request.Hashes transcript ∧ ∀ hashed : Set Bytes, Set.InjOn sha256 hashed →
          transcript.preimage ∈ hashed → ∀ other : Transcript, other.preimage ∈ hashed →
            other.challenge = transcript.challenge → other = transcript := by
  constructor
  · exact fun first second same => preimage_inj same
  · intro platform request passes
    obtain ⟨transcript, hashes⟩ := hashes_of_proved passes.proved
    refine ⟨transcript, hashes, ?_⟩
    intro hashed clean member other otherMember same
    exact challenge_inj clean otherMember member same

/-- The nonce of the holder's proof is two. -/
def gateCommitment : Point :=
  (0xc6047f9441ed7d6d3045406e95c07cd85c778e4b8cef3ca7abac09b95c709ee5,
    0x1ae168fea63dc339a3c58419466ceaeef7f632653266d0e1236431a950cfe52a)

/-- The proof of the holder is for the gate. -/
def gateTranscript : Transcript where
  commitment := gateCommitment
  key := G
  purpose := "kyc_gate"
  context := "login"
  commitmentFits := ⟨by decide, by decide⟩
  keyFits := ⟨by decide, by decide⟩
  known := rfl
  contextFits := by decide +kernel

/-- The same points would stand in a transcript for a transfer. -/
def transferTranscript : Transcript where
  commitment := gateCommitment
  key := G
  purpose := "asset_transfer"
  context := "login"
  commitmentFits := gateTranscript.commitmentFits
  keyFits := gateTranscript.keyFits
  known := rfl
  contextFits := by decide +kernel

theorem gate_passes : Passes devPlatform gateRequest := by
  have checks : checkRequest devPlatform gateRequest = gateChecks := checkRequest_gate gateRequest.nullifier
  refine ⟨holderUuid, [⟨.read .now, some newTables.clock⟩,
    ⟨.read (.revokedCredential gateRequest.publicKeyX), some none⟩,
    ⟨.read (.nullifier gateRequest.nullifier), some none⟩,
    ⟨.write (.insertNullifier (gateRequest.row holderUuid)), some ()⟩, ⟨.commit, some ()⟩],
    [.text "Proof accepted"], ?_⟩
  rw [verifyProof, checks]
  exact ⟨_, _, rfl, _, _, rfl, _, _, rfl, _, _, rfl, _, _, rfl, rfl, rfl⟩

theorem eq_gateTranscript {transcript : Transcript} (hashes : gateRequest.Hashes transcript) :
    transcript = gateTranscript := by
  have points : gateRequest.parse.map (fun parsed => (parsed.1, parsed.2.rx, parsed.2.ry)) =
      some (G, gateCommitment) := by decide +kernel
  obtain ⟨⟨s, parse⟩, purpose, context, _⟩ := hashes
  obtain ⟨commitment, key, ownPurpose, ownContext, _, _, _, _⟩ := transcript
  rw [parse, Option.map_some, Option.some.injEq, Prod.mk.injEq] at points
  obtain ⟨rfl, shared⟩ := points
  obtain rfl : commitment = gateCommitment := shared
  obtain rfl : ownPurpose = "kyc_gate" := purpose
  obtain rfl : ownContext = "login" := context
  rfl

/-- The proof for the gate does not have the challenge of a transfer. -/
theorem gate_separated : ∃ transcript, gateRequest.Hashes transcript ∧
    transferTranscript.challenge ≠ transcript.challenge := by
  obtain ⟨transcript, hashes, separated⟩ := proofs_separated.2 devPlatform gateRequest gate_passes
  obtain rfl := eq_gateTranscript hashes
  have digests : sha256 gateTranscript.preimage ≠ sha256 transferTranscript.preimage := by decide +kernel
  have clean : Set.InjOn sha256 {gateTranscript.preimage, transferTranscript.preimage} := by
    rintro _ (rfl | rfl) _ (rfl | rfl) collide
    · rfl
    · exact absurd collide digests
    · exact absurd collide.symm digests
    · rfl
  refine ⟨_, hashes, fun shared => ?_⟩
  have swapped := separated _ clean (.inl rfl) _ (.inr rfl) shared
  exact absurd (congrArg Transcript.purpose swapped) (by decide)

end Requests

end Pxtly.Zkp
