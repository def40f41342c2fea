/-
This file gives what the accepted proofs of a key say about its private key, whatever function the challenge is.
-/

import Pxtly.Foundation.PrimeOrder
import Pxtly.Zkp.CurveGroup

namespace Pxtly.Zkp

open Foundation
open Secp256k1

/-- The challenge is a function of the commitment, the key and the context; it has no value where it raises an error. -/
abbrev ChallengeOf := Point → Point → Bytes → Option Int

/-- This is the challenge of the verification. -/
def fiatShamir : ChallengeOf := fun commitment key context =>
  hashToScalar [pointToBytes commitment, pointToBytes key, context]

/-- This is the verification with another challenge function. -/
def verifyWith (challengeOf : ChallengeOf) (curve : Curve) (proof : SchnorrProof) (key : Point) (context : Bytes) :
    Option Bool :=
  let commitment : Point := (proof.rx, proof.ry)
  if !isOnCurve key || !isOnCurve commitment then some false
  else if ¬ (0 ≤ proof.s ∧ proof.s < N) then some false
  else (challengeOf commitment key context).map fun challenge =>
    curve.add (curve.multiply G (proof.s % N)) (curve.multiply key (challenge % N)) == commitment

theorem schnorrVerify_eq : schnorrVerify = verifyWith fiatShamir := rfl

section Verifier

variable {challengeOf : ChallengeOf} {curve : Curve} {proof : SchnorrProof} {key : Point} {context : Bytes}

/-- These are the conditions of a proof that is accepted. -/
structure Verified (challengeOf : ChallengeOf) (curve : Curve) (proof : SchnorrProof) (key : Point) (context : Bytes)
    (challenge : Int) : Prop where
  keyOnCurve : isOnCurve key = true
  commitmentOnCurve : isOnCurve (proof.rx, proof.ry) = true
  reduced : 0 ≤ proof.s ∧ proof.s < N
  hashed : challengeOf (proof.rx, proof.ry) key context = some challenge
  equation : curve.add (curve.multiply G (proof.s % N)) (curve.multiply key (challenge % N)) = (proof.rx, proof.ry)

theorem verifyWith_eq_true : verifyWith challengeOf curve proof key context = some true ↔
    ∃ challenge, Verified challengeOf curve proof key context challenge := by
  simp only [verifyWith, Bool.or_eq_true, Bool.not_eq_true']
  constructor
  · intro verified
    split at verified
    · cases verified
    · next points =>
        rw [not_or, Bool.not_eq_false, Bool.not_eq_false] at points
        split at verified
        · cases verified
        · next reduced =>
            obtain ⟨challenge, hashed, equation⟩ := Option.map_eq_some_iff.mp verified
            exact ⟨challenge, points.1, points.2, not_not.mp reduced, hashed, beq_iff_eq.mp equation⟩
  · rintro ⟨challenge, keyOnCurve, commitmentOnCurve, reduced, hashed, equation⟩
    simp [keyOnCurve, commitmentOnCurve, reduced, hashed, equation]

/-- A proof for a key and a commitment on the curve, with a challenge, is accepted or refused. -/
theorem verifyWith_of_challenge {challenge : Int}
    (hashed : challengeOf (proof.rx, proof.ry) key context = some challenge) :
    verifyWith challengeOf curve proof key context = some true ∨
      verifyWith challengeOf curve proof key context = some false := by
  simp only [verifyWith, hashed, Option.map_some]
  split
  · exact .inr rfl
  · split
    · exact .inr rfl
    · cases curve.add (curve.multiply G (proof.s % N)) (curve.multiply key (challenge % N)) == (proof.rx, proof.ry) with
      | true => exact .inl rfl
      | false => exact .inr rfl

end Verifier

section Group

variable {curve : Curve} {E : Type} [AddCommGroup E] {coordinates : E → Point}

/-- The base point is the coordinates of a generator. -/
theorem Curve.Implements.exists_generator (implements : curve.Implements coordinates) :
    ∃ g, g ≠ 0 ∧ coordinates g = G := by
  obtain ⟨g, same⟩ := implements.generator
  refine ⟨g, ?_, same⟩
  rintro rfl
  rw [implements.infinity] at same
  exact absurd same (by decide)

/-- The verification adds up the sum of the response and the challenge in the group. -/
theorem Curve.Implements.verified_sum (implements : curve.Implements coordinates) {g : E} (base : coordinates g = G)
    (secret response challenge : Int) :
    curve.add (curve.multiply G (response % N)) (curve.multiply (curve.multiply G secret) (challenge % N)) =
      coordinates (schnorrSum g (secret • g) response challenge) := by
  have size : Nat.card E = N.toNat := implements.order
  have modulus : ((N.toNat : Nat) : Int) = N := rfl
  rw [← base, implements.multiply, implements.multiply, implements.multiply, implements.add, schnorrSum, ← modulus,
    emod_zsmul size, emod_zsmul size]

/-- For a key with a private scalar, a commitment and a context at most one response is accepted, and the private
scalar follows from two accepted responses to different challenges for one commitment. -/
theorem schnorr_extraction (implements : curve.Implements coordinates) (secret : Int) :
    (∀ (challengeOf : ChallengeOf) (rx ry s : Int) (context : Bytes),
      verifyWith challengeOf curve ⟨rx, ry, s⟩ (curve.multiply G secret) context = some true →
        ∀ other, other ≠ s →
          verifyWith challengeOf curve ⟨rx, ry, other⟩ (curve.multiply G secret) context = some false) ∧
    ∀ (firstOf secondOf : ChallengeOf) (rx ry first second firstChallenge secondChallenge : Int)
      (firstContext secondContext : Bytes),
      verifyWith firstOf curve ⟨rx, ry, first⟩ (curve.multiply G secret) firstContext = some true →
      verifyWith secondOf curve ⟨rx, ry, second⟩ (curve.multiply G secret) secondContext = some true →
      firstOf (rx, ry) (curve.multiply G secret) firstContext = some firstChallenge →
      secondOf (rx, ry) (curve.multiply G secret) secondContext = some secondChallenge →
      (firstChallenge : ZMod N.toNat) ≠ secondChallenge →
        (secret : ZMod N.toNat) = (first - second) * ((secondChallenge : ZMod N.toNat) - firstChallenge)⁻¹ := by
  obtain ⟨g, nonzero, base⟩ := implements.exists_generator
  have size : Nat.card E = N.toNat := implements.order
  constructor
  · intro challengeOf rx ry s context accepted other different
    obtain ⟨challenge, verified⟩ := verifyWith_eq_true.mp accepted
    have judged : verifyWith challengeOf curve ⟨rx, ry, other⟩ (curve.multiply G secret) context = some true ∨
        verifyWith challengeOf curve ⟨rx, ry, other⟩ (curve.multiply G secret) context = some false :=
      verifyWith_of_challenge verified.hashed
    refine judged.resolve_left fun again => different ?_
    obtain ⟨same, verified'⟩ := verifyWith_eq_true.mp again
    obtain rfl := Option.some.inj (verified.hashed.symm.trans verified'.hashed)
    have sums := verified'.equation.trans verified.equation.symm
    rw [implements.verified_sum base, implements.verified_sum base] at sums
    exact response_unique size prime_N nonzero verified'.reduced verified.reduced (implements.injective sums)
  · intro firstOf secondOf rx ry first second firstChallenge secondChallenge firstContext secondContext firstAccepted
      secondAccepted firstHashed secondHashed apart
    obtain ⟨_, firstVerified⟩ := verifyWith_eq_true.mp firstAccepted
    obtain ⟨_, secondVerified⟩ := verifyWith_eq_true.mp secondAccepted
    obtain rfl := Option.some.inj (firstVerified.hashed.symm.trans firstHashed)
    obtain rfl := Option.some.inj (secondVerified.hashed.symm.trans secondHashed)
    have sums := firstVerified.equation.trans secondVerified.equation.symm
    rw [implements.verified_sum base, implements.verified_sum base] at sums
    exact secret_extracted size prime_N nonzero (implements.injective sums) apart

end Group

section Samples

/-- The nonce two has this commitment, and the private key is one. -/
def sampleProof (s : Int) : SchnorrProof where
  rx := 0xc6047f9441ed7d6d3045406e95c07cd85c778e4b8cef3ca7abac09b95c709ee5
  ry := 0x1ae168fea63dc339a3c58419466ceaeef7f632653266d0e1236431a950cfe52a
  s := s

def sampleResponse : Int := 0x31b2b40848251679496bb2fe867bec9676cb8904e82f41bdd45df7e8e95ab29b

/-- The next representative of an accepted response is refused, and the response to the challenge one gives the private
key away. -/
theorem sample_extraction :
    schnorrVerify secp256k1 (sampleProof (sampleResponse + N)) (secp256k1.multiply G 1) (encode "kyc_gate:login") =
      some false ∧
    ∃ challenge, fiatShamir ((sampleProof 1).rx, (sampleProof 1).ry) (secp256k1.multiply G 1)
        (encode "kyc_gate:login") = some challenge ∧
      ((1 : Int) : ZMod N.toNat) = (sampleResponse - (1 : Int)) * (((1 : Int) : ZMod N.toNat) - challenge)⁻¹ := by
  obtain ⟨unique, extracted⟩ := schnorr_extraction secp256k1_implements 1
  have accepted : verifyWith fiatShamir secp256k1 (sampleProof sampleResponse) (secp256k1.multiply G 1)
      (encode "kyc_gate:login") = some true := by decide +kernel
  have answered : verifyWith (fun _ _ _ => some 1) secp256k1 (sampleProof 1) (secp256k1.multiply G 1) [] =
      some true := by decide +kernel
  constructor
  · exact unique fiatShamir _ _ sampleResponse _ accepted _ (by decide)
  · obtain ⟨challenge, verified⟩ := verifyWith_eq_true.mp accepted
    have different : (fiatShamir ((sampleProof 1).rx, (sampleProof 1).ry) (secp256k1.multiply G 1)
        (encode "kyc_gate:login")).map (fun challenge => challenge % N == 1) = some false := by decide +kernel
    have hashed : fiatShamir ((sampleProof 1).rx, (sampleProof 1).ry) (secp256k1.multiply G 1)
      (encode "kyc_gate:login") = some challenge := verified.hashed
    have apart : (challenge : ZMod N.toNat) ≠ ((1 : Int) : ZMod N.toNat) := by
      intro same
      have remainder : challenge % N = 1 := (ZMod.intCast_eq_intCast_iff challenge 1 N.toNat).mp same
      rw [hashed, Option.map_some, remainder] at different
      cases different
    exact ⟨challenge, hashed, extracted _ _ _ _ _ _ _ _ _ _ accepted answered hashed rfl apart⟩

end Samples

end Pxtly.Zkp
