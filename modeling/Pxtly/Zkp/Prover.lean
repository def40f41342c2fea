/-
This file gives the Schnorr proofs of a holder, the texts that carry them, and that the verification accepts them.
-/

import Pxtly.Foundation.HexIntegers
import Pxtly.Zkp.Extraction

namespace Pxtly.Zkp

open Foundation
open Secp256k1

/-- `random_scalar` returns such a scalar. -/
def IsScalar (scalar : Int) : Prop := 1 ≤ scalar ∧ scalar < N

def publicKeyFromPrivate (curve : Curve) (x : Int) : Point := curve.multiply G x

/-- The proof comes with its nullifier; `to_bytes` and `struct.pack` raise an error where the result is missing. -/
def schnorrProve (curve : Curve) (k x : Int) (key : Point) (context : Bytes) : Option (SchnorrProof × Bytes) :=
  let commitment := curve.multiply G k
  if ¬ FillsBytes commitment ∨ ¬ FillsBytes key then none
  else do
    let c ← hashToScalar [pointToBytes commitment, pointToBytes key, context]
    let s := (k - c * x) % N
    if ¬ (0 ≤ x ∧ x < 256 ^ 32) then none
    else some (⟨commitment.1, commitment.2, s⟩, sha256 (encode "NULLIFIER" ++ bigEndian 32 x.toNat ++ context))

section Texts

def SchnorrProof.toDict (proof : SchnorrProof) : List (String × String) :=
  [("Rx", hexInt proof.rx), ("Ry", hexInt proof.ry), ("s", hexInt proof.s)]

/-- A missing key and a text that is no number raise errors. -/
def SchnorrProof.fromDict (dict : List (String × String)) : Option SchnorrProof := do
  return ⟨← (dict.lookup "Rx").bind int16, ← (dict.lookup "Ry").bind int16, ← (dict.lookup "s").bind int16⟩

def pointToHex (point : Point) : String × String := (hexInt point.1, hexInt point.2)

theorem fromDict_toDict (proof : SchnorrProof) : SchnorrProof.fromDict proof.toDict = some proof := by
  have rx : (proof.toDict.lookup "Rx").bind int16 = some proof.rx := int16_hexInt proof.rx
  have ry : (proof.toDict.lookup "Ry").bind int16 = some proof.ry := int16_hexInt proof.ry
  have s : (proof.toDict.lookup "s").bind int16 = some proof.s := int16_hexInt proof.s
  rw [SchnorrProof.fromDict, rx, ry, s]
  rfl

theorem pointFromHex_pointToHex (point : Point) :
    pointFromHex (pointToHex point).1 (pointToHex point).2 = some point := by
  rw [pointFromHex, pointToHex, int16_hexInt, int16_hexInt]
  rfl

/-- A verifier reads the proof and the key from their texts. -/
def verifyTexts (curve : Curve) (dict : List (String × String)) (key : String × String) (context : Bytes) :
    Option Bool := do
  schnorrVerify curve (← SchnorrProof.fromDict dict) (← pointFromHex key.1 key.2) context

end Texts

section Completeness

variable {curve : Curve} {E : Type} [AddCommGroup E] {coordinates : E → Point}

/-- The multiples of the base point with these scalars are on the curve. -/
theorem isOnCurve_multiply (implements : curve.Implements coordinates) {scalar : Int} (proper : IsScalar scalar) :
    isOnCurve (curve.multiply G scalar) = true := by
  obtain ⟨g, nonzero, base⟩ := implements.exists_generator
  rw [← base, implements.multiply]
  apply implements.onCurve
  intro zero
  rw [zsmul_eq_zero_iff implements.order prime_N nonzero] at zero
  have divides : N ∣ scalar := (ZMod.intCast_zmod_eq_zero_iff_dvd scalar N.toNat).mp zero
  obtain ⟨least, most⟩ := proper
  have bound := Int.le_of_dvd (by omega) divides
  omega

/-- The response to any challenge is accepted, also where the response or the challenge is zero. -/
theorem verifyWith_response (implements : curve.Implements coordinates) {challengeOf : ChallengeOf} {k x c : Int}
    (nonce : IsScalar k) (secret : IsScalar x) {context : Bytes}
    (hashed : challengeOf (curve.multiply G k) (curve.multiply G x) context = some c) :
    verifyWith challengeOf curve ⟨(curve.multiply G k).1, (curve.multiply G k).2, (k - c * x) % N⟩ (curve.multiply G x)
      context = some true := by
  obtain ⟨g, nonzero, base⟩ := implements.exists_generator
  refine verifyWith_eq_true.mpr ⟨c, isOnCurve_multiply implements secret, isOnCurve_multiply implements nonce,
    ⟨Int.emod_nonneg _ (by decide), Int.emod_lt_of_pos _ (by decide)⟩, hashed, ?_⟩
  have response : schnorrSum g (x • g) ((k - c * x) % N) c = k • g := schnorrSum_response implements.order g x k c
  rw [implements.verified_sum base, response, ← implements.multiply, base]

/-- The parts of a challenge for two points and a short context have their lengths in four bytes. -/
theorem exists_challenge (commitment key : Point) {context : Bytes} (short : context.length < 2 ^ 32) :
    ∃ c, hashToScalar [pointToBytes commitment, pointToBytes key, context] = some c := by
  refine ⟨_, if_pos ?_⟩
  simp only [List.forall_mem_cons, length_pointToBytes]
  exact ⟨by decide, by decide, short, List.forall_mem_nil _⟩

/-- The proof that a holder makes is accepted, also when it and the key have been written as texts. -/
theorem schnorr_complete (implements : curve.Implements coordinates) {k x : Int} (nonce : IsScalar k)
    (secret : IsScalar x) {context : Bytes} (short : context.length < 2 ^ 32) :
    ∃ proof nullifier,
      schnorrProve curve k x (publicKeyFromPrivate curve x) context = some (proof, nullifier) ∧
      schnorrVerify curve proof (publicKeyFromPrivate curve x) context = some true ∧
      verifyTexts curve proof.toDict (pointToHex (publicKeyFromPrivate curve x)) context = some true := by
  have commitmentCurve := isOnCurve_multiply implements nonce
  have keyCurve := isOnCurve_multiply implements secret
  obtain ⟨c, hashed⟩ := exists_challenge (curve.multiply G k) (curve.multiply G x) short
  have fills : ¬ (¬ FillsBytes (curve.multiply G k) ∨ ¬ FillsBytes (curve.multiply G x)) := by
    rw [not_or, not_not, not_not]
    exact ⟨fillsBytes_of_isOnCurve commitmentCurve, fillsBytes_of_isOnCurve keyCurve⟩
  have fits : 0 ≤ x ∧ x < 256 ^ 32 := by
    have bound : N < 256 ^ 32 := by decide
    exact ⟨zero_le_one.trans secret.1, secret.2.trans bound⟩
  have answered : fiatShamir (curve.multiply G k) (curve.multiply G x) context = some c := hashed
  have accepted := verifyWith_response implements nonce secret answered
  rw [← schnorrVerify_eq] at accepted
  refine ⟨_, sha256 (encode "NULLIFIER" ++ bigEndian 32 x.toNat ++ context), ?_, accepted, ?_⟩
  · rw [schnorrProve, publicKeyFromPrivate, if_neg fills, hashed]
    exact if_neg (not_not.mpr fits)
  · rw [verifyTexts, fromDict_toDict, pointFromHex_pointToHex]
    exact accepted

/-- The key one, the nonce two and a context of the verification give an accepted proof. -/
theorem sample_complete : ∃ proof nullifier,
    schnorrProve secp256k1 2 1 (publicKeyFromPrivate secp256k1 1) (encode "kyc_gate:login") = some (proof, nullifier) ∧
    schnorrVerify secp256k1 proof (publicKeyFromPrivate secp256k1 1) (encode "kyc_gate:login") = some true ∧
    verifyTexts secp256k1 proof.toDict (pointToHex (publicKeyFromPrivate secp256k1 1)) (encode "kyc_gate:login") =
      some true :=
  schnorr_complete secp256k1_implements ⟨by decide, by decide⟩ ⟨by decide, by decide⟩ (by decide +kernel)

end Completeness

end Pxtly.Zkp
