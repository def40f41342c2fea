/-
This file gives the multiples in a group of prime order and the equation of a Schnorr proof.
-/

import Mathlib.Algebra.Field.ZMod
import Mathlib.Data.ZMod.Basic
import Mathlib.GroupTheory.OrderOfElement
import Mathlib.Tactic.LinearCombination

namespace Pxtly.Foundation

variable {E : Type} [AddCommGroup E] {order : Nat}

theorem emod_zsmul (size : Nat.card E = order) (scalar : Int) (a : E) : (scalar % order) • a = scalar • a := by
  have vanishes : (order : Int) • a = 0 := by
    rw [natCast_zsmul, ← size]
    exact card_nsmul_eq_zero'
  calc (scalar % order) • a = (scalar % order) • a + (scalar / order) • (order : Int) • a := by
        rw [vanishes, zsmul_zero, add_zero]
    _ = scalar • a := by rw [← mul_zsmul, ← add_zsmul, Int.emod_add_ediv_mul]

section Prime

variable (size : Nat.card E = order) (prime : order.Prime) {g : E} (nonzero : g ≠ 0)

include size prime nonzero

/-- The multiples of an element other than zero are told apart by their scalars modulo the order. -/
theorem zsmul_inj_iff {first second : Int} : first • g = second • g ↔ (first : ZMod order) = second := by
  have divides : addOrderOf g ∣ order := size ▸ addOrderOf_dvd_natCard g
  have full : addOrderOf g = order :=
    (prime.eq_one_or_self_of_dvd _ divides).resolve_left (mt AddMonoid.addOrderOf_eq_one_iff.mp nonzero)
  rw [zsmul_eq_zsmul_iff_modEq, full, ZMod.intCast_eq_intCast_iff]

theorem zsmul_eq_zero_iff {scalar : Int} : scalar • g = 0 ↔ (scalar : ZMod order) = 0 := by
  rw [← zero_zsmul g, zsmul_inj_iff size prime nonzero, Int.cast_zero]

/-- A scalar below the order is fixed by its multiple. -/
theorem zsmul_inj_of_lt {first second : Int} (firstReduced : 0 ≤ first ∧ first < order)
    (secondReduced : 0 ≤ second ∧ second < order) (same : first • g = second • g) : first = second := by
  rw [zsmul_inj_iff size prime nonzero, ZMod.intCast_eq_intCast_iff, Int.ModEq,
    Int.emod_eq_of_lt firstReduced.1 firstReduced.2, Int.emod_eq_of_lt secondReduced.1 secondReduced.2] at same
  exact same

end Prime

/-- The commitment is the multiple of a generator with a response plus the multiple of the key with the challenge. -/
def schnorrSum (g key : E) (response challenge : Int) : E := response • g + challenge • key

/-- The response to a challenge gives the commitment back. -/
theorem schnorrSum_response (size : Nat.card E = order) (g : E) (secret nonce challenge : Int) :
    schnorrSum g (secret • g) ((nonce - challenge * secret) % order) challenge = nonce • g := by
  rw [schnorrSum, emod_zsmul size, sub_zsmul, mul_zsmul, neg_add_cancel_right]

section Extraction

variable (size : Nat.card E = order) (prime : order.Prime) {g : E} (nonzero : g ≠ 0)

include size prime nonzero

/-- Two responses to one challenge for one commitment are the same. -/
theorem response_unique {key : E} {first second challenge : Int} (firstReduced : 0 ≤ first ∧ first < order)
    (secondReduced : 0 ≤ second ∧ second < order)
    (same : schnorrSum g key first challenge = schnorrSum g key second challenge) : first = second :=
  zsmul_inj_of_lt size prime nonzero firstReduced secondReduced (add_right_cancel same)

/-- Responses to two challenges for one commitment give the secret. -/
theorem secret_extracted {secret first second firstChallenge secondChallenge : Int}
    (same : schnorrSum g (secret • g) first firstChallenge = schnorrSum g (secret • g) second secondChallenge)
    (apart : (firstChallenge : ZMod order) ≠ secondChallenge) :
    (secret : ZMod order) = (first - second) * ((secondChallenge : ZMod order) - firstChallenge)⁻¹ := by
  have field : Fact order.Prime := ⟨prime⟩
  have distance : (secondChallenge : ZMod order) - firstChallenge ≠ 0 := sub_ne_zero.mpr apart.symm
  have scalars : (first + firstChallenge * secret) • g = (second + secondChallenge * secret) • g := by
    rw [add_zsmul, add_zsmul, mul_zsmul, mul_zsmul]
    exact same
  rw [zsmul_inj_iff size prime nonzero] at scalars
  push_cast at scalars
  rw [eq_mul_inv_iff_mul_eq₀ distance]
  linear_combination -scalars

end Extraction

end Pxtly.Foundation
