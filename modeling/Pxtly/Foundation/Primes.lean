/-
This file gives a test that proves large primes from the prime factors of their predecessors.
-/

import Mathlib.Data.Nat.Prime.Basic
import Mathlib.FieldTheory.Finite.Basic

namespace Pxtly.Foundation

/-- The exponent has no more bits than the second argument. -/
def powMod (modulus base : Nat) : Nat → Nat → Nat
  | 0, _ => 1 % modulus
  | bits + 1, exponent =>
      let even := powMod modulus base bits (exponent / 2) ^ 2 % modulus
      if exponent % 2 = 0 then even else even * base % modulus

theorem powMod_eq (modulus base : Nat) {bits exponent : Nat} (small : exponent < 2 ^ bits) :
    powMod modulus base bits exponent = base ^ exponent % modulus := by
  induction bits generalizing exponent with
  | zero =>
      obtain rfl : exponent = 0 := by omega
      rfl
  | succ bits inductionHypothesis =>
      have half : exponent / 2 < 2 ^ bits := by omega
      rw [powMod, inductionHypothesis half]
      by_cases even : exponent % 2 = 0
      · have whole : exponent / 2 * 2 = exponent := by omega
        rw [if_pos even, ← Nat.pow_mod, ← pow_mul, whole]
      · have whole : exponent / 2 * 2 + 1 = exponent := by omega
        rw [if_neg even, ← Nat.pow_mod, ← pow_mul, Nat.mod_mul_mod, ← pow_succ, whole]

/-- The base has the order of every listed factor in the residues of each prime divisor of the candidate, and the square
of a prime divisor exceeds the candidate. -/
def Pocklington (candidate base bits : Nat) (factors : List Nat) : Prop :=
  1 < candidate ∧ candidate < 2 ^ bits ∧ factors.Nodup ∧ candidate < (factors.prod + 1) ^ 2 ∧
    powMod candidate base bits (candidate - 1) = 1 ∧
    ∀ q ∈ factors, q ∣ candidate - 1 ∧
      (powMod candidate base bits ((candidate - 1) / q) + (candidate - 1)).gcd candidate = 1

instance (candidate base bits : Nat) (factors : List Nat) : Decidable (Pocklington candidate base bits factors) :=
  inferInstanceAs (Decidable (_ ∧ _))

section Divisors

variable {candidate base p q : Nat}

/-- A residue of a candidate keeps its value for a divisor of the candidate. -/
theorem cast_mod_of_dvd (divides : p ∣ candidate) (value : Nat) : ((value % candidate : Nat) : ZMod p) = value := by
  rw [ZMod.natCast_eq_natCast_iff']
  exact Nat.mod_mod_of_dvd value divides

/-- A factor of the order of the base divides the predecessor of every prime divisor. -/
theorem dvd_pred_of_order (prime : p.Prime) (divides : p ∣ candidate) (positive : 0 < candidate) (factor : q.Prime)
    (whole : q ∣ candidate - 1) (power : base ^ (candidate - 1) % candidate = 1)
    (apart : (base ^ ((candidate - 1) / q) % candidate + (candidate - 1)).gcd candidate = 1) : q ∣ p - 1 := by
  have : Fact p.Prime := ⟨prime⟩
  let residue : ZMod p := (base : ZMod p) ^ ((candidate - 1) / q)
  have full : residue ^ q = 1 := by
    calc residue ^ q = (base : ZMod p) ^ (candidate - 1) := by rw [← pow_mul, Nat.div_mul_cancel whole]
      _ = ((base ^ (candidate - 1) % candidate : Nat) : ZMod p) := by rw [cast_mod_of_dvd divides, Nat.cast_pow]
      _ = 1 := by rw [power, Nat.cast_one]
  have proper : residue ≠ 1 := by
    intro trivial
    have vanishes : ((base ^ ((candidate - 1) / q) % candidate + (candidate - 1) : Nat) : ZMod p) = 0 := by
      have last : ((candidate : Nat) : ZMod p) = 0 := (ZMod.natCast_eq_zero_iff _ _).mpr divides
      rw [Nat.cast_add, cast_mod_of_dvd divides, Nat.cast_pow, Nat.cast_sub positive, last, Nat.cast_one]
      change residue + (0 - 1) = 0
      rw [trivial]
      ring
    have common := Nat.dvd_gcd ((ZMod.natCast_eq_zero_iff _ _).mp vanishes) divides
    rw [apart] at common
    exact prime.one_lt.ne' (Nat.dvd_one.mp common)
  have : Fact q.Prime := ⟨factor⟩
  have nonzero : residue ≠ 0 := by
    intro zero
    rw [zero, zero_pow factor.ne_zero] at full
    exact zero_ne_one full
  rw [← orderOf_eq_prime full proper]
  exact ZMod.orderOf_dvd_card_sub_one nonzero

end Divisors

/-- A candidate that passes the test of Pocklington is a prime. -/
theorem prime_of_pocklington {candidate : Nat} (base bits : Nat) (factors : List Nat)
    (primes : factors.Forall Nat.Prime) (test : Pocklington candidate base bits factors) : candidate.Prime := by
  obtain ⟨least, fits, distinct, large, power, orders⟩ := test
  rw [List.forall_iff_forall_mem] at primes
  by_contra composite
  have prime : candidate.minFac.Prime := Nat.minFac_prime least.ne'
  have divides := Nat.minFac_dvd candidate
  have each : ∀ q ∈ factors, q ∣ candidate.minFac - 1 := by
    intro q member
    obtain ⟨whole, apart⟩ := orders q member
    have smaller : (candidate - 1) / q < 2 ^ bits := by
      have bound := Nat.div_le_self (candidate - 1) q
      omega
    rw [powMod_eq _ _ smaller] at apart
    rw [powMod_eq _ _ (by omega)] at power
    exact dvd_pred_of_order prime divides (by omega) (primes q member) whole power apart
  have product : factors.prod ∣ candidate.minFac - 1 := by
    rw [← List.map_id factors, ← List.prod_toFinset _ distinct]
    apply Finset.prod_primes_dvd
    · exact fun q member => (primes q (List.mem_toFinset.mp member)).prime
    · exact fun q member => each q (List.mem_toFinset.mp member)
  have above : factors.prod + 1 ≤ candidate.minFac := by
    have bound := Nat.le_of_dvd (Nat.sub_pos_of_lt prime.one_lt) product
    have positive := prime.one_lt
    omega
  have below : candidate.minFac ^ 2 ≤ candidate := Nat.minFac_sq_le_self (by omega) composite
  have square := Nat.pow_le_pow_left above 2
  omega

end Pxtly.Foundation
