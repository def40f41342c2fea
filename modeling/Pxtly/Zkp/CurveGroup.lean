/-
This file gives the group of secp256k1 and shows that the curve operations compute it.
-/

import Mathlib.Tactic.LinearCombination
import Mathlib.Tactic.NormNum.Prime
import Pxtly.Foundation.JacobianCoordinates
import Pxtly.Foundation.Primes
import Pxtly.Zkp.Crypto

namespace Pxtly.Zkp

open Foundation
open Secp256k1

/-- The operations compute a group of the prime order `N` on coordinates, where infinity has the coordinates zero. -/
structure Curve.Implements (curve : Curve) {E : Type} [AddCommGroup E] (coordinates : E → Point) : Prop where
  order : Nat.card E = N.toNat
  injective : Function.Injective coordinates
  infinity : coordinates 0 = (0, 0)
  onCurve : ∀ a, a ≠ 0 → isOnCurve (coordinates a) = true
  generator : ∃ g, coordinates g = G
  multiply : ∀ a n, curve.multiply (coordinates a) n = coordinates (n • a)
  add : ∀ a b, curve.add (coordinates a) (coordinates b) = coordinates (a + b)

section Primes

/-- Each prime has large factors of its predecessor among the primes before it. -/
theorem prime_P : P.toNat.Prime := by
  have first : Nat.Prime 1206781 := prime_of_pocklington 2 24 [20113] (by norm_num) (by decide +kernel)
  have second : Nat.Prime 7240687 := prime_of_pocklington 2 24 [1206781] first (by decide +kernel)
  have third : Nat.Prime 107590001 := prime_of_pocklington 2 32 [53, 29, 7] (by norm_num) (by decide +kernel)
  have fourth : Nat.Prime 255515944373312847190720520512484175977 :=
    prime_of_pocklington 2 128 [107590001, 7240687, 96557] ⟨third, second, by norm_num⟩ (by decide +kernel)
  have fifth : Nat.Prime 205115282021455665897114700593932402728804164701536103180137503955397371 :=
    prime_of_pocklington 2 240 [255515944373312847190720520512484175977] fourth (by decide +kernel)
  exact prime_of_pocklington 2 256 [205115282021455665897114700593932402728804164701536103180137503955397371] fifth
    (by decide +kernel)

theorem prime_N : N.toNat.Prime := by
  have first : Nat.Prime 1627771 := prime_of_pocklington 2 24 [1871] (by norm_num) (by decide +kernel)
  have second : Nat.Prime 297159362677 := prime_of_pocklington 2 40 [1627771] first (by decide +kernel)
  have third : Nat.Prime 545358713 := prime_of_pocklington 2 32 [28181] (by norm_num) (by decide +kernel)
  have fourth : Nat.Prime 29047611873442575647497758179 :=
    prime_of_pocklington 2 96 [297159362677, 545358713] ⟨second, third⟩ (by decide +kernel)
  have fifth : Nat.Prime 341948486974166000522343609283189 :=
    prime_of_pocklington 2 112 [29047611873442575647497758179] fourth (by decide +kernel)
  have sixth : Nat.Prime 44706919 := prime_of_pocklington 2 32 [9349] (by norm_num) (by decide +kernel)
  have seventh : Nat.Prime 174723607534414371449 :=
    prime_of_pocklington 2 80 [44706919, 120233] ⟨sixth, by norm_num⟩ (by decide +kernel)
  exact prime_of_pocklington 2 256 [341948486974166000522343609283189, 174723607534414371449] ⟨fifth, seventh⟩
    (by decide +kernel)

end Primes

section Residues

/-- The coordinates are residues of the field prime. -/
abbrev Residue := ZMod P.toNat

instance : Fact P.toNat.Prime := ⟨prime_P⟩

theorem cast_mod (value : Int) : ((value % P : Int) : Residue) = value := ZMod.intCast_mod value P.toNat

theorem mod_reduced (value : Int) : 0 ≤ value % P ∧ value % P < P :=
  ⟨Int.emod_nonneg value (by decide), Int.emod_lt_of_pos value (by decide)⟩

theorem cast_inj {first second : Int} (firstReduced : 0 ≤ first ∧ first < P)
    (secondReduced : 0 ≤ second ∧ second < P) : (first : Residue) = second ↔ first = second := by
  have modulus : ((P.toNat : Nat) : Int) = P := rfl
  rw [ZMod.intCast_eq_intCast_iff, modulus, Int.ModEq, Int.emod_eq_of_lt firstReduced.1 firstReduced.2,
    Int.emod_eq_of_lt secondReduced.1 secondReduced.2]

theorem cast_eq_zero_iff {value : Int} (reduced : 0 ≤ value ∧ value < P) : (value : Residue) = 0 ↔ value = 0 := by
  rw [← cast_inj reduced ⟨le_rfl, by decide⟩, Int.cast_zero]

theorem power_eq (base : Int) {bits : Nat} {exponent : Nat} (small : exponent < 2 ^ bits) :
    ((power base bits exponent : Int) : Residue) = (base : Residue) ^ exponent := by
  induction bits generalizing exponent with
  | zero =>
      obtain rfl : exponent = 0 := by omega
      rw [power, Int.cast_one, pow_zero]
  | succ bits inductionHypothesis =>
      have half : exponent / 2 < 2 ^ bits := by omega
      have quotient : (exponent : Int) / 2 = ((exponent / 2 : Nat) : Int) := by omega
      rw [power, quotient]
      by_cases even : exponent % 2 = 0
      · have whole : exponent / 2 * 2 = exponent := by omega
        have divisible : (exponent : Int) % 2 = 0 := by omega
        rw [if_pos divisible, cast_mod, Int.cast_pow, inductionHypothesis half, ← pow_mul, whole]
      · have whole : exponent / 2 * 2 + 1 = exponent := by omega
        have indivisible : ¬ (exponent : Int) % 2 = 0 := by omega
        rw [if_neg indivisible, cast_mod, Int.cast_mul, cast_mod, Int.cast_pow, inductionHypothesis half, ← pow_mul,
          ← pow_succ, whole]

/-- The power with the exponent `P - 2` is the inverse, and zero has the inverse zero. -/
theorem power_inverse (value : Int) : ((power value 256 (P - 2) : Int) : Residue) = (value : Residue)⁻¹ := by
  have exponent : P - 2 = ((P.toNat - 2 : Nat) : Int) := rfl
  rw [exponent, power_eq value (by decide)]
  by_cases zero : (value : Residue) = 0
  · rw [zero, inv_zero, zero_pow (by decide)]
  · have fermat := ZMod.pow_card_sub_one_eq_one zero
    have split : P.toNat - 1 = P.toNat - 2 + 1 := rfl
    rw [split, pow_succ] at fermat
    exact eq_inv_of_mul_eq_one_left fermat

/-- The opposite of seven is no cube, so no point is its own opposite. -/
theorem odd_seven : Triple.Odd (7 : Residue) := by
  constructor
  · have two : ((2 : Int) : Residue) ≠ 0 := by
      rw [Ne, cast_eq_zero_iff ⟨by decide, by decide⟩]
      decide
    exact_mod_cast two
  · intro u root
    have cube : u ^ 3 = -7 := eq_neg_of_add_eq_zero_left root
    have nonzero : u ≠ 0 := by
      rintro rfl
      have seven : ((7 : Int) : Residue) ≠ 0 := by
        rw [Ne, cast_eq_zero_iff ⟨by decide, by decide⟩]
        decide
      rw [zero_pow three_ne_zero] at cube
      exact seven (by exact_mod_cast (neg_eq_zero.mp cube.symm))
    have third : P.toNat - 1 = 3 * ((P.toNat - 1) / 3) := by decide +kernel
    have fermat := ZMod.pow_card_sub_one_eq_one nonzero
    have even : Even ((P.toNat - 1) / 3) := by decide +kernel
    rw [third, pow_mul, cube, even.neg_pow] at fermat
    have residue : ((7 ^ ((P.toNat - 1) / 3) % P.toNat : Nat) : Residue) = ((1 : Nat) : Residue) := by
      rw [cast_mod_of_dvd dvd_rfl, Nat.cast_pow, Nat.cast_one]
      exact fermat
    rw [ZMod.natCast_eq_natCast_iff', Nat.mod_mod, ← powMod_eq P.toNat 7 (by decide : _ < 2 ^ 256)] at residue
    exact absurd residue (by decide +kernel)

end Residues

section Coordinates

def Jacobian.triple (jacobian : Jacobian) : Triple Residue := ⟨jacobian.x, jacobian.y, jacobian.z⟩

/-- The coordinate that tells infinity is a residue itself. -/
def Jacobian.Reduced (jacobian : Jacobian) : Prop := 0 ≤ jacobian.y ∧ jacobian.y < P

theorem Jacobian.infinity_reduced {z : Int} : Jacobian.Reduced ⟨0, 0, z⟩ := ⟨le_refl 0, show (0 : Int) < P by decide⟩

theorem Jacobian.y_eq_zero_iff {jacobian : Jacobian} (reduced : jacobian.Reduced) :
    jacobian.triple.y = 0 ↔ jacobian.y = 0 := cast_eq_zero_iff reduced

theorem Jacobian.double_reduced (jacobian : Jacobian) : jacobian.double.Reduced := by
  rw [Jacobian.double]
  split
  · exact infinity_reduced
  · exact mod_reduced _

theorem Jacobian.add_reduced {first second : Jacobian} (firstReduced : first.Reduced)
    (secondReduced : second.Reduced) : (first.add second).Reduced := by
  simp only [Jacobian.add]
  split
  · exact secondReduced
  · split
    · exact firstReduced
    · split
      · split
        · exact first.double_reduced
        · exact infinity_reduced
      · exact mod_reduced _

theorem Jacobian.triple_double {jacobian : Jacobian} (reduced : jacobian.Reduced) :
    jacobian.double.triple = jacobian.triple.double := by
  rw [Jacobian.double, Triple.double]
  by_cases infinity : jacobian.y = 0
  · rw [if_pos infinity, if_pos ((y_eq_zero_iff reduced).mpr infinity)]
    simp [triple]
  · rw [if_neg infinity, if_neg (mt (y_eq_zero_iff reduced).mp infinity)]
    simp only [triple, cast_mod, Int.cast_sub, Int.cast_mul, Int.cast_pow, Int.cast_ofNat]
    ext
    · rfl
    · ring
    · rfl

theorem Jacobian.triple_add {first second : Jacobian} (firstReduced : first.Reduced)
    (secondReduced : second.Reduced) : (first.add second).triple = first.triple.add second.triple := by
  rw [Jacobian.add, Triple.add]
  by_cases firstInfinity : first.y = 0
  · rw [if_pos firstInfinity, if_pos ((y_eq_zero_iff firstReduced).mpr firstInfinity)]
  · rw [if_neg firstInfinity, if_neg (mt (y_eq_zero_iff firstReduced).mp firstInfinity)]
    by_cases secondInfinity : second.y = 0
    · rw [if_pos secondInfinity, if_pos ((y_eq_zero_iff secondReduced).mpr secondInfinity)]
    · rw [if_neg secondInfinity, if_neg (mt (y_eq_zero_iff secondReduced).mp secondInfinity)]
      have lines : first.x * second.z ^ 2 % P = second.x * first.z ^ 2 % P ↔
          first.triple.x * second.triple.z ^ 2 = second.triple.x * first.triple.z ^ 2 := by
        rw [← cast_inj (mod_reduced _) (mod_reduced _)]
        simp only [triple, cast_mod, Int.cast_mul, Int.cast_pow]
      have heights : first.y * second.z ^ 3 % P = second.y * first.z ^ 3 % P ↔
          first.triple.y * second.triple.z ^ 3 = second.triple.y * first.triple.z ^ 3 := by
        rw [← cast_inj (mod_reduced _) (mod_reduced _)]
        simp only [triple, cast_mod, Int.cast_mul, Int.cast_pow]
      simp only [lines, heights]
      split
      · split
        · exact triple_double firstReduced
        · simp [triple]
      · simp only [triple, cast_mod, Int.cast_sub, Int.cast_mul, Int.cast_pow, Int.cast_ofNat]

theorem Jacobian.multiply_reduced {jacobian : Jacobian} (reduced : jacobian.Reduced) (bits : Nat) (scalar : Int) :
    (jacobian.multiply bits scalar).Reduced := by
  induction bits generalizing scalar with
  | zero => exact infinity_reduced
  | succ bits inductionHypothesis =>
      simp only [Jacobian.multiply]
      split
      · exact infinity_reduced
      · split
        · exact Jacobian.double_reduced _
        · exact Jacobian.add_reduced (Jacobian.double_reduced _) reduced

theorem Jacobian.triple_multiply {jacobian : Jacobian} (reduced : jacobian.Reduced) (bits scalar : Nat) :
    (jacobian.multiply bits scalar).triple = jacobian.triple.multiply bits scalar := by
  induction bits generalizing scalar with
  | zero => simp [Jacobian.multiply, Triple.multiply, triple]
  | succ bits inductionHypothesis =>
      have quotient : (scalar : Int) / 2 = ((scalar / 2 : Nat) : Int) := by omega
      have even : (scalar : Int) % 2 = 0 ↔ scalar % 2 = 0 := by omega
      have nothing : (jacobian.y = 0 ∨ (scalar : Int) = 0) ↔ (jacobian.triple.y = 0 ∨ scalar = 0) := by
        rw [y_eq_zero_iff reduced, Int.natCast_eq_zero]
      simp only [Jacobian.multiply, Triple.multiply, nothing, even, quotient]
      split
      · simp [triple]
      · have half := multiply_reduced reduced bits ((scalar / 2 : Nat) : Int)
        split
        · rw [triple_double half, inductionHypothesis]
        · rw [triple_add (Jacobian.double_reduced _) reduced, triple_double half, inductionHypothesis]

/-- The point at infinity has the coordinates zero. -/
def coordinates : CubicPoint (7 : Residue) → Point
  | .zero => (0, 0)
  | .some u v _ => (u.val, v.val)

theorem val_reduced (residue : Residue) : 0 ≤ (residue.val : Int) ∧ (residue.val : Int) < P :=
  ⟨Int.natCast_nonneg _, Int.ofNat_lt.mpr residue.val_lt⟩

theorem cast_val (residue : Residue) : ((residue.val : Int) : Residue) = residue := by
  rw [Int.cast_natCast, ZMod.natCast_zmod_val]

/-- The coordinates zero are on no point of the curve. -/
theorem coordinates_ne_zero {p : CubicPoint (7 : Residue)} (finite : p ≠ 0) : coordinates p ≠ (0, 0) := by
  cases p with
  | zero => exact absurd rfl finite
  | some u v point =>
      intro same
      have ordinate : v.val = 0 := Int.natCast_eq_zero.mp (Prod.mk.inj same).2
      exact Triple.ordinate_ne_zero odd_seven (Triple.equation point) ((ZMod.val_eq_zero v).mp ordinate)

theorem coordinates_injective : Function.Injective coordinates := by
  intro p q same
  cases p with
  | zero =>
      by_contra finite
      exact coordinates_ne_zero (Ne.symm finite) same.symm
  | some u v point =>
      cases q with
      | zero => exact absurd same (coordinates_ne_zero (WeierstrassCurve.Affine.Point.some_ne_zero point))
      | some u' v' point' =>
          obtain ⟨abscissas, ordinates⟩ := Prod.mk.inj same
          obtain rfl := ZMod.val_injective P.toNat (Int.ofNat_inj.mp abscissas)
          obtain rfl := ZMod.val_injective P.toNat (Int.ofNat_inj.mp ordinates)
          rfl

theorem isOnCurve_coordinates {p : CubicPoint (7 : Residue)} (finite : p ≠ 0) : isOnCurve (coordinates p) = true := by
  cases p with
  | zero => exact absurd rfl finite
  | some u v point =>
      have equation := Triple.equation point
      have solved : ((v.val * v.val - u.val * u.val * u.val - 7 : Int) % P) = 0 := by
        rw [← cast_eq_zero_iff (mod_reduced _), cast_mod]
        simp only [Int.cast_sub, Int.cast_mul, cast_val, Int.cast_ofNat]
        linear_combination equation
      simp only [isOnCurve, coordinates, val_reduced, solved, decide_true, Bool.and_self, beq_self_eq_true]

theorem Jacobian.affine_eq {jacobian : Jacobian} {p : CubicPoint (7 : Residue)}
    (represents : jacobian.triple.Represents p) : jacobian.affine = coordinates p := by
  cases p with
  | zero =>
      obtain ⟨x, y⟩ := represents
      simp only [triple] at x y
      apply Prod.ext
      · rw [Jacobian.affine, coordinates, ← cast_inj (mod_reduced _) ⟨le_rfl, by decide⟩, cast_mod, Int.cast_mul, x,
          zero_mul, Int.cast_zero]
      · rw [Jacobian.affine, coordinates, ← cast_inj (mod_reduced _) ⟨le_rfl, by decide⟩, cast_mod, Int.cast_mul, y,
          zero_mul, Int.cast_zero]
  | some u v point =>
      obtain _ | ⟨_, nonzero, x, y⟩ := represents
      simp only [triple] at nonzero x y
      apply Prod.ext
      · rw [Jacobian.affine, coordinates, ← cast_inj (mod_reduced _) (val_reduced u), cast_val, cast_mod, Int.cast_mul,
          Int.cast_pow, power_inverse, x]
        field_simp
      · rw [Jacobian.affine, coordinates, ← cast_inj (mod_reduced _) (val_reduced v), cast_val, cast_mod, Int.cast_mul,
          Int.cast_pow, power_inverse, y]
        field_simp

/-- The coordinates of a point are turned into its Jacobian coordinates. -/
def jacobianOf (point : Point) : Jacobian := ⟨point.1, point.2, 1⟩

theorem jacobianOf_reduced (p : CubicPoint (7 : Residue)) : (jacobianOf (coordinates p)).Reduced := by
  cases p with
  | zero => exact Jacobian.infinity_reduced
  | some u v point => exact val_reduced v

theorem jacobianOf_represents (p : CubicPoint (7 : Residue)) : (jacobianOf (coordinates p)).triple.Represents p := by
  cases p with
  | zero => exact .infinity Int.cast_zero Int.cast_zero
  | some u v point =>
      apply Triple.Represents.affine
      · simp [jacobianOf, Jacobian.triple]
      · simp [jacobianOf, Jacobian.triple, coordinates]
      · simp [jacobianOf, Jacobian.triple, coordinates]

end Coordinates

section Group

theorem add_coordinates (p q : CubicPoint (7 : Residue)) :
    secp256k1.add (coordinates p) (coordinates q) = coordinates (p + q) := by
  have represents := Triple.represents_add odd_seven (jacobianOf_represents p) (jacobianOf_represents q)
  rw [← Jacobian.triple_add (jacobianOf_reduced p) (jacobianOf_reduced q)] at represents
  exact Jacobian.affine_eq represents

theorem multiply_represents (p : CubicPoint (7 : Residue)) {scalar : Nat} (small : scalar < 2 ^ 256) :
    ((jacobianOf (coordinates p)).multiply 256 scalar).triple.Represents (scalar • p) := by
  have represents := Triple.represents_multiply odd_seven (jacobianOf_represents p) small
  rwa [← Jacobian.triple_multiply (jacobianOf_reduced p)] at represents

def generator : CubicPoint (7 : Residue) :=
  .some (G.1 : Int) (G.2 : Int) (Triple.nonsingular_of_equation odd_seven (by decide +kernel))

theorem coordinates_generator : coordinates generator = G := by
  decide +kernel

theorem order_generator : N.toNat • generator = 0 := by
  have represents := multiply_represents generator (by decide : N.toNat < 2 ^ 256)
  rw [← Triple.Represents.y_eq_zero_iff odd_seven represents, coordinates_generator,
    Jacobian.y_eq_zero_iff (Jacobian.multiply_reduced ⟨by decide, by decide⟩ _ _)]
  decide +kernel

theorem addOrderOf_generator : addOrderOf generator = N.toNat := by
  have prime : Fact N.toNat.Prime := ⟨prime_N⟩
  exact addOrderOf_eq_prime order_generator (WeierstrassCurve.Affine.Point.some_ne_zero _)

/-- A multiple of the generator is multiplied by the scalar modulo the order. -/
theorem multiply_coordinates {p : CubicPoint (7 : Residue)} (generated : p ∈ AddSubgroup.zmultiples generator)
    (scalar : Int) : secp256k1.multiply (coordinates p) scalar = coordinates (scalar • p) := by
  obtain ⟨times, rfl⟩ := generated
  have least : 0 ≤ scalar % N := Int.emod_nonneg scalar (by decide)
  have most : scalar % N < N := Int.emod_lt_of_pos scalar (by decide)
  obtain ⟨residue, same⟩ := Int.eq_ofNat_of_zero_le least
  have small : residue < 2 ^ 256 := by
    have bound : N < 2 ^ 256 := by decide
    omega
  have vanishes : N • times • generator = 0 := by
    have order : N • generator = 0 := by
      change ((N.toNat : Nat) : Int) • generator = 0
      rw [natCast_zsmul, order_generator]
    rw [smul_comm, order, smul_zero]
  have reduced : scalar • times • generator = residue • times • generator := by
    calc scalar • times • generator = (scalar % N + scalar / N * N) • times • generator := by
          rw [Int.emod_add_ediv_mul]
      _ = (scalar % N) • times • generator := by rw [add_zsmul, mul_zsmul, vanishes, zsmul_zero, add_zero]
      _ = residue • times • generator := by rw [same, natCast_zsmul]
  have represents := multiply_represents (times • generator) small
  rw [reduced, ← Jacobian.affine_eq represents, ← same]
  rfl

/-- The modelled package computes the group that the base point generates. -/
theorem secp256k1_implements :
    secp256k1.Implements fun p : AddSubgroup.zmultiples generator => coordinates p where
  order := by rw [Nat.card_zmultiples, addOrderOf_generator]
  injective := coordinates_injective.comp Subtype.val_injective
  infinity := rfl
  onCurve := by
    intro p finite
    exact isOnCurve_coordinates fun zero => finite (Subtype.ext zero)
  generator := ⟨⟨generator, AddSubgroup.mem_zmultiples generator⟩, coordinates_generator⟩
  multiply p scalar := multiply_coordinates p.2 scalar
  add p q := add_coordinates p q

end Group

end Pxtly.Zkp
