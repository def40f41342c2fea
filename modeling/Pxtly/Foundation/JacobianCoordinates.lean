/-
This file gives the points of a curve `y² = x³ + b` and their sums in Jacobian coordinates.
-/

import Mathlib.AlgebraicGeometry.EllipticCurve.Affine.Point
import Mathlib.Tactic.FieldSimp

namespace Pxtly.Foundation

/-- The curve has the equation `y² = x³ + b`. -/
def cubicCurve {K : Type} [Field K] (b : K) : WeierstrassCurve K := ⟨0, 0, 0, 0, b⟩

abbrev CubicPoint {K : Type} [Field K] (b : K) := (cubicCurve b).toAffine.Point

/-- The point has the coordinates `x / z²` and `y / z³`, and it is at infinity where `y` is zero. -/
@[ext] structure Triple (K : Type) where
  x : K
  y : K
  z : K

namespace Triple

variable {K : Type} [Field K] [DecidableEq K]

def double (triple : Triple K) : Triple K :=
  if triple.y = 0 then ⟨0, 0, 0⟩
  else
    let s := 4 * triple.x * triple.y ^ 2
    let m := 3 * triple.x ^ 2
    let x := m ^ 2 - 2 * s
    ⟨x, m * (s - x) - 8 * triple.y ^ 4, 2 * triple.y * triple.z⟩

def add (first second : Triple K) : Triple K :=
  if first.y = 0 then second
  else if second.y = 0 then first
  else
    let u1 := first.x * second.z ^ 2
    let u2 := second.x * first.z ^ 2
    let s1 := first.y * second.z ^ 3
    let s2 := second.y * first.z ^ 3
    if u1 = u2 then if s1 = s2 then first.double else ⟨0, 0, 1⟩
    else
      let h := u2 - u1
      let r := s2 - s1
      let x := r ^ 2 - h ^ 3 - 2 * u1 * h ^ 2
      ⟨x, r * (u1 * h ^ 2 - x) - s1 * h ^ 3, h * first.z * second.z⟩

/-- The scalar has no more bits than the first argument. -/
def multiply (triple : Triple K) : Nat → Nat → Triple K
  | 0, _ => ⟨0, 0, 1⟩
  | bits + 1, scalar =>
      if triple.y = 0 ∨ scalar = 0 then ⟨0, 0, 1⟩
      else
        let even := (triple.multiply bits (scalar / 2)).double
        if scalar % 2 = 0 then even else even.add triple

variable {b : K}

/-- A triple stands for a point of the curve. -/
inductive Represents (triple : Triple K) : CubicPoint b → Prop where
  | infinity (x : triple.x = 0) (y : triple.y = 0) : Represents triple .zero
  | affine {u v : K} (point : (cubicCurve b).toAffine.Nonsingular u v) (z : triple.z ≠ 0)
      (x : triple.x = u * triple.z ^ 2) (y : triple.y = v * triple.z ^ 3) : Represents triple (.some u v point)

/-- No point of the curve is its own opposite. -/
structure Odd (b : K) : Prop where
  two : (2 : K) ≠ 0
  root : ∀ u : K, u ^ 3 + b ≠ 0

omit [DecidableEq K] in
theorem negY_cubicCurve (u v : K) : (cubicCurve b).toAffine.negY u v = -v := by
  rw [WeierstrassCurve.Affine.negY, cubicCurve]
  ring

section Sums

variable {u v u' v' : K} {point : (cubicCurve b).toAffine.Nonsingular u v}
  {point' : (cubicCurve b).toAffine.Nonsingular u' v'} {first second : Triple K}

omit [DecidableEq K] in
theorem equation (point : (cubicCurve b).toAffine.Nonsingular u v) : v ^ 2 = u ^ 3 + b := by
  have equation := ((cubicCurve b).toAffine.equation_iff u v).mp point.1
  simpa [cubicCurve] using equation

omit [DecidableEq K] in
theorem ordinate_ne_zero (odd : Odd b) (solved : v ^ 2 = u ^ 3 + b) : v ≠ 0 := by
  rintro rfl
  rw [zero_pow two_ne_zero] at solved
  exact odd.root u solved.symm

omit [DecidableEq K] in
/-- Every solution of the equation is a point. -/
theorem nonsingular_of_equation (odd : Odd b) (solved : v ^ 2 = u ^ 3 + b) :
    (cubicCurve b).toAffine.Nonsingular u v := by
  have equation : (cubicCurve b).toAffine.Equation u v := by
    rw [WeierstrassCurve.Affine.equation_iff]
    simpa [cubicCurve] using solved
  refine ((cubicCurve b).toAffine.nonsingular_iff' u v).mpr ⟨equation, .inr ?_⟩
  simpa [cubicCurve] using ⟨odd.two, ordinate_ne_zero odd solved⟩

omit [DecidableEq K] in
theorem y_ne_zero (odd : Odd b) (represents : Represents first (.some u v point)) : first.y ≠ 0 := by
  obtain _ | ⟨_, nonzero, _, y⟩ := represents
  rw [y]
  exact mul_ne_zero (ordinate_ne_zero odd (equation point)) (pow_ne_zero 3 nonzero)

/-- The tangent gives the double of a point. -/
theorem represents_tangent (odd : Odd b) (represents : Represents first (.some u v point)) :
    Represents first.double (.some u v point + .some u v point : CubicPoint b) := by
  have ordinate := y_ne_zero odd represents
  obtain _ | ⟨_, nonzero, x, y⟩ := represents
  have upright : v ≠ 0 := ordinate_ne_zero odd (equation point)
  have twice : v + v ≠ 0 := by
    rw [← two_mul]
    exact mul_ne_zero odd.two upright
  have proper : v ≠ (cubicCurve b).toAffine.negY u v := by
    rw [negY_cubicCurve]
    exact fun same => twice (eq_neg_iff_add_eq_zero.mp same)
  have slope : (cubicCurve b).toAffine.slope u u v v = 3 * u ^ 2 / (2 * v) := by
    rw [WeierstrassCurve.Affine.slope_of_Y_ne rfl proper, negY_cubicCurve, cubicCurve]
    ring
  rw [WeierstrassCurve.Affine.Point.add_self_of_Y_ne proper, Triple.double, if_neg ordinate]
  have two := odd.two
  apply Represents.affine
  all_goals simp only [WeierstrassCurve.Affine.addX, WeierstrassCurve.Affine.addY, WeierstrassCurve.Affine.negAddY,
    negY_cubicCurve, slope, x, y]
  · exact mul_ne_zero (mul_ne_zero two (mul_ne_zero upright (pow_ne_zero 3 nonzero))) nonzero
  · simp only [cubicCurve]
    field_simp
    ring
  · simp only [cubicCurve]
    field_simp
    ring

/-- The sum of two points on one vertical line is at infinity. -/
theorem represents_opposite (abscissas : u = u') (opposite : v = -v') :
    Represents ⟨0, 0, 1⟩ (.some u v point + .some u' v' point' : CubicPoint b) := by
  have flipped : v = (cubicCurve b).toAffine.negY u' v' := by rwa [negY_cubicCurve]
  rw [WeierstrassCurve.Affine.Point.add_of_Y_eq abscissas flipped]
  exact .infinity rfl rfl

/-- The chord gives the sum of two points that are on different vertical lines. -/
theorem represents_chord (apart : u ≠ u') (firstNonzero : first.z ≠ 0) (secondNonzero : second.z ≠ 0) {h r x : K}
    (run : h = u' * second.z ^ 2 * first.z ^ 2 - u * first.z ^ 2 * second.z ^ 2)
    (rise : r = v' * second.z ^ 3 * first.z ^ 3 - v * first.z ^ 3 * second.z ^ 3)
    (abscissa : x = r ^ 2 - h ^ 3 - 2 * (u * first.z ^ 2 * second.z ^ 2) * h ^ 2) :
    Represents ⟨x, r * (u * first.z ^ 2 * second.z ^ 2 * h ^ 2 - x) - v * first.z ^ 3 * second.z ^ 3 * h ^ 3,
      h * first.z * second.z⟩ (.some u v point + .some u' v' point' : CubicPoint b) := by
  have distance : u - u' ≠ 0 := sub_ne_zero.mpr apart
  have width : h = -(u - u') * first.z ^ 2 * second.z ^ 2 := by
    rw [run]
    ring
  have height : r = -(v - v') * first.z ^ 3 * second.z ^ 3 := by
    rw [rise]
    ring
  rw [WeierstrassCurve.Affine.Point.add_of_X_ne apart]
  apply Represents.affine
  all_goals simp only [WeierstrassCurve.Affine.addX, WeierstrassCurve.Affine.addY, WeierstrassCurve.Affine.negAddY,
    negY_cubicCurve, WeierstrassCurve.Affine.slope_of_X_ne apart, abscissa, width, height]
  · simp only [ne_eq, mul_eq_zero, neg_eq_zero, pow_eq_zero_iff two_ne_zero, distance, firstNonzero, secondNonzero,
      or_self, not_false_eq_true]
  · simp only [cubicCurve]
    field_simp
    ring
  · simp only [cubicCurve]
    field_simp
    ring

end Sums

section Group

variable {first second triple : Triple K} {p q : CubicPoint b}

theorem represents_double (odd : Odd b) (represents : first.Represents p) : first.double.Represents (p + p) := by
  cases p with
  | zero =>
      obtain ⟨_, y⟩ := represents
      rw [Triple.double, if_pos y]
      exact .infinity rfl rfl
  | some u v point => exact represents_tangent odd represents

theorem represents_add (odd : Odd b) (firstRepresents : first.Represents p) (secondRepresents : second.Represents q) :
    (first.add second).Represents (p + q) := by
  rw [Triple.add]
  cases p with
  | zero =>
      obtain ⟨_, y⟩ := firstRepresents
      have sum : .zero + q = q := zero_add q
      rw [if_pos y, sum]
      exact secondRepresents
  | some u v point =>
      rw [if_neg (y_ne_zero odd firstRepresents)]
      cases q with
      | zero =>
          obtain ⟨_, y⟩ := secondRepresents
          rw [if_pos y]
          exact firstRepresents
      | some u' v' point' =>
          rw [if_neg (y_ne_zero odd secondRepresents)]
          obtain _ | ⟨_, nonzero, x, y⟩ := id firstRepresents
          obtain _ | ⟨_, nonzero', x', y'⟩ := secondRepresents
          have lines : first.x * second.z ^ 2 = second.x * first.z ^ 2 ↔ u = u' := by
            rw [x, x', mul_assoc, mul_assoc, mul_comm (first.z ^ 2)]
            exact mul_left_inj' (mul_ne_zero (pow_ne_zero 2 nonzero') (pow_ne_zero 2 nonzero))
          have heights : first.y * second.z ^ 3 = second.y * first.z ^ 3 ↔ v = v' := by
            rw [y, y', mul_assoc, mul_assoc, mul_comm (first.z ^ 3)]
            exact mul_left_inj' (mul_ne_zero (pow_ne_zero 3 nonzero') (pow_ne_zero 3 nonzero))
          simp only [lines, heights]
          by_cases abscissas : u = u'
          · rw [if_pos abscissas]
            by_cases ordinates : v = v'
            · subst abscissas ordinates
              rw [if_pos rfl]
              exact represents_tangent odd firstRepresents
            · have opposite : v = -v' := by
                have squares : v ^ 2 = v' ^ 2 := by rw [equation point, equation point', abscissas]
                exact (sq_eq_sq_iff_eq_or_eq_neg.mp squares).resolve_left ordinates
              rw [if_neg ordinates]
              exact represents_opposite abscissas opposite
          · rw [if_neg abscissas, x, x', y, y']
            exact represents_chord abscissas nonzero nonzero' rfl rfl rfl

theorem represents_multiply (odd : Odd b) (represents : triple.Represents p) {bits scalar : Nat}
    (small : scalar < 2 ^ bits) : (triple.multiply bits scalar).Represents (scalar • p) := by
  induction bits generalizing scalar with
  | zero =>
      obtain rfl : scalar = 0 := by omega
      rw [zero_nsmul]
      exact .infinity rfl rfl
  | succ bits inductionHypothesis =>
      rw [Triple.multiply]
      by_cases nothing : triple.y = 0 ∨ scalar = 0
      · have infinity : scalar • p = 0 := by
          rcases nothing with vanishes | rfl
          · cases p with
            | zero => exact nsmul_zero scalar
            | some u v point => exact absurd vanishes (y_ne_zero odd represents)
          · exact zero_nsmul p
        rw [if_pos nothing, infinity]
        exact .infinity rfl rfl
      · have half : scalar / 2 < 2 ^ bits := by omega
        have even := represents_double odd (inductionHypothesis half)
        rw [if_neg nothing]
        by_cases whole : scalar % 2 = 0
        · have twice : scalar • p = (scalar / 2) • p + (scalar / 2) • p := by
            rw [← add_nsmul]
            congr 1
            omega
          rw [if_pos whole, twice]
          exact even
        · have twice : scalar • p = (scalar / 2) • p + (scalar / 2) • p + p := by
            rw [← add_nsmul, ← succ_nsmul]
            congr 1
            omega
          rw [if_neg whole, twice]
          exact represents_add odd even represents

omit [DecidableEq K] in
/-- A represented point is at infinity only where the middle coordinate is zero. -/
theorem Represents.y_eq_zero_iff (odd : Odd b) (represents : triple.Represents p) : triple.y = 0 ↔ p = 0 := by
  cases p with
  | zero =>
      obtain ⟨_, y⟩ := represents
      exact iff_of_true y rfl
  | some u v point =>
      exact iff_of_false (y_ne_zero odd represents) (WeierstrassCurve.Affine.Point.some_ne_zero point)

end Group

end Triple

end Pxtly.Foundation
