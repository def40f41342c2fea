/-
This file gives what the rounding of the float model means for rational numbers.
-/

import Mathlib.Algebra.Field.Rat
import Mathlib.Algebra.Order.Field.Basic
import Mathlib.Algebra.Order.Field.Power
import Mathlib.Algebra.Order.Ring.Rat
import Mathlib.Tactic.FieldSimp
import Mathlib.Tactic.Linarith
import Mathlib.Tactic.NormNum
import Mathlib.Tactic.Ring

namespace Pxtly.Foundation

open Float.Model UnpackedFloat

section Location

/-- The residual bits tell in which half of the unit above the mantissa a number lies. -/
structure Locates (extended : ExtendedMantissa) (value : Rat) : Prop where
  lower : (extended.mantissa : Rat) ≤ value
  upper : value < extended.mantissa + 1
  below : extended.roundBit = false → value < extended.mantissa + 1 / 2
  above : extended.roundBit = true → extended.mantissa + 1 / 2 ≤ value
  exact : extended.stickyBit = false → value = extended.mantissa + if extended.roundBit then 1 / 2 else 0

theorem locates_exact (mantissa : Nat) : Locates (.ofMantissaAndAccuracy mantissa .exact) mantissa where
  lower := le_refl _
  upper := by
    change (mantissa : Rat) < mantissa + 1
    linarith
  below _ := by
    change (mantissa : Rat) < mantissa + 1 / 2
    linarith
  above set := by cases set
  exact _ := by simp [ExtendedMantissa.ofMantissaAndAccuracy]

/-- A halved number is located after one shift to the right. -/
theorem Locates.shiftRightOne {extended : ExtendedMantissa} {value : Rat} (located : Locates extended value) :
    Locates extended.shiftRightOne (value / 2) := by
  obtain ⟨mantissa, roundBit, stickyBit⟩ := extended
  have lower : (mantissa : Rat) ≤ value := located.lower
  have upper : value < mantissa + 1 := located.upper
  have split : (mantissa : Rat) = 2 * (mantissa / 2 : Nat) + (mantissa % 2 : Nat) := by
    exact_mod_cast (Nat.div_add_mod mantissa 2).symm
  rcases Nat.mod_two_eq_zero_or_one mantissa with even | odd
  · rw [even, Nat.cast_zero] at split
    refine ⟨?_, ?_, ?_, ?_, ?_⟩ <;> simp only [ExtendedMantissa.shiftRightOne, even]
    · linarith
    · linarith
    · intro _
      linarith
    · intro set
      cases set
    · intro clear
      obtain ⟨rfl, rfl⟩ := Bool.or_eq_false_iff.mp clear
      have same : value = mantissa + 0 := located.exact rfl
      simp only [bne_self_eq_false, Bool.false_eq_true, if_false]
      linarith
  · rw [odd, Nat.cast_one] at split
    refine ⟨?_, ?_, ?_, ?_, ?_⟩ <;> simp only [ExtendedMantissa.shiftRightOne, odd]
    · linarith
    · linarith
    · intro clear
      cases clear
    · intro _
      linarith
    · intro clear
      obtain ⟨rfl, rfl⟩ := Bool.or_eq_false_iff.mp clear
      have same : value = mantissa + 0 := located.exact rfl
      have set : ((1 : Nat) != 0) = true := rfl
      simp only [set, if_true]
      linarith

theorem Locates.shiftRight {extended : ExtendedMantissa} {value : Rat} (located : Locates extended value)
    (amount : Nat) : Locates (extended >>> amount) (value / 2 ^ amount) := by
  change Locates (amount.repeat ExtendedMantissa.shiftRightOne extended) _
  induction amount with
  | zero => simpa [Nat.repeat] using located
  | succ amount inductionHypothesis =>
      have halved := inductionHypothesis.shiftRightOne
      rw [div_div, ← pow_succ] at halved
      exact halved

/-- The rounded mantissa is an integer nearest to the number. -/
theorem Locates.nearest {extended : ExtendedMantissa} {value : Rat} (located : Locates extended value) :
    |(extended.roundedMantissa : Rat) - value| ≤ 1 / 2 := by
  obtain ⟨mantissa, roundBit, stickyBit⟩ := extended
  have lower : (mantissa : Rat) ≤ value := located.lower
  have upper : value < mantissa + 1 := located.upper
  rw [abs_le]
  cases roundBit with
  | false =>
      have below : value < mantissa + 1 / 2 := located.below rfl
      have rounded : (⟨mantissa, false, stickyBit⟩ : ExtendedMantissa).roundedMantissa = mantissa := by
        cases stickyBit <;> rfl
      rw [rounded]
      constructor <;> linarith
  | true =>
      have above : (mantissa : Rat) + 1 / 2 ≤ value := located.above rfl
      cases stickyBit with
      | true =>
          change -(1 / 2) ≤ ((mantissa + 1 : Nat) : Rat) - value ∧ ((mantissa + 1 : Nat) : Rat) - value ≤ 1 / 2
          push_cast
          constructor <;> linarith
      | false =>
          have middle : value = mantissa + 1 / 2 := located.exact rfl
          change -(1 / 2) ≤ ((mantissa + mantissa % 2 : Nat) : Rat) - value ∧
            ((mantissa + mantissa % 2 : Nat) : Rat) - value ≤ 1 / 2
          rcases Nat.mod_two_eq_zero_or_one mantissa with even | odd
          · rw [even, middle]
            push_cast
            constructor <;> linarith
          · rw [odd, middle]
            push_cast
            constructor <;> linarith

/-- A fraction is located behind an integer by the comparison of its double with one. -/
theorem locates_remainder {remainder denominator : Nat} (quotient : Nat) (less : remainder < denominator) :
    Locates (.ofMantissaAndAccuracy quotient (accuracyOfFraction remainder denominator))
      ((quotient : Rat) + remainder / denominator) := by
  have above : (0 : Rat) < denominator := by exact_mod_cast Nat.zero_lt_of_lt less
  have fraction : (remainder : Rat) / denominator < 1 := (div_lt_one above).mpr (by exact_mod_cast less)
  have nonnegative : (0 : Rat) ≤ remainder / denominator := by positivity
  unfold accuracyOfFraction
  split
  next none =>
    rw [none, Nat.cast_zero, zero_div, add_zero]
    exact locates_exact quotient
  next some =>
    have positiveFraction : (0 : Rat) < remainder / denominator :=
      div_pos (by exact_mod_cast Nat.pos_of_ne_zero some) above
    have half : (remainder : Rat) / denominator < 1 / 2 ↔ 2 * remainder < denominator := by
      rw [div_lt_div_iff₀ above two_pos]
      norm_cast
      rw [Nat.mul_comm, Nat.one_mul]
    have same : (remainder : Rat) / denominator = 1 / 2 ↔ 2 * remainder = denominator := by
      rw [div_eq_div_iff above.ne' two_ne_zero]
      norm_cast
      rw [Nat.mul_comm, Nat.one_mul]
    rcases order : compare (2 * remainder) denominator with _ | _ | _
    · have small := half.mpr (Nat.compare_eq_lt.mp order)
      refine ⟨?_, ?_, ?_, ?_, ?_⟩ <;> simp only [ExtendedMantissa.ofMantissaAndAccuracy]
      · linarith
      · linarith
      · intro _
        linarith
      · intro set
        cases set
      · intro clear
        cases clear
    · have middle := same.mpr (Nat.compare_eq_eq.mp order)
      rw [middle]
      refine ⟨?_, ?_, ?_, ?_, ?_⟩ <;> simp only [ExtendedMantissa.ofMantissaAndAccuracy]
      · linarith
      · linarith
      · intro clear
        cases clear
      · intro _
        exact le_refl _
      · intro _
        rw [if_pos trivial]
    · have large : (1 : Rat) / 2 ≤ remainder / denominator := by
        rw [← not_lt, half]
        have greater := Nat.compare_eq_gt.mp order
        omega
      refine ⟨?_, ?_, ?_, ?_, ?_⟩ <;> simp only [ExtendedMantissa.ofMantissaAndAccuracy]
      · linarith
      · linarith
      · intro clear
        cases clear
      · intro _
        linarith
      · intro clear
        cases clear

/-- A quotient is located by its integer part and its remainder. -/
theorem locates_fraction {numerator denominator : Nat} (positive : 0 < denominator) :
    Locates (.ofMantissaAndAccuracy (numerator / denominator)
      (accuracyOfFraction (numerator % denominator) denominator)) ((numerator : Rat) / denominator) := by
  have split : (numerator : Rat) / denominator =
      (numerator / denominator : Nat) + (numerator % denominator : Nat) / (denominator : Rat) := by
    have above : (0 : Rat) < denominator := by exact_mod_cast positive
    have whole : (numerator : Rat) =
        denominator * (numerator / denominator : Nat) + (numerator % denominator : Nat) := by
      exact_mod_cast (Nat.div_add_mod numerator denominator).symm
    field_simp
    linarith
  rw [split]
  exact locates_remainder _ (Nat.mod_lt numerator positive)

end Location

section Formats

variable {format : Format}

def scaled (mantissa : Nat) (exponent : Int) : Rat := mantissa * 2 ^ exponent

/-- A mantissa of zero stands for zero. -/
def ofComponents (sign : Sign) (mantissa : Nat) (exponent : Int) : UnpackedFloat :=
  if nonzero : mantissa = 0 then .zero sign else .finite sign mantissa exponent (Nat.pos_of_ne_zero nonzero)

/-- These are the mantissas and exponents that a format stores, when the exponent is not too large. -/
structure Canonical (format : Format) (mantissa : Nat) (exponent : Int) : Prop where
  small : mantissa < 2 ^ format.mantissaBits
  least : format.minExponent ≤ exponent
  full : exponent = format.minExponent ∨ 2 ^ (format.mantissaBits - 1) ≤ mantissa

/-- A number is a value's nearest point on a grid that is as fine as the value's size allows. -/
structure Rounded (format : Format) (value : Rat) (mantissa : Nat) (exponent : Int) : Prop where
  canonical : Canonical format mantissa exponent
  onGrid : ∃ (units : Nat) (grid : Int), scaled mantissa exponent = scaled units grid ∧
    |scaled units grid - value| ≤ 2 ^ grid / 2 ∧
    (grid = format.minExponent ∨ scaled (2 ^ (format.mantissaBits - 1)) grid ≤ value)

theorem one_lt_mantissaBits (format : Format) : 1 < format.mantissaBits :=
  Nat.lt_add_of_pos_right format.hm

theorem scaled_zero (exponent : Int) : scaled 0 exponent = 0 := by
  rw [scaled, Nat.cast_zero, zero_mul]

theorem scaled_nonnegative (mantissa : Nat) (exponent : Int) : 0 ≤ scaled mantissa exponent := by
  unfold scaled
  positivity

theorem scaled_shift (mantissa amount : Nat) (exponent : Int) :
    scaled (mantissa * 2 ^ amount) exponent = scaled mantissa (exponent + amount) := by
  rw [scaled, scaled, zpow_add₀ two_ne_zero, zpow_natCast]
  push_cast
  ring

theorem scaled_le_scaled {low high : Nat} (exponent : Int) (le : low ≤ high) :
    scaled low exponent ≤ scaled high exponent :=
  mul_le_mul_of_nonneg_right (by exact_mod_cast le) (by positivity)

/-- A point of a grid that is nearest within half a step is nearest. -/
theorem nearest_on_grid {units : Nat} {grid : Int} {value : Rat} (near : |scaled units grid - value| ≤ 2 ^ grid / 2)
    (point : Nat) : |scaled units grid - value| ≤ |scaled point grid - value| := by
  by_cases same : units = point
  · rw [same]
  · have apart : (2 : Rat) ^ grid ≤ |scaled units grid - scaled point grid| := by
      have different : (1 : Rat) ≤ |(units : Rat) - point| := by
        have nonzero : (units : Int) - point ≠ 0 := by omega
        exact_mod_cast Int.one_le_abs nonzero
      rw [scaled, scaled, ← sub_mul, abs_mul, abs_of_pos (zpow_pos two_pos grid : (0 : Rat) < 2 ^ grid)]
      exact le_mul_of_one_le_left (zpow_pos two_pos grid).le different
    have triangle := abs_sub_le (scaled units grid) value (scaled point grid)
    rw [abs_sub_comm value] at triangle
    linarith

/-- No number of the format is nearer to the value than the number it is rounded to. -/
theorem Rounded.nearest {value : Rat} {mantissa : Nat} {exponent : Int}
    (rounded : Rounded format value mantissa exponent) {other : Nat} {place : Int}
    (small : other < 2 ^ format.mantissaBits) (least : format.minExponent ≤ place) :
    |scaled mantissa exponent - value| ≤ |scaled other place - value| := by
  obtain ⟨units, grid, same, near, bound⟩ := rounded.onGrid
  rw [same]
  by_cases coarse : grid ≤ place
  · obtain ⟨amount, rfl⟩ : ∃ amount : Nat, place = grid + amount := ⟨(place - grid).toNat, by omega⟩
    rw [← scaled_shift]
    exact nearest_on_grid near _
  · -- The value has a full mantissa on the grid, and what lies off the grid has less.
    have full := bound.resolve_left (by omega)
    have finer : scaled other place ≤ scaled (2 ^ (format.mantissaBits - 1)) grid := by
      obtain ⟨amount, rfl⟩ : ∃ amount : Nat, grid = place + amount + 1 := ⟨(grid - place).toNat - 1, by omega⟩
      have bits : format.mantissaBits - 1 + (amount + 1) = format.mantissaBits + amount := by
        unfold Format.mantissaBits
        omega
      have less : other ≤ 2 ^ (format.mantissaBits - 1) * 2 ^ (amount + 1) := by
        rw [← pow_add, bits]
        exact small.le.trans (Nat.pow_le_pow_right two_pos (Nat.le_add_right _ _))
      have shifted := scaled_shift (2 ^ (format.mantissaBits - 1)) (amount + 1) place
      rw [Nat.cast_add, Nat.cast_one, ← add_assoc] at shifted
      rw [← shifted]
      exact scaled_le_scaled place less
    calc |scaled units grid - value| ≤ |scaled (2 ^ (format.mantissaBits - 1)) grid - value| := nearest_on_grid near _
      _ = value - scaled (2 ^ (format.mantissaBits - 1)) grid := by rw [abs_sub_comm, abs_of_nonneg (by linarith)]
      _ ≤ value - scaled other place := by linarith
      _ = |scaled other place - value| := by rw [abs_sub_comm, abs_of_nonneg (by linarith)]

/-- A number of the format is rounded to itself. -/
theorem Rounded.exact {number : Nat} {place : Int} {mantissa : Nat} {exponent : Int}
    (rounded : Rounded format (scaled number place) mantissa exponent) (small : number < 2 ^ format.mantissaBits)
    (least : format.minExponent ≤ place) : scaled mantissa exponent = scaled number place := by
  have nearest := rounded.nearest small least
  rw [sub_self, abs_zero] at nearest
  exact sub_eq_zero.mp (abs_eq_zero.mp (le_antisymm nearest (abs_nonneg _)))

theorem Canonical.exponent_le {mantissa : Nat} {exponent bound : Int} (canonical : Canonical format mantissa exponent)
    (below : scaled mantissa exponent < 2 ^ bound) :
    exponent ≤ max (bound - format.mantissaBits) format.minExponent := by
  rcases canonical.full with least | filled
  · exact least.le.trans (le_max_right _ _)
  · have large := (scaled_le_scaled exponent filled).trans_lt below
    rw [scaled, Nat.cast_pow, Nat.cast_ofNat, ← zpow_natCast, ← zpow_add₀ two_ne_zero,
      zpow_lt_zpow_iff_right₀ one_lt_two, Nat.cast_sub (one_lt_mantissaBits format).le] at large
    refine le_trans ?_ (le_max_left _ _)
    omega

theorem Rounded.exponent_le {value : Rat} {mantissa : Nat} {exponent bound : Int}
    (rounded : Rounded format value mantissa exponent) (nonnegative : 0 ≤ value) (below : value < 2 ^ bound) :
    exponent ≤ max (bound + 1 - format.mantissaBits) format.minExponent := by
  have nearest := rounded.nearest (Nat.two_pow_pos format.mantissaBits) le_rfl
  rw [scaled_zero, zero_sub, abs_neg, abs_of_nonneg nonnegative] at nearest
  have twice := (abs_le.mp nearest).2
  apply rounded.canonical.exponent_le
  rw [zpow_add₀ two_ne_zero, zpow_one]
  linarith

end Formats

section Rounding

variable (format : Format)

theorem mantissa_ofMantissaAndAccuracy (mantissa : Nat) (accuracy : Accuracy) :
    (ExtendedMantissa.ofMantissaAndAccuracy mantissa accuracy).mantissa = mantissa := by
  rcases accuracy with _ | (_ | _ | _) <;> rfl

theorem mantissa_shiftRight (extended : ExtendedMantissa) (amount : Nat) :
    (extended >>> amount).mantissa = extended.mantissa / 2 ^ amount := by
  change (amount.repeat ExtendedMantissa.shiftRightOne extended).mantissa = _
  induction amount with
  | zero => simp [Nat.repeat]
  | succ amount inductionHypothesis =>
      rw [pow_succ, ← Nat.div_div_eq_div_mul, ← inductionHypothesis]
      rfl

theorem roundedMantissa_bounds (extended : ExtendedMantissa) :
    extended.mantissa ≤ extended.roundedMantissa ∧ extended.roundedMantissa ≤ extended.mantissa + 1 := by
  obtain ⟨mantissa, roundBit, stickyBit⟩ := extended
  cases roundBit <;> cases stickyBit <;>
    simp only [ExtendedMantissa.roundedMantissa, ExtendedMantissa.accuracy, Accuracy.roundToNearestEven] <;> omega

/-- The shift to the target exponent leaves as many bits as the mantissa holds. -/
theorem shifted_bounds {mantissa : Nat} {exponent : Int}
    (fine : exponent ≤ format.targetExponent (totalExponent mantissa exponent)) :
    mantissa / 2 ^ (format.targetExponent (totalExponent mantissa exponent) - exponent).toNat <
      2 ^ format.mantissaBits ∧
    (format.targetExponent (totalExponent mantissa exponent) = format.minExponent ∨
      2 ^ (format.mantissaBits - 1) ≤
        mantissa / 2 ^ (format.targetExponent (totalExponent mantissa exponent) - exponent).toNat) := by
  have bits := one_lt_mantissaBits format
  unfold Format.targetExponent totalExponent at fine ⊢
  constructor
  · apply Nat.div_lt_of_lt_mul
    rw [← pow_add]
    exact Nat.lt_log2_self.trans_le (Nat.pow_le_pow_right two_pos (by omega))
  · refine or_iff_not_imp_left.mpr fun above => ?_
    have nonzero : mantissa ≠ 0 := by
      rintro rfl
      rw [Nat.log2_zero] at fine above
      omega
    rw [Nat.le_div_iff_mul_le (Nat.two_pow_pos _), ← pow_add]
    exact (Nat.pow_le_pow_right two_pos (by omega)).trans (Nat.log2_self_le nonzero)

/-- A rounded mantissa is shifted once more when it fills one bit too many. -/
theorem shiftToTargetExponent_rounded {units : Nat} {grid : Int} (within : units ≤ 2 ^ format.mantissaBits)
    (least : format.minExponent ≤ grid) :
    (units < 2 ^ format.mantissaBits ∧
      shiftToTargetExponent format units grid .exact = (.ofMantissaAndAccuracy units .exact, grid)) ∨
    (units = 2 ^ format.mantissaBits ∧
      (shiftToTargetExponent format units grid .exact).1.mantissa = 2 ^ (format.mantissaBits - 1) ∧
      (shiftToTargetExponent format units grid .exact).2 = grid + 1) := by
  unfold shiftToTargetExponent shiftToExponent
  dsimp only
  rcases Nat.lt_or_eq_of_le within with less | same
  · have bits : units.log2 < format.mantissaBits := by
      by_cases zero : units = 0
      · rw [zero]
        exact one_pos.trans (one_lt_mantissaBits format)
      · exact (Nat.log2_lt zero).mpr less
    have stays : (format.targetExponent (totalExponent units grid) - grid).toNat = 0 := by
      unfold Format.targetExponent totalExponent
      omega
    rw [stays]
    exact .inl ⟨less, by simp; rfl⟩
  · have once : (format.targetExponent (totalExponent units grid) - grid).toNat = 1 := by
      rw [same, Format.targetExponent, totalExponent, Nat.log2_two_pow]
      omega
    rw [once]
    refine .inr ⟨same, ?_, by simp⟩
    change (ExtendedMantissa.ofMantissaAndAccuracy units .exact).mantissa / 2 = _
    rw [mantissa_ofMantissaAndAccuracy, same]
    exact Nat.pow_div (one_lt_mantissaBits format).le two_pos

/-- A located number is rounded to the nearest number of the format. -/
theorem roundWithAccuracy_rounded (sign : Sign) {mantissa : Nat} {exponent : Int} {accuracy : Accuracy} {value : Rat}
    (located : Locates (.ofMantissaAndAccuracy mantissa accuracy) value)
    (fine : exponent ≤ format.targetExponent (totalExponent mantissa exponent)) :
    ∃ result power, roundWithAccuracy format sign mantissa exponent accuracy = ofComponents sign result power ∧
      Rounded format (value * 2 ^ exponent) result power := by
  obtain ⟨small, full⟩ := shifted_bounds format fine
  have least : format.minExponent ≤ format.targetExponent (totalExponent mantissa exponent) := le_max_right _ _
  revert small full
  generalize grid_eq : format.targetExponent (totalExponent mantissa exponent) = grid at fine least ⊢
  generalize amount_eq : (grid - exponent).toNat = amount
  intro small full
  have sum : exponent + amount = grid := by omega
  have shifted : shiftToTargetExponent format mantissa exponent accuracy =
      (ExtendedMantissa.ofMantissaAndAccuracy mantissa accuracy >>> amount, grid) := by
    unfold shiftToTargetExponent shiftToExponent
    dsimp only
    rw [grid_eq, amount_eq, sum]
  have onGrid := located.shiftRight amount
  have lower := onGrid.lower
  have near := onGrid.nearest
  have bounds := roundedMantissa_bounds (ExtendedMantissa.ofMantissaAndAccuracy mantissa accuracy >>> amount)
  rw [mantissa_shiftRight, mantissa_ofMantissaAndAccuracy] at lower bounds
  generalize units_eq : (ExtendedMantissa.ofMantissaAndAccuracy mantissa accuracy >>> amount).roundedMantissa = units
    at near bounds
  have split : value * 2 ^ exponent = value / 2 ^ amount * 2 ^ grid := by
    rw [← sum, zpow_add₀ two_ne_zero, zpow_natCast]
    field_simp
  have nearGrid : |scaled units grid - value * 2 ^ exponent| ≤ 2 ^ grid / 2 := by
    rw [split, scaled, ← sub_mul, abs_mul, abs_of_pos (zpow_pos two_pos grid : (0 : Rat) < 2 ^ grid)]
    calc _ ≤ 1 / 2 * (2 : Rat) ^ grid := mul_le_mul_of_nonneg_right near (zpow_pos two_pos grid).le
      _ = 2 ^ grid / 2 := by ring
  have large : grid = format.minExponent ∨ scaled (2 ^ (format.mantissaBits - 1)) grid ≤ value * 2 ^ exponent := by
    refine full.imp_right fun filled => ?_
    rw [split]
    refine (scaled_le_scaled grid filled).trans ?_
    exact mul_le_mul_of_nonneg_right lower (zpow_pos two_pos grid).le
  unfold roundWithAccuracy
  rw [shifted]
  dsimp only
  rw [units_eq]
  rcases shiftToTargetExponent_rounded format (bounds.2.trans small) least with ⟨less, same⟩ | ⟨same, half, next⟩
  · rw [same]
    have canonical : Canonical format units grid :=
      ⟨less, least, full.imp_right fun filled => filled.trans bounds.1⟩
    exact ⟨units, grid, by rw [mantissa_ofMantissaAndAccuracy]; rfl, canonical, units, grid, rfl, nearGrid, large⟩
  · have small : 2 ^ (format.mantissaBits - 1) < 2 ^ format.mantissaBits :=
      Nat.pow_lt_pow_right one_lt_two (Nat.sub_lt (one_pos.trans (one_lt_mantissaBits format)) one_pos)
    have value : scaled (2 ^ (format.mantissaBits - 1)) (grid + 1) = scaled units grid := by
      have shift := scaled_shift (2 ^ (format.mantissaBits - 1)) 1 grid
      rw [Nat.cast_one, ← pow_add, Nat.sub_add_cancel (one_lt_mantissaBits format).le] at shift
      rw [same, shift]
    exact ⟨2 ^ (format.mantissaBits - 1), grid + 1, by rw [half, next]; rfl, ⟨small, by omega, .inr le_rfl⟩,
      units, grid, value, nearGrid, large⟩

theorem log2_shiftLeft {mantissa : Nat} (nonzero : mantissa ≠ 0) (amount : Nat) :
    (mantissa <<< amount).log2 = mantissa.log2 + amount := by
  have shifted : mantissa <<< amount ≠ 0 := by
    rw [Nat.shiftLeft_eq]
    exact Nat.mul_ne_zero nonzero (Nat.two_pow_pos amount).ne'
  rw [Nat.log2_eq_iff shifted, Nat.shiftLeft_eq, pow_add, add_right_comm, pow_add]
  exact ⟨Nat.mul_le_mul_right _ (Nat.log2_self_le nonzero),
    Nat.mul_lt_mul_of_pos_right Nat.lt_log2_self (Nat.two_pow_pos amount)⟩

theorem round_rounded (sign : Sign) {mantissa : Nat} (nonzero : mantissa ≠ 0) (exponent : Int) :
    ∃ result power, UnpackedFloat.round format sign mantissa exponent = ofComponents sign result power ∧
      Rounded format (scaled mantissa exponent) result power := by
  unfold UnpackedFloat.round decreaseExponent
  dsimp only
  generalize target_eq : format.targetExponent (totalExponent mantissa exponent) = target
  generalize amount_eq : (exponent - target).toNat = amount
  have fine : exponent - amount ≤
      format.targetExponent (totalExponent (mantissa <<< amount) (exponent - amount)) := by
    have same : totalExponent (mantissa <<< amount) (exponent - amount) = totalExponent mantissa exponent := by
      unfold totalExponent
      rw [log2_shiftLeft nonzero]
      omega
    rw [same, target_eq]
    omega
  obtain ⟨result, power, rounds, rounded⟩ :=
    roundWithAccuracy_rounded format sign (locates_exact (mantissa <<< amount)) fine
  refine ⟨result, power, rounds, ?_⟩
  have value := scaled_shift mantissa amount (exponent - amount)
  rw [sub_add_cancel, ← Nat.shiftLeft_eq] at value
  rw [← value]
  exact rounded

/-- The quotient of two numbers is rounded to the nearest number of the format. -/
theorem div_rounded (firstSign secondSign : Sign) {first second : Nat} (firstPlace secondPlace : Int)
    (firstPositive : 0 < first) (secondPositive : 0 < second) :
    ∃ result power, UnpackedFloat.div format (.finite firstSign first firstPlace firstPositive)
        (.finite secondSign second secondPlace secondPositive) = ofComponents (firstSign / secondSign) result power ∧
      Rounded format (scaled first firstPlace / scaled second secondPlace) result power := by
  unfold UnpackedFloat.div divCore
  dsimp only
  generalize target_eq : min (firstPlace - secondPlace)
    (format.targetExponent (totalExponent first firstPlace - totalExponent second secondPlace)) = target
  generalize amount_eq : (firstPlace - secondPlace - target).toNat = amount
  have sum : firstPlace - secondPlace = target + amount := by omega
  have fine : target ≤ format.targetExponent (totalExponent (first <<< amount / second) target) := by
    by_cases least : target ≤ format.minExponent
    · exact least.trans (le_max_right _ _)
    · have bits := one_lt_mantissaBits format
      have filled : 2 ^ (format.mantissaBits - 1) ≤ first <<< amount / second := by
        rw [Nat.le_div_iff_mul_le secondPositive]
        calc 2 ^ (format.mantissaBits - 1) * second
            ≤ 2 ^ (format.mantissaBits - 1) * 2 ^ (second.log2 + 1) := Nat.mul_le_mul_left _ Nat.lt_log2_self.le
          _ = 2 ^ (format.mantissaBits - 1 + (second.log2 + 1)) := (pow_add ..).symm
          _ ≤ 2 ^ (first <<< amount).log2 := by
            apply Nat.pow_le_pow_right two_pos
            rw [log2_shiftLeft firstPositive.ne']
            unfold Format.targetExponent totalExponent at target_eq
            omega
          _ ≤ first <<< amount := by
            apply Nat.log2_self_le
            rw [Nat.shiftLeft_eq]
            exact Nat.mul_ne_zero firstPositive.ne' (Nat.two_pow_pos amount).ne'
      have nonzero : first <<< amount / second ≠ 0 := by
        rintro zero
        rw [zero] at filled
        exact absurd filled (Nat.two_pow_pos _).not_ge
      have wide := (Nat.le_log2 nonzero).mpr filled
      unfold Format.targetExponent totalExponent
      omega
  obtain ⟨result, power, rounds, rounded⟩ :=
    roundWithAccuracy_rounded format (firstSign / secondSign) (locates_fraction secondPositive) fine
  refine ⟨result, power, rounds, ?_⟩
  have value : ((first <<< amount : Nat) : Rat) / second * 2 ^ target =
      scaled first firstPlace / scaled second secondPlace := by
    have place : firstPlace = target + amount + secondPlace := by omega
    rw [place, scaled, scaled, zpow_add₀ two_ne_zero, zpow_add₀ two_ne_zero, zpow_natCast, Nat.shiftLeft_eq]
    push_cast
    have above : (second : Rat) ≠ 0 := by exact_mod_cast secondPositive.ne'
    field_simp
  rw [value] at rounded
  exact rounded

end Rounding

end Pxtly.Foundation
