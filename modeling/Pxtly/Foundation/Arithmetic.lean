/-
This file gives the operations of Python's floats, over floats and over exact rational numbers.
-/

import Mathlib.Data.Rat.Floor
import Mathlib.Tactic.FieldSimp
import Mathlib.Tactic.Linarith
import Mathlib.Tactic.NormNum
import Mathlib.Tactic.Positivity
import Mathlib.Tactic.Ring
import Pxtly.Foundation.Floats

namespace Pxtly.Foundation

/-- A function on Python's floats can be read over any numbers with these operations and the usual arithmetic. -/
class PyNumber (R : Type) where
  ofNat : Nat → R
  isFinite : R → Bool
  decimalUnits : R → Nat → Int
  roundPlaces : R → Nat → R

instance : PyNumber Float where
  ofNat := Float.ofNat
  isFinite := Float.isFinite
  decimalUnits := decimalUnits
  roundPlaces := roundPlaces

section Rounding

/-- An exact number is rounded to the nearest integer, and a half to the even one. -/
def roundEven (value : Rat) : Int :=
  if Int.fract value < 1 / 2 then ⌊value⌋
  else if 1 / 2 < Int.fract value then ⌊value⌋ + 1
  else ⌊value⌋ + ⌊value⌋ % 2

theorem floor_le_roundEven (value : Rat) : ⌊value⌋ ≤ roundEven value := by
  unfold roundEven
  split
  · exact le_refl _
  · split <;> omega

theorem roundEven_le_floor (value : Rat) : roundEven value ≤ ⌊value⌋ + 1 := by
  unfold roundEven
  split
  · omega
  · split <;> omega

theorem roundEven_mono : Monotone roundEven := by
  intro first second le
  rcases (Int.floor_le_floor le).lt_or_eq with less | same
  · calc roundEven first ≤ ⌊first⌋ + 1 := roundEven_le_floor first
      _ ≤ ⌊second⌋ := less
      _ ≤ roundEven second := floor_le_roundEven second
  · have fractions : Int.fract first ≤ Int.fract second := by
      rw [Int.fract, Int.fract, same]
      exact sub_le_sub_right le _
    unfold roundEven
    rw [same]
    by_cases low : Int.fract second < 1 / 2
    · rw [if_pos low, if_pos (fractions.trans_lt low)]
    · rw [if_neg low]
      by_cases high : 1 / 2 < Int.fract second
      · rw [if_pos high]
        split
        · omega
        · split <;> omega
      · rw [if_neg high]
        split
        · omega
        · rw [if_neg fun above => high (above.trans_le fractions)]

@[simp] theorem roundEven_intCast (value : Int) : roundEven value = value := by
  rw [roundEven, Int.fract_intCast, if_pos (by norm_num), Int.floor_intCast]

/-- The rounding of a quotient of natural numbers is the rounding of the exact quotient. -/
theorem roundHalfEven_eq {numerator denominator : Nat} (positive : 0 < denominator) :
    (roundHalfEven numerator denominator : Int) = roundEven ((numerator : Rat) / denominator) := by
  have above : (0 : Rat) < denominator := by exact_mod_cast positive
  have floor : ⌊(numerator : Rat) / denominator⌋ = ((numerator / denominator : Nat) : Int) := by
    rw [Rat.floor_natCast_div_natCast]
    rfl
  have rest : Int.fract ((numerator : Rat) / denominator) = ((numerator % denominator : Nat) : Rat) / denominator := by
    rw [Int.fract, floor, eq_div_iff above.ne', sub_mul, div_mul_cancel₀ _ above.ne']
    have whole : ((numerator / denominator * denominator + numerator % denominator : Nat) : Rat) = numerator := by
      rw [Nat.div_add_mod']
    rw [Nat.cast_add, Nat.cast_mul] at whole
    rw [Int.cast_natCast]
    linarith
  have below : Int.fract ((numerator : Rat) / denominator) < 1 / 2 ↔ 2 * (numerator % denominator) < denominator := by
    rw [rest, div_lt_iff₀ above]
    constructor
    · intro less
      have doubled : (2 : Rat) * ((numerator % denominator : Nat) : Rat) < denominator := by linarith
      exact_mod_cast doubled
    · intro less
      have doubled : (2 : Rat) * ((numerator % denominator : Nat) : Rat) < denominator := by exact_mod_cast less
      linarith
  have beyond : 1 / 2 < Int.fract ((numerator : Rat) / denominator) ↔ denominator < 2 * (numerator % denominator) := by
    rw [rest, lt_div_iff₀ above]
    constructor
    · intro less
      have doubled : (denominator : Rat) < 2 * ((numerator % denominator : Nat) : Rat) := by linarith
      exact_mod_cast doubled
    · intro less
      have doubled : (denominator : Rat) < 2 * ((numerator % denominator : Nat) : Rat) := by exact_mod_cast less
      linarith
  simp only [roundHalfEven, roundEven, floor, below, beyond]
  split
  · rfl
  · split <;> push_cast <;> rfl

/-- An exact number is rounded to a multiple of a power of ten below one, as an integer. -/
def exactUnits (value : Rat) (places : Nat) : Int := roundEven (value * 10 ^ places)

/-- This is `round(value, places)` of an exact number. -/
def roundDecimals (value : Rat) (places : Nat) : Rat := exactUnits value places / 10 ^ places

theorem roundDecimals_mono {first second : Rat} (le : first ≤ second) (places : Nat) :
    roundDecimals first places ≤ roundDecimals second places := by
  have scaled : first * 10 ^ places ≤ second * 10 ^ places := mul_le_mul_of_nonneg_right le (by positivity)
  have rounded : exactUnits first places ≤ exactUnits second places := roundEven_mono scaled
  exact div_le_div_of_nonneg_right (by exact_mod_cast rounded) (by positivity)

/-- A number with so few decimals is left as it is. -/
theorem roundDecimals_of_decimals (units : Int) (places : Nat) :
    roundDecimals ((units : Rat) / 10 ^ places) places = units / 10 ^ places := by
  rw [roundDecimals, exactUnits, div_mul_cancel₀ _ (by positivity), roundEven_intCast]

/-- A whole number has no decimals to be rounded. -/
theorem roundDecimals_intCast (value : Int) (places : Nat) : roundDecimals value places = value := by
  have decimals := roundDecimals_of_decimals (value * 10 ^ places) places
  push_cast at decimals
  rwa [mul_div_cancel_right₀ _ (by positivity)] at decimals

/-- A number that has been rounded has exactly the decimals that its units count. -/
theorem exactUnits_roundDecimals (value : Rat) (places : Nat) :
    (exactUnits (roundDecimals value places) places : Rat) / 10 ^ places = roundDecimals value places := by
  rw [exactUnits, roundDecimals, div_mul_cancel₀ _ (by positivity), roundEven_intCast]

end Rounding

instance : PyNumber Rat where
  ofNat := Nat.cast
  isFinite _ := true
  decimalUnits := exactUnits
  roundPlaces := roundDecimals

end Pxtly.Foundation
