/-
This file gives the order of floats and their rounding to decimals.
-/

import Mathlib

namespace Pxtly.Foundation

open Float.Model UnpackedFloat

theorem float_lt_iff (first second : Float) :
    first < second ↔ first.toModel.unpack.lt second.toModel.unpack = true := by
  change (decide (first.toModel < second.toModel) = true) ↔ _
  rw [decide_eq_true_iff]
  rfl

/-- What exceeds a positive float exceeds a smaller float with the same exponent. -/
theorem float_lt_of_lt {low high value : Float} {lowMantissa highMantissa : Nat} {exponent : Int}
    {lowPositive : 0 < lowMantissa} {highPositive : 0 < highMantissa}
    (lowUnpacked : low.toModel.unpack = .finite .positive lowMantissa exponent lowPositive)
    (highUnpacked : high.toModel.unpack = .finite .positive highMantissa exponent highPositive)
    (less : lowMantissa < highMantissa) (exceeds : high < value) : low < value := by
  rw [float_lt_iff] at exceeds ⊢
  rw [highUnpacked] at exceeds
  rw [lowUnpacked]
  generalize value.toModel.unpack = unpacked at exceeds ⊢
  cases unpacked with
  | infinity sign =>
      cases sign with
      | positive => rfl
      | negative => cases exceeds
  | notANumber => cases exceeds
  | zero sign => cases exceeds
  | finite sign mantissa power positive =>
      cases sign with
      | negative => cases exceeds
      | positive =>
          simp only [UnpackedFloat.lt, UnpackedFloat.compare, beq_iff_eq, Option.some.injEq, Ordering.then_eq_lt,
            Nat.compare_eq_lt] at exceeds ⊢
          rcases exceeds with smaller | ⟨same, smaller⟩
          · exact .inl smaller
          · exact .inr ⟨same, by omega⟩

/-- A quotient is rounded to the nearest integer, and a half to the even one. -/
def roundHalfEven (numerator denominator : Nat) : Nat :=
  let quotient := numerator / denominator
  let twice := 2 * (numerator % denominator)
  if twice < denominator then quotient
  else if denominator < twice then quotient + 1
  else quotient + quotient % 2

/-- This is the nearest multiple of a power of ten below one, as an integer; a value that is not finite has none. -/
def decimalUnits (value : Float) (places : Nat) : Int :=
  match value.toModel.unpack with
  | .finite sign mantissa exponent _ =>
      let units :=
        if 0 ≤ exponent then mantissa * 2 ^ exponent.toNat * 10 ^ places
        else roundHalfEven (mantissa * 10 ^ places) (2 ^ (-exponent).toNat)
      match sign with
      | .positive => units
      | .negative => -units
  | _ => 0

/-- This is `round(value, places)`: the exact value is rounded, and the decimals are read as a float. -/
def roundPlaces (value : Float) (places : Nat) : Float :=
  let magnitude := Float.ofScientific (decimalUnits value places).natAbs true places
  match value.toModel.unpack with
  | .finite .positive _ _ _ => magnitude
  | .finite .negative _ _ _ => -magnitude
  | _ => value

example : roundPlaces 0.12345 4 = 0.1235 ∧ roundPlaces 0.03125 4 = 0.0312 := by decide +kernel

end Pxtly.Foundation
