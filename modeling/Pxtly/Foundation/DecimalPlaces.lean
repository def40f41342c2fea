/-
This file gives how floats are rounded to decimal places and compared with the decimals that are written in programs.
-/

import Pxtly.Foundation.Arithmetic
import Pxtly.Foundation.Binary64

namespace Pxtly.Foundation

open Float.Model UnpackedFloat

section Units

/-- The units of a float are the exact value, rounded half to even. -/
theorem decimalUnits_eq {value : Float} {mantissa : Nat} {exponent : Int}
    (unpacked : value.toModel.unpack = ofComponents .positive mantissa exponent) (places : Nat) :
    decimalUnits value places = roundEven (exactValue value * 10 ^ places) := by
  have exact : exactValue value = scaled mantissa exponent := exactValue_of_unpack unpacked
  rw [exact, decimalUnits, unpacked]
  by_cases zero : mantissa = 0
  · rw [ofComponents, dif_pos zero, zero, scaled_zero, zero_mul]
    exact (roundEven_intCast 0).symm
  · rw [ofComponents, dif_neg zero]
    simp only
    by_cases whole : 0 ≤ exponent
    · obtain ⟨power, rfl⟩ := Int.eq_ofNat_of_zero_le whole
      have same : scaled mantissa power * 10 ^ places = ((mantissa * 2 ^ power * 10 ^ places : Nat) : Int) := by
        rw [scaled, zpow_natCast]
        push_cast
        rfl
      rw [if_pos whole, same, roundEven_intCast]
      rfl
    · obtain ⟨power, rfl⟩ : ∃ power : Nat, exponent = -power := ⟨(-exponent).toNat, by omega⟩
      have same : scaled mantissa (-power) * 10 ^ places =
          ((mantissa * 10 ^ places : Nat) : Rat) / ((2 ^ power : Nat) : Rat) := by
        rw [scaled, zpow_neg, zpow_natCast]
        push_cast
        ring
      rw [if_neg whole, same, ← roundHalfEven_eq (Nat.two_pow_pos power)]
      rw [neg_neg, Int.toNat_natCast]

/-- A float that is not negative is rounded by its units. -/
theorem roundPlaces_eq {value : Float} {mantissa : Nat} {exponent : Int}
    (unpacked : value.toModel.unpack = ofComponents .positive mantissa exponent) (nonzero : mantissa ≠ 0)
    (places : Nat) :
    roundPlaces value places = Float.ofScientific (decimalUnits value places).natAbs true places := by
  rw [roundPlaces, unpacked, ofComponents, dif_neg nonzero]

/-- A number is rounded beyond an integer from the half behind it on, which itself goes to the even side. -/
theorem roundEven_le_iff (value : Rat) (bound : Int) :
    roundEven value ≤ bound ↔ value < bound + 1 / 2 ∨ value = bound + 1 / 2 ∧ bound % 2 = 0 := by
  have lower := Int.floor_le value
  have upper := Int.lt_floor_add_one value
  have atLeast := floor_le_roundEven value
  have atMost := roundEven_le_floor value
  rcases lt_trichotomy ⌊value⌋ bound with below | same | above
  · have whole : (⌊value⌋ : Rat) + 1 ≤ bound := by exact_mod_cast below
    exact iff_of_true (by omega) (.inl (by linarith))
  · have rest : Int.fract value = value - bound := by rw [Int.fract, same]
    rw [roundEven, same, rest]
    rcases lt_trichotomy (value - bound) (1 / 2) with less | half | more
    · rw [if_pos less]
      exact iff_of_true le_rfl (.inl (by linarith))
    · rw [if_neg half.not_lt, if_neg half.symm.not_lt]
      have exact : value = bound + 1 / 2 := by linarith
      constructor
      · exact fun even => .inr ⟨exact, by omega⟩
      · rintro (less | ⟨_, even⟩)
        · linarith
        · omega
    · rw [if_neg more.not_gt, if_pos more]
      refine iff_of_false (by omega) ?_
      rintro (less | ⟨exact, _⟩)
      · linarith
      · linarith
  · have whole : (bound : Rat) + 1 ≤ ⌊value⌋ := by exact_mod_cast above
    refine iff_of_false (by omega) ?_
    rintro (less | ⟨exact, _⟩)
    · linarith
    · linarith

theorem abs_roundEven_sub_le (value : Rat) : |(roundEven value : Rat) - value| ≤ 1 / 2 := by
  have whole : (⌊value⌋ : Rat) + Int.fract value = value := Int.floor_add_fract value
  have nonneg := Int.fract_nonneg value
  have below := Int.fract_lt_one value
  rw [abs_le, roundEven]
  by_cases low : Int.fract value < 1 / 2
  · rw [if_pos low]
    constructor <;> linarith
  · rw [if_neg low]
    by_cases high : 1 / 2 < Int.fract value
    · rw [if_pos high]
      push_cast
      constructor <;> linarith
    · rw [if_neg high]
      have even : ⌊value⌋ % 2 = 0 ∨ ⌊value⌋ % 2 = 1 := by omega
      rcases even with same | same
      · rw [same]
        push_cast
        constructor <;> linarith
      · rw [same]
        push_cast
        constructor <;> linarith

/-- Rounding moves a number by half a unit of its last decimal at most. -/
theorem abs_roundDecimals_sub_le (value : Rat) (places : Nat) :
    |roundDecimals value places - value| ≤ 1 / (2 * 10 ^ places) := by
  have positive : (0 : Rat) < 10 ^ places := by positivity
  have near := abs_roundEven_sub_le (value * 10 ^ places)
  have scaled : roundDecimals value places - value =
      ((roundEven (value * 10 ^ places) : Rat) - value * 10 ^ places) / 10 ^ places := by
    rw [roundDecimals, exactUnits, sub_div, mul_div_cancel_right₀ _ positive.ne']
  rw [scaled, abs_div, abs_of_pos positive, div_le_iff₀ positive]
  calc _ ≤ 1 / 2 := near
    _ = 1 / (2 * 10 ^ places) * 10 ^ places := by field_simp

/-- A rounded number exceeds a multiple of the last decimal from the half behind it on. -/
theorem roundDecimals_le_iff (value : Rat) (places : Nat) (bound : Int) :
    roundDecimals value places ≤ bound / 10 ^ places ↔
      value * 10 ^ places < bound + 1 / 2 ∨ value * 10 ^ places = bound + 1 / 2 ∧ bound % 2 = 0 := by
  have positive : (0 : Rat) < 10 ^ places := by positivity
  rw [roundDecimals, div_le_div_iff_of_pos_right positive, exactUnits, Int.cast_le]
  exact roundEven_le_iff _ _

end Units

section Literals

/-- A decimal with four places is read nearly exactly. -/
theorem exactValue_ofScientific {units : Nat} (few : units ≤ 10000) :
    (Float.ofScientific units true 4).isFinite = true ∧
      |exactValue (Float.ofScientific units true 4) - (units : Rat) / 10 ^ 4| < 1 / 10 ^ 5 := by
  rcases Nat.eq_zero_or_pos units with rfl | positive
  · have zero : (Float.ofScientific 0 true 4).toModel.unpack = .zero .positive := rfl
    refine ⟨rfl, ?_⟩
    rw [exactValue, zero]
    norm_num [exactly]
  · have bounded : (units : Rat) ≤ 10000 := by exact_mod_cast few
    have fits : (units : Rat) / 10 ^ 4 < 2 ^ (1 : Int) := by
      rw [zpow_one, div_lt_iff₀ (by norm_num)]
      linarith
    obtain ⟨mantissa, exponent, unpacked, rounded, _⟩ := ofScientific_rounded positive fits (by decide)
    refine ⟨isFinite_of_unpack unpacked, ?_⟩
    rw [exactValue_of_unpack unpacked]
    -- The multiple of a small power of two below the decimal is a float as well.
    have small : units * 2 ^ 20 / 10 ^ 4 < 2 ^ Format.binary64.mantissaBits := by
      change _ < 2 ^ 53
      omega
    have nearest := rounded.nearest small (by decide : Format.binary64.minExponent ≤ -20)
    have grid : scaled (units * 2 ^ 20 / 10 ^ 4) (-20) = ((units * 2 ^ 20 / 10 ^ 4 : Nat) : Rat) / 2 ^ 20 := by
      rw [scaled, zpow_neg, div_eq_mul_inv]
      norm_num
    have below : ((units * 2 ^ 20 / 10 ^ 4 : Nat) : Rat) ≤ (units : Rat) * 2 ^ 20 / 10 ^ 4 := by
      have floor : ((units * 2 ^ 20 / 10 ^ 4 : Nat) : Rat) ≤ ((units * 2 ^ 20 : Nat) : Rat) / ((10 ^ 4 : Nat) : Rat) :=
        Nat.cast_div_le
      push_cast at floor
      exact floor
    have above : (units : Rat) * 2 ^ 20 / 10 ^ 4 < ((units * 2 ^ 20 / 10 ^ 4 : Nat) : Rat) + 1 := by
      have next : units * 2 ^ 20 < 10 ^ 4 * (units * 2 ^ 20 / 10 ^ 4 + 1) := Nat.lt_mul_div_succ _ (by decide)
      have cast : (units : Rat) * 2 ^ 20 < 10 ^ 4 * (((units * 2 ^ 20 / 10 ^ 4 : Nat) : Rat) + 1) := by
        exact_mod_cast next
      rw [div_lt_iff₀ (by norm_num)]
      linarith
    rw [grid] at nearest
    refine nearest.trans_lt ?_
    rw [abs_lt]
    constructor <;> linarith

/-- Decimals with four places are compared by their units. -/
theorem ofScientific_lt_iff {first second : Nat} (few : first ≤ 10000) (many : second ≤ 10000) :
    Float.ofScientific first true 4 < Float.ofScientific second true 4 ↔ first < second := by
  obtain ⟨firstFinite, firstNear⟩ := exactValue_ofScientific few
  obtain ⟨secondFinite, secondNear⟩ := exactValue_ofScientific many
  rw [lt_iff_exactValue firstFinite secondFinite]
  rw [abs_lt] at firstNear secondNear
  constructor
  · intro less
    by_contra le
    rcases (not_lt.mp le).eq_or_lt with rfl | below
    · exact lt_irrefl _ less
    · have whole : (second : Rat) + 1 ≤ first := by exact_mod_cast below
      linarith [firstNear.1, secondNear.2]
  · intro less
    have whole : (first : Rat) + 1 ≤ second := by exact_mod_cast less
    linarith [firstNear.2, secondNear.1]

end Literals

end Pxtly.Foundation
