/-
This file gives the numbers that floats hold, the floats nearest to decimals and the size of a difference.
-/

import Mathlib.Data.Nat.Cast.Order.Field
import Pxtly.Foundation.Floats
import Pxtly.Foundation.Rounding

namespace Pxtly.Foundation

open Float.Model UnpackedFloat

section Packing

variable {sign : Sign} {mantissa : Nat} {exponent : Int}

theorem unpackSign_packComponents {format : Format} (sign : Sign) (power : BitVec format.exponentBits)
    (bits : BitVec format.mantissaBitsWithoutImplicit) :
    Sign.ofBitVec (unpackSign (packComponents format sign power bits)) = sign := by
  have kept : unpackSign (packComponents format sign power bits) = sign.toBitVec := by
    ext index inside
    obtain rfl : index = 0 := by omega
    simp [unpackSign, packComponents, BitVec.getLsbD_append, BitVec.getElem_append]
  rw [kept]
  cases sign <;> rfl

theorem toNat_implicit (bits : BitVec 52) : (1#1 ++ bits).toNat = 2 ^ 52 + bits.toNat := by
  rw [BitVec.toNat_append, ← Nat.shiftLeft_add_eq_or_of_lt bits.isLt]
  rfl

/-- A finite number has one of two layouts: with the implicit bit and without it. -/
theorem unpack_normal (sign : Sign) {power : BitVec 11} (bits : BitVec 52) (notLargest : power ≠ -1#11)
    (notZero : power ≠ 0#11) : UnpackedFloat.unpack .binary64 (packComponents .binary64 sign power bits) =
      .finite sign (1#1 ++ bits).toNat (power.toNat - 1075) (by rw [toNat_implicit]; omega) := by
  simp only [UnpackedFloat.unpack, unpackSign_packComponents, unpackMantissa_packComponents,
    unpackExponent_packComponents, if_neg notLargest, if_neg notZero]
  rfl

theorem unpack_subnormal (sign : Sign) {bits : BitVec 52} (positive : 0 < bits.toNat) :
    UnpackedFloat.unpack .binary64 (packComponents .binary64 sign 0#11 bits) =
      .finite sign bits.toNat (-1074) positive := by
  have nonzero : bits ≠ 0#52 := by
    rintro rfl
    exact absurd positive (lt_irrefl 0)
  simp only [UnpackedFloat.unpack, unpackSign_packComponents, unpackMantissa_packComponents,
    unpackExponent_packComponents]
  rw [if_neg (by decide), if_pos trivial, dif_neg nonzero]
  rfl

theorem unpack_zero (sign : Sign) :
    UnpackedFloat.unpack .binary64 (packComponents .binary64 sign 0#11 0#52) = .zero sign := by
  simp only [UnpackedFloat.unpack, unpackSign_packComponents, unpackMantissa_packComponents,
    unpackExponent_packComponents]
  rfl

/-- A canonical number within the range is packed without loss. -/
theorem unpack_pack (canonical : Canonical .binary64 mantissa exponent) (inRange : exponent ≤ 971) :
    (Float.Model.pack (ofComponents sign mantissa exponent)).unpack = ofComponents sign mantissa exponent := by
  have small : mantissa < 2 ^ 53 := canonical.small
  have least : -1074 ≤ exponent := canonical.least
  have full : exponent = -1074 ∨ 2 ^ 52 ≤ mantissa := canonical.full
  change UnpackedFloat.unpack .binary64 (UnpackedFloat.pack .binary64 _) = _
  unfold ofComponents
  split
  next zero => exact unpack_zero sign
  next nonzero =>
    have biased : exponent + Format.binary64.exponentBias + Format.binary64.mantissaBitsWithoutImplicit =
        exponent + 1023 + 52 := rfl
    have fits : ¬ 2 ^ Format.binary64.exponentBits ≤ (exponent + 1023 + 52).toNat + 1 := by
      change ¬ 2048 ≤ _
      omega
    simp only [UnpackedFloat.pack, biased, if_neg fits]
    split
    next normal =>
      have filled : 2 ^ 52 ≤ mantissa := by
        have bits : mantissa.log2 = 52 := Nat.succ.inj (normal.trans (Nat.add_comm ..))
        rw [← bits]
        exact Nat.log2_self_le nonzero
      have power : (BitVec.ofNat 11 (exponent + 1023 + 52).toNat).toNat = (exponent + 1075).toNat := by
        rw [BitVec.toNat_ofNat]
        omega
      rw [unpack_normal]
      · congr 1
        · rw [toNat_implicit, BitVec.toNat_ofNat]
          omega
        · rw [power]
          omega
      · intro same
        have equal := power.symm.trans (congrArg BitVec.toNat same)
        change _ = 2047 at equal
        omega
      · intro same
        have equal := power.symm.trans (congrArg BitVec.toNat same)
        change _ = 0 at equal
        omega
    next subnormal =>
      have less : mantissa < 2 ^ 52 := by
        by_contra filled
        have bits : mantissa.log2 = 52 := (Nat.log2_eq_iff nonzero).mpr ⟨not_lt.mp filled, small⟩
        exact subnormal (by rw [bits]; rfl)
      have kept : (BitVec.ofNat 52 mantissa).toNat = mantissa := by
        rw [BitVec.toNat_ofNat]
        exact Nat.mod_eq_of_lt less
      change UnpackedFloat.unpack .binary64 (packComponents .binary64 sign 0#11 (BitVec.ofNat 52 mantissa)) = _
      rw [unpack_subnormal sign (by rw [kept]; exact Nat.pos_of_ne_zero nonzero)]
      congr 1
      omega

theorem canonical_of_unpack {packed : BitVec Format.binary64.numBits}
    (finite : (UnpackedFloat.unpack .binary64 packed).isFinite = true) :
    ∃ sign mantissa exponent, UnpackedFloat.unpack .binary64 packed = ofComponents sign mantissa exponent ∧
      Canonical .binary64 mantissa exponent ∧ exponent ≤ 971 := by
  unfold UnpackedFloat.unpack at finite ⊢
  dsimp only at finite ⊢
  have powerBound : (unpackExponent packed).toNat < 2048 := (unpackExponent packed).isLt
  have bitsBound : (unpackMantissa packed).toNat < 2 ^ 52 := (unpackMantissa packed).isLt
  by_cases largest : unpackExponent packed = -1#11
  · rw [if_pos largest] at finite
    split at finite <;> cases finite
  rw [if_neg largest]
  by_cases zero : unpackExponent packed = 0#11
  · rw [if_pos zero]
    have canonical : Canonical .binary64 (unpackMantissa packed).toNat (-1074) :=
      ⟨bitsBound.trans (by decide), le_rfl, .inl rfl⟩
    refine ⟨Sign.ofBitVec (unpackSign packed), (unpackMantissa packed).toNat, -1074, ?_, canonical, by decide⟩
    unfold ofComponents
    by_cases none : unpackMantissa packed = 0#52
    · rw [dif_pos none, dif_pos (by rw [none]; rfl)]
    · rw [dif_neg none, dif_neg (by simpa [← BitVec.toNat_inj] using none)]
      congr 1
      rw [zero]
      rfl
  · rw [if_neg zero]
    have notLargest : (unpackExponent packed).toNat ≠ 2047 := by
      intro same
      exact largest (BitVec.eq_of_toNat_eq same)
    have notZero : (unpackExponent packed).toNat ≠ 0 := by
      intro same
      exact zero (BitVec.eq_of_toNat_eq same)
    have value := toNat_implicit (unpackMantissa packed)
    refine ⟨Sign.ofBitVec (unpackSign packed), (1#1 ++ unpackMantissa packed).toNat,
      (unpackExponent packed).toNat - 1075, ?_, ⟨?_, ?_, .inr ?_⟩, by omega⟩
    · rw [ofComponents, dif_neg (by omega)]
      rfl
    · change _ < 2 ^ 53
      omega
    · change -1074 ≤ _
      omega
    · change 2 ^ 52 ≤ _
      omega

/-- A finite float has canonical components. -/
theorem unpack_canonical {value : Float} (finite : value.isFinite = true) :
    ∃ sign mantissa exponent, value.toModel.unpack = ofComponents sign mantissa exponent ∧
      Canonical .binary64 mantissa exponent ∧ exponent ≤ 971 :=
  canonical_of_unpack finite

end Packing

section Differences

def signed : Sign → Rat → Rat
  | .positive, value => value
  | .negative, value => -value

/-- This is the number that a finite float stands for. -/
def exactly : UnpackedFloat → Rat
  | .finite sign mantissa exponent _ => signed sign (scaled mantissa exponent)
  | _ => 0

def exactValue (value : Float) : Rat := exactly value.toModel.unpack

theorem signed_zero (sign : Sign) : signed sign 0 = 0 := by
  cases sign
  · exact neg_zero
  · rfl

theorem abs_signed (sign : Sign) (value : Rat) : |signed sign value| = |value| := by
  cases sign
  · exact abs_neg value
  · rfl

theorem exactly_ofComponents (sign : Sign) (mantissa : Nat) (exponent : Int) :
    exactly (ofComponents sign mantissa exponent) = signed sign (scaled mantissa exponent) := by
  unfold ofComponents
  split
  next zero =>
    rw [zero, scaled_zero, signed_zero]
    rfl
  next => rfl

theorem cast_apply (sign : Sign) (mantissa : Nat) : ((sign.apply mantissa : Int) : Rat) = signed sign mantissa := by
  cases sign
  · exact Int.cast_neg _
  · rfl

theorem signed_scaled (sign : Sign) (mantissa : Nat) (exponent : Int) :
    signed sign (scaled mantissa exponent) = (sign.apply mantissa : Int) * 2 ^ exponent := by
  rw [cast_apply]
  cases sign
  · exact (neg_mul _ _).symm
  · rfl

variable {format : Format} {bound : Int}

/-- A number has canonical components, and the exponent is small when the number is. -/
def Within (format : Format) (bound : Int) (unpacked : UnpackedFloat) : Prop :=
  ∃ sign mantissa exponent, unpacked = ofComponents sign mantissa exponent ∧ Canonical format mantissa exponent ∧
    exponent ≤ max (bound + 1 - format.mantissaBits) format.minExponent

theorem within_zero (sign : Sign) : Within format bound (.zero sign) :=
  ⟨sign, 0, format.minExponent, rfl, ⟨Nat.two_pow_pos _, le_rfl, .inl rfl⟩, le_max_right _ _⟩

theorem within_of_canonical (sign : Sign) {mantissa : Nat} {exponent : Int}
    (canonical : Canonical format mantissa exponent) (below : scaled mantissa exponent < 2 ^ bound) :
    Within format bound (ofComponents sign mantissa exponent) :=
  ⟨sign, mantissa, exponent, rfl, canonical, (canonical.exponent_le below).trans (max_le_max_right _ (by omega))⟩

theorem within_round (sign : Sign) {mantissa : Nat} {exponent : Int} (nonzero : mantissa ≠ 0)
    (below : scaled mantissa exponent < 2 ^ bound) :
    Within format bound (UnpackedFloat.round format sign mantissa exponent) := by
  obtain ⟨result, power, rounds, rounded⟩ := round_rounded format sign nonzero exponent
  exact ⟨sign, result, power, rounds, rounded.canonical, rounded.exponent_le (scaled_nonnegative _ _) below⟩

theorem within_normalize {units place : Int} (zeroSign : Sign) (small : |(units : Rat) * 2 ^ place| < 2 ^ bound) :
    Within format bound (UnpackedFloat.normalize format units place zeroSign) := by
  have magnitude : scaled units.natAbs place = |(units : Rat) * 2 ^ place| := by
    rw [scaled, abs_mul, abs_of_pos (zpow_pos two_pos place : (0 : Rat) < 2 ^ place), Nat.cast_natAbs, Int.cast_abs]
  rw [← magnitude] at small
  unfold UnpackedFloat.normalize
  rcases order : compare units 0 with _ | _ | _
  · have negative := compare_lt_iff_lt.mp order
    have same : (-units).toNat = units.natAbs := by omega
    change Within format bound (UnpackedFloat.round format .negative (-units).toNat place)
    rw [same]
    exact within_round .negative (by omega) small
  · exact within_zero zeroSign
  · have positive := compare_gt_iff_gt.mp order
    have same : units.toNat = units.natAbs := by omega
    change Within format bound (UnpackedFloat.round format .positive units.toNat place)
    rw [same]
    exact within_round .positive (by omega) small

theorem decreased (sign : Sign) (mantissa : Nat) {exponent target : Int} (fine : target ≤ exponent) :
    ((sign.apply (mantissa <<< (exponent - target).toNat : Nat) : Int) : Rat) * 2 ^ target =
      signed sign (scaled mantissa exponent) := by
  have shift := scaled_shift mantissa (exponent - target).toNat target
  rw [show target + ((exponent - target).toNat : Int) = exponent by omega] at shift
  rw [← shift, signed_scaled, Nat.shiftLeft_eq]

/-- The difference of two numbers that are near to each other has a small exponent. -/
theorem within_sub {firstSign secondSign : Sign} {first second : Nat} {firstPlace secondPlace : Int}
    (firstCanonical : Canonical format first firstPlace) (secondCanonical : Canonical format second secondPlace)
    (near : |signed firstSign (scaled first firstPlace) - signed secondSign (scaled second secondPlace)| < 2 ^ bound) :
    Within format bound (UnpackedFloat.sub format (ofComponents firstSign first firstPlace)
      (ofComponents secondSign second secondPlace)) := by
  by_cases firstZero : first = 0
  · rw [firstZero, scaled_zero, signed_zero, zero_sub, abs_neg, abs_signed,
      abs_of_nonneg (scaled_nonnegative _ _)] at near
    by_cases secondZero : second = 0
    · rw [firstZero, secondZero]
      change Within format bound (if firstSign == -secondSign then .zero firstSign else .zero .positive)
      split
      · exact within_zero firstSign
      · exact within_zero .positive
    · have negated : UnpackedFloat.sub format (ofComponents firstSign first firstPlace)
          (ofComponents secondSign second secondPlace) = ofComponents (-secondSign) second secondPlace := by
        rw [firstZero, ofComponents, ofComponents, ofComponents, dif_pos rfl, dif_neg secondZero, dif_neg secondZero]
        rfl
      rw [negated]
      exact within_of_canonical _ secondCanonical near
  · by_cases secondZero : second = 0
    · rw [secondZero, scaled_zero, signed_zero, sub_zero, abs_signed, abs_of_nonneg (scaled_nonnegative _ _)] at near
      have kept : UnpackedFloat.sub format (ofComponents firstSign first firstPlace)
          (ofComponents secondSign second secondPlace) = ofComponents firstSign first firstPlace := by
        rw [secondZero, ofComponents, ofComponents, dif_neg firstZero, dif_pos rfl]
        rfl
      rw [kept]
      exact within_of_canonical _ firstCanonical near
    · rw [ofComponents, ofComponents, dif_neg firstZero, dif_neg secondZero]
      apply within_normalize
      rw [Int.cast_sub, sub_mul, decreased _ _ (min_le_left _ _), decreased _ _ (min_le_right _ _)]
      exact near

theorem unpack_within {bound : Int} {unpacked : UnpackedFloat} (within : Within .binary64 bound unpacked)
    (inRange : bound ≤ 1023) : (Float.Model.pack unpacked).unpack = unpacked := by
  obtain ⟨sign, mantissa, exponent, rfl, canonical, small⟩ := within
  apply unpack_pack canonical
  change exponent ≤ max (bound + 1 - 53) (-1074) at small
  omega

theorem Within.abs {unpacked : UnpackedFloat} (within : Within format bound unpacked) :
    Within format bound unpacked.abs := by
  obtain ⟨sign, mantissa, exponent, rfl, rest⟩ := within
  refine ⟨.positive, mantissa, exponent, ?_, rest⟩
  unfold ofComponents
  split <;> rfl

/-- The distance of two floats is computed as a float with a small exponent when they are near. -/
theorem unpack_distance {first second : Float} (firstFinite : first.isFinite = true)
    (secondFinite : second.isFinite = true) (near : |exactValue first - exactValue second| < 2 ^ bound)
    (inRange : bound ≤ 1023) :
    Within .binary64 bound (first - second).abs.toModel.unpack := by
  obtain ⟨firstSign, firstMantissa, firstPlace, firstUnpacked, firstCanonical, _⟩ := unpack_canonical firstFinite
  obtain ⟨secondSign, secondMantissa, secondPlace, secondUnpacked, secondCanonical, _⟩ :=
    unpack_canonical secondFinite
  rw [exactValue, exactValue, firstUnpacked, secondUnpacked, exactly_ofComponents, exactly_ofComponents] at near
  have difference := within_sub firstCanonical secondCanonical near
  rw [← firstUnpacked, ← secondUnpacked] at difference
  change Within .binary64 bound (Float.Model.pack (Float.Model.pack
    (UnpackedFloat.sub .binary64 first.toModel.unpack second.toModel.unpack)).unpack.abs).unpack
  rw [unpack_within difference inRange, unpack_within difference.abs inRange]
  exact difference.abs

theorem isFinite_of_unpack {value : Float} {sign : Sign} {mantissa : Nat} {exponent : Int}
    (unpacked : value.toModel.unpack = ofComponents sign mantissa exponent) : value.isFinite = true := by
  change value.toModel.unpack.isFinite = true
  rw [unpacked, ofComponents]
  split <;> rfl

/-- The negation of a float in range has the other sign. -/
theorem unpack_neg {value : Float} {mantissa : Nat} {exponent : Int}
    (unpacked : value.toModel.unpack = ofComponents .positive mantissa exponent)
    (canonical : Canonical .binary64 mantissa exponent) (inRange : exponent ≤ 971) :
    (-value).toModel.unpack = ofComponents .negative mantissa exponent := by
  have negated : (ofComponents .positive mantissa exponent).neg = ofComponents .negative mantissa exponent := by
    unfold ofComponents
    split <;> rfl
  change (Float.Model.pack value.toModel.unpack.neg).unpack = _
  rw [unpacked, negated]
  exact unpack_pack canonical inRange

/-- A number whose exponent is smaller than a float's is not greater than the float. -/
theorem not_lt_of_within {low value : Float} {bound exponent : Int} {mantissa : Nat} {positive : 0 < mantissa}
    (lowUnpacked : low.toModel.unpack = .finite .positive mantissa exponent positive)
    (within : Within .binary64 bound value.toModel.unpack) (smaller : max (bound + 1 - 53) (-1074) < exponent) :
    ¬ low < value := by
  obtain ⟨sign, units, place, unpacked, _, small⟩ := within
  change place ≤ max (bound + 1 - 53) (-1074) at small
  rw [float_lt_iff, lowUnpacked, unpacked, ofComponents]
  split
  next => exact Bool.false_ne_true
  next =>
    cases sign with
    | negative => exact Bool.false_ne_true
    | positive =>
        simp only [UnpackedFloat.lt, UnpackedFloat.compare, beq_iff_eq, Option.some.injEq, Ordering.then_eq_lt,
          compare_lt_iff_lt, compare_eq_iff_eq]
        omega

end Differences

section Order

variable {format : Format} {first second : Nat} {firstPlace secondPlace : Int}

/-- A canonical number with the smaller exponent is smaller. -/
theorem Canonical.scaled_lt (low : Canonical format first firstPlace) (high : Canonical format second secondPlace)
    (less : firstPlace < secondPlace) : scaled first firstPlace < scaled second secondPlace := by
  have filled := high.full.resolve_left (by have := low.least; omega)
  calc scaled first firstPlace < scaled (2 ^ format.mantissaBits) firstPlace :=
        mul_lt_mul_of_pos_right (by exact_mod_cast low.small) (zpow_pos two_pos _)
    _ = scaled (2 ^ (format.mantissaBits - 1)) (firstPlace + 1) := by
        have bits : format.mantissaBits = format.mantissaBits - 1 + 1 := by
          have := one_lt_mantissaBits format
          omega
        have shifted := scaled_shift (2 ^ (format.mantissaBits - 1)) 1 firstPlace
        rw [← pow_add, ← bits] at shifted
        exact shifted
    _ ≤ scaled (2 ^ (format.mantissaBits - 1)) secondPlace :=
        mul_le_mul_of_nonneg_left (zpow_le_zpow_right₀ one_le_two less) (by positivity)
    _ ≤ scaled second secondPlace := scaled_le_scaled secondPlace filled

/-- Canonical numbers are compared by their exponents first. -/
theorem compare_scaled (low : Canonical format first firstPlace) (high : Canonical format second secondPlace) :
    (compare firstPlace secondPlace).then (compare first second) =
      compare (scaled first firstPlace) (scaled second secondPlace) := by
  rcases lt_trichotomy firstPlace secondPlace with less | rfl | greater
  · rw [compare_lt_iff_lt.mpr less, compare_lt_iff_lt.mpr (low.scaled_lt high less)]
    rfl
  · rw [compare_eq_iff_eq.mpr rfl]
    rcases lt_trichotomy first second with less | rfl | greater
    · rw [compare_lt_iff_lt.mpr less, compare_lt_iff_lt.mpr]
      · rfl
      · exact mul_lt_mul_of_pos_right (by exact_mod_cast less) (zpow_pos two_pos _)
    · rw [compare_eq_iff_eq.mpr rfl, compare_eq_iff_eq.mpr rfl]
      rfl
    · rw [compare_gt_iff_gt.mpr greater, compare_gt_iff_gt.mpr]
      · rfl
      · exact mul_lt_mul_of_pos_right (by exact_mod_cast greater) (zpow_pos two_pos _)
  · rw [compare_gt_iff_gt.mpr greater, compare_gt_iff_gt.mpr (high.scaled_lt low greater)]
    rfl

theorem compare_neg (first second : Rat) : compare (-first) (-second) = (compare first second).swap := by
  rcases lt_trichotomy first second with less | rfl | greater
  · rw [compare_lt_iff_lt.mpr less, compare_gt_iff_gt.mpr (neg_lt_neg less)]
    rfl
  · rw [compare_eq_iff_eq.mpr rfl, compare_eq_iff_eq.mpr rfl]
    rfl
  · rw [compare_gt_iff_gt.mpr greater, compare_lt_iff_lt.mpr (neg_lt_neg greater)]
    rfl

/-- Floats are compared as the numbers that they stand for. -/
theorem compare_ofComponents (firstSign secondSign : Sign) (low : Canonical format first firstPlace)
    (high : Canonical format second secondPlace) :
    UnpackedFloat.compare (ofComponents firstSign first firstPlace) (ofComponents secondSign second secondPlace) =
      some (compare (signed firstSign (scaled first firstPlace)) (signed secondSign (scaled second secondPlace))) := by
  have above {mantissa : Nat} (place : Int) (nonzero : mantissa ≠ 0) : 0 < scaled mantissa place :=
    mul_pos (by exact_mod_cast Nat.pos_of_ne_zero nonzero) (zpow_pos two_pos _)
  by_cases firstZero : first = 0
  · by_cases secondZero : second = 0
    · rw [firstZero, secondZero, scaled_zero, scaled_zero, signed_zero, signed_zero, compare_eq_iff_eq.mpr rfl]
      rfl
    · have positive := above secondPlace secondZero
      rw [firstZero, scaled_zero, signed_zero, ofComponents, ofComponents, dif_pos rfl, dif_neg secondZero]
      cases secondSign with
      | positive => rw [signed, compare_lt_iff_lt.mpr positive]; rfl
      | negative => rw [signed, compare_gt_iff_gt.mpr (neg_neg_of_pos positive)]; rfl
  · have firstPositive := above firstPlace firstZero
    by_cases secondZero : second = 0
    · rw [secondZero, scaled_zero, signed_zero, ofComponents, ofComponents, dif_pos rfl, dif_neg firstZero]
      cases firstSign with
      | positive => rw [signed, compare_gt_iff_gt.mpr firstPositive]; rfl
      | negative => rw [signed, compare_lt_iff_lt.mpr (neg_neg_of_pos firstPositive)]; rfl
    · have secondPositive := above secondPlace secondZero
      rw [ofComponents, ofComponents, dif_neg firstZero, dif_neg secondZero]
      cases firstSign with
      | positive =>
          cases secondSign with
          | positive =>
              rw [signed, signed, ← compare_scaled low high]
              rfl
          | negative =>
              rw [signed, signed, compare_gt_iff_gt.mpr (by linarith)]
              rfl
      | negative =>
          cases secondSign with
          | positive =>
              rw [signed, signed, compare_lt_iff_lt.mpr (by linarith)]
              rfl
          | negative =>
              rw [signed, signed, compare_neg, ← compare_scaled low high]
              rfl

variable {low high : Float}

theorem compare_exactValue (lowFinite : low.isFinite = true) (highFinite : high.isFinite = true) :
    UnpackedFloat.compare low.toModel.unpack high.toModel.unpack = some (compare (exactValue low) (exactValue high)) := by
  obtain ⟨lowSign, lowMantissa, lowPlace, lowUnpacked, lowCanonical, _⟩ := unpack_canonical lowFinite
  obtain ⟨highSign, highMantissa, highPlace, highUnpacked, highCanonical, _⟩ := unpack_canonical highFinite
  rw [exactValue, exactValue, lowUnpacked, highUnpacked, exactly_ofComponents, exactly_ofComponents]
  exact compare_ofComponents lowSign highSign lowCanonical highCanonical

theorem lt_iff_exactValue (lowFinite : low.isFinite = true) (highFinite : high.isFinite = true) :
    low < high ↔ exactValue low < exactValue high := by
  rw [float_lt_iff, UnpackedFloat.lt, compare_exactValue lowFinite highFinite, beq_iff_eq, Option.some.injEq,
    compare_lt_iff_lt]

theorem le_iff_exactValue (lowFinite : low.isFinite = true) (highFinite : high.isFinite = true) :
    low ≤ high ↔ exactValue low ≤ exactValue high := by
  have models : low ≤ high ↔ UnpackedFloat.le low.toModel.unpack high.toModel.unpack = true := by
    change (decide (low.toModel ≤ high.toModel) = true) ↔ _
    rw [decide_eq_true_iff]
    rfl
  rw [models, UnpackedFloat.le, compare_exactValue lowFinite highFinite, Option.any_some, ← compare_le_iff_le]
  cases compare (exactValue low) (exactValue high) <;> simp

end Order

section Decimals

theorem normalize_positive {units : Nat} (positive : 0 < units) (place : Int) (zeroSign : Sign) :
    UnpackedFloat.normalize .binary64 units place zeroSign = UnpackedFloat.round .binary64 .positive units place := by
  have greater : compare (units : Int) 0 = .gt := compare_gt_iff_gt.mpr (by omega)
  rw [UnpackedFloat.normalize, greater]
  rfl

/-- A whole number of 53 bits is a float. -/
theorem toFloat_exact {units : Nat} (positive : 0 < units) (fits : units < 2 ^ 53) :
    ∃ mantissa exponent, units.toUInt64.toFloat.toModel.unpack = ofComponents .positive mantissa exponent ∧
      scaled mantissa exponent = units := by
  obtain ⟨mantissa, exponent, rounds, rounded⟩ := round_rounded .binary64 .positive positive.ne' 0
  have same : scaled units 0 = units := by rw [scaled, zpow_zero, mul_one]
  have exact := rounded.exact fits (by decide)
  have small : scaled units 0 < 2 ^ (53 : Int) := by
    rw [same]
    exact_mod_cast fits
  have inRange := rounded.exponent_le (scaled_nonnegative _ _) small
  change exponent ≤ max (53 + 1 - 53) (-1074) at inRange
  refine ⟨mantissa, exponent, ?_, exact.trans same⟩
  have kept : units.toUInt64.toNat = units := UInt64.toNat_ofNat_of_lt (fits.trans (by decide))
  change (Float.Model.pack (UnpackedFloat.normalize .binary64 (units.toUInt64.toNat : Nat) 0 .positive)).unpack = _
  rw [kept, normalize_positive positive, rounds]
  exact unpack_pack rounded.canonical (by omega)

theorem tenThousand_unpack : (Float.ofBits 0x40C3880000000000).toModel.unpack =
    .finite .positive 5497558138880000 (-39) (by decide) := rfl

/-- A decimal with four places is read as the nearest float. -/
theorem ofScientific_rounded {units : Nat} (positive : 0 < units) {bound : Int}
    (fits : (units : Rat) / 10 ^ 4 < 2 ^ bound) (inRange : bound ≤ 1023) :
    ∃ mantissa exponent, (Float.ofScientific units true 4).toModel.unpack = ofComponents .positive mantissa exponent ∧
      Rounded .binary64 ((units : Rat) / 10 ^ 4) mantissa exponent ∧ exponent ≤ 971 := by
  have packed {mantissa : Nat} {exponent : Int}
      (rounded : Rounded .binary64 ((units : Rat) / 10 ^ 4) mantissa exponent) :
      (Float.Model.pack (ofComponents .positive mantissa exponent)).unpack =
        ofComponents .positive mantissa exponent ∧ exponent ≤ 971 := by
    have small := rounded.exponent_le (by positivity) fits
    change exponent ≤ max (bound + 1 - 53) (-1074) at small
    exact ⟨unpack_pack rounded.canonical (by omega), by omega⟩
  by_cases fast : units < 2 ^ 53
  · -- The units and the power of ten are floats, so only the division rounds.
    obtain ⟨whole, place, wholeUnpacked, exact⟩ := toFloat_exact positive fast
    have nonzero : whole ≠ 0 := by
      rintro rfl
      rw [scaled_zero] at exact
      exact positive.ne (by exact_mod_cast exact)
    rw [ofComponents, dif_neg nonzero] at wholeUnpacked
    obtain ⟨mantissa, exponent, divides, rounded⟩ :=
      div_rounded .binary64 .positive .positive place (-39) (Nat.pos_of_ne_zero nonzero)
        (by decide : 0 < 5497558138880000)
    have divisor : scaled 5497558138880000 (-39) = 10 ^ 4 := by
      rw [scaled]
      norm_num
    rw [exact, divisor] at rounded
    refine ⟨mantissa, exponent, ?_, rounded, (packed rounded).2⟩
    rw [Float.ofScientific, dif_pos ⟨fast, by decide⟩, if_pos rfl]
    change (Float.Model.pack (UnpackedFloat.div .binary64 units.toUInt64.toFloat.toModel.unpack
      (Float.ofBits 0x40C3880000000000).toModel.unpack)).unpack = _
    rw [wholeUnpacked, tenThousand_unpack, divides]
    exact (packed rounded).1
  · obtain ⟨mantissa, exponent, divides, rounded⟩ :=
      div_rounded .binary64 .positive .positive 0 0 positive (by decide : 0 < 10 ^ 4)
    have quotient : scaled units 0 / scaled (10 ^ 4) 0 = (units : Rat) / 10 ^ 4 := by
      rw [scaled, scaled, zpow_zero, mul_one, mul_one]
      norm_num
    rw [quotient] at rounded
    refine ⟨mantissa, exponent, ?_, rounded, (packed rounded).2⟩
    have notTiny : ¬ (-4 : Int) < -((2 ^ Format.binary64.exponentBits : Int) + units.log2) := by
      change ¬ (-4 : Int) < -((2048 : Int) + units.log2)
      omega
    rw [Float.ofScientific, dif_neg fun both => fast both.1, if_pos rfl]
    change (Float.Model.pack (UnpackedFloat.ofScientific .binary64 units (-4))).unpack = _
    rw [UnpackedFloat.ofScientific, dif_neg positive.ne', if_neg (by decide), if_neg notTiny, if_neg (by decide)]
    exact (congrArg (fun unpacked => (Float.Model.pack unpacked).unpack) divides).trans (packed rounded).1

/-- A decimal that is rounded from a float is read as a float that is nearly as close. -/
theorem ofScientific_near {units mantissa : Nat} {exponent bound : Int} (positive : 0 < units)
    (canonical : Canonical .binary64 mantissa exponent) (fits : (units : Rat) / 10 ^ 4 < 2 ^ bound)
    (inRange : bound ≤ 1023) (near : |(units : Rat) / 10 ^ 4 - scaled mantissa exponent| ≤ 1 / 20000) :
    ∃ result power, (Float.ofScientific units true 4).toModel.unpack = ofComponents .positive result power ∧
      Canonical .binary64 result power ∧ power ≤ 971 ∧
      |scaled result power - scaled mantissa exponent| ≤ 1 / 10000 := by
  obtain ⟨result, power, unpacked, rounded, small⟩ := ofScientific_rounded positive fits inRange
  refine ⟨result, power, unpacked, rounded.canonical, small, ?_⟩
  have nearest := rounded.nearest canonical.small canonical.least
  have triangle := abs_sub_le (scaled result power) ((units : Rat) / 10 ^ 4) (scaled mantissa exponent)
  rw [abs_sub_comm (scaled mantissa exponent)] at nearest
  linarith

end Decimals

section Naturals

theorem one_unpack : (Float.ofBits 0x3FF0000000000000).toModel.unpack =
    .finite .positive 4503599627370496 (-52) (by decide) := rfl

theorem exactValue_of_unpack {value : Float} {sign : Sign} {mantissa : Nat} {exponent : Int}
    (unpacked : value.toModel.unpack = ofComponents sign mantissa exponent) :
    exactValue value = signed sign (scaled mantissa exponent) := by
  rw [exactValue, unpacked, exactly_ofComponents]

/-- A value of less than 1023 bits is packed as it is rounded. -/
theorem unpack_rounded {value : Rat} {mantissa : Nat} {exponent : Int}
    (rounded : Rounded .binary64 value mantissa exponent) (nonnegative : 0 ≤ value) (below : value < 2 ^ (1023 : Int)) :
    (Float.Model.pack (ofComponents .positive mantissa exponent)).unpack = ofComponents .positive mantissa exponent := by
  have small := rounded.exponent_le nonnegative below
  change exponent ≤ max (1023 + 1 - 53) (-1074) at small
  exact unpack_pack rounded.canonical (by omega)

theorem ne_zero_of_scaled {number mantissa : Nat} {exponent : Int} (positive : 0 < number)
    (exact : scaled mantissa exponent = number) : mantissa ≠ 0 := by
  rintro rfl
  rw [scaled_zero] at exact
  exact positive.ne (by exact_mod_cast exact)

/-- A natural number of 53 bits is a float. -/
theorem unpack_ofNat {number : Nat} (positive : 0 < number) (fits : number < 2 ^ 53) :
    ∃ mantissa exponent, (Float.ofNat number).toModel.unpack = ofComponents .positive mantissa exponent ∧
      scaled mantissa exponent = number := by
  obtain ⟨whole, place, wholeUnpacked, exact⟩ := toFloat_exact positive fits
  have nonzero := ne_zero_of_scaled positive exact
  rw [ofComponents, dif_neg nonzero] at wholeUnpacked
  have fine : place + -52 ≤ Format.binary64.targetExponent (totalExponent (whole * 4503599627370496) (place + -52)) := by
    have wide : 52 ≤ (whole * 4503599627370496).log2 := by
      rw [Nat.le_log2 (by omega)]
      omega
    change place + -52 ≤ max (((whole * 4503599627370496).log2 : Int) + 1 + (place + -52) - (53 : Nat)) (-1074)
    omega
  obtain ⟨mantissa, exponent, rounds, rounded⟩ :=
    roundWithAccuracy_rounded .binary64 .positive (locates_exact (whole * 4503599627370496)) fine
  have value : ((whole * 4503599627370496 : Nat) : Rat) * 2 ^ (place + -52) = scaled number 0 := by
    have shifted := scaled_shift whole 52 (place + -52)
    rw [show place + -52 + ((52 : Nat) : Int) = place by omega, exact] at shifted
    change scaled (whole * 2 ^ 52) (place + -52) = _
    rw [shifted, scaled, zpow_zero, mul_one]
  rw [value] at rounded
  have small : scaled number 0 < 2 ^ (1023 : Int) := by
    have bounded : (number : Rat) < 2 ^ (53 : Int) := by exact_mod_cast fits
    rw [scaled, zpow_zero, mul_one]
    exact bounded.trans_le (zpow_le_zpow_right₀ one_le_two (by decide))
  refine ⟨mantissa, exponent, ?_, ?_⟩
  · rw [Float.ofNat, OfScientific.ofScientific]
    change (Float.ofScientific number false 0).toModel.unpack = _
    rw [Float.ofScientific, dif_pos ⟨fits, by decide⟩, if_neg Bool.false_ne_true]
    change (Float.Model.pack (UnpackedFloat.mul .binary64 number.toUInt64.toFloat.toModel.unpack
      (Float.ofBits 0x3FF0000000000000).toModel.unpack)).unpack = _
    rw [wholeUnpacked, one_unpack]
    exact (congrArg (fun unpacked => (Float.Model.pack unpacked).unpack) rounds).trans
      (unpack_rounded rounded (scaled_nonnegative _ _) small)
  · have same := rounded.exact fits (by decide)
    rw [same, scaled, zpow_zero, mul_one]

/-- The quotient of natural numbers is a float that rounds the exact quotient. -/
theorem unpack_ofNat_div {numerator denominator : Nat} (positive : 0 < numerator) (divides : 0 < denominator)
    (small : numerator < 2 ^ 53) (few : denominator < 2 ^ 53) :
    ∃ mantissa exponent, (Float.ofNat numerator / Float.ofNat denominator).toModel.unpack =
        ofComponents .positive mantissa exponent ∧
      Rounded .binary64 ((numerator : Rat) / denominator) mantissa exponent := by
  obtain ⟨top, topPlace, topUnpacked, topExact⟩ := unpack_ofNat positive small
  obtain ⟨low, lowPlace, lowUnpacked, lowExact⟩ := unpack_ofNat divides few
  have topNonzero := ne_zero_of_scaled positive topExact
  have lowNonzero := ne_zero_of_scaled divides lowExact
  rw [ofComponents, dif_neg topNonzero] at topUnpacked
  rw [ofComponents, dif_neg lowNonzero] at lowUnpacked
  obtain ⟨mantissa, exponent, quotient, rounded⟩ := div_rounded .binary64 .positive .positive topPlace lowPlace
    (Nat.pos_of_ne_zero topNonzero) (Nat.pos_of_ne_zero lowNonzero)
  rw [topExact, lowExact] at rounded
  have below : (numerator : Rat) / denominator < 2 ^ (1023 : Int) := by
    have fits : (numerator : Rat) < 2 ^ (53 : Int) := by exact_mod_cast small
    have one : (1 : Rat) ≤ denominator := by exact_mod_cast divides
    exact (div_le_self (by positivity) one).trans_lt (fits.trans_le (zpow_le_zpow_right₀ one_le_two (by decide)))
  refine ⟨mantissa, exponent, ?_, rounded⟩
  change (Float.Model.pack (UnpackedFloat.div .binary64 (Float.ofNat numerator).toModel.unpack
    (Float.ofNat denominator).toModel.unpack)).unpack = _
  rw [topUnpacked, lowUnpacked]
  exact (congrArg (fun unpacked => (Float.Model.pack unpacked).unpack) quotient).trans
    (unpack_rounded rounded (by positivity) below)

/-- A number that is not above a natural number is rounded to one that is not. -/
theorem Rounded.le_of_le {value : Rat} {mantissa number : Nat} {exponent : Int}
    (rounded : Rounded .binary64 value mantissa exponent) (bounded : number < 2 ^ 53) (le : value ≤ number) :
    scaled mantissa exponent ≤ number := by
  have nearest : |scaled mantissa exponent - value| ≤ |scaled number 0 - value| := rounded.nearest bounded (by decide)
  have whole : scaled number 0 = number := by rw [scaled, zpow_zero, mul_one]
  rw [whole, abs_of_nonneg (sub_nonneg.mpr le)] at nearest
  linarith [le_abs_self (scaled mantissa exponent - value)]

/-- A number that exceeds a natural number by more than a quarter is rounded to one that exceeds it. -/
theorem Rounded.lt_of_apart {value : Rat} {mantissa number quarters : Nat} {exponent : Int}
    (rounded : Rounded .binary64 value mantissa exponent) (apart : (number : Rat) + 1 / 4 < value)
    (small : quarters < 2 ^ 53) (below : (quarters : Rat) ≤ 4 * value) (above : 4 * value < (quarters : Rat) + 1) :
    (number : Rat) < scaled mantissa exponent := by
  -- The quarter below the value is a float, and it is nearer than a number that the value exceeds so far.
  by_contra le
  have nearest : |scaled mantissa exponent - value| ≤ |scaled quarters (-2) - value| :=
    rounded.nearest small (by decide)
  have quarter : scaled quarters (-2) = (quarters : Rat) / 4 := by
    rw [scaled, div_eq_mul_inv]
    norm_num
  rw [quarter, abs_le] at nearest
  rw [abs_of_nonpos (by linarith)] at nearest
  linarith [nearest.1]

/-- A quotient of small numbers is compared with a natural number as the exact quotient is. -/
theorem ofNat_div_le_iff {numerator denominator number : Nat} (positive : 0 < numerator) (divides : 0 < denominator)
    (few : denominator < 4) (small : 4 * numerator < 2 ^ 53) (bounded : number < 2 ^ 53) (counted : 0 < number) :
    Float.ofNat numerator / Float.ofNat denominator ≤ Float.ofNat number ↔ numerator ≤ denominator * number := by
  obtain ⟨mantissa, exponent, unpacked, rounded⟩ := unpack_ofNat_div positive divides (by omega) (by omega)
  obtain ⟨_, _, numberUnpacked, numberExact⟩ := unpack_ofNat counted bounded
  rw [le_iff_exactValue (isFinite_of_unpack unpacked) (isFinite_of_unpack numberUnpacked),
    exactValue_of_unpack unpacked, exactValue_of_unpack numberUnpacked, numberExact]
  change scaled mantissa exponent ≤ number ↔ _
  have above : (0 : Rat) < denominator := by exact_mod_cast divides
  constructor
  · intro le
    by_contra less
    have quarterBelow : ((4 * numerator / denominator : Nat) : Rat) ≤ 4 * ((numerator : Rat) / denominator) := by
      have floor : ((4 * numerator / denominator : Nat) : Rat) ≤ ((4 * numerator : Nat) : Rat) / denominator :=
        Nat.cast_div_le
      rw [Nat.cast_mul, mul_div_assoc] at floor
      exact floor
    have quarterAbove : 4 * ((numerator : Rat) / denominator) < ((4 * numerator / denominator : Nat) : Rat) + 1 := by
      have next : 4 * numerator < (4 * numerator / denominator + 1) * denominator := by
        rw [Nat.mul_comm (4 * numerator / denominator + 1)]
        exact Nat.lt_mul_div_succ (4 * numerator) divides
      rw [← mul_div_assoc, div_lt_iff₀ above]
      exact_mod_cast next
    have apart : (number : Rat) + 1 / 4 < numerator / denominator := by
      have whole : denominator * number + 1 ≤ numerator := by omega
      have cast : (denominator : Rat) * number + 1 ≤ numerator := by exact_mod_cast whole
      have fourth : (denominator : Rat) < 4 := by exact_mod_cast few
      rw [lt_div_iff₀ above]
      linarith
    have quarters : 4 * numerator / denominator < 2 ^ 53 := (Nat.div_le_self _ _).trans_lt small
    exact absurd le (rounded.lt_of_apart apart quarters quarterBelow quarterAbove).not_ge
  · intro le
    have atMost : (numerator : Rat) / denominator ≤ number := by
      rw [div_le_iff₀ above]
      exact_mod_cast (Nat.mul_comm denominator number ▸ le)
    exact rounded.le_of_le bounded atMost

end Naturals

end Pxtly.Foundation
