/-
This file gives the Schnorr proofs over secp256k1 and their verification.
-/

import Pxtly.Foundation.Python
import Pxtly.Foundation.Sha256

namespace Pxtly.Zkp

open Foundation

abbrev Point := Int × Int

namespace Secp256k1

def P : Int := 0xfffffffffffffffffffffffffffffffffffffffffffffffffffffffefffffc2f

def N : Int := 0xfffffffffffffffffffffffffffffffebaaedce6af48a03bbfd25e8cd0364141

def G : Point :=
  (0x79be667ef9dcbbac55a06295ce870b07029bfcdb2dce28d959f2815b16f81798,
    0x483ada7726a3c4655da4fbfc0e1108a8fd17b448a68554199c47d08ffb10d4b8)

end Secp256k1

open Secp256k1

/-- The package `py_ecc` has these two operations on points. -/
structure Curve where
  multiply : Point → Int → Point
  add : Point → Point → Point

def isOnCurve (point : Point) : Bool :=
  (0 ≤ point.1 && point.1 < P) && (0 ≤ point.2 && point.2 < P) &&
    (point.2 * point.2 - point.1 * point.1 * point.1 - 7) % P == 0

/-- `to_bytes(32, "big")` raises no error for the coordinates. -/
def FillsBytes (point : Point) : Prop :=
  (0 ≤ point.1 ∧ point.1 < 256 ^ 32) ∧ 0 ≤ point.2 ∧ point.2 < 256 ^ 32

instance : DecidablePred FillsBytes := fun _ => inferInstanceAs (Decidable (_ ∧ _))

/-- The coordinates of a point on the curve fill 32 bytes each. -/
def pointToBytes (point : Point) : Bytes := bigEndian 32 point.1.toNat ++ bigEndian 32 point.2.toNat

theorem length_pointToBytes (point : Point) : (pointToBytes point).length = 64 := by
  rw [pointToBytes, List.length_append, length_bigEndian, length_bigEndian]

theorem fillsBytes_of_isOnCurve {point : Point} (curve : isOnCurve point = true) : FillsBytes point := by
  have field : P < 256 ^ 32 := by decide
  simp only [isOnCurve, Bool.and_eq_true, decide_eq_true_eq] at curve
  obtain ⟨⟨⟨xLeast, xMost⟩, yLeast, yMost⟩, _⟩ := curve
  exact ⟨⟨xLeast, xMost.trans field⟩, yLeast, yMost.trans field⟩

def scalarFromBytes (bytes : Bytes) : Int := readBigEndian bytes % N

/-- Each part follows its length; `struct.pack` raises an error where a length does not fit 32 bits. -/
def hashToScalar (parts : List Bytes) : Option Int :=
  if ∀ part ∈ parts, part.length < 2 ^ 32 then
    some (scalarFromBytes (sha256 (parts.flatMap fun part => bigEndian 4 part.length ++ part)))
  else none

structure SchnorrProof where
  rx : Int
  ry : Int
  s : Int
  deriving DecidableEq

/-- The challenge depends on the commitment, the key and the context. -/
def schnorrVerify (curve : Curve) (proof : SchnorrProof) (key : Point) (context : Bytes) : Option Bool :=
  let commitment : Point := (proof.rx, proof.ry)
  if !isOnCurve key || !isOnCurve commitment then some false
  else if ¬ (0 ≤ proof.s ∧ proof.s < N) then some false
  else (hashToScalar [pointToBytes commitment, pointToBytes key, context]).map fun challenge =>
    curve.add (curve.multiply G (proof.s % N)) (curve.multiply key (challenge % N)) == commitment

def pointFromHex (x y : String) : Option Point := do
  return (← int16 x, ← int16 y)

section Arithmetic

/-- The point with coordinates `x / z ^ 2` and `y / z ^ 3` stands for the point at infinity where `y` is zero. -/
structure Jacobian where
  x : Int
  y : Int
  z : Int

def Jacobian.double (point : Jacobian) : Jacobian :=
  if point.y = 0 then ⟨0, 0, 0⟩
  else
    let square := point.y ^ 2 % P
    let s := 4 * point.x * square % P
    let m := 3 * point.x ^ 2 % P
    let x := (m ^ 2 - 2 * s) % P
    ⟨x, (m * (s - x) - 8 * square ^ 2) % P, 2 * point.y * point.z % P⟩

def Jacobian.add (first second : Jacobian) : Jacobian :=
  if first.y = 0 then second
  else if second.y = 0 then first
  else
    let u1 := first.x * second.z ^ 2 % P
    let u2 := second.x * first.z ^ 2 % P
    let s1 := first.y * second.z ^ 3 % P
    let s2 := second.y * first.z ^ 3 % P
    if u1 = u2 then if s1 = s2 then first.double else ⟨0, 0, 1⟩
    else
      let h := u2 - u1
      let r := s2 - s1
      let x := (r ^ 2 - h ^ 3 - 2 * u1 * h ^ 2) % P
      ⟨x, (r * (u1 * h ^ 2 - x) - s1 * h ^ 3) % P, h * first.z * second.z % P⟩

/-- The scalar has no more bits than the first argument. -/
def Jacobian.multiply (point : Jacobian) : Nat → Int → Jacobian
  | 0, _ => ⟨0, 0, 1⟩
  | bits + 1, scalar =>
      if point.y = 0 ∨ scalar = 0 then ⟨0, 0, 1⟩
      else
        let even := (point.multiply bits (scalar / 2)).double
        if scalar % 2 = 0 then even else even.add point

/-- By Fermat's theorem this power is the inverse. -/
def power (base : Int) : Nat → Int → Int
  | 0, _ => 1
  | bits + 1, exponent =>
      let even := power base bits (exponent / 2) ^ 2 % P
      if exponent % 2 = 0 then even else even * base % P

def Jacobian.affine (point : Jacobian) : Point :=
  let inverse := power point.z 256 (P - 2)
  (point.x * inverse ^ 2 % P, point.y * inverse ^ 3 % P)

/-- This is the curve as `py_ecc` computes it. -/
def secp256k1 : Curve where
  multiply point scalar := (Jacobian.multiply ⟨point.1, point.2, 1⟩ 256 (scalar % N)).affine
  add first second := (Jacobian.add ⟨first.1, first.2, 1⟩ ⟨second.1, second.2, 1⟩).affine

end Arithmetic

end Pxtly.Zkp
