/-
This file gives numbers of a fixed width and parts that follow their lengths, and how both are read back.
-/

import Mathlib.Data.List.Induction
import Pxtly.Foundation.Bytes

namespace Pxtly.Foundation

section Widths

theorem readBigEndian_append (bytes : Bytes) (byte : UInt8) :
    readBigEndian (bytes ++ [byte]) = readBigEndian bytes * 256 + byte.toNat := by
  rw [readBigEndian, readBigEndian, List.foldl_append]
  rfl

/-- A number that fits the width is read back. -/
theorem readBigEndian_bigEndian (width value : Nat) : readBigEndian (bigEndian width value) = value % 256 ^ width := by
  induction width generalizing value with
  | zero => rw [pow_zero, Nat.mod_one]; rfl
  | succ width inductionHypothesis =>
      have byte : (UInt8.ofNat value).toNat = value % 256 := UInt8.toNat_ofNat'
      rw [bigEndian, readBigEndian_append, inductionHypothesis, byte, Nat.pow_succ, Nat.mul_comm (256 ^ width),
        Nat.mod_mul]
      omega

theorem bigEndian_inj {width first second : Nat} (firstFits : first < 256 ^ width) (secondFits : second < 256 ^ width)
    (same : bigEndian width first = bigEndian width second) : first = second := by
  have read := congrArg readBigEndian same
  rwa [readBigEndian_bigEndian, readBigEndian_bigEndian, Nat.mod_eq_of_lt firstFits,
    Nat.mod_eq_of_lt secondFits] at read

/-- Bytes are written again from the number that they stand for. -/
theorem bigEndian_readBigEndian (bytes : Bytes) : bigEndian bytes.length (readBigEndian bytes) = bytes := by
  induction bytes using List.reverseRecOn with
  | nil => rfl
  | append_singleton bytes byte inductionHypothesis =>
      have small : byte.toNat < 256 := byte.toNat_lt
      have high : (readBigEndian bytes * 256 + byte.toNat) / 256 = readBigEndian bytes := by omega
      have low : UInt8.ofNat (readBigEndian bytes * 256 + byte.toNat) = byte := by
        apply UInt8.toNat_inj.mp
        rw [UInt8.toNat_ofNat']
        omega
      rw [List.length_append, List.length_singleton, bigEndian, readBigEndian_append, high, low, inductionHypothesis]

/-- Different bytes of one length stand for different numbers. -/
theorem readBigEndian_inj {first second : Bytes} (size : first.length = second.length)
    (same : readBigEndian first = readBigEndian second) : first = second := by
  rw [← bigEndian_readBigEndian first, ← bigEndian_readBigEndian second, size, same]

end Widths

section Frames

/-- Each part follows its length, which fills four bytes. -/
def framed (parts : List Bytes) : Bytes := parts.flatMap fun part => bigEndian 4 part.length ++ part

theorem framed_cons (part : Bytes) (rest : List Bytes) :
    framed (part :: rest) = bigEndian 4 part.length ++ (part ++ framed rest) := by
  rw [framed, List.flatMap_cons, List.append_assoc]
  rfl

/-- The parts are read back from their frames, whatever bytes they have. -/
theorem framed_injective {first second : List Bytes} (firstSized : ∀ part ∈ first, part.length < 2 ^ 32)
    (secondSized : ∀ part ∈ second, part.length < 2 ^ 32) (same : framed first = framed second) : first = second := by
  have occupied (part : Bytes) (rest : List Bytes) : framed (part :: rest) ≠ [] := by
    intro empty
    have size := congrArg List.length empty
    rw [framed_cons, List.length_append, length_bigEndian, List.length_nil] at size
    omega
  induction first generalizing second with
  | nil =>
      cases second with
      | nil => rfl
      | cons part rest => exact absurd same.symm (occupied part rest)
  | cons part rest inductionHypothesis =>
      cases second with
      | nil => exact absurd same (occupied part rest)
      | cons other others =>
          obtain ⟨partSized, restSized⟩ := List.forall_mem_cons.mp firstSized
          obtain ⟨otherSized, othersSized⟩ := List.forall_mem_cons.mp secondSized
          rw [framed_cons, framed_cons] at same
          obtain ⟨lengths, bodies⟩ := List.append_inj same (by rw [length_bigEndian, length_bigEndian])
          have size : part.length = other.length := bigEndian_inj partSized otherSized lengths
          obtain ⟨rfl, later⟩ := List.append_inj bodies size
          rw [inductionHypothesis restSized othersSized later]

end Frames

end Pxtly.Foundation
