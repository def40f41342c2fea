/-
This file gives the hexadecimal texts of integers, which `int` reads back.
-/

import Pxtly.Foundation.Python

namespace Pxtly.Foundation

/-- This is `hex(value)`. -/
def hexInt : Int → String
  | .ofNat value => String.ofList ('0' :: 'x' :: Nat.toDigits 16 value)
  | .negSucc value => String.ofList ('-' :: '0' :: 'x' :: Nat.toDigits 16 (value + 1))

section Digits

/-- These are the characters of a hexadecimal text behind its prefix. -/
def IsHexDigit (c : Char) : Prop := ∃ digit < 16, hexDigit digit = c

theorem digitChar_eq_hexDigit : ∀ digit < 16, Nat.digitChar digit = hexDigit digit := by decide

theorem isHexDigit_toDigits (value : Nat) : ∀ c ∈ Nat.toDigits 16 value, IsHexDigit c := by
  induction value using Nat.strongRecOn with
  | ind value inductionHypothesis =>
      intro c member
      rw [Nat.toDigits_eq_if (by decide)] at member
      split at member
      · next small =>
          rw [List.mem_singleton.mp member]
          exact ⟨value, small, (digitChar_eq_hexDigit value small).symm⟩
      · next large =>
          rcases List.mem_append.mp member with front | last
          · exact inductionHypothesis (value / 16) (by omega) c front
          · have small : value % 16 < 16 := Nat.mod_lt value (by decide)
            rw [List.mem_singleton.mp last]
            exact ⟨value % 16, small, (digitChar_eq_hexDigit _ small).symm⟩

/-- The value that digits stand for behind an earlier value. -/
def digitsValue (value : Nat) (digits : List Char) : Nat :=
  digits.foldl (fun value c => 16 * value + (hexValue c).getD 0) value

theorem digitsValue_toDigits (value : Nat) : digitsValue 0 (Nat.toDigits 16 value) = value := by
  have last (digit : Nat) (small : digit < 16) : (hexValue digit.digitChar).getD 0 = digit := by
    rw [digitChar_eq_hexDigit digit small, hexValue_hexDigit digit small]
    rfl
  induction value using Nat.strongRecOn with
  | ind value inductionHypothesis =>
      rw [Nat.toDigits_eq_if (by decide)]
      split
      · next small =>
          change 16 * 0 + (hexValue value.digitChar).getD 0 = value
          rw [last value small]
          omega
      · next large =>
          have front := inductionHypothesis (value / 16) (by omega)
          rw [digitsValue, List.foldl_append]
          change 16 * digitsValue 0 (Nat.toDigits 16 (value / 16)) + (hexValue (value % 16).digitChar).getD 0 = value
          rw [front, last _ (Nat.mod_lt value (by decide))]
          omega

theorem ne_underscore {c : Char} (digit : IsHexDigit c) : c ≠ '_' := by
  have each : ∀ digit < 16, hexDigit digit ≠ '_' := by decide
  obtain ⟨value, small, rfl⟩ := digit
  exact each value small

theorem readDigits16_of_digits {digits : List Char} (value : Nat) (all : ∀ c ∈ digits, IsHexDigit c) :
    readDigits16 value true digits = some (digitsValue value digits) := by
  induction digits generalizing value with
  | nil => rfl
  | cons c rest inductionHypothesis =>
      obtain ⟨first, later⟩ := List.forall_mem_cons.mp all
      have apart := ne_underscore first
      obtain ⟨digit, small, rfl⟩ := first
      rw [readDigits16, if_neg apart, hexValue_hexDigit digit small, Option.bind_some, inductionHypothesis _ later,
        digitsValue, digitsValue, List.foldl_cons, hexValue_hexDigit digit small, Option.getD_some]

/-- The digits of a number are read back behind their prefix. -/
theorem read_toDigits (value : Nat) :
    readDigits16 0 false (withoutPrefix ('0' :: 'x' :: Nat.toDigits 16 value)) = some value := by
  have all := isHexDigit_toDigits value
  have whole := digitsValue_toDigits value
  have occupied : Nat.toDigits 16 value ≠ [] := Nat.toDigits_ne_nil
  generalize Nat.toDigits 16 value = digits at all whole occupied
  cases digits with
  | nil => exact absurd rfl occupied
  | cons c rest =>
      have apart := ne_underscore (all c List.mem_cons_self)
      have behind : withoutPrefix ('0' :: 'x' :: c :: rest) = c :: rest := by
        rw [withoutPrefix.eq_def]
        split <;> simp_all
      have read := readDigits16_of_digits 0 all
      rw [behind, ← whole, ← read, readDigits16, readDigits16, if_neg apart, if_neg apart]

end Digits

section Texts

/-- A text without spaces in ASCII is trimmed to itself. -/
theorem dropWhile_of_forall {text : List Char} (solid : ∀ c ∈ text, isAsciiSpace c = false) :
    text.dropWhile isAsciiSpace = text := by
  cases text with
  | nil => rfl
  | cons c rest => rw [List.dropWhile_cons_of_neg (by simp [solid c List.mem_cons_self])]

/-- `int` reads such a character as it is. -/
structure Plain (c : Char) : Prop where
  ascii : asciiOf c = c
  solid : isAsciiSpace c = false

theorem plain_of_digit {c : Char} (digit : IsHexDigit c) : Plain c := by
  have ascii : ∀ digit < 16, asciiOf (hexDigit digit) = hexDigit digit := by decide
  have solid : ∀ digit < 16, isAsciiSpace (hexDigit digit) = false := by decide
  obtain ⟨value, small, rfl⟩ := digit
  exact ⟨ascii value small, solid value small⟩

theorem trim_of_plain {text : List Char} (plain : ∀ c ∈ text, Plain c) :
    (((text.map asciiOf).dropWhile isAsciiSpace).reverse.dropWhile isAsciiSpace).reverse = text := by
  have same : text.map asciiOf = text := by
    rw [List.map_congr_left fun c member => (plain c member).ascii, List.map_id']
  have solid : ∀ c ∈ text, isAsciiSpace c = false := fun c member => (plain c member).solid
  have reversed : ∀ c ∈ text.reverse, isAsciiSpace c = false := fun c member => solid c (List.mem_reverse.mp member)
  rw [same, dropWhile_of_forall solid, dropWhile_of_forall reversed, List.reverse_reverse]

/-- A written integer is read back. -/
theorem int16_hexInt (value : Int) : int16 (hexInt value) = some value := by
  have plain (value : Nat) : ∀ c ∈ '0' :: 'x' :: Nat.toDigits 16 value, Plain c := by
    simp only [List.forall_mem_cons]
    exact ⟨⟨by decide, by decide⟩, ⟨by decide, by decide⟩, fun c member =>
      plain_of_digit (isHexDigit_toDigits value c member)⟩
  cases value with
  | ofNat value =>
      rw [int16, hexInt, String.toList_ofList, trim_of_plain (plain value)]
      change (readDigits16 0 false (withoutPrefix ('0' :: 'x' :: Nat.toDigits 16 value))).map Int.ofNat = _
      rw [read_toDigits]
      rfl
  | negSucc value =>
      have signed : ∀ c ∈ '-' :: '0' :: 'x' :: Nat.toDigits 16 (value + 1), Plain c :=
        List.forall_mem_cons.mpr ⟨⟨by decide, by decide⟩, plain (value + 1)⟩
      rw [int16, hexInt, String.toList_ofList, trim_of_plain signed]
      change (readDigits16 0 false (withoutPrefix ('0' :: 'x' :: Nat.toDigits 16 (value + 1)))).map
        (fun value => -(value : Int)) = _
      rw [read_toDigits]
      rfl

end Texts

end Pxtly.Foundation
