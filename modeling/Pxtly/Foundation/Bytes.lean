/-
This file gives byte strings, the UTF-8 encoding of texts, and the hexadecimal texts of bytes.
-/

import Mathlib.Data.List.Basic
import Mathlib.Data.String.Basic
import Mathlib.Tactic.Common
import Mathlib.Tactic.Ring

namespace Pxtly.Foundation

abbrev Bytes := List UInt8

/-- This is `str.encode()`. -/
def encode (text : String) : Bytes := text.toUTF8.data.toList

theorem encode_injective : Function.Injective encode := by
  intro first second same
  have data : first.toUTF8.data = second.toUTF8.data := Array.toList_inj.mp same
  have bytes : first.toUTF8 = second.toUTF8 := ByteArray.ext data
  exact String.toByteArray_inj.mp bytes

/-- This is `int.to_bytes(width, "big")`, without the error for a number that does not fit. -/
def bigEndian : Nat → Nat → Bytes
  | 0, _ => []
  | width + 1, value => bigEndian width (value / 256) ++ [UInt8.ofNat value]

@[simp] theorem length_bigEndian (width value : Nat) : (bigEndian width value).length = width := by
  induction width generalizing value with
  | zero => rfl
  | succ width inductionHypothesis => simp [bigEndian, inductionHypothesis]

/-- This is `int.from_bytes(bytes, "big")`. -/
def readBigEndian (bytes : Bytes) : Nat := bytes.foldl (fun value byte => value * 256 + byte.toNat) 0

def hexDigit (value : Nat) : Char := if value < 10 then Char.ofNat (48 + value) else Char.ofNat (87 + value)

def hexValue (c : Char) : Option Nat :=
  if '0' ≤ c ∧ c ≤ '9' then some (c.toNat - 48)
  else if 'a' ≤ c ∧ c ≤ 'f' then some (c.toNat - 87)
  else if 'A' ≤ c ∧ c ≤ 'F' then some (c.toNat - 55)
  else none

def hexDigits : Bytes → List Char
  | [] => []
  | byte :: bytes => hexDigit (byte.toNat / 16) :: hexDigit (byte.toNat % 16) :: hexDigits bytes

/-- This is `bytes.hex()`. -/
def hex (bytes : Bytes) : String := String.ofList (hexDigits bytes)

/-- White space may stand between the bytes. -/
def isHexSpace (c : Char) : Bool := c == ' ' || (9 ≤ c.toNat && c.toNat ≤ 13)

def readHex : List Char → Option Bytes
  | [] => some []
  | [c] => if isHexSpace c then some [] else none
  | c :: d :: rest =>
      if isHexSpace c then readHex (d :: rest)
      else do
        let high ← hexValue c
        let low ← hexValue d
        let bytes ← readHex rest
        return UInt8.ofNat (high * 16 + low) :: bytes

/-- This is `bytes.fromhex(text)`; it raises an error where the result is missing. -/
def fromHex (text : String) : Option Bytes := readHex text.toList

theorem hexValue_hexDigit : ∀ value < 16, hexValue (hexDigit value) = some value := by decide

theorem not_space_hexDigit : ∀ value < 16, isHexSpace (hexDigit value) = false := by decide

theorem readHex_hexDigits (bytes : Bytes) : readHex (hexDigits bytes) = some bytes := by
  induction bytes with
  | nil => rfl
  | cons byte bytes inductionHypothesis =>
      have small : byte.toNat < 256 := byte.toNat_lt
      have high : byte.toNat / 16 < 16 := by omega
      have low : byte.toNat % 16 < 16 := by omega
      have whole : byte.toNat / 16 * 16 + byte.toNat % 16 = byte.toNat := by omega
      have read : UInt8.ofNat (byte.toNat / 16 * 16 + byte.toNat % 16) = byte := by
        rw [whole, UInt8.ofNat_toNat]
      rw [hexDigits, readHex, if_neg (by simp [not_space_hexDigit _ high]), hexValue_hexDigit _ high,
        hexValue_hexDigit _ low, inductionHypothesis]
      exact congrArg (fun byte => some (byte :: bytes)) read

/-- A text of bytes is read back. -/
@[simp] theorem fromHex_hex (bytes : Bytes) : fromHex (hex bytes) = some bytes := by
  rw [fromHex, hex, String.toList_ofList, readHex_hexDigits]

theorem hex_injective : Function.Injective hex := by
  intro first second same
  have read : some first = some second := by rw [← fromHex_hex first, ← fromHex_hex second, same]
  exact Option.some.inj read

@[simp] theorem hex_inj (first second : Bytes) : hex first = hex second ↔ first = second :=
  hex_injective.eq_iff

end Pxtly.Foundation
