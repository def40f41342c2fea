/-
This file gives the base64 texts of bytes in the alphabet for addresses, and how Python reads them.
-/

import Mathlib.Data.List.DropRight
import Pxtly.Foundation.Bytes
import Pxtly.Foundation.Sha256

namespace Pxtly.Foundation

def base64Letter (value : Nat) : Char :=
  if value < 26 then Char.ofNat (65 + value)
  else if value < 52 then Char.ofNat (71 + value)
  else if value < 62 then Char.ofNat (value - 4)
  else if value = 62 then '-'
  else '_'

/-- The reader knows the letters of both alphabets. -/
def base64Value (c : Char) : Option Nat :=
  if 'A' ≤ c ∧ c ≤ 'Z' then some (c.toNat - 65)
  else if 'a' ≤ c ∧ c ≤ 'z' then some (c.toNat - 71)
  else if '0' ≤ c ∧ c ≤ '9' then some (c.toNat + 4)
  else if c = '-' ∨ c = '+' then some 62
  else if c = '_' ∨ c = '/' then some 63
  else none

/-- These are the letters of the bytes, without the padding. -/
def base64Digits : Bytes → List Char
  | [] => []
  | [a] => [base64Letter (a.toNat / 4), base64Letter (a.toNat % 4 * 16)]
  | [a, b] => [base64Letter (a.toNat / 4), base64Letter (a.toNat % 4 * 16 + b.toNat / 16), base64Letter (b.toNat % 16 * 4)]
  | a :: b :: c :: rest =>
      base64Letter (a.toNat / 4) :: base64Letter (a.toNat % 4 * 16 + b.toNat / 16) ::
        base64Letter (b.toNat % 16 * 4 + c.toNat / 64) :: base64Letter (c.toNat % 64) :: base64Digits rest

/-- This padding completes letters to groups of four. -/
def base64Padding (count : Nat) : List Char := List.replicate ((4 - count % 4) % 4) '='

/-- This is `base64.urlsafe_b64encode(data).decode("ascii")`. -/
def urlsafeB64encode (data : Bytes) : String :=
  String.ofList (base64Digits data ++ base64Padding (base64Digits data).length)

/-- This is `base64.urlsafe_b64encode(data).rstrip(b"=").decode("ascii")`. -/
def b64url (data : Bytes) : String := String.ofList ((urlsafeB64encode data).toList.rdropWhile (· = '='))

/-- The reader has read so many letters of a group, and these bits are left of the last one. It skips other characters. -/
def readBase64 : Nat → Nat → Nat → List Char → Option Bytes
  | count, _, _, [] => if count = 0 then some [] else none
  | count, leftover, pads, c :: rest =>
      if c = '=' then
        if count < 2 then readBase64 count leftover pads rest
        else if 4 ≤ count + (pads + 1) then some []
        else readBase64 count leftover (pads + 1) rest
      else
        match base64Value c with
        | none => readBase64 count leftover pads rest
        | some value =>
            match count with
            | 0 => readBase64 1 value 0 rest
            | 1 => (readBase64 2 (value % 16) 0 rest).map (UInt8.ofNat (leftover * 4 + value / 16) :: ·)
            | 2 => (readBase64 3 (value % 4) 0 rest).map (UInt8.ofNat (leftover * 16 + value / 4) :: ·)
            | _ => (readBase64 0 0 0 rest).map (UInt8.ofNat (leftover * 64 + value) :: ·)

/-- This is `base64.urlsafe_b64decode(text)`; it raises an error where the result is missing. -/
def urlsafeB64decode (text : String) : Option Bytes :=
  if text.toList.all (·.toNat < 128) then readBase64 0 0 0 text.toList else none

/-- These letters of a text need no escape in an address. -/
def isAddressLetter (c : Char) : Bool := c.isAlphanum || c == '-' || c == '_'

theorem base64Value_letter : ∀ value < 64, base64Value (base64Letter value) = some value := by decide

theorem letter_ne_pad : ∀ value < 64, base64Letter value ≠ '=' := by decide

theorem isAddressLetter_letter : ∀ value < 64, isAddressLetter (base64Letter value) = true := by decide

section Reading

variable {value leftover pads : Nat}

theorem readBase64_first (small : value < 64) (rest : List Char) :
    readBase64 0 leftover pads (base64Letter value :: rest) = readBase64 1 value 0 rest := by
  rw [readBase64, if_neg (letter_ne_pad value small), base64Value_letter value small]
  rfl

theorem readBase64_second (small : value < 64) (rest : List Char) :
    readBase64 1 leftover pads (base64Letter value :: rest) =
      (readBase64 2 (value % 16) 0 rest).map (UInt8.ofNat (leftover * 4 + value / 16) :: ·) := by
  rw [readBase64, if_neg (letter_ne_pad value small), base64Value_letter value small]
  rfl

theorem readBase64_third (small : value < 64) (rest : List Char) :
    readBase64 2 leftover pads (base64Letter value :: rest) =
      (readBase64 3 (value % 4) 0 rest).map (UInt8.ofNat (leftover * 16 + value / 4) :: ·) := by
  rw [readBase64, if_neg (letter_ne_pad value small), base64Value_letter value small]
  rfl

theorem readBase64_fourth (small : value < 64) (rest : List Char) :
    readBase64 3 leftover pads (base64Letter value :: rest) =
      (readBase64 0 0 0 rest).map (UInt8.ofNat (leftover * 64 + value) :: ·) := by
  rw [readBase64, if_neg (letter_ne_pad value small), base64Value_letter value small]
  rfl

end Reading

theorem ofNat_eq (byte : UInt8) {value : Nat} (same : value = byte.toNat) : UInt8.ofNat value = byte := by
  rw [same, UInt8.ofNat_toNat]

theorem base64Padding_add_four (count : Nat) : base64Padding (count + 4) = base64Padding count := by
  simp [base64Padding]

/-- The letters of bytes are read back, whatever the padding of the last group. -/
theorem readBase64_digits (data : Bytes) :
    readBase64 0 0 0 (base64Digits data ++ base64Padding (base64Digits data).length) = some data := by
  fun_induction base64Digits data with
  | case1 => rfl
  | case2 a =>
      have small : a.toNat < 256 := a.toNat_lt
      have tail : readBase64 2 (a.toNat % 4 * 16 % 16) 0 ['=', '='] = some [] := by
        simp [readBase64]
      rw [List.cons_append, readBase64_first (by omega), List.cons_append, readBase64_second (by omega)]
      change (readBase64 2 _ 0 ['=', '=']).map _ = _
      rw [tail, ofNat_eq a (by omega)]
      rfl
  | case3 a b =>
      have small : a.toNat < 256 := a.toNat_lt
      have second : b.toNat < 256 := b.toNat_lt
      have tail : readBase64 3 (b.toNat % 16 * 4 % 4) 0 ['='] = some [] := by
        simp [readBase64]
      rw [List.cons_append, readBase64_first (by omega), List.cons_append, readBase64_second (by omega),
        List.cons_append, readBase64_third (by omega)]
      change ((readBase64 3 _ 0 ['=']).map _).map _ = _
      rw [tail, ofNat_eq a (by omega), ofNat_eq b (by omega)]
      rfl
  | case4 a b c rest inductionHypothesis =>
      have small : a.toNat < 256 := a.toNat_lt
      have second : b.toNat < 256 := b.toNat_lt
      have third : c.toNat < 256 := c.toNat_lt
      simp only [List.length_cons, base64Padding_add_four]
      rw [List.cons_append, readBase64_first (by omega), List.cons_append, readBase64_second (by omega),
        List.cons_append, readBase64_third (by omega), List.cons_append, readBase64_fourth (by omega),
        inductionHypothesis, ofNat_eq a (by omega), ofNat_eq b (by omega),
        ofNat_eq c (by omega)]
      rfl

theorem isAddressLetter_digits (data : Bytes) : ∀ c ∈ base64Digits data, isAddressLetter c = true := by
  fun_induction base64Digits data with
  | case1 => exact nofun
  | case2 a =>
      have small : a.toNat < 256 := a.toNat_lt
      simp only [List.forall_mem_cons]
      exact ⟨isAddressLetter_letter _ (by omega), isAddressLetter_letter _ (by omega), nofun⟩
  | case3 a b =>
      have small : a.toNat < 256 := a.toNat_lt
      have second : b.toNat < 256 := b.toNat_lt
      simp only [List.forall_mem_cons]
      exact ⟨isAddressLetter_letter _ (by omega), isAddressLetter_letter _ (by omega),
        isAddressLetter_letter _ (by omega), nofun⟩
  | case4 a b c rest inductionHypothesis =>
      have small : a.toNat < 256 := a.toNat_lt
      have second : b.toNat < 256 := b.toNat_lt
      have third : c.toNat < 256 := c.toNat_lt
      simp only [List.forall_mem_cons]
      exact ⟨isAddressLetter_letter _ (by omega), isAddressLetter_letter _ (by omega),
        isAddressLetter_letter _ (by omega), isAddressLetter_letter _ (by omega), inductionHypothesis⟩

/-- Three bytes take four letters, and a last group of one or two bytes takes one letter more than it has bytes. -/
theorem length_base64Digits (data : Bytes) : (base64Digits data).length = (data.length * 4 + 2) / 3 := by
  fun_induction base64Digits data with
  | case1 => rfl
  | case2 a => simp
  | case3 a b => simp
  | case4 a b c rest inductionHypothesis =>
      simp only [List.length_cons, inductionHypothesis]
      omega

theorem isAddressLetter_pad : isAddressLetter '=' = false := by decide

/-- Without the padding, the letters are what is left. -/
@[simp] theorem toList_b64url (data : Bytes) : (b64url data).toList = base64Digits data := by
  have letters : (base64Digits data).rdropWhile (· = '=') = base64Digits data := by
    rw [List.rdropWhile_eq_self_iff]
    intro nonempty last
    have letter := isAddressLetter_digits data _ (List.getLast_mem nonempty)
    rw [of_decide_eq_true last, isAddressLetter_pad] at letter
    cases letter
  have padding : ∀ count, (base64Digits data ++ List.replicate count '=').rdropWhile (· = '=') =
      (base64Digits data).rdropWhile (· = '=') := by
    intro count
    induction count with
    | zero => simp
    | succ count inductionHypothesis =>
        rw [List.replicate_succ', ← List.append_assoc, List.rdropWhile_concat_pos _ _ _ (by simp), inductionHypothesis]
  rw [b64url, urlsafeB64encode, String.toList_ofList, String.toList_ofList, base64Padding, padding, letters]

theorem isAddressLetter_b64url (data : Bytes) : ∀ c ∈ (b64url data).toList, isAddressLetter c = true := by
  rw [toList_b64url]
  exact isAddressLetter_digits data

theorem toNat_of_isAddressLetter {c : Char} (letter : isAddressLetter c = true) : c.toNat < 128 := by
  delta isAddressLetter Char.isAlphanum Char.isAlpha Char.isUpper Char.isLower Char.isDigit at letter
  simp only [Bool.or_eq_true, beq_iff_eq, Bool.and_eq_true, decide_eq_true_eq, UInt32.le_iff_toNat_le] at letter
  change c.val.toNat < 128
  rcases letter with ((((⟨_, high⟩ | ⟨_, high⟩) | ⟨_, high⟩) | same) | same)
  · exact lt_of_le_of_lt high (by decide)
  · exact lt_of_le_of_lt high (by decide)
  · exact lt_of_le_of_lt high (by decide)
  · subst same
    decide
  · subst same
    decide

theorem ascii_padding (count : Nat) : ∀ c ∈ base64Padding count, c.toNat < 128 := by
  intro c member
  rw [List.eq_of_mem_replicate member]
  decide

/-- Bytes are read back from their text. -/
@[simp] theorem urlsafeB64decode_encode (data : Bytes) : urlsafeB64decode (urlsafeB64encode data) = some data := by
  have ascii : (base64Digits data ++ base64Padding (base64Digits data).length).all (·.toNat < 128) = true := by
    rw [List.all_eq_true]
    intro c member
    rw [decide_eq_true_eq]
    rcases List.mem_append.mp member with letter | pad
    · exact toNat_of_isAddressLetter (isAddressLetter_digits data c letter)
    · exact ascii_padding _ c pad
  rw [urlsafeB64decode, urlsafeB64encode, String.toList_ofList, if_pos ascii, readBase64_digits]

/-- A text without its padding is read back once the padding is restored. -/
theorem urlsafeB64decode_padded (data : Bytes) :
    urlsafeB64decode (b64url data ++ String.ofList (base64Padding (b64url data).length)) = some data := by
  have whole : b64url data ++ String.ofList (base64Padding (b64url data).length) = urlsafeB64encode data := by
    rw [urlsafeB64encode, String.ofList_append, ← toList_b64url, String.ofList_toList, String.length_toList]
  rw [whole, urlsafeB64decode_encode]

theorem b64url_injective : Function.Injective b64url := by
  intro first second same
  have read := urlsafeB64decode_padded first
  rw [same, urlsafeB64decode_padded] at read
  exact (Option.some.inj read).symm

theorem length_b64url (data : Bytes) : (b64url data).length = (data.length * 4 + 2) / 3 := by
  rw [← String.length_toList, toList_b64url, length_base64Digits]

section Tokens

/-- `secrets.token_bytes(count)` -/
structure TokenBytes (count : Nat) where
  bytes : Bytes
  length_bytes : bytes.length = count

/-- `secrets.token_urlsafe(count)` -/
def TokenBytes.urlsafe {count : Nat} (token : TokenBytes count) : String := b64url token.bytes

theorem TokenBytes.length_urlsafe {count : Nat} (token : TokenBytes count) :
    token.urlsafe.length = (count * 4 + 2) / 3 := by
  rw [urlsafe, length_b64url, token.length_bytes]

/-- This is the challenge of a verifier under the method S256. -/
def s256 (codeVerifier : String) : String := b64url (sha256 (encode codeVerifier))

end Tokens

end Pxtly.Foundation
