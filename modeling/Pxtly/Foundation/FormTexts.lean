/-
This file gives the texts of forms and of the queries of addresses, which are read back as they were written.
-/

import Pxtly.Foundation.Bytes

namespace Pxtly.Foundation

section Utf8

/-- A character has begun, and this is what is still missing of it. The next byte lies between these bounds. -/
structure PartialChar where
  missing : Nat
  low : Nat
  high : Nat
  value : Nat

def replacementChar : Char := '\uFFFD'

/-- A byte that begins no character is replaced. -/
def leadByte (byte : Nat) : List Char × Option PartialChar :=
  if byte < 0x80 then ([Char.ofNat byte], none)
  else if byte < 0xC2 then ([replacementChar], none)
  else if byte < 0xE0 then ([], some ⟨1, 0x80, 0xBF, byte - 0xC0⟩)
  else if byte < 0xF0 then
    ([], some ⟨2, if byte = 0xE0 then 0xA0 else 0x80, if byte = 0xED then 0x9F else 0xBF, byte - 0xE0⟩)
  else if byte < 0xF5 then
    ([], some ⟨3, if byte = 0xF0 then 0x90 else 0x80, if byte = 0xF4 then 0x8F else 0xBF, byte - 0xF0⟩)
  else ([replacementChar], none)

/-- A byte that cannot continue a character replaces what has begun, and is read again as the first of another one. -/
def decodeFrom : Option PartialChar → Bytes → List Char
  | none, [] => []
  | some _, [] => [replacementChar]
  | none, byte :: rest => (leadByte byte.toNat).1 ++ decodeFrom (leadByte byte.toNat).2 rest
  | some begun, byte :: rest =>
      if begun.low ≤ byte.toNat ∧ byte.toNat ≤ begun.high then
        if begun.missing = 1 then Char.ofNat (begun.value * 64 + (byte.toNat - 0x80)) :: decodeFrom none rest
        else decodeFrom (some ⟨begun.missing - 1, 0x80, 0xBF, begun.value * 64 + (byte.toNat - 0x80)⟩) rest
      else replacementChar :: (leadByte byte.toNat).1 ++ decodeFrom (leadByte byte.toNat).2 rest

/-- This is `data.decode("utf-8", "replace")`. -/
def decodeReplacing (data : Bytes) : List Char := decodeFrom none data

theorem decodeFrom_lead {value : Nat} (small : value < 256) (rest : Bytes) :
    decodeFrom none (UInt8.ofNat value :: rest) = (leadByte value).1 ++ decodeFrom (leadByte value).2 rest := by
  rw [decodeFrom, UInt8.toNat_ofNat_of_lt' small]

theorem decodeFrom_last {low high begun value : Nat} (small : value < 256) (within : low ≤ value ∧ value ≤ high)
    (rest : Bytes) :
    decodeFrom (some ⟨1, low, high, begun⟩) (UInt8.ofNat value :: rest) =
      Char.ofNat (begun * 64 + (value - 0x80)) :: decodeFrom none rest := by
  rw [decodeFrom, UInt8.toNat_ofNat_of_lt' small, if_pos within, if_pos rfl]

theorem decodeFrom_next {missing low high begun value : Nat} (small : value < 256)
    (within : low ≤ value ∧ value ≤ high) (rest : Bytes) :
    decodeFrom (some ⟨missing + 2, low, high, begun⟩) (UInt8.ofNat value :: rest) =
      decodeFrom (some ⟨missing + 1, 0x80, 0xBF, begun * 64 + (value - 0x80)⟩) rest := by
  rw [decodeFrom, UInt8.toNat_ofNat_of_lt' small, if_pos within, if_neg (by simp)]
  rfl

/-- A code point that is no surrogate has the bytes of one of four lengths. -/
theorem decodeFrom_utf8EncodeChar (c : Char) (rest : Bytes) :
    decodeFrom none (String.utf8EncodeChar c ++ rest) = c :: decodeFrom none rest := by
  have valid : c.toNat < 0xD800 ∨ 0xDFFF < c.toNat ∧ c.toNat < 0x110000 := c.valid
  have whole : Char.ofNat c.toNat = c := Char.ofNat_toNat c
  unfold String.utf8EncodeChar
  dsimp only
  change c.val.toNat < 0xD800 ∨ 0xDFFF < c.val.toNat ∧ c.val.toNat < 0x110000 at valid
  change Char.ofNat c.val.toNat = c at whole
  generalize c.val.toNat = v at valid whole ⊢
  split
  · rw [List.singleton_append, decodeFrom_lead (by omega), leadByte, if_pos (by omega), whole]
    rfl
  · split
    · rw [List.cons_append, decodeFrom_lead (by omega), leadByte, if_neg (by omega), if_neg (by omega), if_pos (by omega),
        List.cons_append, List.nil_append, decodeFrom_last (by omega) (by omega)]
      have sum : (v / 64 % 32 + 192 - 192) * 64 + (v % 64 + 128 - 128) = v := by omega
      rw [sum, whole]
      rfl
    · split
      · rw [List.cons_append, decodeFrom_lead (by omega), leadByte, if_neg (by omega), if_neg (by omega),
          if_neg (by omega), if_pos (by omega), List.cons_append,
          decodeFrom_next (by omega) (by split <;> split <;> omega), List.cons_append, List.nil_append,
          decodeFrom_last (by omega) (by omega)]
        have sum : ((v / 4096 % 16 + 224 - 224) * 64 + (v / 64 % 64 + 128 - 128)) * 64 + (v % 64 + 128 - 128) = v := by
          omega
        rw [sum, whole]
        rfl
      · rw [List.cons_append, decodeFrom_lead (by omega), leadByte, if_neg (by omega), if_neg (by omega),
          if_neg (by omega), if_neg (by omega), if_pos (by omega), List.cons_append,
          decodeFrom_next (by omega) (by split <;> split <;> omega), List.cons_append,
          decodeFrom_next (by omega) (by omega), List.cons_append, List.nil_append,
          decodeFrom_last (by omega) (by omega)]
        have sum : (((v / 262144 % 8 + 240 - 240) * 64 + (v / 4096 % 64 + 128 - 128)) * 64 +
            (v / 64 % 64 + 128 - 128)) * 64 + (v % 64 + 128 - 128) = v := by omega
        rw [sum, whole]
        rfl

theorem encode_eq_flatMap (text : String) : encode text = text.toList.flatMap String.utf8EncodeChar := by
  have bytes : (String.ofList text.toList).toByteArray = text.toList.utf8Encode := String.toByteArray_ofList
  rw [String.ofList_toList] at bytes
  change text.toByteArray.data.toList = _
  rw [bytes, List.utf8Encode, List.data_toByteArray, List.toList_toArray]

/-- A text is read back from its bytes. -/
@[simp] theorem decodeReplacing_encode (text : String) : decodeReplacing (encode text) = text.toList := by
  rw [encode_eq_flatMap, decodeReplacing]
  generalize text.toList = letters
  induction letters with
  | nil => rfl
  | cons c rest inductionHypothesis => rw [List.flatMap_cons, decodeFrom_utf8EncodeChar, inductionHypothesis]

/-- The decoder of texts takes the bytes of a text. -/
@[simp] theorem fromUTF8_encode (text : String) : String.fromUTF8? ⟨(encode text).toArray⟩ = some text := by
  have whole : (⟨(encode text).toArray⟩ : ByteArray) = text.toByteArray := by simp [encode]
  have valid : text.toByteArray.IsValidUTF8 := text.isValidUTF8
  rw [whole, String.fromUTF8?, dif_pos valid]
  rfl

end Utf8

section Quoting

/-- These characters are never quoted. -/
def isUnreserved (c : Char) : Bool := c.isAlphanum || c == '_' || c == '.' || c == '-' || c == '~'

def quoteHex (value : Nat) : Char := if value < 10 then Char.ofNat (48 + value) else Char.ofNat (55 + value)

def quoteByte (byte : UInt8) : List Char :=
  if isUnreserved (Char.ofNat byte.toNat) then [Char.ofNat byte.toNat]
  else if byte.toNat = 32 then ['+']
  else ['%', quoteHex (byte.toNat / 16), quoteHex (byte.toNat % 16)]

/-- This is `quote_plus(text)`. -/
def quotePlus (text : String) : List Char := (encode text).flatMap quoteByte

/-- This is `urlencode(params)`. -/
def urlencode (params : List (String × String)) : String :=
  String.ofList (['&'].intercalate (params.map fun param => quotePlus param.1 ++ '=' :: quotePlus param.2))

/-- This is `unquote_to_bytes`; a per cent sign without two digits stays. -/
def percentBytes : List Char → Bytes
  | [] => []
  | '%' :: high :: low :: rest =>
      match hexValue high, hexValue low with
      | some upper, some lower => UInt8.ofNat (upper * 16 + lower) :: percentBytes rest
      | _, _ => 37 :: percentBytes (high :: low :: rest)
  | c :: rest => UInt8.ofNat c.toNat :: percentBytes rest

/-- Runs of ASCII characters are decoded, and the other characters stay. -/
def unquoteFrom (run : List Char) : List Char → List Char
  | [] => decodeReplacing (percentBytes run)
  | c :: rest =>
      if c.toNat < 128 then unquoteFrom (run ++ [c]) rest
      else decodeReplacing (percentBytes run) ++ c :: unquoteFrom [] rest

def plusToSpace (c : Char) : Char := if c = '+' then ' ' else c

/-- This is `unquote(text.replace("+", " "))`. -/
def unquotePlus (text : List Char) : String := String.ofList (unquoteFrom [] (text.map plusToSpace))

/-- A name that has no value is left out. -/
def parseParam (text : List Char) : Option (String × String) :=
  match (text.dropWhile (· ≠ '=')).tail with
  | [] => none
  | value => some (unquotePlus (text.takeWhile (· ≠ '=')), unquotePlus value)

/-- This is `parse_qsl(text)`. -/
def parseQsl (text : String) : List (String × String) := (text.toList.splitOn '&').filterMap parseParam

/-- This is `parse_qs(text)`; a name that the dictionary lacks has no values here. -/
def parseQs (text name : String) : List String :=
  (parseQsl text).filterMap fun param => if param.1 = name then some param.2 else none

theorem toNat_ofNat_of_byte {value : Nat} (small : value < 256) : (Char.ofNat value).toNat = value := by
  have valid : value.isValidChar := .inl (by omega)
  rw [Char.ofNat, dif_pos valid]
  rfl

theorem hexValue_quoteHex : ∀ value < 16, hexValue (quoteHex value) = some value := by decide

theorem plusToSpace_quoteHex : ∀ value < 16, plusToSpace (quoteHex value) = quoteHex value := by decide

/-- A character of a quoted text is unreserved, or it is one of the two signs for what is quoted. -/
def isQuoted (c : Char) : Bool := isUnreserved c || c == '%' || c == '+'

theorem isQuoted_quoteHex : ∀ value < 16, isQuoted (quoteHex value) = true := by decide

theorem isQuoted_quoteByte (byte : UInt8) : ∀ c ∈ quoteByte byte, isQuoted c = true := by
  have small : byte.toNat < 256 := byte.toNat_lt
  unfold quoteByte
  split
  · next unreserved =>
      rw [List.forall_mem_singleton, isQuoted, unreserved]
      rfl
  · split
    · simp only [List.forall_mem_singleton]
      decide
    · simp only [List.forall_mem_cons]
      exact ⟨by decide, isQuoted_quoteHex _ (by omega), isQuoted_quoteHex _ (by omega), nofun⟩

theorem isQuoted_quotePlus (text : String) : ∀ c ∈ quotePlus text, isQuoted c = true := by
  intro c member
  obtain ⟨byte, -, quoted⟩ := List.mem_flatMap.mp member
  exact isQuoted_quoteByte byte c quoted

theorem toNat_of_isQuoted {c : Char} (quoted : isQuoted c = true) : c.toNat < 128 := by
  delta isQuoted isUnreserved Char.isAlphanum Char.isAlpha Char.isUpper Char.isLower Char.isDigit at quoted
  simp only [Bool.or_eq_true, beq_iff_eq, Bool.and_eq_true, decide_eq_true_eq, UInt32.le_iff_toNat_le] at quoted
  change c.val.toNat < 128
  rcases quoted with ((((((((⟨_, high⟩ | ⟨_, high⟩) | ⟨_, high⟩) | same) | same) | same) | same) | same) | same)
  · exact lt_of_le_of_lt high (by decide)
  · exact lt_of_le_of_lt high (by decide)
  · exact lt_of_le_of_lt high (by decide)
  all_goals subst same; decide

theorem ne_of_isQuoted {c mark : Char} (quoted : isQuoted c = true) (plain : isQuoted mark = false) : c ≠ mark := by
  rintro rfl
  rw [quoted] at plain
  cases plain

theorem isQuoted_ampersand : isQuoted '&' = false := by decide

theorem isQuoted_equals : isQuoted '=' = false := by decide

theorem percentBytes_cons {c : Char} (plain : c ≠ '%') (rest : List Char) :
    percentBytes (c :: rest) = UInt8.ofNat c.toNat :: percentBytes rest := by
  rw [percentBytes]
  intro high low tail same
  exact absurd same plain

/-- A byte is read back from its quotation. -/
theorem percentBytes_quoteByte (byte : UInt8) (rest : List Char) :
    percentBytes ((quoteByte byte).map plusToSpace ++ rest) = byte :: percentBytes rest := by
  have small : byte.toNat < 256 := byte.toNat_lt
  unfold quoteByte
  split
  · next unreserved =>
      have plus : Char.ofNat byte.toNat ≠ '+' := by
        intro same
        rw [same] at unreserved
        exact absurd unreserved (by decide)
      have percent : Char.ofNat byte.toNat ≠ '%' := by
        intro same
        rw [same] at unreserved
        exact absurd unreserved (by decide)
      have code : (Char.ofNat byte.toNat).toNat = byte.toNat := by
        exact toNat_ofNat_of_byte small
      rw [List.map_singleton, plusToSpace, if_neg plus, List.singleton_append, percentBytes_cons percent, code,
        UInt8.ofNat_toNat]
  · split
    · next space =>
        have same : byte = 32 := UInt8.toNat_inj.mp space
        subst same
        exact percentBytes_cons (by decide) rest
    · have value : UInt8.ofNat (byte.toNat / 16 * 16 + byte.toNat % 16) = byte := by
        rw [Nat.div_add_mod', UInt8.ofNat_toNat]
      have sign : plusToSpace '%' = '%' := by decide
      simp only [List.map_cons, List.map_nil, sign, plusToSpace_quoteHex _ (by omega : byte.toNat / 16 < 16),
        plusToSpace_quoteHex _ (by omega : byte.toNat % 16 < 16), List.cons_append, List.nil_append]
      rw [percentBytes, hexValue_quoteHex _ (by omega), hexValue_quoteHex _ (by omega)]
      dsimp only
      rw [value]

theorem unquoteFrom_of_ascii {text : List Char} (ascii : ∀ c ∈ text, c.toNat < 128) (run : List Char) :
    unquoteFrom run text = decodeReplacing (percentBytes (run ++ text)) := by
  induction text generalizing run with
  | nil => rw [unquoteFrom, List.append_nil]
  | cons c rest inductionHypothesis =>
      rw [unquoteFrom, if_pos (ascii c List.mem_cons_self),
        inductionHypothesis (fun d member => ascii d (List.mem_cons_of_mem _ member)), List.append_assoc,
        List.singleton_append]

theorem toNat_plusToSpace {c : Char} (ascii : c.toNat < 128) : (plusToSpace c).toNat < 128 := by
  unfold plusToSpace
  split
  · decide
  · exact ascii

/-- A text is read back from its quotation. -/
@[simp] theorem unquotePlus_quotePlus (text : String) : unquotePlus (quotePlus text) = text := by
  have ascii : ∀ c ∈ (quotePlus text).map plusToSpace, c.toNat < 128 := by
    intro c member
    obtain ⟨letter, quoted, rfl⟩ := List.mem_map.mp member
    exact toNat_plusToSpace (toNat_of_isQuoted (isQuoted_quotePlus text letter quoted))
  have bytes : ∀ data : Bytes, percentBytes ((data.flatMap quoteByte).map plusToSpace) = data := by
    intro data
    induction data with
    | nil => rfl
    | cons byte data inductionHypothesis =>
        rw [List.flatMap_cons, List.map_append, percentBytes_quoteByte, inductionHypothesis]
  rw [unquotePlus, unquoteFrom_of_ascii ascii, List.nil_append, quotePlus, bytes, decodeReplacing_encode,
    String.ofList_toList]

theorem quotePlus_eq_nil {text : String} (empty : quotePlus text = []) : text = "" := by
  have read := unquotePlus_quotePlus text
  rw [empty] at read
  exact read.symm.trans (by decide)

/-- A parameter is read back, unless its value is empty. -/
theorem parseParam_quoted (param : String × String) :
    parseParam (quotePlus param.1 ++ '=' :: quotePlus param.2) = if param.2 = "" then none else some param := by
  have plain : ∀ c ∈ quotePlus param.1, decide (c ≠ '=') = true := by
    intro c member
    exact decide_eq_true (ne_of_isQuoted (isQuoted_quotePlus _ c member) isQuoted_equals)
  have name : (quotePlus param.1 ++ '=' :: quotePlus param.2).takeWhile (· ≠ '=') = quotePlus param.1 := by
    rw [List.takeWhile_append_of_pos plain, List.takeWhile_cons_of_neg (by simp), List.append_nil]
  have value : (quotePlus param.1 ++ '=' :: quotePlus param.2).dropWhile (· ≠ '=') = '=' :: quotePlus param.2 := by
    rw [List.dropWhile_append_of_pos plain, List.dropWhile_cons_of_neg (by simp)]
  rw [parseParam, value, name, List.tail_cons]
  split
  · next empty => rw [if_pos (quotePlus_eq_nil empty)]
  · next other =>
      have present : param.2 ≠ "" := by
        intro empty
        rw [empty] at other
        exact other rfl
      rw [if_neg present, unquotePlus_quotePlus, unquotePlus_quotePlus]

theorem isQuoted_param (param : String × String) {c : Char}
    (member : c ∈ quotePlus param.1 ++ '=' :: quotePlus param.2) : isQuoted c = true ∨ c = '=' := by
  rcases List.mem_append.mp member with name | rest
  · exact .inl (isQuoted_quotePlus _ c name)
  · rcases List.mem_cons.mp rest with equals | value
    · exact .inr equals
    · exact .inl (isQuoted_quotePlus _ c value)

/-- The parameters of a query are read back in their order, but for those whose value is empty. -/
theorem parseQsl_urlencode (params : List (String × String)) :
    parseQsl (urlencode params) = params.filter (·.2 ≠ "") := by
  have parts : ∀ part ∈ params.map (fun param => quotePlus param.1 ++ '=' :: quotePlus param.2), '&' ∉ part := by
    intro part listed member
    obtain ⟨param, -, rfl⟩ := List.mem_map.mp listed
    rcases isQuoted_param param member with quoted | equals
    · exact ne_of_isQuoted quoted isQuoted_ampersand rfl
    · exact absurd equals (by decide)
  rw [parseQsl, urlencode, String.toList_ofList]
  by_cases empty : params = []
  · subst empty
    rfl
  · rw [List.splitOn_intercalate '&' parts (by simpa using empty), List.filterMap_map, ← List.filterMap_eq_filter]
    refine List.filterMap_congr fun param listed => (parseParam_quoted param).trans ?_
    by_cases blank : param.2 = "" <;> simp [Option.guard, blank]

/-- Nothing but quoted texts and the two separators stands in a query. -/
theorem isQuoted_urlencode (params : List (String × String)) {c : Char} (member : c ∈ (urlencode params).toList) :
    isQuoted c = true ∨ c = '=' ∨ c = '&' := by
  rw [urlencode, String.toList_ofList] at member
  induction params with
  | nil => cases member
  | cons param rest inductionHypothesis =>
      cases rest with
      | nil =>
          rcases isQuoted_param param (by simpa using member) with quoted | equals
          · exact .inl quoted
          · exact .inr (.inl equals)
      | cons second others =>
          rw [List.map_cons, List.map_cons, List.intercalate_cons_cons, List.append_assoc] at member
          rcases List.mem_append.mp member with first | later
          · rcases isQuoted_param param first with quoted | equals
            · exact .inl quoted
            · exact .inr (.inl equals)
          · rcases List.mem_append.mp later with ampersand | inRest
            · exact .inr (.inr (List.mem_singleton.mp ampersand))
            · exact inductionHypothesis (by rwa [List.map_cons])

end Quoting

end Pxtly.Foundation
