/-
This file gives automata that may refuse a text, and Python's reader of JSON strings, which reads every dumped text back.
-/

import Pxtly.Foundation.Python

namespace Pxtly.Foundation

section Automata

variable {S T A : Type} {step : S → A → Option S}

theorem foldlM_cons_eq_some {start last : S} {item : A} {rest : List A} :
    (item :: rest).foldlM step start = some last ↔
      ∃ next, step start item = some next ∧ rest.foldlM step next = some last := by
  rw [List.foldlM_cons]
  exact Option.bind_eq_some_iff

/-- What every step keeps, a run keeps. -/
theorem foldlM_keeps {good : S → Prop}
    (kept : ∀ state next item, good state → step state item = some next → good next) {items : List A} {start last : S}
    (holds : good start) (run : items.foldlM step start = some last) : good last := by
  induction items generalizing start with
  | nil =>
      obtain rfl := Option.some.inj run
      exact holds
  | cons item rest inductionHypothesis =>
      obtain ⟨next, stepped, later⟩ := foldlM_cons_eq_some.mp run
      exact inductionHypothesis (kept start next item holds stepped) later

/-- An automaton that takes every step of another one takes its runs. -/
theorem foldlM_simulates {other : T → A → Option T} (image : S → T)
    (steps : ∀ state next item, step state item = some next → other (image state) item = some (image next))
    {items : List A} {start last : S} (run : items.foldlM step start = some last) :
    items.foldlM other (image start) = some (image last) := by
  induction items generalizing start with
  | nil =>
      obtain rfl := Option.some.inj run
      rfl
  | cons item rest inductionHypothesis =>
      obtain ⟨next, stepped, later⟩ := foldlM_cons_eq_some.mp run
      exact foldlM_cons_eq_some.mpr ⟨image next, steps start next item stepped, inductionHypothesis later⟩

end Automata

section Reader

/-- The reader stands behind a whole character, a backslash, or some digits of an escape. -/
inductive EscapeMode where
  | plain
  | slash
  | hex (count value : Nat)
  deriving DecidableEq, Repr

/-- The offset of a high surrogate waits for its low one. -/
structure QuotedText where
  text : List Char := []
  high : Option (Fin 0x400) := none
  mode : EscapeMode := .plain
  deriving DecidableEq, Repr

/-- These escapes have one letter. -/
def simpleEscape : Char → Option Char
  | '"' => some '"'
  | '\\' => some '\\'
  | '/' => some '/'
  | 'b' => some '\x08'
  | 'f' => some '\x0c'
  | 'n' => some '\n'
  | 'r' => some '\r'
  | 't' => some '\t'
  | _ => none

def QuotedText.push (quoted : QuotedText) (c : Char) : Option QuotedText :=
  if quoted.high = none then some { text := quoted.text ++ [c] } else none

/-- A surrogate alone is no character, so no text of the model has one. -/
def QuotedText.unit (quoted : QuotedText) (unit : Nat) : Option QuotedText :=
  match quoted.high with
  | some high =>
      if 0xdc00 ≤ unit ∧ unit < 0xe000 then
        some { text := quoted.text ++ [Char.ofNat (0x10000 + high * 0x400 + (unit - 0xdc00))] }
      else none
  | none =>
      if isHigh : 0xd800 ≤ unit ∧ unit < 0xdc00 then
        some { text := quoted.text, high := some ⟨unit - 0xd800, by omega⟩ }
      else if 0xdc00 ≤ unit ∧ unit < 0xe000 then none
      else some { text := quoted.text ++ [Char.ofNat unit] }

/-- A control character stands in a string only as an escape. -/
def QuotedText.feed (quoted : QuotedText) (c : Char) : Option QuotedText :=
  match quoted.mode with
  | .plain =>
      if c = '\\' then some { quoted with mode := .slash }
      else if c.toNat < 32 then none
      else quoted.push c
  | .slash =>
      if c = 'u' then some { quoted with mode := .hex 0 0 } else (simpleEscape c).bind quoted.push
  | .hex count value =>
      (hexValue c).bind fun digit =>
        if count = 3 then quoted.unit (16 * value + digit)
        else some { quoted with mode := .hex (count + 1) (16 * value + digit) }

/-- A quote ends the string unless a backslash stands before it. -/
def QuotedText.closes (quoted : QuotedText) (c : Char) : Bool := quoted.mode = .plain && c == '"'

/-- The reader returns the text up to the closing quote and what follows it. -/
def readString : QuotedText → List Char → Option (List Char × List Char)
  | _, [] => none
  | quoted, c :: rest =>
      if quoted.closes c then if quoted.high = none then some (quoted.text, rest) else none
      else (quoted.feed c).bind fun next => readString next rest

end Reader

section Escapes

theorem readString_step {quoted next : QuotedText} {c : Char} (opened : quoted.closes c = false)
    (fed : quoted.feed c = some next) (rest : List Char) : readString quoted (c :: rest) = readString next rest := by
  rw [readString, opened, if_neg Bool.false_ne_true, fed, Option.bind_some]

theorem readString_slash (text : List Char) (high : Option (Fin 0x400)) (rest : List Char) :
    readString ⟨text, high, .plain⟩ ('\\' :: rest) = readString ⟨text, high, .slash⟩ rest :=
  readString_step (by simp [QuotedText.closes]) rfl rest

/-- A backslash and one letter are read as the character that they stand for. -/
theorem readString_simpleEscape (text : List Char) {letter c : Char} (stands : simpleEscape letter = some c)
    (rest : List Char) :
    readString ⟨text, none, .plain⟩ ('\\' :: letter :: rest) = readString ⟨text ++ [c], none, .plain⟩ rest := by
  have notUnit : letter ≠ 'u' := by
    rintro rfl
    cases stands
  rw [readString_slash]
  apply readString_step (by simp [QuotedText.closes])
  simp [QuotedText.feed, QuotedText.push, notUnit, stands]

/-- The reader goes on behind characters that hold no quote. -/
theorem readString_append {quoted next : QuotedText} {front : List Char} (unquoted : '"' ∉ front)
    (run : front.foldlM QuotedText.feed quoted = some next) (rest : List Char) :
    readString quoted (front ++ rest) = readString next rest := by
  induction front generalizing quoted with
  | nil =>
      obtain rfl := Option.some.inj run
      rfl
  | cons c front inductionHypothesis =>
      rw [List.mem_cons, not_or] at unquoted
      obtain ⟨following, fed, later⟩ := foldlM_cons_eq_some.mp run
      have opened : quoted.closes c = false := by simp [QuotedText.closes, Ne.symm unquoted.1]
      rw [List.cons_append, readString_step opened fed, inductionHypothesis unquoted.2 later]

theorem feed_hexDigit (text : List Char) (high : Option (Fin 0x400)) (count value : Nat) {digit : Nat}
    (small : digit < 16) (more : count ≠ 3) :
    QuotedText.feed ⟨text, high, .hex count value⟩ (hexDigit digit) =
      some ⟨text, high, .hex (count + 1) (16 * value + digit)⟩ := by
  simp [QuotedText.feed, hexValue_hexDigit _ small, more]

/-- The four digits of an escape are read as one unit. -/
theorem foldlM_escapeUnit (text : List Char) (high : Option (Fin 0x400)) {unit : Nat} (small : unit < 0x10000) :
    (escapeUnit unit).foldlM QuotedText.feed ⟨text, high, .plain⟩ =
      QuotedText.unit ⟨text, high, .hex 3 (unit / 16)⟩ unit := by
  have digits (place : Nat) : unit / place % 16 < 16 := Nat.mod_lt _ (by decide)
  have last : unit % 16 < 16 := Nat.mod_lt _ (by decide)
  have value : 16 * (16 * (16 * 0 + unit / 4096 % 16) + unit / 256 % 16) + unit / 16 % 16 = unit / 16 := by omega
  have whole : 16 * (unit / 16) + unit % 16 = unit := by omega
  have slash : QuotedText.feed ⟨text, high, .plain⟩ '\\' = some ⟨text, high, .slash⟩ := rfl
  have begun : QuotedText.feed ⟨text, high, .slash⟩ 'u' = some ⟨text, high, .hex 0 0⟩ := rfl
  have ended : QuotedText.feed ⟨text, high, .hex 3 (unit / 16)⟩ (hexDigit (unit % 16)) =
      QuotedText.unit ⟨text, high, .hex 3 (unit / 16)⟩ unit := by
    simp [QuotedText.feed, hexValue_hexDigit _ last, whole]
  simp only [escapeUnit, List.foldlM_cons, List.foldlM_nil, slash, begun, Option.bind_eq_bind, Option.bind_some,
    feed_hexDigit text high 0 _ (digits 4096) (by decide), feed_hexDigit text high 1 _ (digits 256) (by decide),
    feed_hexDigit text high 2 _ (digits 16) (by decide), value, ended]
  exact Option.bind_fun_some _

theorem quote_notMem_escapeUnit (unit : Nat) : '"' ∉ escapeUnit unit := by
  have digits : ∀ value < 16, '"' ≠ hexDigit value := by decide
  have small (number : Nat) : number % 16 < 16 := Nat.mod_lt _ (by decide)
  simp [escapeUnit, digits _ (small _)]

theorem readString_escapeUnit (text : List Char) (high : Option (Fin 0x400)) {unit : Nat} (small : unit < 0x10000)
    {next : QuotedText} (read : QuotedText.unit ⟨text, high, .hex 3 (unit / 16)⟩ unit = some next) (rest : List Char) :
    readString ⟨text, high, .plain⟩ (escapeUnit unit ++ rest) = readString next rest :=
  readString_append (quote_notMem_escapeUnit unit) ((foldlM_escapeUnit text high small).trans read) rest

/-- A printable character of ASCII stands for itself unless it has an escape. -/
theorem readString_printable (text : List Char) {c : Char} (notEscaped : c.toNat ∉ [34, 92]) (visible : 32 ≤ c.toNat)
    (rest : List Char) : readString ⟨text, none, .plain⟩ (c :: rest) = readString ⟨text ++ [c], none, .plain⟩ rest := by
  have notQuote : c ≠ '"' := by
    rintro rfl
    exact notEscaped (by decide)
  have notSlash : c ≠ '\\' := by
    rintro rfl
    exact notEscaped (by decide)
  apply readString_step (by simp [QuotedText.closes, notQuote])
  simp [QuotedText.feed, QuotedText.push, notSlash, visible]

/-- No character is a surrogate, so its unit is the character. -/
theorem unit_toNat (quoted : QuotedText) (c : Char) : quoted.unit c.toNat = quoted.push c := by
  have range : c.toNat < 0xd800 ∨ (0xdfff < c.toNat ∧ c.toNat < 0x110000) := c.valid
  have notHigh : ¬ (0xd800 ≤ c.toNat ∧ c.toNat < 0xdc00) := by omega
  have notLow : ¬ (0xdc00 ≤ c.toNat ∧ c.toNat < 0xe000) := by omega
  obtain ⟨text, high, mode⟩ := quoted
  cases high with
  | none => simp [QuotedText.unit, QuotedText.push, notHigh, notLow]
  | some high => simp [QuotedText.unit, QuotedText.push, notLow]

/-- A character of the first plane is one unit. -/
theorem readString_basic (text : List Char) {c : Char} (basic : c.toNat < 0x10000) (rest : List Char) :
    readString ⟨text, none, .plain⟩ (escapeUnit c.toNat ++ rest) = readString ⟨text ++ [c], none, .plain⟩ rest :=
  readString_escapeUnit text none basic (unit_toNat _ c) rest

/-- Any other character is a high unit and a low one. -/
theorem readString_supplementary (text : List Char) {c : Char} (supplementary : 0x10000 ≤ c.toNat) (rest : List Char) :
    readString ⟨text, none, .plain⟩ (escapeUnit (0xd800 + (c.toNat - 0x10000) / 0x400) ++
      escapeUnit (0xdc00 + (c.toNat - 0x10000) % 0x400) ++ rest) = readString ⟨text ++ [c], none, .plain⟩ rest := by
  have range : c.toNat < 0xd800 ∨ (0xdfff < c.toNat ∧ c.toNat < 0x110000) := c.valid
  have small : (c.toNat - 0x10000) / 0x400 < 0x400 := by omega
  have isHigh : 0xd800 ≤ 0xd800 + (c.toNat - 0x10000) / 0x400 ∧ 0xd800 + (c.toNat - 0x10000) / 0x400 < 0xdc00 := by
    omega
  have isLow : 0xdc00 ≤ 0xdc00 + (c.toNat - 0x10000) % 0x400 ∧ 0xdc00 + (c.toNat - 0x10000) % 0x400 < 0xe000 := by
    omega
  have first : QuotedText.unit ⟨text, none, .hex 3 ((0xd800 + (c.toNat - 0x10000) / 0x400) / 16)⟩
      (0xd800 + (c.toNat - 0x10000) / 0x400) = some ⟨text, some ⟨(c.toNat - 0x10000) / 0x400, small⟩, .plain⟩ := by
    simp only [QuotedText.unit]
    rw [dif_pos isHigh]
    simp
  have code : 0x10000 + (c.toNat - 0x10000) / 0x400 * 0x400 + (0xdc00 + (c.toNat - 0x10000) % 0x400 - 0xdc00) =
      c.toNat := by omega
  rw [List.append_assoc, readString_escapeUnit text none (by omega) first]
  apply readString_escapeUnit text _ (by omega)
  simp only [QuotedText.unit]
  rw [if_pos isLow, code, Char.ofNat_toNat]

/-- The reader takes every escaped character as that character. -/
theorem readString_escapeChar (text : List Char) (c : Char) (rest : List Char) :
    readString ⟨text, none, .plain⟩ (escapeChar c ++ rest) = readString ⟨text ++ [c], none, .plain⟩ rest := by
  have named {code : Nat} (same : c.toNat = code) : c = Char.ofNat code := by rw [← same, Char.ofNat_toNat]
  have simple {letter : Char} {code : Nat} (same : c.toNat = code) (stands : simpleEscape letter = some (Char.ofNat code)) :
      readString ⟨text, none, .plain⟩ (['\\', letter] ++ rest) = readString ⟨text ++ [c], none, .plain⟩ rest := by
    rw [named same]
    exact readString_simpleEscape text stands rest
  unfold escapeChar
  split_ifs with escaped backspace tab newline feed carriage printable basic
  · rcases List.mem_pair.mp escaped with quote | slash
    · rw [named quote]
      exact readString_simpleEscape text rfl rest
    · rw [named slash]
      exact readString_simpleEscape text rfl rest
  · exact simple backspace rfl
  · exact simple tab rfl
  · exact simple newline rfl
  · exact simple feed rfl
  · exact simple carriage rfl
  · exact readString_printable text escaped printable.1 rest
  · exact readString_basic text basic rest
  · exact readString_supplementary text (Nat.le_of_not_lt basic) rest

/-- A string is read back up to its closing quote, whatever follows it. -/
theorem readString_escaped (front text rest : List Char) :
    readString ⟨front, none, .plain⟩ (text.flatMap escapeChar ++ '"' :: rest) = some (front ++ text, rest) := by
  induction text generalizing front with
  | nil =>
      rw [List.flatMap_nil, List.nil_append, List.append_nil]
      rfl
  | cons c text inductionHypothesis =>
      rw [List.flatMap_cons, List.append_assoc, readString_escapeChar, inductionHypothesis, List.append_assoc]
      rfl

/-- A dumped text ends where its reader ends. -/
theorem dumpsText_append_inj {first second : String} {rest others : List Char}
    (same : (dumpsText first).toList ++ rest = (dumpsText second).toList ++ others) : first = second ∧ rest = others := by
  have written (text : String) (later : List Char) :
      (dumpsText text).toList ++ later = '"' :: (text.toList.flatMap escapeChar ++ '"' :: later) := by
    simp [dumpsText]
  rw [written, written, List.cons.injEq] at same
  have read := congrArg (readString ⟨[], none, .plain⟩) same.2
  rw [readString_escaped, readString_escaped, Option.some.injEq, Prod.mk.injEq] at read
  exact ⟨String.toList_inj.mp read.1, read.2⟩

theorem dumpsText_injective : Function.Injective dumpsText := by
  intro first second same
  have texts : (dumpsText first).toList ++ [] = (dumpsText second).toList ++ [] := by rw [same]
  exact (dumpsText_append_inj texts).1

end Escapes

section Members

/-- A member of an object is a name and the text of its value. -/
def memberText (member : String × String) : String := dumpsText member.1 ++ ": " ++ member.2

/-- Either value ends at the comma that follows it. -/
def Separable (first second : String) : Prop :=
  ∀ rest others : List Char, first.toList ++ ',' :: rest = second.toList ++ ',' :: others →
    first = second ∧ rest = others

theorem separable_dumpsText (first second : String) : Separable (dumpsText first) (dumpsText second) := by
  intro rest others same
  obtain ⟨texts, behind⟩ := dumpsText_append_inj same
  exact ⟨congrArg dumpsText texts, (List.cons.inj behind).2⟩

theorem separable_of_plain {first second : String} (firstPlain : ',' ∉ first.toList) (secondPlain : ',' ∉ second.toList) :
    Separable first second := by
  intro rest others same
  obtain ⟨texts, behind⟩ := Pattern.field_inj firstPlain secondPlain same
  exact ⟨String.toList_inj.mp texts, behind⟩

/-- Two lists of members with the same names and with separable values have different texts unless they are the same. -/
theorem members_inj {members others : List (String × String)}
    (separable : List.Forall₂ (fun member other => member.1 = other.1 ∧ Separable member.2 other.2) members others)
    (same : ", ".intercalate (members.map memberText) = ", ".intercalate (others.map memberText)) : members = others := by
  have separator : ", ".toList = [',', ' '] := by decide
  induction separable with
  | nil => rfl
  | @cons member other members others here later inductionHypothesis =>
      obtain ⟨name, value⟩ := member
      obtain ⟨otherName, otherValue⟩ := other
      obtain ⟨names, separates⟩ := here
      obtain rfl : name = otherName := names
      cases later with
      | nil =>
          simp only [List.map_cons, List.map_nil, String.intercalate_singleton, memberText] at same
          rw [String.append_right_inj] at same
          rw [same]
      | cons next rest =>
          have texts := congrArg String.toList same
          simp only [List.map_cons, String.intercalate_cons_cons, memberText, String.toList_append, separator,
            List.append_assoc, List.append_cancel_left_eq, List.cons_append, List.nil_append] at texts
          obtain ⟨values, behind⟩ := separates _ _ texts
          have tails := String.toList_inj.mp (List.cons.inj behind).2
          obtain rfl : value = otherValue := values
          rw [inductionHypothesis tails]

end Members

end Pxtly.Foundation
