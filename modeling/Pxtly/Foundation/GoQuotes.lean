/-
This file gives Go's `strconv.Quote` and what is left of a quoted JSON text where only its quotes are restored.
-/

import Pxtly.Foundation.JsonWeights
import Pxtly.Foundation.Texts

namespace Pxtly.Foundation

section Quotes

variable (wide : Char → Bool)

/-- Beyond ASCII, the tables of Unicode decide. -/
def isPrint (c : Char) : Bool := if c.toNat < 128 then 32 ≤ c.toNat && c.toNat < 127 else wide c

/-- These are the eight hexadecimal digits of a code. -/
def longDigits (code : Nat) : List Char :=
  [hexDigit (code / 16 ^ 7 % 16), hexDigit (code / 16 ^ 6 % 16), hexDigit (code / 16 ^ 5 % 16),
    hexDigit (code / 16 ^ 4 % 16), hexDigit (code / 16 ^ 3 % 16), hexDigit (code / 16 ^ 2 % 16),
    hexDigit (code / 16 % 16), hexDigit (code % 16)]

/-- These control characters have a letter each. -/
def goEscapes : List (Nat × Char) := [(7, 'a'), (8, 'b'), (12, 'f'), (10, 'n'), (13, 'r'), (9, 't'), (11, 'v')]

def quoteRune (c : Char) : List Char :=
  if c ∈ ['"', '\\'] then ['\\', c]
  else if isPrint wide c then [c]
  else match goEscapes.find? fun escape => escape.1 == c.toNat with
    | some escape => ['\\', escape.2]
    | none =>
        if c.toNat < 32 ∨ c.toNat = 127 then ['\\', 'x', hexDigit (c.toNat / 16 % 16), hexDigit (c.toNat % 16)]
        else if c.toNat < 0x10000 then escapeUnit c.toNat
        else '\\' :: 'U' :: longDigits c.toNat

/-- This is `strconv.Quote`. -/
def goQuote (text : List Char) : List Char := '"' :: (text.flatMap (quoteRune wide) ++ ['"'])

/-- Only a quote loses its backslash again. -/
def bareRune (c : Char) : List Char := if c = '"' then ['"'] else quoteRune wide c

/-- A character stands for itself behind both levels of escapes. -/
def Kept (c : Char) : Prop := c ≠ '\\' ∧ 32 ≤ c.toNat ∧ c.toNat ≠ 127 ∧ (c.toNat < 0x10000 ∨ wide c = true)

instance (c : Char) : Decidable (Kept wide c) :=
  inferInstanceAs (Decidable (c ≠ '\\' ∧ 32 ≤ c.toNat ∧ c.toNat ≠ 127 ∧ (c.toNat < 0x10000 ∨ wide c = true)))

end Quotes

section Runes

/-- These are the texts of a rune. -/
inductive Rune (wide : Char → Bool) (c : Char) : List Char → Prop where
  | mark (isMark : c ∈ ['"', '\\']) : Rune wide c ['\\', c]
  | self (other : c ∉ ['"', '\\']) (printable : isPrint wide c = true) : Rune wide c [c]
  | letter (other : c ∉ ['"', '\\']) (hidden : isPrint wide c = false) (letter : Char)
      (listed : (c.toNat, letter) ∈ goEscapes) : Rune wide c ['\\', letter]
  | byte (other : c ∉ ['"', '\\']) (hidden : isPrint wide c = false) (control : c.toNat < 32 ∨ c.toNat = 127)
      (high low : Nat) (small : high < 16 ∧ low < 16) : Rune wide c ['\\', 'x', hexDigit high, hexDigit low]
  | unit (other : c ∉ ['"', '\\']) (hidden : isPrint wide c = false) (visible : 32 ≤ c.toNat ∧ c.toNat ≠ 127)
      (basic : c.toNat < 0x10000) : Rune wide c (escapeUnit c.toNat)
  | long (other : c ∉ ['"', '\\']) (hidden : isPrint wide c = false) (large : 0x10000 ≤ c.toNat) :
      Rune wide c ('\\' :: 'U' :: longDigits c.toNat)

theorem rune_quoteRune (wide : Char → Bool) (c : Char) : Rune wide c (quoteRune wide c) := by
  have small (value : Nat) : value % 16 < 16 := Nat.mod_lt _ (by decide)
  unfold quoteRune
  split
  next isMark => exact .mark isMark
  next other =>
    split
    next printable => exact .self other printable
    next hidden =>
      rw [Bool.not_eq_true] at hidden
      split
      next escape found =>
        have code := List.find?_some found
        rw [beq_iff_eq] at code
        exact .letter other hidden escape.2 (code ▸ List.mem_of_find?_eq_some found)
      next =>
        split_ifs with control basic
        · exact .byte other hidden control _ _ ⟨small _, small _⟩
        · exact .unit other hidden ⟨Nat.le_of_not_lt fun low => control (.inl low), fun same => control (.inr same)⟩ basic
        · exact .long other hidden (Nat.le_of_not_lt basic)

/-- No digit of an escape is a quote or a backslash. -/
theorem mark_ne_hexDigit {mark : Char} (isMark : mark ∈ ['"', '\\']) {value : Nat} (small : value < 16) :
    hexDigit value ≠ mark := by
  have quote : ∀ value < 16, hexDigit value ≠ '"' := by decide
  have slash : ∀ value < 16, hexDigit value ≠ '\\' := by decide
  obtain rfl | rfl := List.mem_pair.mp isMark
  · exact quote value small
  · exact slash value small

theorem mark_notMem_longDigits {mark : Char} (isMark : mark ∈ ['"', '\\']) (code : Nat) : mark ∉ longDigits code := by
  have digits (value : Nat) : mark ≠ hexDigit (value % 16) := (mark_ne_hexDigit isMark (Nat.mod_lt _ (by decide))).symm
  simp [longDigits, digits]

end Runes

section Restoring

variable {wide : Char → Bool}

theorem replaceFrom_other {c : Char} (other : c ≠ '\\') (rest : List Char) :
    replaceFrom ['\\', '"'] ['"'] 0 (c :: rest) = c :: replaceFrom ['\\', '"'] ['"'] 0 rest := by
  simp [replaceFrom, List.isPrefixOf, Ne.symm other]

theorem replaceFrom_slash {rest : List Char} (free : rest.head? ≠ some '"') :
    replaceFrom ['\\', '"'] ['"'] 0 ('\\' :: rest) = '\\' :: replaceFrom ['\\', '"'] ['"'] 0 rest := by
  cases rest with
  | nil => rfl
  | cons d rest =>
      have other : '"' ≠ d := fun same => free (congrArg some same.symm)
      simp [replaceFrom, List.isPrefixOf, other]

theorem head_cons_ne {c : Char} (other : c ≠ '"') (rest : List Char) : (c :: rest).head? ≠ some '"' :=
  fun same => other (Option.some.inj same)

theorem replaceFrom_quote (rest : List Char) :
    replaceFrom ['\\', '"'] ['"'] 0 ('\\' :: '"' :: rest) = '"' :: replaceFrom ['\\', '"'] ['"'] 0 rest := rfl

theorem replaceFrom_free {front : List Char} (free : '\\' ∉ front) (rest : List Char) :
    replaceFrom ['\\', '"'] ['"'] 0 (front ++ rest) = front ++ replaceFrom ['\\', '"'] ['"'] 0 rest := by
  induction front with
  | nil => rfl
  | cons c front inductionHypothesis =>
      rw [List.mem_cons, not_or] at free
      rw [List.cons_append, replaceFrom_other (Ne.symm free.1), inductionHypothesis free.2, List.cons_append]

/-- The escape of any other character stays as it is. -/
theorem replaceFrom_escape {letter : Char} {digits : List Char} (other : letter ∉ ['"', '\\']) (free : '\\' ∉ digits)
    (rest : List Char) : replaceFrom ['\\', '"'] ['"'] 0 ('\\' :: letter :: digits ++ rest) =
      '\\' :: letter :: digits ++ replaceFrom ['\\', '"'] ['"'] 0 rest := by
  rw [List.mem_pair, not_or] at other
  rw [List.cons_append, List.cons_append, replaceFrom_slash (head_cons_ne other.1 _), replaceFrom_other other.2,
    replaceFrom_free free]
  rfl

/-- No rune begins with a bare quote. -/
theorem head_flatMap_quoteRune (text : List Char) : (text.flatMap (quoteRune wide)).head? ≠ some '"' := by
  cases text with
  | nil => exact nofun
  | cons c text =>
      rw [List.flatMap_cons]
      generalize written : quoteRune wide c = rune
      have shape := rune_quoteRune wide c
      rw [written] at shape
      cases shape with
      | self other printable =>
          intro same
          exact other (by rw [Option.some.inj same]; decide)
      | _ => exact fun same => absurd (Option.some.inj same) (by decide)

/-- The replacement of escaped quotes restores the quotes and nothing else. -/
theorem replaceText_goQuote (text : List Char) :
    replaceText ['\\', '"'] ['"'] (text.flatMap (quoteRune wide)) = text.flatMap (bareRune wide) := by
  unfold replaceText
  induction text with
  | nil => rfl
  | cons c text inductionHypothesis =>
      have free := @head_flatMap_quoteRune wide text
      rw [List.flatMap_cons, List.flatMap_cons, ← inductionHypothesis, bareRune]
      generalize written : quoteRune wide c = rune
      have shape := rune_quoteRune wide c
      rw [written] at shape
      have slash : '\\' ∈ ['"', '\\'] := by decide
      by_cases isMark : c ∈ ['"', '\\']
      · rcases List.mem_pair.mp isMark with rfl | rfl
        · rw [← written]
          exact replaceFrom_quote _
        · rw [← written, if_neg (by decide)]
          exact (replaceFrom_slash (head_cons_ne (by decide) _)).trans (congrArg _ (replaceFrom_slash free))
      · have other := isMark
        rw [List.mem_pair, not_or] at other
        rw [if_neg other.1]
        cases shape with
        | mark mark => exact absurd mark isMark
        | self => exact replaceFrom_other other.2 _
        | letter _ _ letter listed =>
            have letters : ∀ escape ∈ goEscapes, escape.2 ∉ ['"', '\\'] := by decide
            exact replaceFrom_escape (letters _ listed) List.not_mem_nil _
        | byte _ _ _ high low small =>
            have digits : '\\' ∉ [hexDigit high, hexDigit low] := by
              simp [(mark_ne_hexDigit slash small.1).symm, (mark_ne_hexDigit slash small.2).symm]
            exact replaceFrom_escape (by decide) digits _
        | unit =>
            have digits (value : Nat) : '\\' ≠ hexDigit (value % 16) :=
              (mark_ne_hexDigit slash (Nat.mod_lt _ (by decide))).symm
            exact replaceFrom_escape (by decide) (by simp [digits]) _
        | long => exact replaceFrom_escape (by decide) (mark_notMem_longDigits slash _) _

end Restoring

section Readings

variable {wide : Char → Bool} {readFloat : String → Float}

theorem isPrint_of_wide {c : Char} (large : 128 ≤ c.toNat) : isPrint wide c = wide c :=
  if_neg (Nat.not_lt.mpr large)

theorem isPrint_ascii {c : Char} (visible : 32 ≤ c.toNat) (notDelete : c.toNat ≠ 127) (hidden : isPrint wide c = false) :
    128 ≤ c.toNat := by
  by_contra ascii
  rw [isPrint, if_pos (by omega), Bool.and_eq_false_iff, decide_eq_false_iff_not, decide_eq_false_iff_not] at hidden
  omega

theorem bareRune_quote : bareRune wide '"' = ['"'] := rfl

theorem bareRune_of_ne {c : Char} (other : c ≠ '"') : bareRune wide c = quoteRune wide c := if_neg other

/-- A kept character is written as itself or as one unit. -/
theorem bareRune_of_kept {c : Char} (kept : Kept wide c) : bareRune wide c = [c] ∨
    128 ≤ c.toNat ∧ c.toNat < 0x10000 ∧ bareRune wide c = escapeUnit c.toNat := by
  obtain ⟨notSlash, visible, notDelete, basicOrWide⟩ := kept
  by_cases isQuote : c = '"'
  · subst isQuote
    exact .inl rfl
  · rw [bareRune_of_ne isQuote]
    generalize written : quoteRune wide c = rune
    have shape := rune_quoteRune wide c
    rw [written] at shape
    cases shape with
    | mark isMark =>
        rcases List.mem_pair.mp isMark with quote | slash
        · exact absurd quote isQuote
        · exact absurd slash notSlash
    | self => exact .inl rfl
    | letter _ _ letter listed =>
        have controls : ∀ escape ∈ goEscapes, escape.1 < 32 := by decide
        exact absurd (controls _ listed) (Nat.not_lt.mpr visible)
    | byte _ _ control =>
        rcases control with low | delete
        · exact absurd low (Nat.not_lt.mpr visible)
        · exact absurd delete notDelete
    | unit _ hidden _ basic => exact .inr ⟨isPrint_ascii visible notDelete hidden, basic, rfl⟩
    | long _ hidden large =>
        rw [isPrint_of_wide (by omega)] at hidden
        rcases basicOrWide with basic | printable
        · exact absurd basic (Nat.not_lt.mpr large)
        · exact absurd printable (by rw [hidden]; decide)

/-- A string takes a character from its unit. -/
theorem foldlM_escapeUnit_toNat {c : Char} (notSlash : c ≠ '\\') (visible : 32 ≤ c.toNat) (basic : c.toNat < 0x10000)
    {quoted : QuotedText} (mode : quoted.mode = .plain) :
    (escapeUnit c.toNat).foldlM QuotedText.feed quoted = quoted.feed c := by
  obtain ⟨text, high, _⟩ := quoted
  obtain rfl := mode
  have fed : QuotedText.feed ⟨text, high, .plain⟩ c = QuotedText.push ⟨text, high, .plain⟩ c := by
    simp [QuotedText.feed, notSlash, Nat.not_lt.mpr visible]
  rw [foldlM_escapeUnit text high basic, unit_toNat, fed]
  rfl

/-- The automaton takes a kept character from its restored rune, in a string or as the same error. -/
theorem foldlM_feed_bareRune {c : Char} (kept : Kept wide c) {loader : Loader} (mode : loader.mode = .plain) :
    (bareRune wide c).foldlM (Loader.feed readFloat) loader = loader.feed readFloat c := by
  rcases bareRune_of_kept kept with same | ⟨large, basic, unit⟩
  · rw [same, List.foldlM_cons]
    exact Option.bind_fun_some _
  · rw [unit]
    have other : c ≠ '"' := by
      rintro rfl
      exact absurd large (by decide)
    have alien : isStructural c = false :=
      Bool.eq_false_iff.mpr fun structural => absurd (isStructural_ascii structural) (Nat.not_lt.mpr large)
    have refused {start : Loader} (slash : start.feed readFloat '\\' = none) :
        (escapeUnit c.toNat).foldlM (Loader.feed readFloat) start = none := by
      rw [escapeUnit, List.foldlM_cons, slash]
      rfl
    obtain ⟨stack, phase⟩ := loader
    have between (notText : ∀ quoted, phase ≠ .text quoted) (notKey : ∀ members quoted, phase ≠ .keyText members quoted) :
        (escapeUnit c.toNat).foldlM (Loader.feed readFloat) ⟨stack, phase⟩ =
          Loader.feed readFloat ⟨stack, phase⟩ c := by
      rw [feed_alien alien stack notText notKey]
      exact refused (feed_alien (by decide) stack notText notKey)
    cases phase with
    | text quoted =>
        rw [foldlM_feed_quoted (feed_text stack) (quote_notMem_escapeUnit _) quoted,
          foldlM_escapeUnit_toNat kept.1 kept.2.1 basic mode]
        exact (feed_text stack quoted c other).symm
    | keyText members quoted =>
        rw [foldlM_feed_quoted (feed_keyText stack members) (quote_notMem_escapeUnit _) quoted,
          foldlM_escapeUnit_toNat kept.1 kept.2.1 basic mode]
        exact (feed_keyText stack members quoted c other).symm
    | _ =>
        apply between
        · intro quoted same
          cases same
        · intro members quoted same
          cases same

/-- A text of kept characters is read from its restored form as it stands. -/
theorem foldlM_feed_flatMap {text : List Char} (kept : ∀ c ∈ text, Kept wide c) {loader : Loader}
    (mode : loader.mode = .plain) : (text.flatMap (bareRune wide)).foldlM (Loader.feed readFloat) loader =
      text.foldlM (Loader.feed readFloat) loader := by
  induction text generalizing loader with
  | nil => rfl
  | cons c text inductionHypothesis =>
      obtain ⟨here, later⟩ := List.forall_mem_cons.mp kept
      rw [List.flatMap_cons, List.foldlM_append, foldlM_feed_bareRune here mode, List.foldlM_cons]
      cases fed : loader.feed readFloat c with
      | none => rfl
      | some next =>
          have weighed := weigh_of_feed fed
          rw [mode, weigh_eq_some rfl] at weighed
          have plain : next.mode = .plain := by
            rw [← (Prod.mk.inj (Option.some.inj weighed)).1]
            exact if_neg here.1
          exact inductionHypothesis later plain

/-- The restored rune weighs as much as the character, and two kinds of escapes are unknown to JSON. -/
theorem weigh_bareRune {c : Char} {total : Nat} {state : EscapeMode × Nat}
    (weighed : (bareRune wide c).foldlM weigh (.plain, total) = some state) :
    state = (.plain, total + heavyCode c.toNat) ∧ c.toNat ≠ 127 ∧ (c.toNat < 0x10000 ∨ wide c = true) := by
  by_cases isQuote : c = '"'
  · subst isQuote
    obtain rfl := Option.some.inj weighed
    exact ⟨rfl, by decide, .inl (by decide)⟩
  · rw [bareRune_of_ne isQuote] at weighed
    generalize written : quoteRune wide c = rune at weighed
    have shape := rune_quoteRune wide c
    rw [written] at shape
    cases shape with
    | mark isMark =>
        rcases List.mem_pair.mp isMark with quote | rfl
        · exact absurd quote isQuote
        · obtain rfl := Option.some.inj weighed
          exact ⟨rfl, by decide, .inl (by decide)⟩
    | self other printable =>
        rw [List.mem_pair, not_or] at other
        have range : 32 ≤ c.toNat ∧ c.toNat ≠ 127 ∧ (c.toNat < 0x10000 ∨ wide c = true) := by
          by_cases ascii : c.toNat < 128
          · rw [isPrint, if_pos ascii, Bool.and_eq_true, decide_eq_true_eq, decide_eq_true_eq] at printable
            omega
          · rw [isPrint_of_wide (Nat.le_of_not_lt ascii)] at printable
            exact ⟨by omega, by omega, .inr printable⟩
        have gain : EscapeMode.gain .plain c = heavyCode c.toNat :=
          if_neg (not_or.mpr ⟨other.2, Nat.not_lt.mpr range.1⟩)
        have mode : EscapeMode.next .plain c = .plain := if_neg other.2
        rw [List.foldlM_cons, weigh_eq_some rfl, gain, mode] at weighed
        exact ⟨(Option.some.inj weighed).symm, range.2⟩
    | letter _ _ letter listed =>
        have known : ∀ escape ∈ goEscapes, escape.1 < 32 ∧ escape.2 ≠ 'u' ∧
            ((simpleEscape escape.2).map Char.toNat).getD escape.1 = escape.1 := by decide
        obtain ⟨control, notUnit, stands⟩ := known _ listed
        have slash (later : List Char) : ('\\' :: later).foldlM weigh (.plain, total) =
            later.foldlM weigh (.slash, total) := rfl
        rw [slash, List.foldlM_cons] at weighed
        obtain ⟨next, stepped, rest⟩ := Option.bind_eq_some_iff.mp weighed
        obtain rfl := Option.some.inj rest
        cases meaning : simpleEscape letter with
        | none => simp [weigh, EscapeMode.admits, meaning, notUnit] at stepped
        | some d =>
            rw [meaning] at stands
            have code : d.toNat = c.toNat := stands
            simp [weigh, EscapeMode.admits, EscapeMode.next, EscapeMode.gain, meaning, notUnit, code] at stepped
            exact ⟨stepped.symm, by omega, .inl (by omega)⟩
    | byte => cases weighed
    | unit _ _ visible basic =>
        have run := weigh_of_quotedRun ((foldlM_escapeUnit [] none basic).trans (unit_toNat _ c)) total
        have ended : (escapeUnit c.toNat).foldlM weigh (.plain, total) = some (.plain, total + textWeight [c]) := run
        rw [textWeight_singleton, weighed] at ended
        exact ⟨Option.some.inj ended, visible.2, .inl basic⟩
    | long => cases weighed

theorem weigh_flatMap {text : List Char} {total : Nat} {state : EscapeMode × Nat}
    (weighed : (text.flatMap (bareRune wide)).foldlM weigh (.plain, total) = some state) :
    state = (.plain, total + textWeight text) ∧
      ∀ c ∈ text, c.toNat ≠ 127 ∧ (c.toNat < 0x10000 ∨ wide c = true) := by
  induction text generalizing total with
  | nil =>
      obtain rfl := Option.some.inj weighed
      exact ⟨rfl, nofun⟩
  | cons c text inductionHypothesis =>
      rw [List.flatMap_cons, List.foldlM_append] at weighed
      obtain ⟨next, here, rest⟩ := Option.bind_eq_some_iff.mp weighed
      obtain ⟨rfl, known⟩ := weigh_bareRune here
      obtain ⟨same, later⟩ := inductionHypothesis rest
      have whole : textWeight (c :: text) = heavyCode c.toNat + textWeight text := rfl
      exact ⟨by rw [same, whole, Nat.add_assoc], List.forall_mem_cons.mpr ⟨known, later⟩⟩

/-- The restored text of a value is read as that value exactly where every character of the text is kept. -/
theorem loads_restored_iff {text : List Char} {value : Json} (read : loads readFloat text = some value) :
    loads readFloat (text.flatMap (bareRune wide)) = some value ↔ ∀ c ∈ text, Kept wide c := by
  constructor
  · intro restored
    obtain ⟨same, known⟩ := weigh_flatMap (weigh_of_loads restored)
    have weight : value.weight = 0 + textWeight text := (Prod.mk.inj same).2
    have weighed := weigh_of_loads read
    rw [weight] at weighed
    have plain := plain_of_weigh weighed
    exact fun c member => ⟨(plain c member).1, (plain c member).2, known c member⟩
  · intro kept
    rw [loads, foldlM_feed_flatMap kept rfl]
    exact read

end Readings

end Pxtly.Foundation
