/-
This file gives how the audit report escapes its texts, and what LaTeX prints for them.
-/

import Pxtly.Foundation.Json
import Pxtly.Foundation.Texts

namespace Pxtly.Audit

open Foundation

section Escape

/-- These are the characters in the order of their replacement; the backslash comes first. -/
def latexEscapes : List (Char × List Char) :=
  [('\\', "\\textbackslash\x7b\x7d".toList), ('&', "\\&".toList), ('%', "\\%".toList), ('$', "\\$".toList),
    ('#', "\\#".toList), ('_', "\\_".toList), ('\x7b', "\\\x7b".toList), ('\x7d', "\\\x7d".toList),
    ('~', "\\textasciitilde\x7b\x7d".toList), ('^', "\\textasciicircum\x7b\x7d".toList)]

/-- This is `ReportGenerator._escape_latex`; `str` is Python's text of a value that is no text. -/
def escapeLatex (str : Json → String) (text : Json) : String :=
  match text with
  | .string text => String.ofList (replaceEach latexEscapes text.toList)
  | value => String.ofList (replaceEach latexEscapes (str value).toList)

end Escape

section Reading

/-- LaTeX reads a text as characters and control sequences. -/
inductive Token where
  | character (c : Char)
  | control (name : List Char)
  | beginGroup
  | endGroup
  | active (c : Char)
  deriving DecidableEq

inductive Mode where
  | text
  | backslash
  | word (name : List Char)
  | blanks
  deriving DecidableEq

structure Lexer where
  tokens : List Token
  mode : Mode
  deriving DecidableEq

def isLetter (c : Char) : Bool := ('a' ≤ c && c ≤ 'z') || ('A' ≤ c && c ≤ 'Z')

/-- A character outside a control sequence starts one, opens or closes a group, acts, or stands for itself. -/
def readCharacter (tokens : List Token) (c : Char) : Lexer :=
  if c = '\\' then ⟨tokens, .backslash⟩
  else if c = '\x7b' then ⟨tokens ++ [.beginGroup], .text⟩
  else if c = '\x7d' then ⟨tokens ++ [.endGroup], .text⟩
  else if c ∈ ['&', '%', '$', '#', '_', '~', '^'] then ⟨tokens ++ [.active c], .text⟩
  else ⟨tokens ++ [.character c], .text⟩

/-- A control word takes all letters, and the blanks behind it are skipped. -/
def Lexer.feed (lexer : Lexer) (c : Char) : Lexer :=
  match lexer.mode with
  | .text => readCharacter lexer.tokens c
  | .backslash =>
      if isLetter c then ⟨lexer.tokens, .word [c]⟩ else ⟨lexer.tokens ++ [.control [c]], .text⟩
  | .word name =>
      if isLetter c then ⟨lexer.tokens, .word (name ++ [c])⟩
      else if c = ' ' then ⟨lexer.tokens ++ [.control name], .blanks⟩
      else readCharacter (lexer.tokens ++ [.control name]) c
  | .blanks => if c = ' ' then lexer else readCharacter lexer.tokens c

/-- A text does not end in a backslash. -/
def Lexer.finish (lexer : Lexer) : Option (List Token) :=
  match lexer.mode with
  | .backslash => none
  | .word name => some (lexer.tokens ++ [.control name])
  | _ => some lexer.tokens

/-- The control sequences of the escapes print these characters. -/
def printed (name : List Char) : Option Char :=
  if name = "textbackslash".toList then some '\\'
  else if name = "textasciitilde".toList then some '~'
  else if name = "textasciicircum".toList then some '^'
  else match name with
    | [c] => if c ∈ ['&', '%', '$', '#', '_', '\x7b', '\x7d'] then some c else none
    | _ => none

/-- The number counts the groups that are open; a special character that acts prints nothing. -/
def typeset : Nat → List Token → Option (List Char)
  | 0, [] => some []
  | _ + 1, [] => none
  | groups, .beginGroup :: rest => typeset (groups + 1) rest
  | 0, .endGroup :: _ => none
  | groups + 1, .endGroup :: rest => typeset groups rest
  | _, .active _ :: _ => none
  | groups, .character c :: rest => (typeset groups rest).map (c :: ·)
  | groups, .control name :: rest => do
      let c ← printed name
      let later ← typeset groups rest
      return c :: later

/-- This is what LaTeX prints; nothing is printed where the text is no plain text. -/
def latexPrints (text : String) : Option String := do
  let tokens ← (text.toList.foldl Lexer.feed ⟨[], .text⟩).finish
  let characters ← typeset 0 tokens
  return String.ofList characters

end Reading

section Characters

def escapeCharacter (c : Char) : List Char := replaceEach latexEscapes [c]

/-- These tokens are read from the escape of a character. -/
def escapeTokens (c : Char) : List Token :=
  if c = '\\' then [.control "textbackslash".toList, .control ['\x7b'], .control ['\x7d']]
  else if c = '~' then [.control "textasciitilde".toList, .beginGroup, .endGroup]
  else if c = '^' then [.control "textasciicircum".toList, .beginGroup, .endGroup]
  else if c ∈ ['&', '%', '$', '#', '_', '\x7b', '\x7d'] then [.control [c]]
  else [.character c]

/-- These characters are printed for a character: the braces behind a backslash are escaped once more. -/
def printedCharacter (c : Char) : List Char := if c = '\\' then ['\\', '\x7b', '\x7d'] else [c]

theorem feed_tokens (earlier : List Token) (mode : Mode) (c : Char) :
    Lexer.feed ⟨earlier, mode⟩ c = ⟨earlier ++ (Lexer.feed ⟨[], mode⟩ c).tokens, (Lexer.feed ⟨[], mode⟩ c).mode⟩ := by
  have read (more : List Token) :
      readCharacter (earlier ++ more) c = ⟨earlier ++ (readCharacter more c).tokens, (readCharacter more c).mode⟩ := by
    unfold readCharacter
    split_ifs <;> simp
  cases mode with
  | text =>
      have same := read []
      rwa [List.append_nil] at same
  | backslash => simp only [Lexer.feed]; split_ifs <;> simp
  | word name =>
      simp only [Lexer.feed]
      split_ifs
      · simp
      · simp
      · simpa using read [.control name]
  | blanks =>
      simp only [Lexer.feed]
      split_ifs
      · simp
      · simpa using read []

/-- What was read before does not change how a text is read. -/
theorem foldl_feed (text : List Char) (earlier : List Token) (mode : Mode) :
    text.foldl Lexer.feed ⟨earlier, mode⟩ =
      ⟨earlier ++ (text.foldl Lexer.feed ⟨[], mode⟩).tokens, (text.foldl Lexer.feed ⟨[], mode⟩).mode⟩ := by
  induction text generalizing earlier mode with
  | nil => simp
  | cons c rest inductionHypothesis =>
      rw [List.foldl_cons, List.foldl_cons, feed_tokens, inductionHypothesis]
      rw [inductionHypothesis (Lexer.feed ⟨[], mode⟩ c).tokens]
      simp

theorem feed_escapeCharacter (c : Char) :
    (escapeCharacter c).foldl Lexer.feed ⟨[], .text⟩ = ⟨escapeTokens c, .text⟩ := by
  by_cases special : c ∈ latexEscapes.map Prod.fst
  · simp only [latexEscapes, List.map_cons, List.map_nil, List.mem_cons, List.not_mem_nil, or_false] at special
    rcases special with rfl | rfl | rfl | rfl | rfl | rfl | rfl | rfl | rfl | rfl <;> decide
  · rw [escapeCharacter, replaceEach_of_not_mem special]
    simp only [latexEscapes, List.map_cons, List.map_nil, List.mem_cons, List.not_mem_nil, or_false, not_or] at special
    simp [Lexer.feed, readCharacter, escapeTokens, special]

theorem typeset_escapeTokens (c : Char) (groups : Nat) (rest : List Token) :
    typeset groups (escapeTokens c ++ rest) = (typeset groups rest).map (printedCharacter c ++ ·) := by
  have word (name : List Char) (d : Char) (found : printed name = some d) (later : List Token) :
      typeset groups (.control name :: later) = (typeset groups later).map (d :: ·) := by
    rw [typeset, found]
    cases typeset groups later <;> rfl
  have empty (later : List Token) : typeset groups (.beginGroup :: .endGroup :: later) = typeset groups later := by
    rw [typeset, typeset]
  unfold escapeTokens printedCharacter
  by_cases backslash : c = '\\'
  · simp only [if_pos backslash, List.cons_append, List.nil_append]
    rw [word _ '\\' (by decide), word _ '\x7b' (by decide), word _ '\x7d' (by decide), Option.map_map, Option.map_map]
    rfl
  · simp only [if_neg backslash]
    by_cases tilde : c = '~'
    · simp only [if_pos tilde, List.cons_append, List.nil_append]
      rw [word _ c (by rw [tilde]; decide), empty]
    · by_cases caret : c = '^'
      · simp only [if_neg tilde, if_pos caret, List.cons_append, List.nil_append]
        rw [word _ c (by rw [caret]; decide), empty]
      · by_cases symbol : c ∈ ['&', '%', '$', '#', '_', '\x7b', '\x7d']
        · simp only [if_neg tilde, if_neg caret, if_pos symbol, List.cons_append, List.nil_append]
          have found : printed [c] = some c := by
            simp only [List.mem_cons, List.not_mem_nil, or_false] at symbol
            rcases symbol with rfl | rfl | rfl | rfl | rfl | rfl | rfl <;> decide
          exact word _ c found rest
        · simp only [if_neg tilde, if_neg caret, if_neg symbol, List.cons_append, List.nil_append]
          rw [typeset]

end Characters

section Texts

theorem feed_escapes (text : List Char) :
    (replaceEach latexEscapes text).foldl Lexer.feed ⟨[], .text⟩ = ⟨text.flatMap escapeTokens, .text⟩ := by
  rw [replaceEach_eq_flatMap]
  induction text with
  | nil => rfl
  | cons c rest inductionHypothesis =>
      have first := feed_escapeCharacter c
      unfold escapeCharacter at first
      rw [List.flatMap_cons, List.flatMap_cons, List.foldl_append, first, foldl_feed, inductionHypothesis]

theorem typeset_escapes (text : List Char) :
    typeset 0 (text.flatMap escapeTokens) = some (text.flatMap printedCharacter) := by
  induction text with
  | nil => rfl
  | cons c rest inductionHypothesis =>
      rw [List.flatMap_cons, List.flatMap_cons, typeset_escapeTokens, inductionHypothesis]
      rfl

/-- LaTeX prints two braces behind each backslash, and every other character as it is. -/
theorem latexPrints_escapeLatex (str : Json → String) (text : String) :
    latexPrints (escapeLatex str (.string text)) = some (String.ofList (text.toList.flatMap printedCharacter)) := by
  rw [latexPrints, escapeLatex, String.toList_ofList, feed_escapes]
  show (do
    let characters ← typeset 0 (text.toList.flatMap escapeTokens)
    return String.ofList characters) = _
  rw [typeset_escapes]
  rfl

theorem flatMap_printedCharacter_eq_iff (text : List Char) : text.flatMap printedCharacter = text ↔ '\\' ∉ text := by
  constructor
  · intro same member
    -- A backslash makes the printed text longer, and no character makes it shorter.
    have grows (text : List Char) : text.length + 2 * text.count '\\' = (text.flatMap printedCharacter).length := by
      induction text with
      | nil => rfl
      | cons c rest inductionHypothesis =>
          rw [List.flatMap_cons, List.length_append, ← inductionHypothesis, printedCharacter, List.count_cons,
            List.length_cons]
          by_cases backslash : c = '\\'
          · simp only [backslash, if_true, beq_self_eq_true, List.length_cons, List.length_nil]
            omega
          · simp only [if_neg backslash, beq_iff_eq, List.length_cons, List.length_nil]
            omega
    have counted : 0 < text.count '\\' := List.count_pos_iff.mpr member
    have size := grows text
    rw [same] at size
    omega
  · intro plain
    induction text with
    | nil => rfl
    | cons c rest inductionHypothesis =>
        rw [List.mem_cons, not_or] at plain
        rw [List.flatMap_cons, inductionHypothesis plain.2, printedCharacter, if_neg fun same => plain.1 same.symm]
        rfl

/-- The escape of a text is the one of its characters, and LaTeX prints the text for it. -/
structure EscapesFaithfully (str : Json → String) (text : String) : Prop where
  characterwise : escapeLatex str (.string text) =
    String.ofList (text.toList.flatMap fun c => (escapeLatex str (.string (String.singleton c))).toList)
  append : ∀ later, escapeLatex str (.string (text ++ later)) =
    escapeLatex str (.string text) ++ escapeLatex str (.string later)
  prints : latexPrints (escapeLatex str (.string text)) = some text

theorem escapeLatex_append (str : Json → String) (text later : String) :
    escapeLatex str (.string (text ++ later)) = escapeLatex str (.string text) ++ escapeLatex str (.string later) := by
  simp only [escapeLatex]
  rw [String.toList_append, replaceEach_append, String.ofList_append]

/-- Every text is escaped character by character, but only one without a backslash is printed. -/
theorem escapesFaithfully_iff (str : Json → String) (text : String) :
    EscapesFaithfully str text ↔ '\\' ∉ text.toList := by
  have printed : latexPrints (escapeLatex str (.string text)) = some text ↔ '\\' ∉ text.toList := by
    rw [latexPrints_escapeLatex, Option.some.injEq, ← flatMap_printedCharacter_eq_iff, ← String.toList_inj,
      String.toList_ofList]
  rw [← printed]
  constructor
  · exact fun faithful => faithful.prints
  · intro prints
    refine ⟨?_, escapeLatex_append str text, prints⟩
    simp only [escapeLatex, String.toList_singleton, String.toList_ofList]
    rw [replaceEach_eq_flatMap]

/-- The braces of the escape of a backslash are escaped themselves. -/
theorem backslash_misprinted :
    escapeLatex (fun _ => "") (.string "\\") = "\\textbackslash\\\x7b\\\x7d" ∧
      latexPrints (escapeLatex (fun _ => "") (.string "\\")) = some "\\\x7b\x7d" ∧
      ¬ EscapesFaithfully (fun _ => "") "\\" := by
  have misprinted : latexPrints (escapeLatex (fun _ => "") (.string "\\")) = some "\\\x7b\x7d" := by decide +kernel
  refine ⟨by decide +kernel, misprinted, fun faithful => ?_⟩
  have same := misprinted.symm.trans faithful.prints
  exact absurd same (by decide)

end Texts

end Pxtly.Audit
