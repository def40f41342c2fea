/-
This file gives Python's lines of a text, and that the lines of JSON texts are those texts.
-/

import Pxtly.Foundation.JsonTexts

namespace Pxtly.Foundation

/-- A line ends at each of these characters. -/
def isLineBreak (c : Char) : Bool := c.toNat ∈ [10, 11, 12, 13, 28, 29, 30, 0x85, 0x2028, 0x2029]

/-- A newline behind a carriage return ends no line of its own, and behind the last end there is no line. -/
def splitLinesFrom (line : List Char) : List Char → List (List Char)
  | [] => if line = [] then [] else [line]
  | '\r' :: '\n' :: rest => line :: splitLinesFrom [] rest
  | c :: rest => if isLineBreak c then line :: splitLinesFrom [] rest else splitLinesFrom (line ++ [c]) rest

/-- This is `text.splitlines()`. -/
def splitLines (text : List Char) : List (List Char) := splitLinesFrom [] text

/-- A file that is read as a text has one kind of newline. -/
def universalNewlines : List Char → List Char
  | [] => []
  | '\r' :: '\n' :: rest => '\n' :: universalNewlines rest
  | '\r' :: rest => '\n' :: universalNewlines rest
  | c :: rest => c :: universalNewlines rest

theorem universalNewlines_of_notMem {text : List Char} (absent : '\r' ∉ text) : universalNewlines text = text := by
  induction text with
  | nil => rfl
  | cons c rest inductionHypothesis =>
      rw [List.mem_cons, not_or] at absent
      rw [universalNewlines, inductionHypothesis absent.2]
      · rintro _ rfl
        exact absurd rfl absent.1
      · rintro rfl
        exact absurd rfl absent.1

def Unbroken (line : List Char) : Prop := ∀ c ∈ line, isLineBreak c = false

theorem unbroken_of_all {line : List Char} (all : (line.all fun c => !isLineBreak c) = true) : Unbroken line := by
  simpa [Unbroken] using all

theorem splitLinesFrom_newline {body : List Char} (unbroken : Unbroken body) (line rest : List Char) :
    splitLinesFrom line (body ++ '\n' :: rest) = (line ++ body) :: splitLinesFrom [] rest := by
  induction body generalizing line with
  | nil => rw [List.nil_append, List.append_nil, splitLinesFrom, if_pos (by decide)]; simp
  | cons c body inductionHypothesis =>
      have open_ : isLineBreak c = false := unbroken c List.mem_cons_self
      rw [List.cons_append, splitLinesFrom, open_, if_neg Bool.false_ne_true,
        inductionHypothesis fun d member => unbroken d (List.mem_cons_of_mem _ member), List.append_assoc]
      · rfl
      · rintro _ rfl
        exact absurd open_ (by decide)

/-- Lines without separators are read back from their text. -/
theorem splitLines_lines {lines : List (List Char)} (unbroken : ∀ line ∈ lines, Unbroken line) :
    splitLines (lines.flatMap fun line => line ++ ['\n']) = lines := by
  induction lines with
  | nil => rfl
  | cons line lines inductionHypothesis =>
      have others := inductionHypothesis fun other member => unbroken other (List.mem_cons_of_mem _ member)
      rw [splitLines] at others ⊢
      rw [List.flatMap_cons, List.append_assoc, List.singleton_append,
        splitLinesFrom_newline (unbroken line List.mem_cons_self), others, List.nil_append]

theorem isLineBreak_of_isPrintable {c : Char} (printable : isPrintable c = true) : isLineBreak c = false := by
  simp only [isPrintable, Bool.and_eq_true, decide_eq_true_eq] at printable
  simp only [isLineBreak, decide_eq_false_iff_not, List.mem_cons, List.not_mem_nil, or_false]
  omega

theorem PrintableText.unbroken {text : String} (printable : PrintableText text) : Unbroken text.toList :=
  fun c member => isLineBreak_of_isPrintable (printable c member)

end Pxtly.Foundation
