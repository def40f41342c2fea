/-
This file gives Python's replacement of a part of a text, and what replacements of single characters do one after the other.
-/

import Mathlib.Data.List.Basic
import Mathlib.Tactic.Common

namespace Pxtly.Foundation

/-- The number counts the characters of a match that are still to be left out. -/
def replaceFrom (pattern replacement : List Char) : Nat → List Char → List Char
  | _, [] => []
  | skip + 1, _ :: rest => replaceFrom pattern replacement skip rest
  | 0, c :: rest =>
      if pattern.isPrefixOf (c :: rest) then replacement ++ replaceFrom pattern replacement (pattern.length - 1) rest
      else c :: replaceFrom pattern replacement 0 rest

/-- This is `text.replace(pattern, replacement)` for a pattern that is not empty. -/
def replaceText (pattern replacement text : List Char) : List Char := replaceFrom pattern replacement 0 text

section Characters

/-- A replacement of one character rewrites each character on its own. -/
theorem replaceText_singleton (c : Char) (replacement text : List Char) :
    replaceText [c] replacement text = text.flatMap fun d => if c = d then replacement else [d] := by
  induction text with
  | nil => rfl
  | cons d rest inductionHypothesis =>
      rw [replaceText] at inductionHypothesis ⊢
      rw [replaceFrom, List.flatMap_cons, ← inductionHypothesis]
      by_cases same : c = d
      · simp [same, List.isPrefixOf]
      · simp [same, List.isPrefixOf]

/-- The characters are replaced one after the other, each in the whole text. -/
def replaceEach (replacements : List (Char × List Char)) (text : List Char) : List Char :=
  replacements.foldl (fun text replacement => replaceText [replacement.1] replacement.2 text) text

theorem replaceEach_cons (replacement : Char × List Char) (later : List (Char × List Char)) (text : List Char) :
    replaceEach (replacement :: later) text = replaceEach later (replaceText [replacement.1] replacement.2 text) := rfl

/-- Also a chain of replacements rewrites each character on its own. -/
theorem replaceEach_eq_flatMap (replacements : List (Char × List Char)) (text : List Char) :
    replaceEach replacements text = text.flatMap fun c => replaceEach replacements [c] := by
  induction replacements generalizing text with
  | nil =>
      show text = text.flatMap fun c => [c]
      rw [List.flatMap_singleton']
  | cons replacement later inductionHypothesis =>
      rw [replaceEach_cons, replaceText_singleton, inductionHypothesis, List.flatMap_assoc]
      congr 1
      funext c
      rw [replaceEach_cons, replaceText_singleton, List.flatMap_singleton, ← inductionHypothesis]

theorem replaceEach_append (replacements : List (Char × List Char)) (first second : List Char) :
    replaceEach replacements (first ++ second) = replaceEach replacements first ++ replaceEach replacements second := by
  rw [replaceEach_eq_flatMap replacements (first ++ second), List.flatMap_append, ← replaceEach_eq_flatMap,
    ← replaceEach_eq_flatMap]

/-- A character that no replacement names stays. -/
theorem replaceEach_of_not_mem {replacements : List (Char × List Char)} {c : Char}
    (unnamed : c ∉ replacements.map Prod.fst) : replaceEach replacements [c] = [c] := by
  induction replacements with
  | nil => rfl
  | cons replacement later inductionHypothesis =>
      rw [List.map_cons, List.mem_cons, not_or] at unnamed
      have stays : replaceText [replacement.1] replacement.2 [c] = [c] := by
        rw [replaceText_singleton, List.flatMap_singleton, if_neg fun same => unnamed.1 same.symm]
      rw [replaceEach_cons, stays, inductionHypothesis unnamed.2]

end Characters

end Pxtly.Foundation
