/-
This file gives substitutions, which rewrite the leftmost matches of a pattern in a list that do not overlap.
-/

import Mathlib.Data.List.Basic
import Mathlib.Tactic.Common

namespace Pxtly.Foundation

/-- Of a match, one part is replaced and the parts around it are kept. -/
structure Edit (A : Type) where
  before : List A
  removed : List A
  inserted : List A
  after : List A
  deriving DecidableEq

namespace Edit

variable {A : Type}

def source (edit : Edit A) : List A := edit.before ++ edit.removed ++ edit.after
def result (edit : Edit A) : List A := edit.before ++ edit.inserted ++ edit.after

end Edit

/-- A matcher knows the item before a place and the items from there on. -/
abbrev Matcher (A : Type) := Option A → List A → Option (Edit A)

/-- A rewritten list consists of copied items and of edited matches. -/
inductive Piece (A : Type) where
  | copy (a : A)
  | edit (edit : Edit A)

def Piece.source {A : Type} : Piece A → List A
  | .copy a => [a]
  | .edit change => change.source

def Piece.result {A : Type} : Piece A → List A
  | .copy a => [a]
  | .edit change => change.result

namespace Matcher

variable {A : Type} (matcher : Matcher A)

/-- The search goes on behind a match, whose items it skips. -/
def pieces : Option A → Nat → List A → List (Piece A)
  | _, _, [] => []
  | _, skip + 1, a :: rest => pieces (some a) skip rest
  | previous, 0, a :: rest =>
      match matcher previous (a :: rest) with
      | none => .copy a :: pieces (some a) 0 rest
      | some edit => .edit edit :: pieces (some a) (edit.source.length - 1) rest

def substituteFrom (previous : Option A) (skip : Nat) (items : List A) : List A :=
  (matcher.pieces previous skip items).flatMap Piece.result

def substitute (items : List A) : List A := matcher.substituteFrom none 0 items

/-- A match is never empty, and it stands at the place where it is found. -/
structure Sound : Prop where
  nonempty : ∀ previous items edit, matcher previous items = some edit → edit.source ≠ []
  isPrefix : ∀ previous items edit, matcher previous items = some edit → edit.source <+: items

variable {matcher} {previous : Option A} {a : A} {rest : List A} {edit : Edit A}

@[simp] theorem substituteFrom_nil (previous : Option A) (skip : Nat) : matcher.substituteFrom previous skip [] = [] := by
  cases skip <;> rfl

@[simp] theorem substituteFrom_skip (previous : Option A) (skip : Nat) (a : A) (rest : List A) :
    matcher.substituteFrom previous (skip + 1) (a :: rest) = matcher.substituteFrom (some a) skip rest := rfl

theorem substituteFrom_copy (unmatched : matcher previous (a :: rest) = none) :
    matcher.substituteFrom previous 0 (a :: rest) = a :: matcher.substituteFrom (some a) 0 rest := by
  rw [substituteFrom, pieces, unmatched]
  rfl

theorem substituteFrom_edit (matched : matcher previous (a :: rest) = some edit) :
    matcher.substituteFrom previous 0 (a :: rest) =
      edit.result ++ matcher.substituteFrom (some a) (edit.source.length - 1) rest := by
  rw [substituteFrom, pieces, matched]
  rfl

/-- The pieces make up the list. -/
theorem source_pieces (sound : matcher.Sound) (previous : Option A) (skip : Nat) (items : List A) :
    (matcher.pieces previous skip items).flatMap Piece.source = items.drop skip := by
  induction items generalizing previous skip with
  | nil => cases skip <;> rfl
  | cons a rest inductionHypothesis =>
      cases skip with
      | succ skip => exact inductionHypothesis (some a) skip
      | zero =>
          rw [pieces]
          split
          · rw [List.flatMap_cons, inductionHypothesis]
            rfl
          · next edit matched =>
              obtain ⟨more, whole⟩ := sound.isPrefix _ _ _ matched
              rw [List.flatMap_cons, inductionHypothesis]
              change edit.source ++ _ = _
              cases known : edit.source with
              | nil => exact absurd known (sound.nonempty _ _ _ matched)
              | cons first others =>
                  rw [known] at whole
                  obtain ⟨rfl, rfl⟩ := List.cons.inj whole
                  simp

/-- Each edit is one that the matcher gives. -/
theorem exists_of_mem_pieces {edit : Edit A} {skip : Nat} {items : List A}
    (inside : .edit edit ∈ matcher.pieces previous skip items) : ∃ previous items, matcher previous items = some edit := by
  induction items generalizing previous skip with
  | nil => cases skip <;> cases inside
  | cons a rest inductionHypothesis =>
      cases skip with
      | succ skip => exact inductionHypothesis inside
      | zero =>
          rw [pieces] at inside
          split at inside
          · rcases List.mem_cons.mp inside with contrary | later
            · cases contrary
            · exact inductionHypothesis later
          · next found matched =>
              rcases List.mem_cons.mp inside with same | later
              · obtain rfl := Piece.edit.inj same
                exact ⟨_, _, matched⟩
              · exact inductionHypothesis later

/-- Behind the skipped items the search goes on. -/
theorem pieces_append (previous : Option A) (first more : List A) :
    matcher.pieces previous first.length (first ++ more) = matcher.pieces (first.getLast?.or previous) 0 more := by
  induction first generalizing previous with
  | nil => rfl
  | cons a first inductionHypothesis =>
      rw [List.length_cons, List.cons_append, pieces, inductionHypothesis]
      cases first with
      | nil => rfl
      | cons b first => rw [List.getLast?_cons_cons, List.getLast?_cons]; rfl

theorem pieces_edit {more : List A} (sound : matcher.Sound)
    (matched : matcher previous (edit.source ++ more) = some edit) :
    matcher.pieces previous 0 (edit.source ++ more) =
      .edit edit :: matcher.pieces (edit.source.getLast?.or previous) 0 more := by
  cases known : edit.source with
  | nil => exact absurd known (sound.nonempty _ _ _ matched)
  | cons first others =>
      rw [known, List.cons_append] at matched
      have behind : matcher.pieces previous (first :: others).length (first :: others ++ more) = _ :=
        pieces_append previous (first :: others) more
      rw [List.cons_append, pieces, matched, ← behind]
      simp only [known]
      rfl

/-- A property of the pieces holds when copying an item keeps it and editing a match keeps it. -/
theorem pieces_rule (sound : matcher.Sound) {motive : Option A → List A → List (Piece A) → Prop}
    (nil : ∀ previous, motive previous [] [])
    (copy : ∀ previous a rest, matcher previous (a :: rest) = none →
      motive (some a) rest (matcher.pieces (some a) 0 rest) →
      motive previous (a :: rest) (.copy a :: matcher.pieces (some a) 0 rest))
    (edit : ∀ previous next edit rest, matcher previous (edit.source ++ rest) = some edit →
      motive next rest (matcher.pieces next 0 rest) →
      motive previous (edit.source ++ rest) (.edit edit :: matcher.pieces next 0 rest))
    (previous : Option A) (items : List A) : motive previous items (matcher.pieces previous 0 items) := by
  induction size : items.length using Nat.strongRecOn generalizing previous items with
  | ind size inductionHypothesis =>
      cases items with
      | nil => exact nil previous
      | cons a rest =>
          cases found : matcher previous (a :: rest) with
          | none =>
              rw [pieces, found]
              exact copy previous a rest found (inductionHypothesis _ (by rw [← size]; exact Nat.lt_succ_self _) _ _ rfl)
          | some change =>
              obtain ⟨more, whole⟩ := sound.isPrefix _ _ _ found
              have positive := List.length_pos_of_ne_nil (sound.nonempty _ _ _ found)
              have long := congrArg List.length whole
              rw [List.length_append] at long
              rw [← whole] at found ⊢
              rw [pieces_edit sound found]
              exact edit previous _ change more found (inductionHypothesis _ (by omega) _ _ rfl)

/-- The edited match is followed by the substitution behind it. -/
theorem substituteFrom_match {more : List A} (sound : matcher.Sound)
    (matched : matcher previous (edit.source ++ more) = some edit) :
    matcher.substituteFrom previous 0 (edit.source ++ more) =
      edit.result ++ matcher.substituteFrom (edit.source.getLast?.or previous) 0 more := by
  rw [substituteFrom, pieces_edit sound matched]
  rfl

/-- No match contains the item, and a match beside it does not look at it. -/
structure Breaks (matcher : Matcher A) (c : A) : Prop where
  front : ∀ previous first more, first ≠ [] → matcher previous (first ++ c :: more) = matcher previous first
  start : ∀ previous more, matcher previous (c :: more) = none
  behind : ∀ items, matcher (some c) items = matcher none items

theorem substituteFrom_congr (previous other : Option A) (same : ∀ items, matcher previous items = matcher other items)
    (items : List A) : matcher.substituteFrom previous 0 items = matcher.substituteFrom other 0 items := by
  cases items with
  | nil => rfl
  | cons a rest =>
      unfold substituteFrom
      rw [pieces, pieces, same]

/-- A list is rewritten separately on both sides of such an item. -/
theorem substituteFrom_break (sound : matcher.Sound) {c : A} (breaks : matcher.Breaks c) (previous : Option A) (skip : Nat)
    (first more : List A) (inside : skip ≤ first.length) :
    matcher.substituteFrom previous skip (first ++ c :: more) =
      matcher.substituteFrom previous skip first ++ c :: matcher.substitute more := by
  induction first generalizing previous skip with
  | nil =>
      obtain rfl := Nat.le_zero.mp inside
      rw [List.nil_append, substituteFrom_copy (breaks.start previous more), substituteFrom_nil, List.nil_append,
        substitute, substituteFrom_congr (some c) none breaks.behind]
  | cons a first inductionHypothesis =>
      cases skip with
      | succ skip => exact inductionHypothesis (some a) skip (Nat.le_of_succ_le_succ inside)
      | zero =>
          have same : matcher previous (a :: (first ++ c :: more)) = matcher previous (a :: first) :=
            breaks.front previous (a :: first) more (List.cons_ne_nil _ _)
          cases found : matcher previous (a :: first) with
          | none =>
              rw [List.cons_append, substituteFrom_copy (same.trans found), substituteFrom_copy found,
                inductionHypothesis _ _ (Nat.zero_le _), List.cons_append]
          | some edit =>
              have short := (sound.isPrefix _ _ _ found).length_le
              rw [List.length_cons] at short
              rw [List.cons_append, substituteFrom_edit (same.trans found), substituteFrom_edit found,
                inductionHypothesis _ _ (by omega), List.append_assoc]

theorem substitute_break (sound : matcher.Sound) {c : A} (breaks : matcher.Breaks c) (first more : List A) :
    matcher.substitute (first ++ c :: more) = matcher.substitute first ++ c :: matcher.substitute more :=
  substituteFrom_break sound breaks none 0 first more (Nat.zero_le _)

end Matcher

end Pxtly.Foundation
