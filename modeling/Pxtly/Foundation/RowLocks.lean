/-
This file gives transactions that rewrite rows under locks, and what each step makes of a row.
-/

import Mathlib.Logic.Function.Basic

namespace Pxtly.Foundation

/-- A row has its committed value, and each transaction has the values that it has written and locked. -/
structure LockedRows (K V C : Type) where
  rows : K → Option V
  own : C → K → Option V

namespace LockedRows

variable {K V C : Type} [DecidableEq C]

/-- A statement rewrites all rows that it matches. -/
structure Rewrite (K V : Type) where
  matching : K → Bool
  change : V → V

inductive Label (K V C : Type) where
  | rewrite (caller : C) (statement : Rewrite K V)
  | create (key : K) (value : V)
  | commit (caller : C)
  | rollback (caller : C)

/-- A transaction sees what it has written itself over what is committed. -/
def seen (table : LockedRows K V C) (caller : C) (key : K) : Option V := (table.own caller key).or (table.rows key)

/-- A statement waits until no other transaction has one of its rows; a row may also come from elsewhere. -/
inductive Step [DecidableEq K] : LockedRows K V C → Label K V C → LockedRows K V C → Prop where
  | rewrite (table : LockedRows K V C) (caller : C) (statement : Rewrite K V)
      (free : ∀ key, statement.matching key = true → ∀ other, other ≠ caller → table.own other key = none) :
      Step table (.rewrite caller statement)
        ⟨table.rows, Function.update table.own caller fun key =>
          if statement.matching key then (table.seen caller key).map statement.change else table.own caller key⟩
  | create (table : LockedRows K V C) (key : K) (value : V) (absent : table.rows key = none) :
      Step table (.create key value) ⟨Function.update table.rows key (some value), table.own⟩
  | commit (table : LockedRows K V C) (caller : C) :
      Step table (.commit caller) ⟨table.seen caller, Function.update table.own caller fun _ => none⟩
  | rollback (table : LockedRows K V C) (caller : C) :
      Step table (.rollback caller) ⟨table.rows, Function.update table.own caller fun _ => none⟩

section Books

/-- The statements of the open transactions, and those of the transactions that are committed. -/
structure Book (K V C : Type) where
  pending : C → List (Rewrite K V)
  committed : List (Rewrite K V)

def Book.note (book : Book K V C) : Label K V C → Book K V C
  | .rewrite caller statement =>
      { book with pending := Function.update book.pending caller (book.pending caller ++ [statement]) }
  | .create .. => book
  | .commit caller =>
      ⟨Function.update book.pending caller [], book.committed ++ book.pending caller⟩
  | .rollback caller => { book with pending := Function.update book.pending caller [] }

/-- These statements rewrite the row one after another. -/
def effect (key : K) (statements : List (Rewrite K V)) (value : V) : V :=
  statements.foldl (fun value statement => if statement.matching key then statement.change value else value) value

end Books

section Invariant

variable {key : K} {first : V} {book : Book K V C} {table next : LockedRows K V C} {label : Label K V C}

theorem effect_append (key : K) (front back : List (Rewrite K V)) (value : V) :
    effect key (front ++ back) value = effect key back (effect key front value) := List.foldl_append

theorem effect_of_unmatched {statements : List (Rewrite K V)}
    (unmatched : statements.any (fun statement => statement.matching key) = false) (value : V) :
    effect key statements value = value := by
  induction statements generalizing value with
  | nil => rfl
  | cons statement rest inductionHypothesis =>
      rw [List.any_cons, Bool.or_eq_false_iff] at unmatched
      rw [effect, List.foldl_cons, unmatched.1, if_neg Bool.false_ne_true]
      exact inductionHypothesis unmatched.2 value

/-- The row is what the committed statements have made of it, and at most one transaction has gone on from there. -/
structure Kept (key : K) (first : V) (book : Book K V C) (table : LockedRows K V C) : Prop where
  row : table.rows key = some (effect key book.committed first)
  own : ∀ caller, table.own caller key =
    if (book.pending caller).any (fun statement => statement.matching key) then
      some (effect key (book.pending caller) (effect key book.committed first)) else none
  alone : ∀ caller other, table.own caller key ≠ none → table.own other key ≠ none → caller = other

omit [DecidableEq C] in
/-- A transaction sees the row with its own statements behind the committed ones. -/
theorem Kept.seen_eq (kept : Kept key first book table) (caller : C) :
    table.seen caller key = some (effect key (book.pending caller) (effect key book.committed first)) := by
  rw [seen, kept.own, kept.row]
  cases matched : (book.pending caller).any fun statement => statement.matching key with
  | true => rfl
  | false => rw [effect_of_unmatched matched]; rfl

/-- Changing what one transaction has keeps the rows apart where it then has the row alone or not at all. -/
theorem alone_update {own : C → K → Option V} {caller : C} {values : K → Option V}
    (alone : ∀ caller other, own caller key ≠ none → own other key ≠ none → caller = other)
    (sole : values key ≠ none → ∀ other, other ≠ caller → own other key = none) (one another : C)
    (oneHolds : Function.update own caller values one key ≠ none)
    (anotherHolds : Function.update own caller values another key ≠ none) : one = another := by
  by_cases oneSame : one = caller
  · by_cases anotherSame : another = caller
    · exact oneSame.trans anotherSame.symm
    · subst oneSame
      rw [Function.update_self] at oneHolds
      rw [Function.update_of_ne anotherSame] at anotherHolds
      exact absurd (sole oneHolds another anotherSame) anotherHolds
  · rw [Function.update_of_ne oneSame] at oneHolds
    by_cases anotherSame : another = caller
    · subst anotherSame
      rw [Function.update_self] at anotherHolds
      exact absurd (sole anotherHolds one oneSame) oneHolds
    · rw [Function.update_of_ne anotherSame] at anotherHolds
      exact alone one another oneHolds anotherHolds

theorem Kept.rewrite (kept : Kept key first book table) {caller : C} {statement : Rewrite K V}
    (free : ∀ key, statement.matching key = true → ∀ other, other ≠ caller → table.own other key = none) :
    Kept key first (book.note (.rewrite caller statement))
      ⟨table.rows, Function.update table.own caller fun key =>
        if statement.matching key then (table.seen caller key).map statement.change else table.own caller key⟩ where
  row := kept.row
  own other := by
    by_cases same : other = caller
    · subst same
      simp only [Book.note, Function.update_self, List.any_append, List.any_cons, List.any_nil, Bool.or_false]
      cases matched : statement.matching key with
      | true =>
          rw [if_pos rfl, Bool.or_true, if_pos rfl, kept.seen_eq, effect_append, Option.map_some]
          simp [effect, matched]
      | false =>
          rw [if_neg Bool.false_ne_true, Bool.or_false, kept.own, effect_append]
          simp [effect, matched]
    · simp only [Book.note, Function.update_of_ne same]
      exact kept.own other
  alone := by
    refine alone_update kept.alone fun present other different => ?_
    cases matched : statement.matching key with
    | true => exact free key matched other different
    | false =>
        rw [matched, if_neg Bool.false_ne_true] at present
        by_contra held
        exact different (kept.alone other caller held present)

theorem Kept.commit (kept : Kept key first book table) (caller : C) :
    Kept key first (book.note (.commit caller)) ⟨table.seen caller, Function.update table.own caller fun _ => none⟩ where
  row := by
    rw [Book.note, effect_append]
    exact kept.seen_eq caller
  own other := by
    by_cases same : other = caller
    · subst same
      simp [Book.note]
    · simp only [Book.note, Function.update_of_ne same, effect_append]
      rw [kept.own]
      cases held : (book.pending other).any fun statement => statement.matching key with
      | false => rfl
      | true =>
          -- Another transaction has the row, so this one has not rewritten it.
          have others : (book.pending caller).any (fun statement => statement.matching key) = false := by
            by_contra rewritten
            have mine := kept.own caller
            have its := kept.own other
            rw [if_pos (by simpa using rewritten)] at mine
            rw [if_pos held] at its
            exact same (kept.alone other caller (by rw [its]; nofun) (by rw [mine]; nofun))
          rw [effect_of_unmatched others]
  alone := alone_update kept.alone fun present => absurd rfl present

theorem Kept.rollback (kept : Kept key first book table) (caller : C) :
    Kept key first (book.note (.rollback caller)) ⟨table.rows, Function.update table.own caller fun _ => none⟩ where
  row := kept.row
  own other := by
    by_cases same : other = caller
    · subst same
      simp [Book.note]
    · simp only [Book.note, Function.update_of_ne same]
      exact kept.own other
  alone := alone_update kept.alone fun present => absurd rfl present

variable [DecidableEq K]

theorem Kept.create (kept : Kept key first book table) {created : K} {value : V} (absent : table.rows created = none) :
    Kept key first (book.note (.create created value)) ⟨Function.update table.rows created (some value), table.own⟩ where
  row := by
    have different : key ≠ created := by
      rintro rfl
      rw [kept.row] at absent
      cases absent
    exact (Function.update_of_ne different _ _).trans kept.row
  own := kept.own
  alone := kept.alone

theorem Kept.step (kept : Kept key first book table) (taken : Step table label next) :
    Kept key first (book.note label) next := by
  cases taken with
  | rewrite caller statement free => exact kept.rewrite free
  | create created value absent => exact kept.create absent
  | commit caller => exact kept.commit caller
  | rollback caller => exact kept.rollback caller

end Invariant

end LockedRows

end Pxtly.Foundation
