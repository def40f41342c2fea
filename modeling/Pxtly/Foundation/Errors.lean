/-
This file gives Go's errors and the early returns that carry them.
-/

import Mathlib.Data.String.Basic
import Mathlib.Tactic.Common
import Mathlib.Tactic.Ring

namespace Pxtly.Foundation

/-- An operand of `fmt.Errorf` is kept before it is printed. -/
inductive Operand where
  | text (value : String)
  | integer (value : Int)
  | float (value : Float)
  | rune (value : Char)
  deriving DecidableEq, Repr

/-- An error keeps its format string, its operands and the error it wraps with `%w`. -/
inductive GoError where
  | errorf (format : String) (operands : List Operand)
  | wrap (format : String) (cause : GoError)
  deriving DecidableEq, Repr

/-- This is the guard `if condition { return err }`. -/
def failWhen (condition : Prop) [Decidable condition] (err : GoError) : Except GoError Unit :=
  if condition then .error err else .ok ()

/-- This is the early return of a callee's error under one more `%w`. -/
def wrapping {A : Type} (format : String) (result : Except GoError A) : Except GoError A :=
  result.mapError (GoError.wrap format)

@[simp] theorem failWhen_eq_ok (condition : Prop) [Decidable condition] (err : GoError) (u : Unit) :
    failWhen condition err = .ok u ↔ ¬ condition := by
  by_cases holds : condition <;> simp [failWhen, holds]

@[simp] theorem wrapping_eq_ok {A : Type} (format : String) (result : Except GoError A) (value : A) :
    wrapping format result = .ok value ↔ result = .ok value := by
  cases result <;> simp [wrapping, Except.mapError]

theorem mapError_eq_ok {E F A : Type} (result : Except E A) (convert : E → F) (value : A) :
    result.mapError convert = .ok value ↔ result = .ok value := by
  cases result <;> simp [Except.mapError]

/-- A sequence succeeds exactly when both of its steps do. -/
@[simp] theorem bind_eq_ok {E A B : Type} (first : Except E A) (next : A → Except E B) (value : B) :
    first >>= next = .ok value ↔ ∃ middle, first = .ok middle ∧ next middle = .ok value := by
  cases first <;> simp [bind, Except.bind]

/-- A list is converted item by item, from its front. -/
theorem mapM_cons_eq_ok {E A B : Type} {convert : A → Except E B} {item : A} {rest : List A} {results : List B} :
    (item :: rest).mapM convert = .ok results ↔
      ∃ first later, convert item = .ok first ∧ rest.mapM convert = .ok later ∧ first :: later = results := by
  rw [List.mapM_cons, bind_eq_ok]
  constructor
  · rintro ⟨first, here, joined⟩
    obtain ⟨later, behind, same⟩ := (bind_eq_ok _ _ _).mp joined
    exact ⟨first, later, here, behind, Except.ok.inj same⟩
  · rintro ⟨first, later, here, behind, rfl⟩
    refine ⟨first, here, ?_⟩
    rw [behind]
    rfl

theorem isOk_iff {E A : Type} (result : Except E A) : result.isOk = true ↔ ∃ value, result = .ok value := by
  cases result with
  | error err => exact iff_of_false nofun nofun
  | ok value => exact iff_of_true rfl ⟨value, rfl⟩

/-- A failing first step decides the whole sequence. -/
@[simp] theorem error_bind {E A B : Type} (err : E) (next : A → Except E B) :
    (Except.error err >>= next) = .error err := rfl

@[simp] theorem ok_bind {E A B : Type} (value : A) (next : A → Except E B) :
    (Except.ok value >>= next) = next value := rfl

end Pxtly.Foundation
