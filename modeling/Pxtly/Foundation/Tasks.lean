/-
This file gives tasks that share a memory and take turns only where they await an operation.
-/

import Mathlib.Logic.Function.Basic
import Pxtly.Foundation.Program
import Pxtly.Foundation.Runs

namespace Pxtly.Foundation

open Program

/-- An operation with a response runs at once on a reading of the environment and the memory; the others are awaited. -/
structure Cooperative (S : Signature) (M R : Type) where
  respond : (operation : S.Operation) → Option (R → M → S.Answer operation × M)

inductive Task (S : Signature) (F A : Type) where
  | fresh (program : Program S F A)
  | awaiting (operation : S.Operation) (next : S.Answer operation → Program S F A)
  | ended (outcome : Except F A)
  | cancelled

/-- The state keeps the last reading of the environment. -/
structure Shared (S : Signature) (F A M R C : Type) where
  memory : M
  reading : R
  task : C → Task S F A

/-- In a turn, one task runs with one reading of the environment. -/
inductive Turn (S : Signature) (R C : Type) where
  | start (call : C) (reading : R)
  | resume (call : C) (reading : R) (event : Event S)
  | cancel (call : C)

def Turn.call {S : Signature} {R C : Type} : Turn S R C → C
  | .start call _ => call
  | .resume call _ _ => call
  | .cancel call => call

def Turn.reading {S : Signature} {R C : Type} : Turn S R C → Option R
  | .start _ reading => some reading
  | .resume _ reading _ => some reading
  | .cancel _ => none

namespace Cooperative

variable {S : Signature} {F A M R C : Type} (cooperative : Cooperative S M R)

/-- A program runs until it awaits an operation or ends. -/
def settle (reading : R) : Program S F A → M → Task S F A × M
  | .done value, memory => (.ended (.ok value), memory)
  | .raise fault, memory => (.ended (.error fault), memory)
  | .perform operation next, memory =>
      match cooperative.respond operation with
      | some respond => settle reading (next (respond reading memory).1) (respond reading memory).2
      | none => (.awaiting operation next, memory)

variable [DecidableEq C]

/-- A cancelled task never runs again. -/
inductive Step : Shared S F A M R C → Turn S R C → Shared S F A M R C → Prop
  | start {state : Shared S F A M R C} (call : C) (reading : R) (program : Program S F A)
      (fresh : state.task call = .fresh program) :
      Step state (.start call reading)
        ⟨(cooperative.settle reading program state.memory).2, reading,
          Function.update state.task call (cooperative.settle reading program state.memory).1⟩
  | resume {state : Shared S F A M R C} (call : C) (reading : R) (operation : S.Operation)
      (answer : S.Answer operation) (next : S.Answer operation → Program S F A)
      (awaiting : state.task call = .awaiting operation next) :
      Step state (.resume call reading ⟨operation, answer⟩)
        ⟨(cooperative.settle reading (next answer) state.memory).2, reading,
          Function.update state.task call (cooperative.settle reading (next answer) state.memory).1⟩
  | cancel {state : Shared S F A M R C} (call : C) (operation : S.Operation)
      (next : S.Answer operation → Program S F A) (awaiting : state.task call = .awaiting operation next) :
      Step state (.cancel call) { state with task := Function.update state.task call .cancelled }

/-- All tasks of a function are fresh at the start. -/
def launch (program : C → Program S F A) (memory : M) (reading : R) : Shared S F A M R C :=
  ⟨memory, reading, fun call => .fresh (program call)⟩

variable {cooperative} {state next : Shared S F A M R C} {turn : Turn S R C}

theorem start_of_settle {call : C} {reading : R} {program : Program S F A} {task : Task S F A} {memory : M}
    (fresh : state.task call = .fresh program)
    (settles : cooperative.settle reading program state.memory = (task, memory)) :
    cooperative.Step state (.start call reading) ⟨memory, reading, Function.update state.task call task⟩ := by
  have step := @Step.start _ _ _ _ _ _ cooperative _ _ call reading program fresh
  rw [settles] at step
  exact step

theorem resume_of_settle {call : C} {reading : R} {operation : S.Operation} {answer : S.Answer operation}
    {next : S.Answer operation → Program S F A} {task : Task S F A} {memory : M}
    (awaiting : state.task call = .awaiting operation next)
    (settles : cooperative.settle reading (next answer) state.memory = (task, memory)) :
    cooperative.Step state (.resume call reading ⟨operation, answer⟩)
      ⟨memory, reading, Function.update state.task call task⟩ := by
  have step := @Step.resume _ _ _ _ _ _ cooperative _ _ call reading operation answer next awaiting
  rw [settles] at step
  exact step

theorem Step.task_other (step : cooperative.Step state turn next) {other : C} (different : other ≠ turn.call) :
    next.task other = state.task other := by
  cases step with
  | start call reading program fresh => exact Function.update_of_ne different _ _
  | resume call reading operation answer next awaiting => exact Function.update_of_ne different _ _
  | cancel call operation next awaiting => exact Function.update_of_ne different _ _

theorem Step.reading_eq (step : cooperative.Step state turn next) :
    next.reading = turn.reading.getD state.reading := by
  cases step with
  | start call reading program fresh => rfl
  | resume call reading operation answer next awaiting => rfl
  | cancel call operation next awaiting => rfl

/-- What every turn keeps of the task that runs holds of all tasks. -/
theorem Step.keeps_tasks (step : cooperative.Step state turn next) (good : C → Task S F A → Prop)
    (kept : good turn.call (state.task turn.call) → good turn.call (next.task turn.call))
    (before : ∀ call, good call (state.task call)) (call : C) : good call (next.task call) := by
  by_cases same : call = turn.call
  · subst same
    exact kept (before turn.call)
  · rw [step.task_other same]
    exact before call

end Cooperative

end Pxtly.Foundation
