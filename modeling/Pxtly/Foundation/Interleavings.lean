/-
This file gives programs that take turns at their operations on a world that they share.
-/

import Mathlib.Logic.Function.Basic
import Pxtly.Foundation.Program
import Pxtly.Foundation.Runs

namespace Pxtly.Foundation

open Program

/-- The calls share a world, and each has a program that is still to run. -/
structure Pool (S : Signature) (F A T C : Type) where
  world : T
  program : C → Program S F A

namespace Pool

variable {S : Signature} {F A T C : Type} [DecidableEq C]
  {responds : (operation : S.Operation) → T → S.Answer operation → T → Prop}

variable (responds) in
/-- In a step, one call performs its next operation, and the world answers it in one of its ways. -/
inductive Step : Pool S F A T C → C × Event S → Pool S F A T C → Prop where
  | perform {pool : Pool S F A T C} (call : C) (operation : S.Operation) (answer : S.Answer operation)
      (next : S.Answer operation → Program S F A) (world : T)
      (awaits : pool.program call = .perform operation next) (answered : responds operation pool.world answer world) :
      Step pool (call, ⟨operation, answer⟩) ⟨world, Function.update pool.program call (next answer)⟩

theorem Step.answered {pool next : Pool S F A T C} {label : C × Event S} (step : Step responds pool label next) :
    responds label.2.operation pool.world label.2.answer next.world := by
  cases step with
  | perform call operation answer rest world awaits answered => exact answered

abbrev Trace (S : Signature) (C : Type) := List (C × Event S)

/-- These are the events of one call. -/
def eventsOf (trace : Trace S C) (call : C) : List (Event S) :=
  (trace.filter fun entry => entry.1 = call).map Prod.snd

theorem mem_eventsOf {trace : Trace S C} {call : C} {event : Event S} :
    event ∈ eventsOf trace call ↔ (call, event) ∈ trace := by
  simp [eventsOf]

theorem eventsOf_append (first second : Trace S C) (call : C) :
    eventsOf (first ++ second) call = eventsOf first call ++ eventsOf second call := by
  simp [eventsOf]

abbrev traceOf (moments : List (Moment (Pool S F A T C) (C × Event S))) : Trace S C := moments.map Moment.label

variable {start final : Pool S F A T C} {moments : List (Moment (Pool S F A T C) (C × Event S))}

theorem Step.executes {pool next : Pool S F A T C} {label : C × Event S} (step : Step responds pool label next) {call : C}
    {later : List (Event S)} {outcome : Except F A} (executed : Executes (next.program call) later outcome) :
    Executes (pool.program call) (eventsOf [label] call ++ later) outcome := by
  cases step with
  | perform caller operation answer rest world awaits answered =>
      by_cases same : caller = call
      · subst same
        dsimp only at executed
        rw [Function.update_self] at executed
        have own : eventsOf [(caller, (⟨operation, answer⟩ : Event S))] caller = [⟨operation, answer⟩] := by
          simp [eventsOf]
        rw [own, awaits]
        exact ⟨answer, later, rfl, executed⟩
      · dsimp only at executed
        rw [Function.update_of_ne (Ne.symm same)] at executed
        have other : eventsOf [(caller, (⟨operation, answer⟩ : Event S))] call = [] := by simp [eventsOf, same]
        rwa [other, List.nil_append]

/-- The events of a call in a run go on to an execution of its program. -/
theorem executes_of_runs (run : Runs (Step responds) start moments final) {call : C} {later : List (Event S)}
    {outcome : Except F A} (executed : Executes (final.program call) later outcome) :
    Executes (start.program call) (eventsOf (traceOf moments) call ++ later) outcome := by
  induction run with
  | nil => exact executed
  | @step state next last others label taken rest inductionHypothesis =>
      have split : eventsOf (traceOf (⟨state, label⟩ :: others)) call =
          eventsOf [label] call ++ eventsOf (traceOf others) call := eventsOf_append [label] (traceOf others) call
      rw [split, List.append_assoc]
      exact taken.executes (inductionHypothesis executed)

/-- Where every operation can be answered, a program has an execution. -/
theorem exists_executes (inhabited : ∀ operation : S.Operation, Nonempty (S.Answer operation))
    (program : Program S F A) : ∃ events outcome, Executes program events outcome := by
  induction program with
  | done value => exact ⟨[], _, rfl, rfl⟩
  | raise fault => exact ⟨[], _, rfl, rfl⟩
  | perform operation next inductionHypothesis =>
      obtain ⟨answer⟩ := inhabited operation
      obtain ⟨events, outcome, executed⟩ := inductionHypothesis answer
      exact ⟨_, outcome, answer, events, rfl, executed⟩

/-- Each event of a run was answered in the state of its moment. -/
theorem exists_answered (run : Runs (Step responds) start moments final) {call : C} {event : Event S}
    (member : event ∈ eventsOf (traceOf moments) call) :
    ∃ world later, responds event.operation world event.answer later := by
  obtain ⟨moment, listed, same⟩ := List.mem_map.mp (mem_eventsOf.mp member)
  obtain ⟨next, taken⟩ := run.taken moment listed
  have answered := taken.answered
  rw [same] at answered
  exact ⟨_, _, answered⟩

section Schedule

variable (respond : (operation : S.Operation) → T → S.Answer operation × T)

/-- The moments of a schedule, where the world answers in one way only. -/
def record (pool : Pool S F A T C) : List C → List (Moment (Pool S F A T C) (C × Event S)) × Pool S F A T C
  | [] => ([], pool)
  | call :: rest =>
      match pool.program call with
      | .perform operation next =>
          let answered := respond operation pool.world
          let later := record ⟨answered.2, Function.update pool.program call (next answered.1)⟩ rest
          (⟨pool, (call, ⟨operation, answered.1⟩)⟩ :: later.1, later.2)
      | .done _ => record pool rest
      | .raise _ => record pool rest

/-- A schedule is one of the runs, where each of its operations is answered in a possible way. -/
theorem runs_record_of (allowed : S.Operation → T → Bool)
    (possible : ∀ operation world, allowed operation world = true →
      responds operation world (respond operation world).1 (respond operation world).2)
    (pool : Pool S F A T C) (schedule : List C)
    (each : ∀ moment ∈ (record respond pool schedule).1, allowed moment.label.2.operation moment.state.world = true) :
    Runs (Step responds) pool (record respond pool schedule).1 (record respond pool schedule).2 := by
  induction schedule generalizing pool with
  | nil => exact .nil
  | cons call rest inductionHypothesis =>
      rw [record] at each ⊢
      cases same : pool.program call with
      | done value =>
          rw [same] at each
          exact inductionHypothesis pool each
      | raise fault =>
          rw [same] at each
          exact inductionHypothesis pool each
      | perform operation next =>
          rw [same] at each
          obtain ⟨first, others⟩ := List.forall_mem_cons.mp each
          exact .step _ (.perform call operation _ next _ same (possible operation pool.world first))
            (inductionHypothesis _ others)

/-- Where every answer is possible, a schedule is one of the runs. -/
theorem runs_record (possible : ∀ operation world, responds operation world (respond operation world).1
    (respond operation world).2) (pool : Pool S F A T C) (schedule : List C) :
    Runs (Step responds) pool (record respond pool schedule).1 (record respond pool schedule).2 :=
  runs_record_of respond (fun _ _ => true) (fun operation world _ => possible operation world) pool schedule
    fun _ _ => rfl

end Schedule

end Pool

section Expansion

variable {S R : Signature} {F A T U C : Type} [DecidableEq C]

/-- Each operation of a program is carried out by a program over other operations. -/
def Program.expand (carry : (operation : S.Operation) → Program R F (S.Answer operation)) :
    Program S F A → Program R F A
  | .done value => .done value
  | .raise fault => .raise fault
  | .perform operation next => (carry operation).bind fun answer => (next answer).expand carry

namespace Pool

variable (carry : (operation : S.Operation) → Program R F (S.Answer operation))
  (responds : (operation : S.Operation) → T → S.Answer operation → T → Prop)
  (carriedOut : (operation : R.Operation) → U → R.Answer operation → U → Prop) (stands : U → T → Prop)
  (performs : S.Operation → R.Operation → Prop)

/-- In any world that stands for another one, the operation is carried out in one step, which that world knows. -/
def Carries (operation : S.Operation) : Prop :=
  ∃ (below : R.Operation) (next : R.Answer below → Program R F (S.Answer operation)),
    carry operation = .perform below next ∧ performs operation below ∧
    ∀ lower upper answer later, stands lower upper → carriedOut below lower answer later →
      ∃ value world, next answer = .done value ∧ responds operation upper value world ∧ stands later world

variable {carry responds carriedOut stands performs}

theorem Step.of_expanded {allowed : S.Operation → Prop}
    (carries : ∀ operation, allowed operation → Carries carry responds carriedOut stands performs operation)
    {upper : Pool S F A T C} {lower next : Pool R F A U C} {label : C × Event R}
    (expanded : ∀ call, lower.program call = (upper.program call).expand carry)
    (within : ∀ call, (upper.program call).Within allowed) (holds : stands lower.world upper.world)
    (taken : Step carriedOut lower label next) :
    ∃ event later, Step responds upper (label.1, event) later ∧ performs event.operation label.2.operation ∧
      (∀ call, next.program call = (later.program call).expand carry) ∧
      (∀ call, (later.program call).Within allowed) ∧ stands next.world later.world := by
  cases taken with
  | perform call below answer rest world awaits answered =>
      have known := expanded call
      rw [awaits] at known
      cases program : upper.program call with
      | done value =>
          rw [program] at known
          cases known
      | raise fault =>
          rw [program] at known
          cases known
      | perform operation continues =>
          have inside := within call
          rw [program] at inside
          obtain ⟨first, after, carried, performed, each⟩ := carries operation inside.1
          rw [program, Program.expand, carried] at known
          obtain ⟨rfl, same⟩ := Program.perform.inj known
          obtain rfl := eq_of_heq same
          obtain ⟨value, above, ended, responded, kept⟩ := each _ _ _ _ holds answered
          refine ⟨⟨operation, value⟩, _, .perform call operation value continues above program responded, performed,
            ?_, ?_, kept⟩
          · intro other
            by_cases own : other = call
            · subst own
              simp only [Function.update_self, ended]
              rfl
            · simp only [Function.update_of_ne own]
              exact expanded other
          · intro other
            by_cases own : other = call
            · subst own
              simp only [Function.update_self]
              exact inside.2 value
            · simp only [Function.update_of_ne own]
              exact within other

/-- Programs whose operations are each carried out in one step run as the programs themselves do. -/
theorem exists_runs_of_expanded {allowed : S.Operation → Prop}
    (carries : ∀ operation, allowed operation → Carries carry responds carriedOut stands performs operation)
    {upper : Pool S F A T C} {lower final : Pool R F A U C} {moments : List (Moment (Pool R F A U C) (C × Event R))}
    (run : Runs (Step carriedOut) lower moments final)
    (expanded : ∀ call, lower.program call = (upper.program call).expand carry)
    (within : ∀ call, (upper.program call).Within allowed) (holds : stands lower.world upper.world) :
    ∃ others last, Runs (Step responds) upper others last ∧
      List.Forall₂ (fun entry below => entry.1 = below.1 ∧ performs entry.2.operation below.2.operation)
        (traceOf others) (traceOf moments) ∧
      (∀ call, final.program call = (last.program call).expand carry) ∧ stands final.world last.world := by
  induction run generalizing upper with
  | nil => exact ⟨[], upper, .nil, .nil, expanded, holds⟩
  | @step state next final moments label taken rest inductionHypothesis =>
      obtain ⟨event, later, above, performed, programs, inside, kept⟩ :=
        taken.of_expanded carries expanded within holds
      obtain ⟨others, last, continued, calls, ended, stood⟩ := inductionHypothesis programs inside kept
      exact ⟨_, last, .step _ above continued, .cons ⟨rfl, performed⟩ calls, ended, stood⟩

end Pool

end Expansion

end Pxtly.Foundation
