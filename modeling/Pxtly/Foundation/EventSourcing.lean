/-
This file gives states that are the replay of a log of events.
-/

import Mathlib.Data.List.Induction
import Mathlib.Tactic.Common

namespace Pxtly.Foundation

/-- An aggregate starts at its first event and steps at every later event that it accepts. -/
structure Aggregate (State Event : Type) where
  start : Event → Option State
  step : State → Event → Option State

/-- A log without events has no state. -/
def Aggregate.replay {State Event : Type} (aggregate : Aggregate State Event) : List Event → Option State
  | [] => none
  | first :: later => (aggregate.start first).bind fun state => later.foldlM aggregate.step state

@[simp] theorem Aggregate.replay_singleton {State Event : Type} (aggregate : Aggregate State Event)
    (event : Event) : aggregate.replay [event] = aggregate.start event := by
  cases started : aggregate.start event <;> simp [replay, started]

/-- The replay of two joined logs continues from the state of the first log. -/
theorem Aggregate.replay_append {State Event : Type} (aggregate : Aggregate State Event)
    (front back : List Event) (nonempty : front ≠ []) :
    aggregate.replay (front ++ back) =
      (aggregate.replay front).bind fun state => back.foldlM aggregate.step state := by
  cases front with
  | nil => exact absurd rfl nonempty
  | cons first later =>
      cases started : aggregate.start first with
      | none => simp [replay, started]
      | some state =>
          simp only [replay, started, List.cons_append, Option.bind_some, List.foldlM_append]
          rfl

theorem Aggregate.replay_concat {State Event : Type} (aggregate : Aggregate State Event)
    (events : List Event) (event : Event) (nonempty : events ≠ []) :
    aggregate.replay (events ++ [event]) =
      (aggregate.replay events).bind fun state => aggregate.step state event := by
  rw [aggregate.replay_append events [event] nonempty]
  congr 1
  funext state
  simp

theorem Aggregate.ne_nil_of_replay {State Event : Type} {aggregate : Aggregate State Event}
    {events : List Event} {state : State} (replayed : aggregate.replay events = some state) :
    events ≠ [] := by
  rintro rfl
  cases replayed

/-- Every nonempty prefix of a replayable log is replayable. -/
theorem Aggregate.replay_prefix {State Event : Type} {aggregate : Aggregate State Event}
    {front back : List Event} {state : State} (replayed : aggregate.replay (front ++ back) = some state)
    (nonempty : front ≠ []) :
    ∃ middle, aggregate.replay front = some middle ∧ back.foldlM aggregate.step middle = some state := by
  rw [aggregate.replay_append front back nonempty] at replayed
  exact Option.bind_eq_some_iff.mp replayed

/-- A property of logs and states holds when each event that extends a log keeps it. -/
theorem Aggregate.replay_induction {State Event : Type} {aggregate : Aggregate State Event}
    (holds : List Event → State → Prop)
    (starts : ∀ event state, aggregate.start event = some state → holds [event] state)
    (steps : ∀ events state event next, aggregate.replay events = some state → holds events state →
      aggregate.step state event = some next → holds (events ++ [event]) next)
    (events : List Event) (state : State) (replayed : aggregate.replay events = some state) :
    holds events state := by
  induction events using List.reverseRecOn generalizing state with
  | nil => cases replayed
  | append_singleton events event inductionHypothesis =>
      by_cases empty : events = []
      · subst empty
        apply starts
        simpa using replayed
      · rw [aggregate.replay_concat events event empty] at replayed
        obtain ⟨middle, before, stepped⟩ := Option.bind_eq_some_iff.mp replayed
        exact steps events middle event state before (inductionHypothesis middle before) stepped

/-- This is the last event of a log that satisfies a test. -/
def lastOf {Event : Type} (test : Event → Bool) (events : List Event) : Option Event :=
  (events.filter test).getLast?

@[simp] theorem lastOf_nil {Event : Type} (test : Event → Bool) : lastOf test [] = none := rfl

@[simp] theorem lastOf_concat {Event : Type} (test : Event → Bool) (events : List Event) (event : Event) :
    lastOf test (events ++ [event]) = if test event then some event else lastOf test events := by
  by_cases passed : test event = true <;> simp [lastOf, List.filter_append, passed]

end Pxtly.Foundation
