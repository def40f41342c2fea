/-
This file gives concurrent runs as histories, which keep every state that they go through.
-/

import Pxtly.Foundation.Runs
import Pxtly.Foundation.UniqueKeys

namespace Pxtly.Foundation.Database

variable {database : Database} {F A C : Type} [DecidableEq C] {drifts : database.Tables → database.Tables → Prop}
  {tables : database.Tables}

/-- The tables drift without a label, and each event of a call is a label. -/
inductive Moves (drifts : database.Tables → database.Tables → Prop) :
    Store database C → Option (C × database.Event) → Store database C → Prop where
  | drift (state : Store database C) (drifted : database.Tables) (drift : drifts state.tables drifted) :
      Moves drifts state none { state with tables := drifted }
  | step {state next : Store database C} {entry : C × database.Event} (step : Step state entry next) :
      Moves drifts state (some entry) next

abbrev History (database : Database) (C : Type) := List (Moment (Store database C) (Option (C × database.Event)))

def traceOf (moments : History database C) : List (C × database.Event) := moments.filterMap Moment.label

variable {moments : History database C} {state final : Store database C} {trace : List (C × database.Event)}

/-- A history goes on from a concurrent run. -/
theorem Concurrent.runs (before : Concurrent drifts tables trace state) (run : Runs (Moves drifts) state moments final) :
    Concurrent drifts tables (trace ++ traceOf moments) final := by
  induction run generalizing trace with
  | nil => simpa [traceOf] using before
  | step label taken rest inductionHypothesis =>
      cases taken with
      | drift _ drift => exact inductionHypothesis (before.drift drift)
      | step step =>
          have after := inductionHypothesis (before.step step)
          rwa [List.append_assoc] at after

theorem concurrent_of_runs (run : Runs (Moves drifts) ⟨tables, fun _ => []⟩ moments final) :
    Concurrent drifts tables (traceOf moments) final := Concurrent.start.runs run

omit [DecidableEq C] in
/-- Each event of the trace belongs to a moment of the history. -/
theorem exists_moment {before after : List (C × database.Event)} {entry : C × database.Event}
    (same : traceOf moments = before ++ entry :: after) :
    ∃ earlier state later, moments = earlier ++ ⟨state, some entry⟩ :: later ∧ traceOf earlier = before := by
  obtain ⟨first, second, rfl, rfl, behind⟩ := List.filterMap_eq_append_iff.mp same
  obtain ⟨skipped, moment, later, rfl, unlabelled, label, rfl⟩ := List.filterMap_eq_cons_iff.mp behind
  obtain ⟨state, entry⟩ := moment
  obtain rfl := label
  refine ⟨first ++ skipped, state, later, by simp, ?_⟩
  simp [traceOf, List.filterMap_append, List.filterMap_eq_nil_iff.mpr unlabelled]

theorem Begun.of_append {program : C → Program database.signature F A} {first second : List (C × database.Event)}
    (begun : Begun program (first ++ second)) : Begun program first := by
  intro call
  obtain ⟨later, outcome, executed⟩ := begun call
  rw [eventsOf_append, List.append_assoc] at executed
  exact ⟨_, outcome, executed⟩

theorem Step.of_commit {next : Store database C} {call : C} (step : Step state (call, committed) next) :
    next.tables = view state.tables (state.pending call) := by
  cases step with
  | commit => rfl

/-- An event of a call happens at a moment, where the call has pending what its earlier events have written. -/
theorem moment_of_event (run : Runs (Moves drifts) ⟨tables, fun _ => []⟩ moments final) {call : C}
    {event : database.Event} {earlier later : List database.Event}
    (events : eventsOf (traceOf moments) call = earlier ++ event :: later) :
    ∃ before state next after, moments = before ++ ⟨state, some (call, event)⟩ :: after ∧
      Concurrent drifts tables (traceOf before) state ∧ state.pending call = earlier.foldl saveEvent [] ∧
      Step state (call, event) next ∧ Runs (Moves drifts) next after final := by
  obtain ⟨first, second, same, own, _⟩ := exists_split_of_eventsOf events
  obtain ⟨before, state, after, rfl, trace⟩ := exists_moment same
  obtain ⟨next, reached, moves, rest⟩ := run.split
  have concurrent := concurrent_of_runs reached
  refine ⟨before, state, next, after, rfl, concurrent, ?_, ?_, rest⟩
  · rw [concurrent.pending_eq call, trace, own]
  · cases moves with
    | step step => exact step

section Pending

/-- Where waiting is mutual, the pending writes of two calls never clash. -/
theorem Concurrent.apart (symmetric : ∀ first second, database.clashes first second = database.clashes second first)
    (run : Concurrent drifts tables trace state) {first second : C} (different : first ≠ second) :
    ∀ write ∈ state.pending first, ∀ other ∈ state.pending second, database.clashes write other = false := by
  induction run with
  | start => exact nofun
  | drift run moved inductionHypothesis => exact inductionHypothesis
  | @step trace state next entry run step inductionHypothesis =>
      have ended {call : C} :
          ∀ write ∈ Function.update state.pending call [] first, ∀ other ∈ Function.update state.pending call [] second,
            database.clashes write other = false := by
        intro write member other otherMember
        by_cases one : first = call
        · subst one
          simp at member
        · by_cases two : second = call
          · subst two
            simp at otherMember
          · rw [Function.update_of_ne one] at member
            rw [Function.update_of_ne two] at otherMember
            exact inductionHypothesis write member other otherMember
      cases step with
      | read => exact inductionHypothesis
      | write call added admitted free =>
          intro write member other otherMember
          dsimp only at member otherMember
          by_cases one : first = call
          · subst one
            rw [Function.update_self] at member
            rw [Function.update_of_ne (Ne.symm different)] at otherMember
            rcases List.mem_append.mp member with old | new
            · exact inductionHypothesis write old other otherMember
            · rw [List.mem_singleton.mp new, symmetric]
              exact free second (Ne.symm different) other otherMember
          · rw [Function.update_of_ne one] at member
            by_cases two : second = call
            · subst two
              rw [Function.update_self] at otherMember
              rcases List.mem_append.mp otherMember with old | new
              · exact inductionHypothesis write member other old
              · rw [List.mem_singleton.mp new]
                exact free first one write member
            · rw [Function.update_of_ne two] at otherMember
              exact inductionHypothesis write member other otherMember
      | commit call => exact ended
      | fail call operation => exact ended

end Pending

section Schedule

variable [Fintype C]

/-- The history of a schedule. -/
def record (program : C → Program database.signature F A) (state : Store database C) : List C → History database C
  | [] => []
  | call :: rest =>
      match program call with
      | .perform operation next =>
          if Free state call operation then
            let answered := respond operation (state.tables, state.pending call)
            ⟨state, some (call, ⟨operation, answered.1⟩)⟩ ::
              record (Function.update program call (next answered.1))
                ⟨answered.2.1, Function.update state.pending call answered.2.2⟩ rest
          else record program state rest
      | .done _ => record program state rest
      | .raise _ => record program state rest

theorem runs_record (program : C → Program database.signature F A) (state : Store database C) (schedule : List C) :
    Runs (Moves drifts) state (record program state schedule) (advance program state schedule).2.2 := by
  induction schedule generalizing state program with
  | nil => exact .nil
  | cons call rest inductionHypothesis =>
      cases same : program call with
      | done value => simpa only [record, advance, same] using inductionHypothesis program state
      | raise fault => simpa only [record, advance, same] using inductionHypothesis program state
      | perform operation next =>
          simp only [record, advance, same]
          by_cases free : Free state call operation
          · rw [if_pos free, if_pos free]
            exact .step _ (.step (Step.of_respond free)) (inductionHypothesis _ _)
          · rw [if_neg free, if_neg free]
            exact inductionHypothesis program state

theorem traceOf_record (program : C → Program database.signature F A) (state : Store database C) (schedule : List C) :
    traceOf (record program state schedule) = (advance program state schedule).1 := by
  induction schedule generalizing state program with
  | nil => rfl
  | cons call rest inductionHypothesis =>
      cases same : program call with
      | done value => simpa only [record, advance, same] using inductionHypothesis program state
      | raise fault => simpa only [record, advance, same] using inductionHypothesis program state
      | perform operation next =>
          simp only [record, advance, same]
          by_cases free : Free state call operation
          · rw [if_pos free, if_pos free]
            exact congrArg _ (inductionHypothesis _ _)
          · rw [if_neg free, if_neg free]
            exact inductionHypothesis program state

end Schedule

end Pxtly.Foundation.Database
