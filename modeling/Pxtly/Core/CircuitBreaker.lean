/-
This file gives the circuit breaker for outbound dependencies and its concurrent calls.
-/

import Mathlib.Algebra.Order.Ring.Rat
import Mathlib.Logic.Function.Basic
import Mathlib.Tactic.Linarith
import Pxtly.Foundation.Runs

namespace Pxtly.Core

open Foundation

inductive State where
  | closed
  | halfOpen
  | opened
  deriving DecidableEq

structure CircuitBreakerOpenError where
  message : String

structure CircuitBreaker where
  name : String
  threshold : Int
  cooldownS : Rat
  state : State
  failureCount : Int
  openedAt : Rat

namespace CircuitBreaker

/-- A new breaker is closed. -/
def create (name : String) (threshold : Int) (cooldownS : Rat) : CircuitBreaker where
  name
  threshold
  cooldownS
  state := .closed
  failureCount := 0
  openedAt := 0

/-- This is the first section of `call` under the lock. -/
def enter (breaker : CircuitBreaker) (now : Rat) : Except CircuitBreakerOpenError CircuitBreaker :=
  if breaker.state = .opened then
    if now - breaker.openedAt < breaker.cooldownS then
      .error ⟨"Circuit '" ++ breaker.name ++ "' is open; rejecting call."⟩
    else .ok { breaker with state := .halfOpen }
  else .ok breaker

/-- This is the last section of `call` under the lock. -/
def recordSuccess (breaker : CircuitBreaker) : CircuitBreaker :=
  let reset := { breaker with failureCount := 0 }
  if reset.state = .closed then reset else { reset with state := .closed }

def recordFailure (breaker : CircuitBreaker) (now : Rat) : CircuitBreaker :=
  let counted := { breaker with failureCount := breaker.failureCount + 1 }
  if counted.state = .halfOpen ∨ counted.failureCount ≥ counted.threshold then
    { counted with state := .opened, openedAt := now }
  else counted

end CircuitBreaker

/-- A wrapped call ends in one of these ways, and a cancelled one is not recorded. -/
inductive Ending where
  | success
  | failure (exceptionType : String)
  | timeout
  | cancelled
  deriving DecidableEq

def CircuitBreaker.complete (breaker : CircuitBreaker) (now : Rat) : Ending → CircuitBreaker
  | .success => breaker.recordSuccess
  | .failure _ => breaker.recordFailure now
  | .timeout => breaker.recordFailure now
  | .cancelled => breaker

/-- The lock is free while the wrapped call runs, and before its end is recorded. -/
inductive Invocation where
  | waiting
  | rejected (error : CircuitBreakerOpenError)
  | running (admitted : Rat)
  | finished (admitted : Rat) (ending : Ending)
  | recorded (ending : Ending)

/-- This is the time of the admission of a call whose end is not recorded yet. -/
def Invocation.admitted : Invocation → Option Rat
  | .running admitted => some admitted
  | .finished admitted _ => some admitted
  | _ => none

/-- Any number of calls share one breaker; `recent` lists the calls admitted since the breaker was last open. -/
structure Traffic (C : Type) where
  breaker : CircuitBreaker
  clock : Rat
  invocation : C → Invocation
  recent : List C

/-- These are the sections of a call under the lock, and the end of its wrapped call between them. -/
inductive Section (C : Type) where
  | enter (call : C) (now : Rat)
  | finish (call : C) (ending : Ending)
  | record (call : C) (now : Rat)

variable {C : Type} [DecidableEq C]

def Traffic.start (breaker : CircuitBreaker) (clock : Rat) : Traffic C := ⟨breaker, clock, fun _ => .waiting, []⟩

/-- The clock is monotonic, and each section happens at once. -/
inductive Traffic.Step : Traffic C → Section C → Traffic C → Prop
  | enter {traffic : Traffic C} {breaker : CircuitBreaker} (call : C) (now : Rat)
      (waiting : traffic.invocation call = .waiting) (passed : traffic.clock ≤ now)
      (enters : traffic.breaker.enter now = .ok breaker) :
      Step traffic (.enter call now)
        ⟨breaker, now, Function.update traffic.invocation call (.running now), call :: traffic.recent⟩
  | reject {traffic : Traffic C} {error : CircuitBreakerOpenError} (call : C) (now : Rat)
      (waiting : traffic.invocation call = .waiting) (passed : traffic.clock ≤ now)
      (rejects : traffic.breaker.enter now = .error error) :
      Step traffic (.enter call now)
        ⟨traffic.breaker, now, Function.update traffic.invocation call (.rejected error), traffic.recent⟩
  | finish {traffic : Traffic C} (call : C) (admitted : Rat) (ending : Ending)
      (running : traffic.invocation call = .running admitted) :
      Step traffic (.finish call ending)
        { traffic with invocation := Function.update traffic.invocation call (.finished admitted ending) }
  | record {traffic : Traffic C} (call : C) (now admitted : Rat) (ending : Ending)
      (finished : traffic.invocation call = .finished admitted ending) (passed : traffic.clock ≤ now) :
      Step traffic (.record call now)
        ⟨traffic.breaker.complete now ending, now, Function.update traffic.invocation call (.recorded ending),
          if (traffic.breaker.complete now ending).state = .opened then [] else traffic.recent⟩

/-- The wrapped call has started and has not ended. -/
def Traffic.InFlight (traffic : Traffic C) (call : C) : Prop := ∃ admitted, traffic.invocation call = .running admitted

section Sections

variable {breaker next : CircuitBreaker} {now : Rat}

/-- A call passes a breaker that is not open, or makes an open one half-open once the cooldown is over. -/
theorem CircuitBreaker.enter_cases (enters : breaker.enter now = .ok next) :
    (breaker.state ≠ .opened ∧ next = breaker) ∨
      (breaker.state = .opened ∧ breaker.openedAt + breaker.cooldownS ≤ now ∧
        next = { breaker with state := .halfOpen }) := by
  unfold enter at enters
  by_cases isOpen : breaker.state = .opened
  · rw [if_pos isOpen] at enters
    by_cases early : now - breaker.openedAt < breaker.cooldownS
    · rw [if_pos early] at enters
      cases enters
    · rw [if_neg early] at enters
      exact .inr ⟨isOpen, by linarith, (Except.ok.inj enters).symm⟩
  · rw [if_neg isOpen] at enters
    exact .inl ⟨isOpen, (Except.ok.inj enters).symm⟩

theorem CircuitBreaker.opened_of_reject {error : CircuitBreakerOpenError} (rejects : breaker.enter now = .error error) :
    breaker.state = .opened := by
  by_contra isOpen
  rw [enter, if_neg isOpen] at rejects
  cases rejects

theorem CircuitBreaker.recordSuccess_state (breaker : CircuitBreaker) : breaker.recordSuccess.state = .closed := by
  by_cases same : breaker.state = .closed <;> simp [recordSuccess, same]

/-- A failure opens the breaker, or only counts while the breaker is not half-open. -/
theorem CircuitBreaker.recordFailure_cases (breaker : CircuitBreaker) (now : Rat) :
    ((breaker.recordFailure now).state = .opened ∧ (breaker.recordFailure now).openedAt = now) ∨
      (breaker.state ≠ .halfOpen ∧
        breaker.recordFailure now = { breaker with failureCount := breaker.failureCount + 1 }) := by
  by_cases opens : breaker.state = .halfOpen ∨ breaker.failureCount + 1 ≥ breaker.threshold
  · exact .inl (by simp [recordFailure, opens])
  · exact .inr ⟨fun half => opens (.inl half), by simp only [recordFailure, if_neg opens]⟩

/-- A success closes the breaker, a failure may open it, and nothing else changes its state. -/
theorem CircuitBreaker.complete_cases (breaker : CircuitBreaker) (now : Rat) (ending : Ending) :
    (ending = .success ∧ (breaker.complete now ending).state = .closed) ∨
      ((breaker.complete now ending).state = .opened ∧ (breaker.complete now ending).openedAt = now) ∨
      ((breaker.complete now ending).state = breaker.state ∧
        (breaker.complete now ending).openedAt = breaker.openedAt) := by
  have failed : ∀ recorded, recorded = breaker.recordFailure now →
      (recorded.state = .opened ∧ recorded.openedAt = now) ∨
        (recorded.state = breaker.state ∧ recorded.openedAt = breaker.openedAt) := by
    intro recorded same
    subst same
    rcases breaker.recordFailure_cases now with opens | ⟨_, counts⟩
    · exact .inl opens
    · rw [counts]
      exact .inr ⟨rfl, rfl⟩
  cases ending with
  | success => exact .inl ⟨rfl, breaker.recordSuccess_state⟩
  | failure exceptionType => exact .inr (failed _ rfl)
  | timeout => exact .inr (failed _ rfl)
  | cancelled => exact .inr (.inr ⟨rfl, rfl⟩)

theorem CircuitBreaker.complete_cooldownS (breaker : CircuitBreaker) (now : Rat) (ending : Ending) :
    (breaker.complete now ending).cooldownS = breaker.cooldownS := by
  have failed : (breaker.recordFailure now).cooldownS = breaker.cooldownS := by
    unfold recordFailure
    dsimp only
    split <;> rfl
  cases ending with
  | success =>
      show breaker.recordSuccess.cooldownS = _
      unfold recordSuccess
      dsimp only
      split <;> rfl
  | failure exceptionType => exact failed
  | timeout => exact failed
  | cancelled => rfl

end Sections

end Pxtly.Core
