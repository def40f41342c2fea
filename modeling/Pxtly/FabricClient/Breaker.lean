/-
This file gives the concurrent calls of one retried function, which share its circuit breaker.
-/

import Mathlib.Algebra.Order.Ring.Rat
import Mathlib.Tactic.Linarith
import Pxtly.FabricClient.Retry
import Pxtly.Foundation.Tasks

namespace Pxtly.Fabric

open Foundation Program

/-- A turn reads the clock and draws the jitter at most once. -/
structure Reading where
  now : Rat
  jitter : Rat

/-- Only attempts and sleeps are awaited. -/
def eventLoop (A F : Type) : Cooperative (retrySignature A F) BreakerState Reading where
  respond
    | .time => some fun reading state => (reading.now, state)
    | .breaker => some fun _ state => (state, state)
    | .setBreaker state => some fun _ _ => ((), state)
    | .attempt _ _ => none
    | .uniform _ => some fun reading state => (reading.jitter, state)
    | .sleep _ => none

variable {A F C : Type}

abbrev RetryTask (A F : Type) := Task (retrySignature A F) (RetryFault F) A

abbrev RetryTurn (A F C : Type) := Turn (retrySignature A F) Reading C

abbrev Callers (A F C : Type) := Shared (retrySignature A F) (RetryFault F) A BreakerState Reading C

/-- Each call is one call of the decorated function, and the circuit is closed when the function is decorated. -/
def callers (overrides : RetryOverrides) (settings : Option FabricSettings) (name : String) (reading : Reading) :
    Callers A F C :=
  Cooperative.launch (fun _ => fabricRetry overrides settings name) {} reading

/-- An attempt of the wrapped function is in flight. -/
def attempting : RetryTask A F → Bool
  | .awaiting (.attempt _ _) _ => true
  | _ => false

variable {policy : RetryPolicy} {name : String}

/-- This is what a call does with the outcome of an attempt. -/
def afterAttempt (policy : RetryPolicy) (name : String) (remaining attempt : Nat) (currentDelay : Rat) :
    AttemptOutcome A F → Retry A F A :=
  let again latest := afterFailure policy name latest (remaining == 0) currentDelay
    (attempts policy name remaining (attempt + 1) (currentDelay * policy.factor))
  fun
  | .success value => do
      let state ← consult .breaker
      consult (.setBreaker { state with failureCount := 0, circuitOpen := false })
      return value
  | .timeout _ => again .timeout
  | .rpcError exceptionType => again (.rpcError exceptionType)
  | .connectionError exceptionType => again (.connectionError exceptionType)
  | .raised fault _ => .raise (.raised fault)

theorem attempts_succ (remaining attempt : Nat) (currentDelay : Rat) :
    (attempts policy name (remaining + 1) attempt currentDelay : Retry A F A) =
      .perform (.attempt attempt policy.grpcTimeout) (afterAttempt policy name remaining attempt currentDelay) := by
  rw [attempts]
  refine congrArg (Program.perform (S := retrySignature A F) (RetryOperation.attempt attempt policy.grpcTimeout)) ?_
  funext outcome
  cases outcome <;> rfl

section Segments

variable (reading : Reading) (state : BreakerState)

/-- The loop goes to its next attempt or is exhausted. -/
theorem settle_attempts (remaining attempt : Nat) (currentDelay : Rat) :
    (eventLoop A F).settle reading (attempts policy name remaining attempt currentDelay) state =
      match remaining with
      | 0 => (.ended (.error (.runtimeError "Toutes les tentatives épuisées sans résultat.")), state)
      | remaining + 1 =>
          (.awaiting (.attempt attempt policy.grpcTimeout) (afterAttempt policy name remaining attempt currentDelay), state) := by
  cases remaining with
  | zero => rfl
  | succ remaining =>
      rw [attempts_succ]
      rfl

theorem settle_enter (next : Unit → Retry A F A) :
    (eventLoop A F).settle reading (enter policy name >>= next) state =
      if state.circuitOpen then
        if reading.now - state.circuitOpenTime ≥ policy.cbTimeout then
          (eventLoop A F).settle reading (next ()) { state with circuitOpen := false, failureCount := 0 }
        else (.ended (.error (.circuitBreakerOpen ("Circuit breaker actif pour " ++ name))), state)
      else (eventLoop A F).settle reading (next ()) state := by
  change (eventLoop A F).settle reading ((if state.circuitOpen then
      if reading.now - state.circuitOpenTime ≥ policy.cbTimeout then
        consult (.setBreaker { state with circuitOpen := false, failureCount := 0 })
      else .raise (.circuitBreakerOpen ("Circuit breaker actif pour " ++ name))
    else pure ()) >>= next) state = _
  split
  · split
    · rfl
    · rfl
  · rfl

theorem settle_afterFailure (latest : Transient) (isLast : Bool) (currentDelay : Rat) (next : Retry A F A) :
    (eventLoop A F).settle reading (afterFailure policy name latest isLast currentDelay next) state =
      let counted := state.recordFailure policy reading.now
      if counted.failureCount ≥ policy.cbThreshold then
        (.ended (.error (.circuitBreakerOpen ("Circuit breaker déclenché pour " ++ name))),
          { counted with circuitOpen := true, circuitOpenTime := reading.now })
      else if isLast then (.ended (.error (.endorsement latest)), counted)
      else (.awaiting (.sleep (currentDelay + reading.jitter)) fun _ => next, counted) := by
  change (eventLoop A F).settle reading
    (if (state.recordFailure policy reading.now).failureCount ≥ policy.cbThreshold then do
      consult (.setBreaker
        { state.recordFailure policy reading.now with circuitOpen := true, circuitOpenTime := reading.now })
      .raise (.circuitBreakerOpen ("Circuit breaker déclenché pour " ++ name))
    else do
      consult (.setBreaker (state.recordFailure policy reading.now))
      if isLast then .raise (.endorsement latest)
      else do
        let jitter ← consult (.uniform policy.jitter)
        consult (.sleep (currentDelay + jitter))
        next) state = _
  dsimp only
  split
  · rfl
  · cases isLast with
    | true => rfl
    | false => rfl

end Segments

/-- This is where a call stands that has started so many attempts. -/
inductive Stage (overrides : RetryOverrides) (settings : Option FabricSettings) (name : String) (policy : RetryPolicy) :
    Nat → RetryTask A F → Prop
  | fresh : Stage overrides settings name policy 0 (.fresh (fabricRetry overrides settings name))
  | attempting {remaining attempt : Nat} (currentDelay : Rat) (within : attempt + remaining = policy.maxAttempts.toNat) :
      Stage overrides settings name policy attempt
        (.awaiting (.attempt attempt policy.grpcTimeout) (afterAttempt policy name remaining attempt currentDelay))
  | sleeping {remaining attempt : Nat} (delay currentDelay : Rat) (within : attempt + remaining = policy.maxAttempts.toNat) :
      Stage overrides settings name policy attempt
        (.awaiting (.sleep delay) fun _ => attempts policy name remaining (attempt + 1) currentDelay)
  | ended {attempt : Nat} (outcome : Except (RetryFault F) A) (within : attempt ≤ policy.maxAttempts.toNat) :
      Stage overrides settings name policy attempt (.ended outcome)
  | cancelled {attempt : Nat} (within : attempt ≤ policy.maxAttempts.toNat) :
      Stage overrides settings name policy attempt .cancelled

theorem Stage.within {overrides : RetryOverrides} {settings : Option FabricSettings} {attempt : Nat}
    {task : RetryTask A F} (stage : Stage overrides settings name policy attempt task) :
    attempt ≤ policy.maxAttempts.toNat := by
  cases stage with
  | fresh => exact Nat.zero_le _
  | attempting currentDelay within => omega
  | sleeping delay currentDelay within => omega
  | ended outcome within => exact within
  | cancelled within => exact within

/-- This is what a turn does to the breaker; the flag tells whether it may start an attempt. -/
inductive Effect (policy : RetryPolicy) (state : BreakerState) : RetryTurn A F C → BreakerState → Bool → Prop
  | leave (turn : RetryTurn A F C) : Effect policy state turn state false
  | enter (call : C) (reading : Reading) (started : Bool) (closed : state.circuitOpen = false) :
      Effect policy state (.start call reading) state started
  | reset (call : C) (reading : Reading) (started : Bool) (elapsed : state.circuitOpenTime + policy.cbTimeout ≤ reading.now) :
      Effect policy state (.start call reading) { state with circuitOpen := false, failureCount := 0 } started
  | succeed (call : C) (reading : Reading) (attempt : Nat) (timeout : Int) (value : A) :
      Effect policy state (.resume call reading ⟨.attempt attempt timeout, AttemptOutcome.success value⟩)
        { state with failureCount := 0, circuitOpen := false } false
  | count (call : C) (reading : Reading) (event : RetryEvent A F) :
      Effect policy state (.resume call reading event) (state.recordFailure policy reading.now) false
  | trip (call : C) (reading : Reading) (event : RetryEvent A F) :
      Effect policy state (.resume call reading event)
        { state.recordFailure policy reading.now with circuitOpen := true, circuitOpenTime := reading.now } false
  | retry (call : C) (reading : Reading) (delay : Rat) (started : Bool) :
      Effect policy state (.resume call reading ⟨.sleep delay, ()⟩) state started

section Turns

variable {overrides : RetryOverrides} {settings : Option FabricSettings}

/-- This is what a turn leaves of the breaker and of the call that takes it. -/
structure Progress (overrides : RetryOverrides) (settings : Option FabricSettings) (name : String) (policy : RetryPolicy)
    (state : BreakerState) (turn : RetryTurn A F C) (started : Nat) (result : RetryTask A F × BreakerState) : Prop where
  effect : Effect policy state turn result.2 (attempting result.1)
  stage : Stage overrides settings name policy (started + if attempting result.1 then 1 else 0) result.1

variable {state : BreakerState} {turn : RetryTurn A F C}

theorem progress_attempts {reading : Reading} {later : BreakerState} {started remaining : Nat}
    (effect : ∀ started, Effect policy state turn later started) (currentDelay : Rat)
    (within : started + remaining = policy.maxAttempts.toNat) :
    Progress overrides settings name policy state turn started
      ((eventLoop A F).settle reading (attempts policy name remaining (started + 1) currentDelay) later) := by
  rw [settle_attempts]
  cases remaining with
  | zero => exact ⟨effect false, .ended _ within.le⟩
  | succ remaining =>
      have counted : started + 1 + remaining = policy.maxAttempts.toNat := by omega
      exact ⟨effect true, .attempting currentDelay counted⟩

theorem progress_start (chosen : (overrides.policy settings : Except (RetryFault F) RetryPolicy) = .ok policy) (call : C)
    (reading : Reading) (state : BreakerState) :
    Progress overrides settings name policy state (.start call reading) 0
      ((eventLoop A F).settle reading (fabricRetry overrides settings name) state) := by
  have opened : (fabricRetry overrides settings name : Retry A F A) =
      enter policy name >>= fun _ => attempts policy name policy.maxAttempts.toNat 1 policy.baseDelay := by
    rw [fabricRetry, chosen]
    rfl
  rw [opened, settle_enter]
  by_cases isOpen : state.circuitOpen = true
  · rw [if_pos isOpen]
    by_cases elapsed : reading.now - state.circuitOpenTime ≥ policy.cbTimeout
    · rw [if_pos elapsed]
      exact progress_attempts (fun started => .reset call reading started (by linarith)) policy.baseDelay (Nat.zero_add _)
    · rw [if_neg elapsed]
      exact ⟨.leave _, .ended _ (Nat.zero_le _)⟩
  · rw [if_neg isOpen]
    exact progress_attempts (fun started => .enter call reading started (Bool.eq_false_iff.mpr isOpen)) policy.baseDelay
      (Nat.zero_add _)

theorem progress_failure (call : C) (reading : Reading) (event : RetryEvent A F) (state : BreakerState)
    (latest : Transient) {started remaining : Nat} (currentDelay delay : Rat)
    (within : started + remaining = policy.maxAttempts.toNat) :
    Progress overrides settings name policy state (.resume call reading event) started
      ((eventLoop A F).settle reading (afterFailure policy name latest (remaining == 0) currentDelay
        (attempts policy name remaining (started + 1) delay)) state) := by
  have bound : started ≤ policy.maxAttempts.toNat := by omega
  rw [settle_afterFailure]
  dsimp only
  split
  · exact ⟨.trip call reading event, .ended _ bound⟩
  · split
    · exact ⟨.count call reading event, .ended _ bound⟩
    · exact ⟨.count call reading event, .sleeping _ delay within⟩

theorem progress_outcome (call : C) (reading : Reading) (outcome : AttemptOutcome A F) (state : BreakerState)
    {started remaining : Nat} (currentDelay : Rat) (within : started + remaining = policy.maxAttempts.toNat) :
    Progress overrides settings name policy state
      (.resume call reading ⟨.attempt started policy.grpcTimeout, outcome⟩) started
      ((eventLoop A F).settle reading (afterAttempt policy name remaining started currentDelay outcome) state) := by
  have bound : started ≤ policy.maxAttempts.toNat := by omega
  cases outcome with
  | success value => exact ⟨.succeed call reading started policy.grpcTimeout value, .ended _ bound⟩
  | timeout landed => exact progress_failure call reading _ state _ currentDelay _ within
  | rpcError exceptionType => exact progress_failure call reading _ state _ currentDelay _ within
  | connectionError exceptionType => exact progress_failure call reading _ state _ currentDelay _ within
  | raised fault landed => exact ⟨.leave _, .ended _ bound⟩

/-- A turn takes its call on by at most one attempt. -/
theorem progress_of_step [DecidableEq C] {state next : Callers A F C}
    (chosen : (overrides.policy settings : Except (RetryFault F) RetryPolicy) = .ok policy)
    (step : (eventLoop A F).Step state turn next) {started : Nat}
    (stage : Stage overrides settings name policy started (state.task turn.call)) :
    Progress overrides settings name policy state.memory turn started (next.task turn.call, next.memory) := by
  cases step with
  | start call reading program fresh =>
      simp only [Turn.call, Function.update_self] at stage ⊢
      rw [fresh] at stage
      cases stage with
      | fresh => exact progress_start chosen call reading state.memory
  | resume call reading operation answer following awaiting =>
      simp only [Turn.call, Function.update_self] at stage ⊢
      rw [awaiting] at stage
      cases stage with
      | attempting currentDelay within => exact progress_outcome call reading answer state.memory currentDelay within
      | sleeping delay currentDelay within =>
          exact progress_attempts (fun started => .retry call reading delay started) currentDelay within
  | cancel call operation following awaiting =>
      simp only [Turn.call, Function.update_self] at stage ⊢
      exact ⟨.leave _, .cancelled stage.within⟩

end Turns

section Timeout

/-- A call that is past the breaker goes on when it retries or succeeds. -/
def goesOn : RetryEvent A F → Bool
  | ⟨.sleep _, _⟩ => true
  | ⟨.attempt _ _, .success _⟩ => true
  | _ => false

/-- A call that is past the breaker goes on while the circuit is open and its timeout is not over. -/
def Overruns (policy : RetryPolicy) (state : BreakerState) (turn : RetryTurn A F C) : Prop :=
  ∃ call reading event, turn = .resume call reading event ∧ goesOn event = true ∧ state.circuitOpen = true ∧
    reading.now < state.circuitOpenTime + policy.cbTimeout

/-- After an opening, the circuit stays open until the timeout is over. -/
structure HeldBack (policy : RetryPolicy) (opening : Rat) (state : BreakerState) (now : Rat) : Prop where
  past : opening ≤ now
  opened : state.circuitOpen = true → opening ≤ state.circuitOpenTime
  elapsed : state.circuitOpen = false → opening + policy.cbTimeout ≤ now

theorem BreakerState.recordFailure_circuit (state : BreakerState) (policy : RetryPolicy) (failTime : Rat) :
    (state.recordFailure policy failTime).circuitOpen = state.circuitOpen ∧
      (state.recordFailure policy failTime).circuitOpenTime = state.circuitOpenTime := by
  unfold recordFailure
  split
  · exact ⟨rfl, rfl⟩
  · exact ⟨rfl, rfl⟩

variable {opening now later : Rat} {before after : BreakerState} {turn : RetryTurn A F C} {started : Bool}

/-- Whoever finds the circuit closed after an opening, or open for long enough, runs after the timeout. -/
theorem HeldBack.passes (held : HeldBack policy opening before now) (passed : now ≤ later)
    (long : before.circuitOpen = true → before.circuitOpenTime + policy.cbTimeout ≤ later) :
    opening + policy.cbTimeout ≤ later := by
  cases isOpen : before.circuitOpen with
  | false => exact (held.elapsed isOpen).trans passed
  | true =>
      have since := held.opened isOpen
      have ended := long isOpen
      linarith

/-- No turn starts an attempt before the timeout is over, unless a call overruns it. -/
theorem HeldBack.after_effect (held : HeldBack policy opening before now) (passed : now ≤ later)
    (effect : Effect policy before turn after started) (read : ∀ reading, turn.reading = some reading → reading.now = later)
    (keeps : ¬ Overruns policy before turn) :
    HeldBack policy opening after later ∧ (started = true → opening + policy.cbTimeout ≤ later) := by
  have same : ∀ state : BreakerState, state.circuitOpen = before.circuitOpen →
      state.circuitOpenTime = before.circuitOpenTime → HeldBack policy opening state later := by
    intro state flag time
    refine ⟨held.past.trans passed, ?_, ?_⟩
    · rw [flag, time]
      exact held.opened
    · rw [flag]
      exact fun closed => (held.elapsed closed).trans passed
  have closes : ∀ state : BreakerState, state.circuitOpen = false → opening + policy.cbTimeout ≤ later →
      HeldBack policy opening state later := by
    intro state closed elapsed
    refine ⟨held.past.trans passed, ?_, fun _ => elapsed⟩
    rw [closed]
    exact nofun
  have waits : ∀ call reading event, turn = .resume call reading event → goesOn event = true →
      opening + policy.cbTimeout ≤ later := by
    intro call reading event resumed goes
    apply held.passes passed
    intro isOpen
    rw [← read reading (by rw [resumed]; rfl)]
    by_contra early
    exact keeps ⟨call, reading, event, resumed, goes, isOpen, not_le.mp early⟩
  cases effect with
  | leave turn => exact ⟨same _ rfl rfl, nofun⟩
  | enter call reading started closed => exact ⟨same _ rfl rfl, fun _ => (held.elapsed closed).trans passed⟩
  | reset call reading started elapsed =>
      have waited : opening + policy.cbTimeout ≤ later := by
        apply held.passes passed
        intro _
        rw [← read reading rfl]
        exact elapsed
      exact ⟨closes _ rfl waited, fun _ => waited⟩
  | succeed call reading attempt timeout value => exact ⟨closes _ rfl (waits call reading _ rfl rfl), nofun⟩
  | count call reading event =>
      have kept := before.recordFailure_circuit policy reading.now
      exact ⟨same _ kept.1 kept.2, nofun⟩
  | trip call reading event =>
      refine ⟨⟨held.past.trans passed, fun _ => ?_, nofun⟩, nofun⟩
      rw [read reading rfl]
      exact held.past.trans passed
  | retry call reading delay started => exact ⟨same _ rfl rfl, fun _ => waits call reading _ rfl rfl⟩

/-- An open circuit was opened in the past. -/
theorem Effect.opened_past (effect : Effect policy before turn after started) (passed : now ≤ later)
    (read : ∀ reading, turn.reading = some reading → reading.now = later)
    (past : before.circuitOpen = true → before.circuitOpenTime ≤ now) :
    after.circuitOpen = true → after.circuitOpenTime ≤ later := by
  cases effect with
  | leave turn => exact fun isOpen => (past isOpen).trans passed
  | enter call reading started closed => exact fun isOpen => (past isOpen).trans passed
  | reset call reading started elapsed => exact nofun
  | succeed call reading attempt timeout value => exact nofun
  | count call reading event =>
      have kept := before.recordFailure_circuit policy reading.now
      rw [kept.1, kept.2]
      exact fun isOpen => (past isOpen).trans passed
  | trip call reading event => exact fun _ => (read reading rfl).le
  | retry call reading delay started => exact fun isOpen => (past isOpen).trans passed

end Timeout

section Callers

variable [DecidableEq C] {overrides : RetryOverrides} {settings : Option FabricSettings}
  {state next final : Callers A F C} {turn : RetryTurn A F C}

abbrev CallersRun (A F C : Type) := List (Moment (Callers A F C) (RetryTurn A F C))

/-- The clock is set back between two turns. -/
def SetsBack (state : Callers A F C) (turn : RetryTurn A F C) : Prop :=
  ∃ reading, turn.reading = some reading ∧ reading.now < state.reading.now

/-- After every opening, no attempt starts before the timeout is over. -/
def KeepsTimeout (policy : RetryPolicy) (moments : CallersRun A F C) : Prop :=
  ∀ earlier opened later, moments = earlier ++ opened :: later → opened.state.memory.circuitOpen = true →
    ∀ moment ∈ opened :: later, ∀ next, (eventLoop A F).Step moment.state moment.label next →
      attempting (next.task moment.label.call) = true →
      opened.state.memory.circuitOpenTime + policy.cbTimeout ≤ next.reading.now

/-- This is the number of attempts that a call starts in a run. -/
def starts (call : C) : CallersRun A F C → Callers A F C → Nat
  | [], _ => 0
  | moment :: later, final =>
      starts call later final +
        if moment.label.call = call ∧ attempting (((later.head?.map Moment.state).getD final).task call) = true then 1 else 0

def Staged (overrides : RetryOverrides) (settings : Option FabricSettings) (name : String) (policy : RetryPolicy)
    (state : Callers A F C) : Prop :=
  ∀ call, ∃ started, Stage overrides settings name policy started (state.task call)

theorem now_le_of_step (step : (eventLoop A F).Step state turn next) (forward : ¬ SetsBack state turn) :
    state.reading.now ≤ next.reading.now := by
  rw [step.reading_eq]
  cases read : turn.reading with
  | none => exact le_rfl
  | some reading =>
      by_contra back
      exact forward ⟨reading, read, not_le.mp back⟩

theorem read_of_step (step : (eventLoop A F).Step state turn next) (reading : Reading)
    (read : turn.reading = some reading) : reading.now = next.reading.now := by
  rw [step.reading_eq, read]
  rfl

theorem staged_of_step (chosen : (overrides.policy settings : Except (RetryFault F) RetryPolicy) = .ok policy)
    (step : (eventLoop A F).Step state turn next) (staged : Staged overrides settings name policy state) :
    Staged overrides settings name policy next := by
  apply step.keeps_tasks (fun _ task => ∃ started, Stage overrides settings name policy started task) _ staged
  intro ⟨started, stage⟩
  exact ⟨_, (progress_of_step chosen step stage).stage⟩

theorem starts_le (chosen : (overrides.policy settings : Except (RetryFault F) RetryPolicy) = .ok policy)
    {moments : CallersRun A F C} (run : Runs (eventLoop A F).Step state moments final) (call : C) {started : Nat}
    (stage : Stage overrides settings name policy started (state.task call)) :
    starts call moments final + started ≤ policy.maxAttempts.toNat := by
  induction run generalizing started with
  | nil =>
      rw [starts, Nat.zero_add]
      exact stage.within
  | @step state next final moments turn taken rest inductionHypothesis =>
      rw [starts, rest.head_eq]
      by_cases own : turn.call = call
      · subst own
        have counted : starts turn.call moments final +
            (started + if attempting (next.task turn.call) = true then 1 else 0) ≤ policy.maxAttempts.toNat :=
          inductionHypothesis (progress_of_step chosen taken stage).stage
        simp only [true_and]
        omega
      · rw [← taken.task_other (Ne.symm own)] at stage
        have counted := inductionHypothesis stage
        rw [if_neg fun both => own both.1]
        omega

end Callers

/-- Unless the clock is set back or a call overruns an open circuit, no attempt starts before the timeout of an
opening is over; and no call ever starts more attempts than its policy allows. -/
theorem circuit_holds_back [DecidableEq C] (overrides : RetryOverrides) (settings : Option FabricSettings) (name : String)
    (policy : RetryPolicy) (chosen : (overrides.policy settings : Except (RetryFault F) RetryPolicy) = .ok policy)
    (reading : Reading) (moments : CallersRun A F C) (final : Callers A F C)
    (run : Runs (eventLoop A F).Step (callers overrides settings name reading) moments final) :
    ((∀ moment ∈ moments, ¬ SetsBack moment.state moment.label ∧ ¬ Overruns policy moment.state.memory moment.label) →
      KeepsTimeout policy moments) ∧
      ∀ call, starts call moments final ≤ policy.maxAttempts.toNat := by
  have staged := (run.keeps (Staged overrides settings name policy) (fun _ _ _ step => staged_of_step chosen step)
    fun _ => ⟨0, .fresh⟩).2
  constructor
  · intro orderly
    have past := (run.keeps
      (fun state => state.memory.circuitOpen = true → state.memory.circuitOpenTime ≤ state.reading.now)
      (fun moment member next step before => by
        obtain ⟨started, stage⟩ := staged moment member moment.label.call
        exact (progress_of_step chosen step stage).effect.opened_past
          (now_le_of_step step (orderly moment member).1) (read_of_step step) before) nofun).2
    have effect : ∀ moment ∈ moments, ∀ next, (eventLoop A F).Step moment.state moment.label next → ∀ opening,
        HeldBack policy opening moment.state.memory moment.state.reading.now →
        HeldBack policy opening next.memory next.reading.now ∧
          (attempting (next.task moment.label.call) = true → opening + policy.cbTimeout ≤ next.reading.now) := by
      intro moment member next step opening held
      obtain ⟨started, stage⟩ := staged moment member moment.label.call
      exact held.after_effect (now_le_of_step step (orderly moment member).1) (progress_of_step chosen step stage).effect
        (read_of_step step) (orderly moment member).2
    intro earlier opened later same isOpen moment member next step
    have held := run.keeps_from (fun state => state.memory.circuitOpen = true)
      (fun since state => HeldBack policy since.memory.circuitOpenTime state.memory state.reading.now)
      (fun moment member isOpen => ⟨past moment member isOpen, fun _ => le_rfl, fun closed => by
        rw [isOpen] at closed
        cases closed⟩)
      (fun moment member next step since held => (effect moment member next step _ held).1)
      earlier opened later same isOpen moment member
    exact (effect moment (by rw [same]; exact List.mem_append_right _ member) next step _ held).2
  · intro call
    exact starts_le chosen run call .fresh

section Overrun

/-- Two failures open this circuit. -/
def touchySettings : FabricSettings := { sampleSettings with fabricRetryCircuitBreakerThreshold := 2 }

def touchyPolicy : RetryPolicy where
  maxAttempts := 5
  baseDelay := 1
  factor := 2
  jitter := 1
  cbThreshold := 2
  cbTimeout := 60
  grpcTimeout := 30

def attemptingTask (attempt remaining : Nat) (currentDelay : Rat) : RetryTask Unit Unit :=
  .awaiting (.attempt attempt 30) (afterAttempt touchyPolicy "submit_transaction" remaining attempt currentDelay)

def sleepingTask : RetryTask Unit Unit :=
  .awaiting (.sleep (1 + 0)) fun _ => attempts touchyPolicy "submit_transaction" 4 2 (1 * 2)

def trippedTask : RetryTask Unit Unit :=
  .ended (.error (.circuitBreakerOpen "Circuit breaker déclenché pour submit_transaction"))

/-- Both calls are in their first attempts. -/
def bothAttempting : Callers Unit Unit Bool where
  memory := {}
  reading := ⟨0, 0⟩
  task := Function.update (Function.update (fun _ => .fresh (fabricRetry {} (some touchySettings) "submit_transaction"))
    false (attemptingTask 1 4 1)) true (attemptingTask 1 4 1)

/-- The first call sleeps before its second attempt. -/
def oneSleeping : Callers Unit Unit Bool where
  memory := { failureCount := 1, firstFailureTime := 30 }
  reading := ⟨30, 0⟩
  task := Function.update bothAttempting.task false sleepingTask

/-- The failure of the second call has opened the circuit. -/
def circuitOpened : Callers Unit Unit Bool where
  memory := { failureCount := 2, firstFailureTime := 30, circuitOpen := true, circuitOpenTime := 30 }
  reading := ⟨30, 0⟩
  task := Function.update oneSleeping.task true trippedTask

/-- The first call makes its second attempt one second later. -/
def attemptingAgain : Callers Unit Unit Bool where
  memory := circuitOpened.memory
  reading := ⟨31, 0⟩
  task := Function.update circuitOpened.task false (attemptingTask 2 3 (1 * 2))

theorem settle_touchy :
    (eventLoop Unit Unit).settle ⟨0, 0⟩ (fabricRetry {} (some touchySettings) "submit_transaction") {} =
      (attemptingTask 1 4 1, {}) := by
  change (eventLoop Unit Unit).settle ⟨0, 0⟩ (enter touchyPolicy "submit_transaction" >>= fun _ =>
    attempts touchyPolicy "submit_transaction" 5 1 1) {} = _
  rw [settle_enter, if_neg (by decide), settle_attempts]
  rfl

def beginnings : CallersRun Unit Unit Bool := [
  ⟨callers {} (some touchySettings) "submit_transaction" ⟨0, 0⟩, .start false ⟨0, 0⟩⟩,
  ⟨⟨{}, ⟨0, 0⟩, Function.update (fun _ => .fresh (fabricRetry {} (some touchySettings) "submit_transaction")) false
    (attemptingTask 1 4 1)⟩, .start true ⟨0, 0⟩⟩]

theorem runs_bothAttempting {moments : CallersRun Unit Unit Bool} {final : Callers Unit Unit Bool}
    (rest : Runs (eventLoop Unit Unit).Step bothAttempting moments final) :
    Runs (eventLoop Unit Unit).Step (callers {} (some touchySettings) "submit_transaction" ⟨0, 0⟩)
      (beginnings ++ moments) final :=
  .step _ (Cooperative.start_of_settle rfl settle_touchy)
    (.step _ (Cooperative.start_of_settle rfl settle_touchy) rest)

def timedOut (call : Bool) : RetryTurn Unit Unit Bool :=
  .resume call ⟨30, 0⟩ ⟨.attempt 1 30, AttemptOutcome.timeout false⟩

theorem step_oneSleeping : (eventLoop Unit Unit).Step bothAttempting (timedOut false) oneSleeping := by
  apply Cooperative.resume_of_settle rfl
  change (eventLoop Unit Unit).settle ⟨30, 0⟩ (afterFailure touchyPolicy "submit_transaction" .timeout false 1
    (attempts touchyPolicy "submit_transaction" 4 2 (1 * 2))) {} = _
  rw [settle_afterFailure]
  rfl

theorem step_circuitOpened : (eventLoop Unit Unit).Step oneSleeping (timedOut true) circuitOpened := by
  apply Cooperative.resume_of_settle rfl
  change (eventLoop Unit Unit).settle ⟨30, 0⟩ (afterFailure touchyPolicy "submit_transaction" .timeout false 1
    (attempts touchyPolicy "submit_transaction" 4 2 (1 * 2))) oneSleeping.memory = _
  have counted : oneSleeping.memory.recordFailure touchyPolicy 30 = { failureCount := 2, firstFailureTime := 30 } := by
    have young : ¬ (30 - oneSleeping.memory.firstFailureTime > touchyPolicy.cbTimeout) := by
      show ¬ ((60 : Rat) < 30 - 30)
      linarith
    have more : oneSleeping.memory.failureCount ≠ 0 := by decide
    rw [BreakerState.recordFailure, if_neg (by simp [young, more])]
    rfl
  rw [settle_afterFailure, counted]
  rfl

theorem step_attemptingAgain : (eventLoop Unit Unit).Step circuitOpened
    (.resume false ⟨31, 0⟩ ⟨.sleep (1 + 0), ()⟩) attemptingAgain := by
  apply Cooperative.resume_of_settle rfl
  exact settle_attempts _ _ 4 2 (1 * 2)

/-- Up to the opening, this run is orderly. -/
theorem circuit_holds_back_touchy :
    KeepsTimeout touchyPolicy (beginnings ++ [⟨bothAttempting, timedOut false⟩, ⟨oneSleeping, timedOut true⟩]) ∧
      starts false (beginnings ++ [⟨bothAttempting, timedOut false⟩, ⟨oneSleeping, timedOut true⟩]) circuitOpened ≤ 5 := by
  have run := runs_bothAttempting (.step _ step_oneSleeping (.step _ step_circuitOpened .nil))
  have held := circuit_holds_back {} (some touchySettings) "submit_transaction" touchyPolicy rfl ⟨0, 0⟩ _ circuitOpened run
  refine ⟨held.1 ?_, held.2 false⟩
  intro moment member
  have forward : ∀ first second : Rat, first ≤ second → ¬ second < first := fun _ _ => not_lt.mpr
  rcases List.mem_cons.mp member with rfl | member
  · exact ⟨fun ⟨_, read, back⟩ => forward 0 0 le_rfl (by cases read; exact back),
      fun ⟨_, _, _, _, _, isOpen, _⟩ => nomatch isOpen⟩
  rcases List.mem_cons.mp member with rfl | member
  · exact ⟨fun ⟨_, read, back⟩ => forward 0 0 le_rfl (by cases read; exact back),
      fun ⟨_, _, _, _, _, isOpen, _⟩ => nomatch isOpen⟩
  rcases List.mem_cons.mp member with rfl | member
  · exact ⟨fun ⟨_, read, back⟩ => forward 0 30 (by linarith) (by cases read; exact back),
      fun ⟨_, _, _, _, _, isOpen, _⟩ => nomatch isOpen⟩
  · obtain rfl := List.mem_singleton.mp member
    exact ⟨fun ⟨_, read, back⟩ => forward 30 30 le_rfl (by cases read; exact back),
      fun ⟨_, _, _, _, _, isOpen, _⟩ => nomatch isOpen⟩

/-- A retry starts one second after the circuit has opened for a minute. -/
theorem retry_overruns_open_circuit :
    ∃ (moments : CallersRun Unit Unit Bool) (final : Callers Unit Unit Bool),
      Runs (eventLoop Unit Unit).Step (callers {} (some touchySettings) "submit_transaction" ⟨0, 0⟩) moments final ∧
        ¬ KeepsTimeout touchyPolicy moments := by
  have run := runs_bothAttempting (.step _ step_oneSleeping (.step _ step_circuitOpened
    (.step _ step_attemptingAgain .nil)))
  refine ⟨_, attemptingAgain, run, fun kept => ?_⟩
  have waited := kept (beginnings ++ [⟨bothAttempting, timedOut false⟩, ⟨oneSleeping, timedOut true⟩])
    ⟨circuitOpened, .resume false ⟨31, 0⟩ ⟨.sleep (1 + 0), ()⟩⟩ [] rfl rfl _ List.mem_cons_self attemptingAgain
    step_attemptingAgain rfl
  have early : ¬ ((30 : Rat) + 60 ≤ 31) := by linarith
  exact early waited

end Overrun

end Pxtly.Fabric
