/-
This file gives the calls of a circuit breaker that do not overlap, and the table of states that they follow.
-/

import Pxtly.Core.CircuitBreaker

namespace Pxtly.Core

open Foundation

/-- A wrapped call that nobody cancels ends in one of these ways. -/
inductive Completion where
  | success
  | failure (exceptionType : String)
  | timeout
  deriving DecidableEq

def Completion.ending : Completion → Ending
  | .success => .success
  | .failure exceptionType => .failure exceptionType
  | .timeout => .timeout

/-- A call reads the clock when it enters, and again when it records a failure. -/
structure TimedCall where
  entered : Rat
  completion : Completion
  recorded : Rat

/-- The wrapped function runs once, or not at all. -/
inductive Reply where
  | rejected
  | ran (completion : Completion)
  deriving DecidableEq

def Reply.failed : Reply → Bool
  | .rejected => false
  | .ran completion => completion ≠ .success

def Reply.count (failures : Nat) (reply : Reply) : Nat :=
  if reply = .ran .success then 0 else if reply.failed then failures + 1 else failures

/-- No other call has a section between the sections of this one. -/
def CircuitBreaker.call (breaker : CircuitBreaker) (timed : TimedCall) : CircuitBreaker × Reply :=
  match breaker.enter timed.entered with
  | .error _ => (breaker, .rejected)
  | .ok admitted => (admitted.complete timed.recorded timed.completion.ending, .ran timed.completion)

def CircuitBreaker.after (breaker : CircuitBreaker) : List TimedCall → CircuitBreaker
  | [] => breaker
  | timed :: rest => (breaker.call timed).1.after rest

def CircuitBreaker.replies (breaker : CircuitBreaker) : List TimedCall → List Reply
  | [] => []
  | timed :: rest => (breaker.call timed).2 :: (breaker.call timed).1.replies rest

/-- The failures behind the last success are counted, and a rejection is none. -/
def failuresSinceSuccess (replies : List Reply) : Nat := replies.foldl Reply.count 0

section Table

/-- Between two calls, the documented circuit is closed after some failures in a row, or open since an instant. -/
inductive Circuit where
  | closed (failures : Nat)
  | opened (since : Rat)
  deriving DecidableEq

/-- The circuit is half-open only inside of a call, the probe. -/
def Circuit.call (threshold : Int) (cooldownS : Rat) (circuit : Circuit) (timed : TimedCall) : Circuit × Reply :=
  match circuit with
  | .closed failures =>
      if timed.completion = .success then (.closed 0, .ran timed.completion)
      else if (failures + 1 : Nat) < threshold then (.closed (failures + 1), .ran timed.completion)
      else (.opened timed.recorded, .ran timed.completion)
  | .opened since =>
      if timed.entered - since < cooldownS then (.opened since, .rejected)
      else if timed.completion = .success then (.closed 0, .ran timed.completion)
      else (.opened timed.recorded, .ran timed.completion)

def Circuit.after (threshold : Int) (cooldownS : Rat) (circuit : Circuit) : List TimedCall → Circuit
  | [] => circuit
  | timed :: rest => ((circuit.call threshold cooldownS timed).1).after threshold cooldownS rest

def Circuit.replies (threshold : Int) (cooldownS : Rat) (circuit : Circuit) : List TimedCall → List Reply
  | [] => []
  | timed :: rest => (circuit.call threshold cooldownS timed).2 ::
      ((circuit.call threshold cooldownS timed).1).replies threshold cooldownS rest

/-- The count of an open breaker means nothing, since a success takes it back. -/
def Circuit.Shows (threshold : Int) (cooldownS : Rat) (circuit : Circuit) (breaker : CircuitBreaker) : Prop :=
  breaker.threshold = threshold ∧ breaker.cooldownS = cooldownS ∧
    match circuit with
    | .closed failures => breaker.state = .closed ∧ breaker.failureCount = failures ∧ failures < threshold
    | .opened since => breaker.state = .opened ∧ breaker.openedAt = since

end Table

section Simulation

variable {threshold : Int} {cooldownS : Rat} {circuit : Circuit} {breaker : CircuitBreaker}

/-- A failure of a breaker opens it as the table says. -/
theorem Circuit.Shows.recordFailure {failures : Nat} (shown : (Circuit.closed failures).Shows threshold cooldownS breaker)
    (now : Rat) :
    (if (failures + 1 : Nat) < threshold then Circuit.closed (failures + 1) else .opened now).Shows threshold cooldownS
      (breaker.recordFailure now) := by
  obtain ⟨sameThreshold, sameCooldown, closed, count, _⟩ := shown
  have notHalf : breaker.state ≠ .halfOpen := by
    rw [closed]
    exact nofun
  by_cases below : (failures + 1 : Nat) < threshold
  · have stays : ¬ (breaker.state = .halfOpen ∨ breaker.failureCount + 1 ≥ breaker.threshold) := by
      rw [sameThreshold, count]
      push_cast at below
      exact not_or.mpr ⟨notHalf, not_le.mpr below⟩
    rw [if_pos below, CircuitBreaker.recordFailure, if_neg stays]
    exact ⟨sameThreshold, sameCooldown, closed, by simp [count], below⟩
  · have opens : breaker.state = .halfOpen ∨ breaker.failureCount + 1 ≥ breaker.threshold := by
      rw [sameThreshold, count]
      push_cast at below
      exact .inr (not_lt.mp below)
    rw [if_neg below, CircuitBreaker.recordFailure, if_pos opens]
    exact ⟨sameThreshold, sameCooldown, rfl, rfl⟩

/-- A half-open breaker opens again with every failure, whatever it has counted. -/
theorem recordFailure_halfOpen (half : breaker.state = .halfOpen) (now : Rat) :
    (breaker.recordFailure now).state = .opened ∧ (breaker.recordFailure now).openedAt = now ∧
      (breaker.recordFailure now).threshold = breaker.threshold ∧
      (breaker.recordFailure now).cooldownS = breaker.cooldownS := by
  rw [CircuitBreaker.recordFailure, if_pos (.inl half)]
  exact ⟨rfl, rfl, rfl, rfl⟩

theorem recordSuccess_eq (breaker : CircuitBreaker) :
    breaker.recordSuccess = { breaker with state := .closed, failureCount := 0 } := by
  by_cases closed : breaker.state = .closed
  · rw [CircuitBreaker.recordSuccess, if_pos closed, ← closed]
  · rw [CircuitBreaker.recordSuccess, if_neg closed]

/-- A success closes the breaker and takes the count back. -/
theorem shows_recordSuccess (positive : 1 ≤ threshold) (sameThreshold : breaker.threshold = threshold)
    (sameCooldown : breaker.cooldownS = cooldownS) :
    (Circuit.closed 0).Shows threshold cooldownS breaker.recordSuccess := by
  rw [recordSuccess_eq]
  exact ⟨sameThreshold, sameCooldown, rfl, rfl, by omega⟩

theorem complete_of_failed {completion : Completion} (failed : completion ≠ .success) (breaker : CircuitBreaker)
    (now : Rat) : breaker.complete now completion.ending = breaker.recordFailure now := by
  cases completion with
  | success => exact absurd rfl failed
  | failure exceptionType => rfl
  | timeout => rfl

/-- One call of the breaker is one call of the circuit. -/
theorem Circuit.Shows.call (positive : 1 ≤ threshold) (shown : circuit.Shows threshold cooldownS breaker)
    (timed : TimedCall) :
    (circuit.call threshold cooldownS timed).1.Shows threshold cooldownS (breaker.call timed).1 ∧
      (breaker.call timed).2 = (circuit.call threshold cooldownS timed).2 := by
  obtain ⟨sameThreshold, sameCooldown, state⟩ := id shown
  cases circuit with
  | closed failures =>
      have entered : breaker.enter timed.entered = .ok breaker := by
        have shut : breaker.state ≠ .opened := by
          rw [state.1]
          intro same
          cases same
        rw [CircuitBreaker.enter, if_neg shut]
      rw [CircuitBreaker.call, entered, Circuit.call]
      by_cases completed : timed.completion = .success
      · rw [if_pos completed, completed]
        exact ⟨shows_recordSuccess positive sameThreshold sameCooldown, rfl⟩
      · have recorded := shown.recordFailure timed.recorded
        dsimp only
        rw [if_neg completed, complete_of_failed completed]
        split at recorded
        · rename_i below
          rw [if_pos below]
          exact ⟨recorded, rfl⟩
        · rename_i reached
          rw [if_neg reached]
          exact ⟨recorded, rfl⟩
  | opened since =>
      obtain ⟨isOpen, openedAt⟩ := state
      have elapsed : timed.entered - breaker.openedAt < breaker.cooldownS ↔ timed.entered - since < cooldownS := by
        rw [openedAt, sameCooldown]
      rw [CircuitBreaker.call, CircuitBreaker.enter, if_pos isOpen, Circuit.call]
      by_cases early : timed.entered - since < cooldownS
      · rw [if_pos (elapsed.mpr early), if_pos early]
        exact ⟨shown, rfl⟩
      · rw [if_neg (mt elapsed.mp early), if_neg early]
        by_cases completed : timed.completion = .success
        · rw [if_pos completed, completed]
          exact ⟨shows_recordSuccess positive sameThreshold sameCooldown, rfl⟩
        · -- The probe makes the breaker half-open, whose count does not matter.
          have half : CircuitBreaker.state { breaker with state := .halfOpen } = .halfOpen := rfl
          have reopened := recordFailure_halfOpen half timed.recorded
          dsimp only
          rw [if_neg completed, complete_of_failed completed]
          exact ⟨⟨reopened.2.2.1.trans sameThreshold, reopened.2.2.2.trans sameCooldown, reopened.1, reopened.2.1⟩, rfl⟩

/-- Any sequence of calls goes the same way through the breaker and through the table. -/
theorem Circuit.Shows.after (positive : 1 ≤ threshold) (shown : circuit.Shows threshold cooldownS breaker)
    (calls : List TimedCall) :
    (circuit.after threshold cooldownS calls).Shows threshold cooldownS (breaker.after calls) ∧
      breaker.replies calls = circuit.replies threshold cooldownS calls := by
  induction calls generalizing circuit breaker with
  | nil => exact ⟨shown, rfl⟩
  | cons timed rest inductionHypothesis =>
      obtain ⟨next, reply⟩ := shown.call positive timed
      obtain ⟨last, replies⟩ := inductionHypothesis next
      exact ⟨last, congrArg₂ List.cons reply replies⟩

end Simulation

section Counting

variable {threshold : Int} {cooldownS : Rat}

theorem Reply.count_success (failures : Nat) : Reply.count failures (.ran .success) = 0 := rfl

theorem Reply.count_failed {completion : Completion} (failed : completion ≠ .success) (failures : Nat) :
    Reply.count failures (.ran completion) = failures + 1 := by
  simp [Reply.count, Reply.failed, failed]

/-- A call that leaves the circuit closed counts as its reply says. -/
theorem Circuit.call_closed {circuit : Circuit} {timed : TimedCall} {failures counted : Nat}
    (before : ∀ known, circuit = .closed known → counted = known)
    (closed : (circuit.call threshold cooldownS timed).1 = .closed failures) :
    Reply.count counted (circuit.call threshold cooldownS timed).2 = failures := by
  cases circuit with
  | closed known =>
      obtain rfl := before known rfl
      simp only [Circuit.call] at closed ⊢
      by_cases completed : timed.completion = .success
      · rw [if_pos completed] at closed ⊢
        rw [completed]
        exact Circuit.closed.inj closed
      · rw [if_neg completed] at closed ⊢
        split at closed
        · rename_i below
          rw [if_pos below, Reply.count_failed completed]
          exact Circuit.closed.inj closed
        · cases closed
  | opened since =>
      simp only [Circuit.call] at closed ⊢
      split at closed
      · cases closed
      · rename_i elapsed
        rw [if_neg elapsed]
        by_cases completed : timed.completion = .success
        · rw [if_pos completed] at closed ⊢
          rw [completed]
          exact Circuit.closed.inj closed
        · rw [if_neg completed] at closed
          cases closed

/-- A closed circuit counts the failures since the last success, however often it was open in between. -/
theorem Circuit.count_of_closed (calls : List TimedCall) {circuit : Circuit} {counted failures : Nat}
    (before : ∀ known, circuit = .closed known → counted = known)
    (closed : circuit.after threshold cooldownS calls = .closed failures) :
    (circuit.replies threshold cooldownS calls).foldl Reply.count counted = failures := by
  induction calls generalizing circuit counted with
  | nil => exact before failures closed
  | cons timed rest inductionHypothesis =>
      exact inductionHypothesis (fun known same => Circuit.call_closed before same) closed

end Counting

section Laws

/-- These are the laws of the table for a breaker that has given the replies and takes its next call. -/
structure FollowsTable (threshold : Int) (cooldownS : Rat) (breaker : CircuitBreaker) (replies : List Reply)
    (timed : TimedCall) : Prop where
  settled : breaker.state = .closed ∨ breaker.state = .opened
  counts : breaker.state = .closed →
    breaker.failureCount < threshold ∧ breaker.failureCount = failuresSinceSuccess replies
  runs : breaker.state = .closed → (breaker.call timed).2 = .ran timed.completion
  opens : ((breaker.call timed).2 ≠ .rejected ∧ (breaker.call timed).1.state = .opened) ↔
    (breaker.state = .closed ∧ failuresSinceSuccess (replies ++ [(breaker.call timed).2]) = threshold) ∨
      (breaker.state = .opened ∧ (breaker.call timed).2.failed = true)
  rejects : breaker.state = .opened → ((breaker.call timed).2 = .rejected ↔ timed.entered - breaker.openedAt < cooldownS)
  keeps : (breaker.call timed).2 = .rejected → (breaker.call timed).1 = breaker
  probes : breaker.state = .opened → (breaker.call timed).2 ≠ .rejected →
    (breaker.call timed).2 = .ran timed.completion ∧
      (breaker.call timed).1.state = if timed.completion = .success then .closed else .opened

variable {threshold : Int} {cooldownS : Rat} {circuit : Circuit} {breaker : CircuitBreaker} {replies : List Reply}

theorem Circuit.Shows.closed_iff (shown : circuit.Shows threshold cooldownS breaker) :
    breaker.state = .closed ↔ ∃ failures, circuit = .closed failures := by
  obtain ⟨_, _, state⟩ := shown
  cases circuit with
  | closed failures => exact iff_of_true state.1 ⟨failures, rfl⟩
  | opened since =>
      refine iff_of_false ?_ (by nofun)
      rw [state.1]
      exact nofun

theorem Circuit.Shows.opened_iff (shown : circuit.Shows threshold cooldownS breaker) :
    breaker.state = .opened ↔ ∃ since, circuit = .opened since := by
  obtain ⟨_, _, state⟩ := shown
  cases circuit with
  | closed failures =>
      refine iff_of_false ?_ (by nofun)
      rw [state.1]
      exact nofun
  | opened since => exact iff_of_true state.1 ⟨since, rfl⟩

theorem Circuit.Shows.follows (positive : 1 ≤ threshold) (shown : circuit.Shows threshold cooldownS breaker)
    (counted : ∀ failures, circuit = .closed failures → failuresSinceSuccess replies = failures) (timed : TimedCall) :
    FollowsTable threshold cooldownS breaker replies timed := by
  obtain ⟨next, reply⟩ := shown.call positive timed
  obtain ⟨_, sameCooldown, state⟩ := id shown
  have isOpen := next.opened_iff
  have isClosed := next.closed_iff
  cases circuit with
  | closed failures =>
      obtain ⟨closed, count, below⟩ := state
      have notOpen : breaker.state ≠ .opened := by
        rw [closed]
        exact nofun
      have ran : (breaker.call timed).2 = .ran timed.completion := by
        rw [reply, Circuit.call]
        split
        · rfl
        · split <;> rfl
      have total : failuresSinceSuccess (replies ++ [(breaker.call timed).2]) =
          Reply.count failures (.ran timed.completion) := by
        rw [failuresSinceSuccess, List.foldl_append, ran, ← counted failures rfl]
        rfl
      refine ⟨.inl closed, fun _ => ⟨by omega, by rw [count, counted failures rfl]⟩, fun _ => ran, ?_,
        fun isOpen => absurd isOpen notOpen, ?_, fun isOpen => absurd isOpen notOpen⟩
      · rw [total, ran, isOpen, Circuit.call]
        by_cases completed : timed.completion = .success
        · rw [if_pos completed, completed, Reply.count_success]
          simp only [closed, reduceCtorEq, exists_false, and_false, false_and, or_false, true_and, false_iff]
          omega
        · rw [if_neg completed, Reply.count_failed completed]
          by_cases under : (failures + 1 : Nat) < threshold
          · rw [if_pos under]
            simp only [closed, reduceCtorEq, exists_false, and_false, false_and, or_false, true_and, false_iff]
            omega
          · rw [if_neg under]
            have reached : ((failures + 1 : Nat) : Int) = threshold := by omega
            simp [closed, reached]
      · rw [ran]
        exact nofun
  | opened since =>
      obtain ⟨opened, openedAt⟩ := state
      have notClosed : breaker.state ≠ .closed := by
        rw [opened]
        exact nofun
      have rejected : (breaker.call timed).2 = .rejected ↔ timed.entered - since < cooldownS := by
        rw [reply, Circuit.call]
        by_cases early : timed.entered - since < cooldownS
        · simp [early]
        · by_cases completed : timed.completion = .success <;> simp [early, completed]
      refine ⟨.inr opened, fun closed => absurd closed notClosed, fun closed => absurd closed notClosed, ?_,
        fun _ => by rw [rejected, openedAt], ?_, ?_⟩
      · rw [isOpen, reply, Circuit.call]
        by_cases early : timed.entered - since < cooldownS
        · simp [early, opened, Reply.failed]
        · by_cases completed : timed.completion = .success <;> simp [early, completed, opened, Reply.failed]
      · intro turned
        have early : timed.entered - breaker.openedAt < breaker.cooldownS := by
          rw [openedAt, sameCooldown]
          exact rejected.mp turned
        rw [CircuitBreaker.call, CircuitBreaker.enter, if_pos opened, if_pos early]
      · intro _ admitted
        have elapsed := mt rejected.mpr admitted
        rw [Circuit.call] at isOpen isClosed reply
        rw [if_neg elapsed] at isOpen isClosed reply
        by_cases completed : timed.completion = .success
        · rw [if_pos completed] at isClosed reply ⊢
          exact ⟨reply, isClosed.mpr ⟨0, rfl⟩⟩
        · rw [if_neg completed] at isOpen reply ⊢
          exact ⟨reply, isOpen.mpr ⟨_, rfl⟩⟩

theorem shows_create (name : String) (positive : 1 ≤ threshold) (cooldownS : Rat) :
    (Circuit.closed 0).Shows threshold cooldownS (CircuitBreaker.create name threshold cooldownS) :=
  ⟨rfl, rfl, rfl, rfl, by omega⟩

/-- The calls that do not overlap refine the table, and each follows its laws. -/
theorem sequential_calls_follow_table (name : String) (threshold : Int) (cooldownS : Rat) (positive : 1 ≤ threshold)
    (calls : List TimedCall) (timed : TimedCall) :
    let created := CircuitBreaker.create name threshold cooldownS
    let circuit := (Circuit.closed 0).after threshold cooldownS calls
    circuit.Shows threshold cooldownS (created.after calls) ∧
      created.replies calls = (Circuit.closed 0).replies threshold cooldownS calls ∧
      FollowsTable threshold cooldownS (created.after calls) (created.replies calls) timed := by
  intro created circuit
  obtain ⟨shown, replied⟩ := (shows_create name positive cooldownS).after positive calls
  refine ⟨shown, replied, shown.follows positive (fun failures closed => ?_) timed⟩
  rw [replied]
  exact Circuit.count_of_closed calls (fun known same => Circuit.closed.inj same) closed

/-- Two timeouts open this breaker, the third call is turned away, and the fourth is the probe. -/
def vaultCalls : List TimedCall := [⟨0, .timeout, 5⟩, ⟨6, .timeout, 11⟩, ⟨12, .success, 13⟩, ⟨71, .failure "OSError", 72⟩]

theorem vaultCalls_follow_table :
    (Circuit.opened 72).Shows 2 60 ((CircuitBreaker.create "vault" 2 60).after vaultCalls) ∧
      (CircuitBreaker.create "vault" 2 60).replies vaultCalls =
        [.ran .timeout, .ran .timeout, .rejected, .ran (.failure "OSError")] ∧
      FollowsTable 2 60 ((CircuitBreaker.create "vault" 2 60).after vaultCalls)
        ((CircuitBreaker.create "vault" 2 60).replies vaultCalls) ⟨132, .success, 133⟩ := by
  obtain ⟨shown, replied, follows⟩ := sequential_calls_follow_table "vault" 2 60 (by decide) vaultCalls ⟨132, .success, 133⟩
  have ended : (Circuit.closed 0).after 2 60 vaultCalls = .opened 72 := by decide +kernel
  have told : (Circuit.closed 0).replies 2 60 vaultCalls =
      [.ran .timeout, .ran .timeout, .rejected, .ran (.failure "OSError")] := by decide +kernel
  rw [ended] at shown
  exact ⟨shown, replied.trans told, follows⟩

end Laws

section Sections

variable {C : Type} [DecidableEq C]

/-- A call whose sections no other call interrupts is a run of the shared breaker. -/
theorem exists_runs_call {traffic : Traffic C} {call : C} {timed : TimedCall} (waiting : traffic.invocation call = .waiting)
    (passed : traffic.clock ≤ timed.entered) (ordered : timed.entered ≤ timed.recorded) :
    ∃ moments next, Runs Traffic.Step traffic moments next ∧ next.breaker = (traffic.breaker.call timed).1 ∧
      next.clock ≤ timed.recorded ∧ ∀ other ≠ call, next.invocation other = traffic.invocation other := by
  cases entered : traffic.breaker.enter timed.entered with
  | error error =>
      refine ⟨_, _, .step _ (.reject call timed.entered waiting passed entered) .nil, ?_, ordered,
        fun other different => Function.update_of_ne different _ _⟩
      rw [CircuitBreaker.call, entered]
  | ok breaker =>
      have enter := Traffic.Step.enter call timed.entered waiting passed entered
      have finish : Traffic.Step ⟨breaker, timed.entered, Function.update traffic.invocation call (.running timed.entered),
          call :: traffic.recent⟩ (.finish call timed.completion.ending) _ :=
        .finish call timed.entered timed.completion.ending (Function.update_self ..)
      refine ⟨_, _, .step _ enter (.step _ finish
        (.step _ (.record call timed.recorded timed.entered timed.completion.ending (Function.update_self ..) ordered)
          .nil)), ?_, le_rfl, fun other different => ?_⟩
      · rw [CircuitBreaker.call, entered]
      · dsimp only
        rw [Function.update_of_ne different, Function.update_of_ne different, Function.update_of_ne different]

/-- The clock passes from the end of one call to the beginning of the next. -/
def Ordered (clock : Rat) : List TimedCall → Prop
  | [] => True
  | timed :: rest => clock ≤ timed.entered ∧ timed.entered ≤ timed.recorded ∧ Ordered timed.recorded rest

theorem exists_runs_calls {clock : Rat} (calls : List TimedCall) (ordered : Ordered clock calls) {traffic : Traffic Nat}
    {first : Nat} (passed : traffic.clock ≤ clock) (waiting : ∀ call ≥ first, traffic.invocation call = .waiting) :
    ∃ moments final, Runs Traffic.Step traffic moments final ∧ final.breaker = traffic.breaker.after calls := by
  induction calls generalizing traffic first clock with
  | nil => exact ⟨[], traffic, .nil, rfl⟩
  | cons timed rest inductionHypothesis =>
      obtain ⟨entered, recorded, later⟩ := ordered
      obtain ⟨moments, next, run, breaker, past, others⟩ :=
        exists_runs_call (waiting first le_rfl) (passed.trans entered) recorded
      have free : ∀ call ≥ first + 1, next.invocation call = .waiting := by
        intro call behind
        rw [others call (by omega)]
        exact waiting call (by omega)
      obtain ⟨rest, final, runs, last⟩ := inductionHypothesis later past free
      refine ⟨moments ++ rest, final, run.append runs, ?_⟩
      rw [last, breaker]
      rfl

end Sections

end Pxtly.Core
