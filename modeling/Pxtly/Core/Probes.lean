/-
This file gives the number of calls that probe a half-open breaker.
-/

import Pxtly.Core.CircuitBreaker

namespace Pxtly.Core

open Foundation

variable {C : Type} [DecidableEq C] {traffic next : Traffic C} {happening : Section C}

/-- A half-open breaker has at most one call in flight that it admitted since it was last open. -/
def Traffic.OneProbe (traffic : Traffic C) : Prop :=
  traffic.breaker.state = .halfOpen → ∀ first ∈ traffic.recent, ∀ second ∈ traffic.recent,
    traffic.InFlight first → traffic.InFlight second → first = second

/-- A call arrives at a half-open breaker while a probe is in flight. -/
def Traffic.Crowds (traffic : Traffic C) (happening : Section C) : Prop :=
  ∃ call now, happening = .enter call now ∧ traffic.breaker.state = .halfOpen ∧
    ∃ probe ∈ traffic.recent, traffic.InFlight probe

/-- An open breaker has admitted no call since it opened. -/
def Traffic.QuietWhileOpen (traffic : Traffic C) : Prop := traffic.breaker.state = .opened → traffic.recent = []

theorem Traffic.Step.quietWhileOpen (step : traffic.Step happening next) (quiet : traffic.QuietWhileOpen) :
    next.QuietWhileOpen := by
  cases step with
  | enter call now waiting passed enters =>
      intro isOpen
      rcases CircuitBreaker.enter_cases enters with ⟨notOpen, rfl⟩ | ⟨_, _, rfl⟩
      · exact absurd isOpen notOpen
      · cases isOpen
  | reject call now waiting passed rejects => exact quiet
  | finish call admitted ending running => exact quiet
  | record call now admitted ending finished passed => exact fun isOpen => if_pos isOpen

theorem inFlight_update_self {invocation : C → Invocation} {call : C} {breaker : CircuitBreaker} {clock now : Rat}
    {recent : List C} :
    (Traffic.mk breaker clock (Function.update invocation call (.running now)) recent).InFlight call :=
  ⟨now, Function.update_self call _ invocation⟩

/-- What happens to one call leaves the others in flight as they are. -/
theorem inFlight_update_of_ne {invocation : C → Invocation} {call other : C} {stage : Invocation}
    {breaker earlier : CircuitBreaker} {clock before : Rat} {recent past : List C} (different : other ≠ call) :
    (Traffic.mk breaker clock (Function.update invocation call stage) recent).InFlight other ↔
      (Traffic.mk earlier before invocation past).InFlight other := by
  simp only [Traffic.InFlight, Function.update_of_ne different]

theorem inFlight_of_update {call other : C} {stage : Invocation} {breaker : CircuitBreaker} {clock : Rat}
    {recent : List C}
    (ended : ∀ admitted, stage ≠ .running admitted)
    (inFlight : (Traffic.mk breaker clock (Function.update traffic.invocation call stage) recent).InFlight other) :
    traffic.InFlight other := by
  by_cases same : other = call
  · subst same
    obtain ⟨admitted, running⟩ := inFlight
    exact absurd ((Function.update_self other stage traffic.invocation).symm.trans running) (ended admitted)
  · exact (inFlight_update_of_ne same).mp inFlight

/-- A call that is not in flight after its section leaves no more calls in flight than before. -/
theorem Traffic.OneProbe.settle {stage : Invocation} {call : C} {breaker : CircuitBreaker} {clock : Rat}
    {recent : List C} (one : traffic.OneProbe) (ended : ∀ admitted, stage ≠ .running admitted)
    (half : breaker.state = .halfOpen → traffic.breaker.state = .halfOpen)
    (fewer : ∀ other ∈ recent, other ∈ traffic.recent) :
    Traffic.OneProbe ⟨breaker, clock, Function.update traffic.invocation call stage, recent⟩ := by
  intro isHalf first firstRecent second secondRecent firstFlies secondFlies
  exact one (half isHalf) first (fewer first firstRecent) second (fewer second secondRecent)
    (inFlight_of_update ended firstFlies) (inFlight_of_update ended secondFlies)

/-- A section keeps one probe at most exactly when no call joins a probe in flight. -/
theorem Traffic.Step.oneProbe_iff (step : traffic.Step happening next) (quiet : traffic.QuietWhileOpen)
    (one : traffic.OneProbe) : next.OneProbe ↔ ¬ traffic.Crowds happening := by
  cases step with
  | enter call now waiting passed enters =>
      have grounded : ¬ traffic.InFlight call := by
        intro ⟨admitted, running⟩
        rw [waiting] at running
        cases running
      rcases CircuitBreaker.enter_cases enters with ⟨notOpen, rfl⟩ | ⟨isOpen, _, rfl⟩
      · constructor
        · intro after ⟨_, _, _, half, probe, recent, inFlight⟩
          have different : probe ≠ call := by
            rintro rfl
            exact grounded inFlight
          exact different (after half probe (.tail _ recent) call List.mem_cons_self
            ((inFlight_update_of_ne different).mpr inFlight) inFlight_update_self)
        · intro alone half first firstRecent second secondRecent firstFlies secondFlies
          have only : ∀ other ∈ call :: traffic.recent,
              (Traffic.mk traffic.breaker now (Function.update traffic.invocation call (.running now))
                (call :: traffic.recent)).InFlight other → other = call := by
            intro other member inFlight
            by_contra different
            rcases List.mem_cons.mp member with same | recent
            · exact different same
            · exact alone ⟨call, now, rfl, half, other, recent, (inFlight_update_of_ne different).mp inFlight⟩
          rw [only first firstRecent firstFlies, only second secondRecent secondFlies]
      · apply iff_of_true
        · intro _ first firstRecent second secondRecent _ _
          rw [quiet isOpen] at firstRecent secondRecent
          rw [List.mem_singleton.mp firstRecent, List.mem_singleton.mp secondRecent]
        · intro ⟨_, _, _, half, _⟩
          rw [isOpen] at half
          cases half
  | reject call now waiting passed rejects =>
      have isOpen := CircuitBreaker.opened_of_reject rejects
      apply iff_of_true
      · exact one.settle nofun id fun _ member => member
      · intro ⟨_, _, _, half, _⟩
        rw [isOpen] at half
        cases half
  | finish call admitted ending running =>
      exact iff_of_true (one.settle nofun id fun _ member => member) nofun
  | record call now admitted ending finished passed =>
      refine iff_of_true (one.settle nofun ?_ ?_) nofun
      · intro half
        rcases traffic.breaker.complete_cases now ending with ⟨_, closed⟩ | ⟨opens, _⟩ | ⟨same, _⟩
        · rw [closed] at half
          cases half
        · rw [opens] at half
          cases half
        · rw [← same, half]
      · intro other member
        by_cases opens : (traffic.breaker.complete now ending).state = .opened
        · rw [if_pos opens] at member
          cases member
        · rwa [if_neg opens] at member

/-- At most one probe is in flight throughout a run exactly when no call joins a probe in flight. -/
theorem one_probe_iff (name : String) (threshold : Int) (cooldownS clock : Rat)
    (moments : List (Moment (Traffic C) (Section C))) (final : Traffic C)
    (run : Runs Traffic.Step (Traffic.start (CircuitBreaker.create name threshold cooldownS) clock) moments final) :
    (final.OneProbe ∧ ∀ moment ∈ moments, moment.state.OneProbe) ↔
      ∀ moment ∈ moments, ¬ moment.state.Crowds moment.label := by
  have quiet := run.keeps Traffic.QuietWhileOpen (fun _ _ _ step => step.quietWhileOpen) nofun
  have exact := @Runs.holds_throughout_iff _ _ _ _ _ _ run
    (fun traffic => traffic.QuietWhileOpen ∧ traffic.OneProbe) (fun traffic happening => ¬ traffic.Crowds happening)
    (fun _ _ _ step before => by
      rw [and_iff_right (step.quietWhileOpen before.1)]
      exact step.oneProbe_iff before.1 before.2)
    ⟨nofun, nofun⟩
  rw [← exact]
  constructor
  · intro ⟨last, inside⟩
    exact ⟨⟨quiet.1, last⟩, fun moment member => ⟨quiet.2 moment member, inside moment member⟩⟩
  · intro ⟨last, inside⟩
    exact ⟨last.2, fun moment member => (inside moment member).2⟩

/-- One failure opens this breaker for a minute. -/
def fragile : CircuitBreaker := CircuitBreaker.create "vault" 1 60

def fragileOpened : CircuitBreaker := { fragile with state := .opened, failureCount := 1 }

def fragileHalfOpen : CircuitBreaker := { fragileOpened with state := .halfOpen }

/-- The breaker has opened with the first call. -/
def afterTimeout : Traffic Nat where
  breaker := fragileOpened
  clock := 0
  invocation := Function.update (Function.update (Function.update (fun _ => .waiting) 0 (.running 0)) 0
    (.finished 0 .timeout)) 0 (.recorded .timeout)
  recent := []

def fragileOpening : List (Moment (Traffic Nat) (Section Nat)) := [
  ⟨Traffic.start fragile 0, .enter 0 0⟩,
  ⟨⟨fragile, 0, Function.update (fun _ => .waiting) 0 (.running 0), [0]⟩, .finish 0 .timeout⟩,
  ⟨⟨fragile, 0, Function.update (Function.update (fun _ => .waiting) 0 (.running 0)) 0 (.finished 0 .timeout), [0]⟩,
    .record 0 0⟩]

theorem runs_afterTimeout {moments : List (Moment (Traffic Nat) (Section Nat))} {final : Traffic Nat}
    (rest : Runs Traffic.Step afterTimeout moments final) :
    Runs Traffic.Step (Traffic.start fragile 0) (fragileOpening ++ moments) final :=
  .step (.enter 0 0) (.enter 0 0 rfl le_rfl rfl) (.step (.finish 0 .timeout) (.finish 0 0 .timeout rfl)
    (.step (.record 0 0) (.record 0 0 0 .timeout rfl le_rfl) rest))

theorem fragileOpened_enter : fragileOpened.enter 60 = .ok fragileHalfOpen := by
  have elapsed : ¬ 60 - fragileOpened.openedAt < fragileOpened.cooldownS := by
    show ¬ (60 - 0 : Rat) < 60
    linarith
  have isOpen : fragileOpened.state = .opened := rfl
  rw [CircuitBreaker.enter, if_pos isOpen, if_neg elapsed]
  rfl

/-- The cooldown is over, and a call is let through as the probe. -/
def probing : Traffic Nat := ⟨fragileHalfOpen, 60, Function.update afterTimeout.invocation 1 (.running 60), [1]⟩

theorem step_probing : afterTimeout.Step (.enter 1 60) probing := .enter 1 60 rfl (by decide) fragileOpened_enter

theorem one_probe_iff_probing :
    Runs Traffic.Step (Traffic.start fragile 0) (fragileOpening ++ [⟨afterTimeout, .enter 1 60⟩]) probing ∧
      (probing.OneProbe ∧ ∀ moment ∈ fragileOpening ++ [⟨afterTimeout, .enter 1 60⟩], moment.state.OneProbe) := by
  have run := runs_afterTimeout (.step _ step_probing .nil)
  refine ⟨run, (one_probe_iff "vault" 1 60 0 _ probing run).mpr ?_⟩
  intro moment member ⟨_, _, _, half, _⟩
  rcases List.mem_append.mp member with before | last
  · rcases List.mem_cons.mp before with rfl | before
    · cases half
    rcases List.mem_cons.mp before with rfl | before
    · cases half
    · obtain rfl := List.mem_singleton.mp before
      cases half
  · obtain rfl := List.mem_singleton.mp last
    cases half

/-- A second call is let through beside the probe. -/
theorem two_probes :
    ∃ (moments : List (Moment (Traffic Nat) (Section Nat))) (final : Traffic Nat),
      Runs Traffic.Step (Traffic.start fragile 0) moments final ∧ ¬ final.OneProbe := by
  have joins : probing.Step (.enter 2 60)
      ⟨fragileHalfOpen, 60, Function.update probing.invocation 2 (.running 60), [2, 1]⟩ :=
    .enter 2 60 rfl le_rfl rfl
  have run := runs_afterTimeout (.step _ step_probing (.step _ joins .nil))
  refine ⟨_, _, run, fun one => ?_⟩
  have same := one rfl 1 (by decide) 2 (by decide) ⟨60, rfl⟩ ⟨60, rfl⟩
  cases same

end Pxtly.Core
