/-
This file gives how an open breaker is left.
-/

import Pxtly.Core.Probes

namespace Pxtly.Core

open Foundation

variable {C : Type} [DecidableEq C] {traffic next : Traffic C} {happening : Section C}

/-- No wrapped call starts before the limit, and only a success of a call admitted from then on closes the breaker. -/
structure Traffic.LeavesFrom (limit : Rat) (traffic : Traffic C) (happening : Section C) (next : Traffic C) : Prop where
  starts : ∀ call, ¬ traffic.InFlight call → next.InFlight call → limit ≤ next.clock
  closes : traffic.breaker.state ≠ .closed → next.breaker.state = .closed →
    ∃ call now admitted, happening = .record call now ∧ traffic.invocation call = .finished admitted .success ∧
      limit ≤ admitted

/-- Once the breaker has opened, it is left through the cooldown only. -/
def KeepsCooldown (moments : List (Moment (Traffic C) (Section C))) : Prop :=
  ∀ earlier opened later, moments = earlier ++ opened :: later → opened.state.breaker.state = .opened →
    ∀ moment ∈ opened :: later, ∀ next, moment.state.Step moment.label next →
      moment.state.LeavesFrom (opened.state.breaker.openedAt + opened.state.breaker.cooldownS) moment.label next

/-- The success of a call admitted before the breaker last opened is recorded while the breaker is not closed. -/
def Traffic.SucceedsLate (traffic : Traffic C) (happening : Section C) : Prop :=
  ∃ call now admitted, happening = .record call now ∧ traffic.invocation call = .finished admitted .success ∧
    traffic.breaker.state ≠ .closed ∧ call ∉ traffic.recent

section Times

theorem admitted_update {invocation : C → Invocation} {call other : C} {stage : Invocation} {time : Rat}
    (admitted : (Function.update invocation call stage other).admitted = some time) :
    (other = call ∧ stage.admitted = some time) ∨ (other ≠ call ∧ (invocation other).admitted = some time) := by
  by_cases same : other = call
  · subst same
    rw [Function.update_self] at admitted
    exact .inl ⟨rfl, admitted⟩
  · rw [Function.update_of_ne same] at admitted
    exact .inr ⟨same, admitted⟩

/-- Openings and admissions lie in the past, and calls that are not recent were admitted before the last opening. -/
structure Traffic.Timed (traffic : Traffic C) : Prop where
  quiet : traffic.QuietWhileOpen
  opened : traffic.breaker.state ≠ .closed → traffic.breaker.openedAt ≤ traffic.clock
  admitted : ∀ call time, (traffic.invocation call).admitted = some time → time ≤ traffic.clock
  before : traffic.breaker.state ≠ .closed → ∀ call time, (traffic.invocation call).admitted = some time →
    call ∉ traffic.recent → time ≤ traffic.breaker.openedAt

theorem Traffic.Step.cooldownS (step : traffic.Step happening next) :
    next.breaker.cooldownS = traffic.breaker.cooldownS := by
  cases step with
  | enter call now waiting passed enters =>
      rcases CircuitBreaker.enter_cases enters with ⟨_, rfl⟩ | ⟨_, _, rfl⟩
      · rfl
      · rfl
  | reject call now waiting passed rejects => rfl
  | finish call admitted ending running => rfl
  | record call now admitted ending finished passed => exact traffic.breaker.complete_cooldownS now ending

/-- A call that is not admitted anew keeps the times of all calls. -/
theorem admitted_of_update {invocation : C → Invocation} {call other : C} {stage : Invocation} {time : Rat}
    (kept : ∀ time, stage.admitted = some time → (invocation call).admitted = some time)
    (admitted : (Function.update invocation call stage other).admitted = some time) :
    (invocation other).admitted = some time := by
  rcases admitted_update admitted with ⟨rfl, fresh⟩ | ⟨_, old⟩
  · exact kept time fresh
  · exact old

theorem Traffic.Step.timed (step : traffic.Step happening next) (timed : traffic.Timed) : next.Timed := by
  have quiet := step.quietWhileOpen timed.quiet
  cases step with
  | @enter next call now waiting passed enters =>
      have old : next.state ≠ .closed → traffic.breaker.state ≠ .closed ∧ next.openedAt = traffic.breaker.openedAt := by
        intro notClosed
        rcases CircuitBreaker.enter_cases enters with ⟨_, rfl⟩ | ⟨isOpen, _, rfl⟩
        · exact ⟨notClosed, rfl⟩
        · exact ⟨by rw [isOpen]; exact nofun, rfl⟩
      refine ⟨quiet, ?_, ?_, ?_⟩
      · intro notClosed
        obtain ⟨before, same⟩ := old notClosed
        rw [same]
        exact (timed.opened before).trans passed
      · intro other time admitted
        rcases admitted_update admitted with ⟨_, fresh⟩ | ⟨_, old⟩
        · exact (Option.some.inj fresh).ge
        · exact (timed.admitted other time old).trans passed
      · intro notClosed other time admitted absent
        obtain ⟨before, same⟩ := old notClosed
        obtain ⟨different, absent⟩ := List.ne_and_not_mem_of_not_mem_cons absent
        rcases admitted_update admitted with ⟨same, _⟩ | ⟨_, old⟩
        · exact absurd same different
        · rw [same]
          exact timed.before before other time old absent
  | reject call now waiting passed rejects =>
      refine ⟨quiet, fun notClosed => (timed.opened notClosed).trans passed, ?_, ?_⟩
      · intro other time admitted
        exact (timed.admitted other time (admitted_of_update (by nofun) admitted)).trans passed
      · intro notClosed other time admitted
        exact timed.before notClosed other time (admitted_of_update (by nofun) admitted)
  | finish call since ending running =>
      have kept : ∀ time, (Invocation.finished since ending).admitted = some time →
          (traffic.invocation call).admitted = some time := by
        rw [running]
        exact fun time same => same
      exact ⟨quiet, timed.opened,
        fun other time admitted => timed.admitted other time (admitted_of_update kept admitted),
        fun notClosed other time admitted => timed.before notClosed other time (admitted_of_update kept admitted)⟩
  | record call now since ending finished passed =>
      have past : ∀ other time,
          (Function.update traffic.invocation call (.recorded ending) other).admitted = some time → time ≤ now := by
        intro other time admitted
        exact (timed.admitted other time (admitted_of_update (by nofun) admitted)).trans passed
      rcases traffic.breaker.complete_cases now ending with ⟨_, closed⟩ | ⟨_, opensNow⟩ | ⟨same, opened⟩
      · exact ⟨quiet, fun notClosed => absurd closed notClosed, past, fun notClosed => absurd closed notClosed⟩
      · exact ⟨quiet, fun _ => opensNow.le, past,
          fun _ other time admitted _ => (past other time admitted).trans opensNow.ge⟩
      · refine ⟨quiet, ?_, past, ?_⟩
        · intro notClosed
          dsimp only at notClosed ⊢
          rw [same] at notClosed
          rw [opened]
          exact (timed.opened notClosed).trans passed
        · intro notClosed other time admitted absent
          dsimp only at notClosed absent ⊢
          rw [same] at notClosed absent
          rw [opened]
          refine timed.before notClosed other time (admitted_of_update (by nofun) admitted) fun recent => ?_
          by_cases isOpen : traffic.breaker.state = .opened
          · rw [timed.quiet isOpen] at recent
            cases recent
          · rw [if_neg isOpen] at absent
            exact absent recent

end Times

section Cooling

/-- After an opening, the breaker admits calls from the end of the cooldown on. -/
structure Traffic.Cooled (opening : Rat) (traffic : Traffic C) : Prop where
  past : opening ≤ traffic.clock
  opened : traffic.breaker.state = .opened → opening ≤ traffic.breaker.openedAt
  elapsed : traffic.breaker.state ≠ .opened → opening + traffic.breaker.cooldownS ≤ traffic.clock
  recent : ∀ call ∈ traffic.recent, ∀ time, (traffic.invocation call).admitted = some time →
    opening + traffic.breaker.cooldownS ≤ time

variable {opening : Rat}

/-- An early success is the only way to lose the cooldown. -/
theorem Traffic.Step.cooled (step : traffic.Step happening next) (timed : traffic.Timed)
    (cooled : traffic.Cooled opening) (prompt : ¬ traffic.SucceedsLate happening) : next.Cooled opening := by
  have cooldown := step.cooldownS
  cases step with
  | @enter next call now waiting passed enters =>
      have elapsed : opening + traffic.breaker.cooldownS ≤ now ∧ next.state ≠ .opened := by
        rcases CircuitBreaker.enter_cases enters with ⟨notOpen, rfl⟩ | ⟨isOpen, elapsed, rfl⟩
        · exact ⟨(cooled.elapsed notOpen).trans passed, notOpen⟩
        · have since := cooled.opened isOpen
          exact ⟨by linarith, nofun⟩
      refine ⟨cooled.past.trans passed, fun isOpen => absurd isOpen elapsed.2, ?_, ?_⟩
      · intro _
        dsimp only at cooldown ⊢
        rw [cooldown]
        exact elapsed.1
      · intro other member time admitted
        dsimp only at cooldown ⊢
        rw [cooldown]
        rcases admitted_update admitted with ⟨_, fresh⟩ | ⟨different, old⟩
        · rw [← Option.some.inj fresh]
          exact elapsed.1
        · rcases List.mem_cons.mp member with same | recent
          · exact absurd same different
          · exact cooled.recent other recent time old
  | reject call now waiting passed rejects =>
      have isOpen := CircuitBreaker.opened_of_reject rejects
      exact ⟨cooled.past.trans passed, cooled.opened, fun notOpen => absurd isOpen notOpen,
        fun other member time admitted => cooled.recent other member time (admitted_of_update (by nofun) admitted)⟩
  | finish call since ending running =>
      refine ⟨cooled.past, cooled.opened, cooled.elapsed, ?_⟩
      intro other member time admitted
      refine cooled.recent other member time (admitted_of_update ?_ admitted)
      rw [running]
      exact fun time same => same
  | record call now since ending finished passed =>
      have recent : ∀ other ∈ traffic.recent, ∀ time,
          (Function.update traffic.invocation call (.recorded ending) other).admitted = some time →
          opening + traffic.breaker.cooldownS ≤ time :=
        fun other member time admitted => cooled.recent other member time (admitted_of_update (by nofun) admitted)
      have kept : ∀ other ∈ (if (traffic.breaker.complete now ending).state = .opened then [] else traffic.recent),
          other ∈ traffic.recent := by
        intro other member
        split at member
        · cases member
        · exact member
      dsimp only at cooldown
      refine ⟨cooled.past.trans passed, ?_, ?_, ?_⟩
      · intro isOpen
        rcases traffic.breaker.complete_cases now ending with ⟨_, closed⟩ | ⟨_, opensNow⟩ | ⟨same, opened⟩
        · rw [closed] at isOpen
          cases isOpen
        · exact (cooled.past.trans passed).trans opensNow.ge
        · exact (cooled.opened (same.symm.trans isOpen)).trans opened.ge
      · intro notOpen
        dsimp only at notOpen ⊢
        rw [cooldown]
        refine (cooled.elapsed fun isOpen => ?_).trans passed
        rcases traffic.breaker.complete_cases now ending with ⟨rfl, _⟩ | ⟨opens, _⟩ | ⟨same, _⟩
        · -- The call succeeds while the breaker is open, which has admitted no call.
          refine prompt ⟨call, now, since, rfl, finished, by rw [isOpen]; exact nofun, ?_⟩
          rw [timed.quiet isOpen]
          exact List.not_mem_nil
        · exact notOpen opens
        · exact notOpen (same.trans isOpen)
      · intro other member time admitted
        dsimp only
        rw [cooldown]
        exact recent other (kept other member) time admitted

/-- A step from a state that respects the cooldown respects it, unless a success comes late. -/
theorem Traffic.Step.leavesFrom (step : traffic.Step happening next) (timed : traffic.Timed)
    (cooled : traffic.Cooled opening) (prompt : ¬ traffic.SucceedsLate happening) :
    traffic.LeavesFrom (opening + traffic.breaker.cooldownS) happening next := by
  have after := step.cooled timed cooled prompt
  have cooldown := step.cooldownS
  cases step with
  | @enter next call now waiting passed enters =>
      constructor
      · intro other grounded inFlight
        rw [← cooldown]
        apply after.elapsed
        rcases CircuitBreaker.enter_cases enters with ⟨notOpen, rfl⟩ | ⟨_, _, rfl⟩
        · exact notOpen
        · exact nofun
      · intro notClosed closed
        rcases CircuitBreaker.enter_cases enters with ⟨_, rfl⟩ | ⟨_, _, rfl⟩
        · exact absurd closed notClosed
        · cases closed
  | reject call now waiting passed rejects =>
      exact ⟨fun other grounded inFlight => absurd (inFlight_of_update (by nofun) inFlight) grounded,
        fun notClosed closed => absurd closed notClosed⟩
  | finish call since ending running =>
      exact ⟨fun other grounded inFlight => absurd (inFlight_of_update (by nofun) inFlight) grounded,
        fun notClosed closed => absurd closed notClosed⟩
  | record call now since ending finished passed =>
      refine ⟨fun other grounded inFlight => absurd (inFlight_of_update (by nofun) inFlight) grounded, ?_⟩
      intro notClosed closed
      rcases traffic.breaker.complete_cases now ending with ⟨rfl, _⟩ | ⟨opens, _⟩ | ⟨same, _⟩
      · have recent : call ∈ traffic.recent := by
          by_contra absent
          exact prompt ⟨call, now, since, rfl, finished, notClosed, absent⟩
        have admitted : (traffic.invocation call).admitted = some since := by
          rw [finished]
          rfl
        exact ⟨call, now, since, rfl, finished, cooled.recent call recent since admitted⟩
      · rw [opens] at closed
        cases closed
      · exact absurd (same.symm.trans closed) notClosed

omit [DecidableEq C] in
theorem Traffic.Timed.cooled (timed : traffic.Timed) (isOpen : traffic.breaker.state = .opened) :
    traffic.Cooled traffic.breaker.openedAt where
  past := timed.opened (by rw [isOpen]; exact nofun)
  opened _ := le_rfl
  elapsed notOpen := absurd isOpen notOpen
  recent call member := by
    rw [timed.quiet isOpen] at member
    cases member

omit [DecidableEq C] in
theorem timed_start (name : String) (threshold : Int) (cooldownS clock : Rat) :
    (Traffic.start (CircuitBreaker.create name threshold cooldownS) clock : Traffic C).Timed :=
  ⟨nofun, fun notClosed => absurd rfl notClosed, fun _ _ => nofun, fun notClosed => absurd rfl notClosed⟩

variable {moments : List (Moment (Traffic C) (Section C))} {final : Traffic C}

/-- A half-open breaker was open at an earlier moment. -/
def WasOpen (past : List (Moment (Traffic C) (Section C))) (traffic : Traffic C) : Prop :=
  traffic.breaker.state = .halfOpen → ∃ opened ∈ past, opened.state.breaker.state = .opened ∧
    opened.state.breaker.openedAt = traffic.breaker.openedAt

theorem Traffic.Step.wasOpen (step : traffic.Step happening next) {past : List (Moment (Traffic C) (Section C))}
    (before : WasOpen past traffic) : WasOpen (past ++ [⟨traffic, happening⟩]) next := by
  intro half
  have kept : traffic.breaker.state = .halfOpen → next.breaker.openedAt = traffic.breaker.openedAt →
      ∃ opened ∈ past ++ [⟨traffic, happening⟩], opened.state.breaker.state = .opened ∧
        opened.state.breaker.openedAt = next.breaker.openedAt := by
    intro half same
    obtain ⟨opened, member, isOpen, since⟩ := before half
    exact ⟨opened, List.mem_append_left _ member, isOpen, since.trans same.symm⟩
  cases step with
  | enter call now waiting passed enters =>
      rcases CircuitBreaker.enter_cases enters with ⟨_, rfl⟩ | ⟨isOpen, _, rfl⟩
      · exact kept half rfl
      · exact ⟨⟨traffic, _⟩, List.mem_append_right _ List.mem_cons_self, isOpen, rfl⟩
  | reject call now waiting passed rejects => exact kept half rfl
  | finish call admitted ending running => exact kept half rfl
  | record call now admitted ending finished passed =>
      rcases traffic.breaker.complete_cases now ending with ⟨_, closed⟩ | ⟨opens, _⟩ | ⟨same, opened⟩
      · rw [closed] at half
        cases half
      · rw [opens] at half
        cases half
      · exact kept (same.symm.trans half) opened

omit [DecidableEq C] in
/-- The opening of a breaker that is not closed lies at this moment or before it. -/
theorem exists_opening {earlier later : List (Moment (Traffic C) (Section C))} {moment : Moment (Traffic C) (Section C)}
    (wasOpen : WasOpen earlier moment.state) (notClosed : moment.state.breaker.state ≠ .closed) :
    ∃ front opened back, earlier ++ moment :: later = front ++ opened :: back ∧ moment ∈ opened :: back ∧
      opened.state.breaker.state = .opened ∧ opened.state.breaker.openedAt = moment.state.breaker.openedAt := by
  cases state : moment.state.breaker.state with
  | closed => exact absurd state notClosed
  | opened => exact ⟨earlier, moment, later, rfl, List.mem_cons_self, state, rfl⟩
  | halfOpen =>
      obtain ⟨opened, before, isOpen, same⟩ := wasOpen state
      obtain ⟨front, back, rfl⟩ := List.append_of_mem before
      exact ⟨front, opened, back ++ moment :: later, by simp, by simp, isOpen, same⟩

theorem Traffic.Step.closed_of_success {call : C} {now since : Rat} (step : traffic.Step (.record call now) next)
    (finished : traffic.invocation call = .finished since .success) : next.breaker.state = .closed := by
  cases step with
  | record call now admitted ending ended passed =>
      rw [finished] at ended
      cases ended
      exact traffic.breaker.recordSuccess_state

end Cooling

/-- A run without late successes leaves each opening through the cooldown, and a late success never does. -/
theorem cooldown_kept (name : String) (threshold : Int) (cooldownS clock : Rat)
    (moments : List (Moment (Traffic C) (Section C))) (final : Traffic C)
    (run : Runs Traffic.Step (Traffic.start (CircuitBreaker.create name threshold cooldownS) clock) moments final) :
    ((∀ moment ∈ moments, ¬ moment.state.SucceedsLate moment.label) → KeepsCooldown moments) ∧
      (0 < cooldownS → KeepsCooldown moments → ∀ moment ∈ moments, ¬ moment.state.SucceedsLate moment.label) := by
  have timed := (run.keeps Traffic.Timed (fun _ _ _ step => step.timed) (timed_start name threshold cooldownS clock)).2
  constructor
  · intro prompt earlier opened later same isOpen moment member next step
    obtain ⟨timely, cooled, cooldown⟩ := run.keeps_from (fun state => state.breaker.state = .opened)
      (fun since state => state.Timed ∧ state.Cooled since.breaker.openedAt ∧
        state.breaker.cooldownS = since.breaker.cooldownS)
      (fun moment member isOpen => ⟨timed moment member, (timed moment member).cooled isOpen, rfl⟩)
      (fun moment member next step since held => ⟨step.timed held.1, step.cooled held.1 held.2.1 (prompt moment member),
        step.cooldownS.trans held.2.2⟩)
      earlier opened later same isOpen moment member
    rw [← cooldown]
    exact step.leavesFrom timely cooled (prompt moment (by rw [same]; exact List.mem_append_right _ member))
  · intro positive kept moment member late
    obtain ⟨call, now, since, label, finished, notClosed, absent⟩ := late
    obtain ⟨earlier, later, rfl⟩ := List.append_of_mem member
    obtain ⟨next, _, step, _⟩ := run.split
    have cooldowns := (run.keeps (fun state => state.breaker.cooldownS = cooldownS)
      (fun _ _ _ step held => step.cooldownS.trans held) rfl).2
    have wasOpen : WasOpen earlier moment.state :=
      (run.keeps_past WasOpen (fun _ _ _ _ step held => step.wasOpen held) [] nofun).2 earlier moment later rfl
    obtain ⟨front, opened, back, same, behind, isOpen, openedAt⟩ := exists_opening wasOpen notClosed
    have leaves := kept front opened back same isOpen moment behind next step
    rw [label] at step
    obtain ⟨other, later, time, recorded, ended, cooled⟩ := leaves.closes notClosed (step.closed_of_success finished)
    rw [label] at recorded
    cases recorded
    rw [finished] at ended
    cases ended
    have old := (timed moment member).before notClosed call since (by rw [finished]; rfl) absent
    have cooldown := cooldowns opened (by rw [same]; exact List.mem_append_right _ List.mem_cons_self)
    linarith

theorem cooldown_kept_probing :
    Runs Traffic.Step (Traffic.start fragile 0) (fragileOpening ++ [⟨afterTimeout, .enter 1 60⟩]) probing ∧
      KeepsCooldown (fragileOpening ++ [⟨afterTimeout, .enter 1 60⟩]) := by
  have run := runs_afterTimeout (.step _ step_probing .nil)
  refine ⟨run, (cooldown_kept "vault" 1 60 0 _ probing run).1 ?_⟩
  intro moment member ⟨call, now, admitted, label, finished, _⟩
  rcases List.mem_append.mp member with before | last
  · rcases List.mem_cons.mp before with rfl | before
    · cases label
    rcases List.mem_cons.mp before with rfl | before
    · cases label
    · obtain rfl := List.mem_singleton.mp before
      cases label
      cases finished
  · obtain rfl := List.mem_singleton.mp last
    cases label

section Overlap

/-- The second call was admitted beside the first one, which has opened the breaker. -/
def overlapping : Traffic Nat where
  breaker := fragileOpened
  clock := 0
  invocation := Function.update (Function.update (Function.update (Function.update (fun _ => .waiting) 0 (.running 0)) 1
    (.running 0)) 0 (.finished 0 .timeout)) 0 (.recorded .timeout)
  recent := []

theorem runs_overlapping {moments : List (Moment (Traffic Nat) (Section Nat))} {final : Traffic Nat}
    (rest : Runs Traffic.Step overlapping moments final) :
    ∃ earlier, Runs Traffic.Step (Traffic.start fragile 0) (earlier ++ moments) final :=
  ⟨[_, _, _, _], .step (.enter 0 0) (.enter 0 0 rfl le_rfl rfl) (.step (.enter 1 0) (.enter 1 0 rfl le_rfl rfl)
    (.step (.finish 0 .timeout) (.finish 0 0 .timeout rfl)
      (.step (.record 0 0) (.record 0 0 0 .timeout rfl le_rfl) rest)))⟩

/-- The second call has succeeded. -/
def succeeded : Traffic Nat :=
  { overlapping with invocation := Function.update overlapping.invocation 1 (.finished 0 .success) }

def closedEarly : Traffic Nat where
  breaker := fragile
  clock := 0
  invocation := Function.update succeeded.invocation 1 (.recorded .success)
  recent := []

/-- The late success closes the breaker at the moment it opened. -/
theorem closed_by_late_success :
    ∃ (moments : List (Moment (Traffic Nat) (Section Nat))) (final : Traffic Nat),
      Runs Traffic.Step (Traffic.start fragile 0) moments final ∧ ¬ KeepsCooldown moments := by
  have succeeds : overlapping.Step (.finish 1 .success) succeeded := .finish 1 0 .success rfl
  have closes : succeeded.Step (.record 1 0) closedEarly := .record 1 0 0 .success rfl le_rfl
  obtain ⟨earlier, run⟩ := runs_overlapping (.step _ succeeds (.step _ closes .nil))
  refine ⟨_, closedEarly, run, fun kept => ?_⟩
  have leaves := kept (earlier ++ [⟨overlapping, .finish 1 .success⟩]) ⟨succeeded, .record 1 0⟩ [] (by simp) rfl
    _ List.mem_cons_self closedEarly closes
  obtain ⟨call, now, admitted, label, finished, cooled⟩ := leaves.closes nofun rfl
  cases label
  cases finished
  have positive : ¬ (0 + 60 : Rat) ≤ 0 := by linarith
  exact positive cooled

end Overlap

end Pxtly.Core
