/-
This file gives runs of a transition system and the rules for what they keep.
-/

import Mathlib.Data.List.Basic

namespace Pxtly.Foundation

/-- A moment of a run is a state with the label of the step that leaves it. -/
structure Moment (S L : Type) where
  state : S
  label : L

variable {S L : Type}

inductive Runs (step : S → L → S → Prop) : S → List (Moment S L) → S → Prop where
  | nil {state : S} : Runs step state [] state
  | step {state next final : S} {moments : List (Moment S L)} (label : L) (taken : step state label next)
      (rest : Runs step next moments final) : Runs step state (⟨state, label⟩ :: moments) final

namespace Runs

variable {step : S → L → S → Prop} {start final : S} {moments : List (Moment S L)}

/-- What each step of a run keeps holds at each of its moments and at its end. -/
theorem keeps (run : Runs step start moments final) (invariant : S → Prop)
    (kept : ∀ moment ∈ moments, ∀ next, step moment.state moment.label next → invariant moment.state → invariant next)
    (initial : invariant start) : invariant final ∧ ∀ moment ∈ moments, invariant moment.state := by
  induction run with
  | nil => exact ⟨initial, nofun⟩
  | step label taken rest inductionHypothesis =>
      have next := kept _ List.mem_cons_self _ taken initial
      obtain ⟨last, inside⟩ := inductionHypothesis (fun moment member => kept moment (.tail _ member)) next
      exact ⟨last, List.forall_mem_cons.mpr ⟨initial, inside⟩⟩

/-- An invariant may also depend on the moments before. -/
theorem keeps_past (run : Runs step start moments final) (invariant : List (Moment S L) → S → Prop)
    (kept : ∀ past state label next, step state label next → invariant past state →
      invariant (past ++ [⟨state, label⟩]) next) (past : List (Moment S L)) (initial : invariant past start) :
    invariant (past ++ moments) final ∧
      ∀ earlier moment later, moments = earlier ++ moment :: later → invariant (past ++ earlier) moment.state := by
  induction run generalizing past with
  | nil =>
      refine ⟨by simpa using initial, fun earlier moment later same => ?_⟩
      simp at same
  | step label taken rest inductionHypothesis =>
      obtain ⟨last, inside⟩ := inductionHypothesis _ (kept past _ label _ taken initial)
      refine ⟨by simpa using last, fun earlier moment later same => ?_⟩
      cases earlier with
      | nil =>
          obtain ⟨rfl, _⟩ := List.cons.inj same
          simpa using initial
      | cons first others =>
          obtain ⟨rfl, behind⟩ := List.cons.inj same
          simpa using inside others moment later behind

/-- An invariant may depend on the labels that were taken before. -/
theorem keeps_history (run : Runs step start moments final) (invariant : List L → S → Prop)
    (kept : ∀ labels state label next, step state label next → invariant labels state →
      invariant (labels ++ [label]) next) (past : List L) (initial : invariant past start) :
    invariant (past ++ moments.map Moment.label) final ∧
      ∀ earlier moment later, moments = earlier ++ moment :: later →
        invariant (past ++ earlier.map Moment.label) moment.state := by
  refine run.keeps_past (fun before state => invariant (past ++ before.map Moment.label) state) ?_ []
    (by simpa using initial)
  intro before state label next taken held
  rw [List.map_append, ← List.append_assoc]
  exact kept _ _ _ _ taken held

/-- A property that each step keeps exactly under a condition holds throughout a run exactly when all steps meet it. -/
theorem holds_throughout_iff (run : Runs step start moments final) {property : S → Prop} {condition : S → L → Prop}
    (exact : ∀ state label next, step state label next → property state → (property next ↔ condition state label))
    (initial : property start) :
    (property final ∧ ∀ moment ∈ moments, property moment.state) ↔
      ∀ moment ∈ moments, condition moment.state moment.label := by
  induction run with
  | nil => exact iff_of_true ⟨initial, nofun⟩ nofun
  | @step state next last others label taken rest inductionHypothesis =>
      have first := exact _ _ _ taken initial
      simp only [List.forall_mem_cons]
      constructor
      · intro ⟨ended, _, inside⟩
        have reached : property next := by
          cases rest with
          | nil => exact ended
          | step later taken rest => exact inside _ List.mem_cons_self
        exact ⟨first.mp reached, (inductionHypothesis reached).mp ⟨ended, inside⟩⟩
      · intro ⟨met, inside⟩
        obtain ⟨ended, others⟩ := (inductionHypothesis (first.mpr met)).mpr inside
        exact ⟨ended, initial, others⟩

theorem taken (run : Runs step start moments final) :
    ∀ moment ∈ moments, ∃ next, step moment.state moment.label next := by
  induction run with
  | nil => exact nofun
  | step label taken rest inductionHypothesis => exact List.forall_mem_cons.mpr ⟨⟨_, taken⟩, inductionHypothesis⟩

/-- A run starts in the state of its first moment, or it is over. -/
theorem head_eq (run : Runs step start moments final) : (moments.head?.map Moment.state).getD final = start := by
  cases run with
  | nil => rfl
  | step label taken rest => rfl

/-- A run goes on where another one ends. -/
theorem append {middle : S} {later : List (Moment S L)} (run : Runs step start moments middle)
    (rest : Runs step middle later final) : Runs step start (moments ++ later) final := by
  induction run with
  | nil => exact rest
  | step label taken _ inductionHypothesis => exact .step label taken (inductionHypothesis rest)

/-- A run whose steps all meet a condition is one of the steps under this condition. -/
theorem restrict {condition : S → L → Prop} (run : Runs step start moments final)
    (met : ∀ moment ∈ moments, condition moment.state moment.label) :
    Runs (fun state label next => step state label next ∧ condition state label) start moments final := by
  induction run with
  | nil => exact .nil
  | step label taken rest inductionHypothesis =>
      exact .step label ⟨taken, met _ List.mem_cons_self⟩
        (inductionHypothesis fun moment member => met moment (.tail _ member))

/-- A run is cut at one of its moments. -/
theorem split {earlier later : List (Moment S L)} {moment : Moment S L}
    (run : Runs step start (earlier ++ moment :: later) final) :
    ∃ next, Runs step start earlier moment.state ∧ step moment.state moment.label next ∧
      Runs step next later final := by
  induction earlier generalizing start with
  | nil =>
      cases run with
      | step label taken rest => exact ⟨_, .nil, taken, rest⟩
  | cons first earlier inductionHypothesis =>
      cases run with
      | step label taken rest =>
          obtain ⟨next, before, met, after⟩ := inductionHypothesis rest
          exact ⟨next, .step label taken before, met, after⟩

/-- What begins at a moment and is kept by the steps of the run holds from this moment on. -/
theorem keeps_from (run : Runs step start moments final) (trigger : S → Prop) (held : S → S → Prop)
    (begins : ∀ moment ∈ moments, trigger moment.state → held moment.state moment.state)
    (kept : ∀ moment ∈ moments, ∀ next, step moment.state moment.label next →
      ∀ since, held since moment.state → held since next) :
    ∀ earlier since later, moments = earlier ++ since :: later → trigger since.state →
      ∀ moment ∈ since :: later, held since.state moment.state := by
  intro earlier since later same triggered
  subst same
  obtain ⟨next, _, taken, rest⟩ := run.split
  have member := List.mem_append_right earlier (List.mem_cons_self (a := since) (l := later))
  have began := begins since member triggered
  have inside := (rest.keeps (held since.state)
    (fun moment behind next step => kept moment (List.mem_append_right _ (.tail _ behind)) next step since.state)
    (kept since member next taken since.state began)).2
  exact List.forall_mem_cons.mpr ⟨began, inside⟩

section Simulation

variable {T K N : Type} {simulating : T → K → T → Prop} {relates : List L → S → T → Prop} {caller : L → N} {named : K → N}

/-- Two systems run alike where each step of the first one is matched by steps of the second one, which may depend on the
labels that are still to come. -/
theorem simulated (run : Runs step start moments final)
    (matched : ∀ label labels state next upper, step state label next → relates (label :: labels) state upper →
      ∃ others later, Runs simulating upper others later ∧ relates labels next later ∧
        (others.map fun moment => named moment.label).Sublist [caller label])
    {upper : T} (initial : relates (moments.map Moment.label) start upper) :
    ∃ others last, Runs simulating upper others last ∧ relates [] final last ∧
      (others.map fun moment => named moment.label).Sublist (moments.map fun moment => caller moment.label) := by
  induction run generalizing upper with
  | nil => exact ⟨[], upper, .nil, initial, List.Sublist.refl _⟩
  | @step state next final moments label taken rest inductionHypothesis =>
      obtain ⟨front, middle, first, related, called⟩ := matched label _ _ _ _ taken initial
      obtain ⟨back, last, second, ended, others⟩ := inductionHypothesis related
      refine ⟨front ++ back, last, first.append second, ended, ?_⟩
      rw [List.map_append]
      exact called.append others

end Simulation

end Runs

end Pxtly.Foundation
