/-
This file gives calls that run one at a time under a lock, while their world moves between their operations.
-/

import Mathlib.Logic.Relation
import Pxtly.Foundation.Program
import Pxtly.Foundation.Runs

namespace Pxtly.Foundation

/-- A call starts, asks the world, and finishes. -/
inductive LockEvent (S : Signature) (F A : Type) where
  | begin
  | ask (event : Program.Event S)
  | finish (outcome : Except F A)

/-- The calls share a memory, which only a finished call replaces. -/
structure Locked (S : Signature) (F A M W : Type) where
  program : M → Program S F (A × M)
  answer : (operation : S.Operation) → W → S.Answer operation
  Moves : W → W → Prop

structure LockState (S : Signature) (F A M W : Type) where
  world : W
  memory : M
  running : Option (Program S F (A × M))

namespace Locked

variable {S : Signature} {F A B M W : Type} (locked : Locked S F A M W)

/-- The moves of the world have no label. -/
inductive Step : LockState S F A M W → Option (LockEvent S F A) → LockState S F A M W → Prop
  | begin (world : W) (memory : M) :
      Step ⟨world, memory, none⟩ (some .begin) ⟨world, memory, some (locked.program memory)⟩
  | ask (world : W) (memory : M) (operation : S.Operation) (next : S.Answer operation → Program S F (A × M)) :
      Step ⟨world, memory, some (.perform operation next)⟩ (some (.ask ⟨operation, locked.answer operation world⟩))
        ⟨world, memory, some (next (locked.answer operation world))⟩
  | finish (world : W) (memory : M) (value : A) (later : M) :
      Step ⟨world, memory, some (.done (value, later))⟩ (some (.finish (.ok value))) ⟨world, later, none⟩
  | fail (world : W) (memory : M) (fault : F) :
      Step ⟨world, memory, some (.raise fault)⟩ (some (.finish (.error fault))) ⟨world, memory, none⟩
  | move (memory : M) (running : Option (Program S F (A × M))) {world later : W} (moves : locked.Moves world later) :
      Step ⟨world, memory, running⟩ none ⟨later, memory, running⟩

/-- The record leaves the moves out. -/
def record (moments : List (Moment (LockState S F A M W) (Option (LockEvent S F A)))) : List (LockEvent S F A) :=
  moments.filterMap Moment.label

section Ensures

/-- Whatever moves the world between its operations, a program ends in the goal. -/
def Ensures (goal : List (LockEvent S F A) → W → Except F B → Prop) :
    Program S F B → List (LockEvent S F A) → W → Prop
  | .done value, past, world => goal past world (.ok value)
  | .raise fault, past, world => goal past world (.error fault)
  | .perform operation next, past, world =>
      ∀ later, Relation.ReflTransGen locked.Moves world later →
        Ensures goal (next (locked.answer operation later))
          (past ++ [.ask ⟨operation, locked.answer operation later⟩]) later

/-- A goal is stable when no move of the world destroys it. -/
def Stable (goal : List (LockEvent S F A) → W → Except F B → Prop) : Prop :=
  ∀ past world later outcome, locked.Moves world later → goal past world outcome → goal past later outcome

variable {locked} {goal : List (LockEvent S F A) → W → Except F B → Prop} {past : List (LockEvent S F A)} {world : W}

theorem Ensures.move {program : Program S F B} (stable : locked.Stable goal) {later : W}
    (moves : locked.Moves world later) (ensured : locked.Ensures goal program past world) :
    locked.Ensures goal program past later := by
  cases program with
  | done value => exact stable past world later _ moves ensured
  | raise fault => exact stable past world later _ moves ensured
  | perform operation next => exact fun last drifted => ensured last (.head moves drifted)

/-- A program with a continuation ensures the goal when it ensures that the continuation does. -/
theorem ensures_bind (program : Program S F B) {C : Type} (next : B → Program S F C)
    (goal : List (LockEvent S F A) → W → Except F C → Prop) (past : List (LockEvent S F A)) (world : W) :
    locked.Ensures goal (program >>= next) past world ↔
      locked.Ensures (fun past world outcome => match outcome with
        | .ok value => locked.Ensures goal (next value) past world
        | .error fault => goal past world (.error fault)) program past world := by
  change locked.Ensures goal (program.bind next) past world ↔ _
  induction program generalizing past world with
  | done value => exact Iff.rfl
  | raise fault => exact Iff.rfl
  | perform operation rest inductionHypothesis =>
      exact forall₂_congr fun later _ => inductionHypothesis _ _ later

end Ensures

section Rule

/-- A call that ends keeps the invariant, and what it returns is good. -/
def Meets (invariant : List (LockEvent S F A) → W → M → Prop) (good : List (LockEvent S F A) → A → Prop) (memory : M)
    (past : List (LockEvent S F A)) (world : W) : Except F (A × M) → Prop
  | .ok (value, later) => good past value ∧ invariant (past ++ [.finish (.ok value)]) world later
  | .error fault => invariant (past ++ [.finish (.error fault)]) world memory

/-- Between two calls the invariant holds, and during a call the rest of its program ensures it. -/
def Holds (invariant : List (LockEvent S F A) → W → M → Prop) (good : List (LockEvent S F A) → A → Prop)
    (past : List (LockEvent S F A)) (state : LockState S F A M W) : Prop :=
  match state.running with
  | none => invariant past state.world state.memory
  | some program => locked.Ensures (Meets invariant good state.memory) program past state.world

/-- No move of the world destroys the invariant, and each call that finds it ensures it again. -/
structure Respects (invariant : List (LockEvent S F A) → W → M → Prop) (good : List (LockEvent S F A) → A → Prop) :
    Prop where
  stable : ∀ past world later memory, locked.Moves world later → invariant past world memory →
    invariant past later memory
  ensures : ∀ past world memory, invariant past world memory →
    locked.Ensures (Meets invariant good memory) (locked.program memory) (past ++ [.begin]) world

variable {locked} {invariant : List (LockEvent S F A) → W → M → Prop} {good : List (LockEvent S F A) → A → Prop}

theorem Respects.stable_meets (respects : locked.Respects invariant good) (memory : M) :
    locked.Stable (Meets invariant good memory) := by
  intro past world later outcome moves met
  cases outcome with
  | ok result => exact ⟨met.1, respects.stable _ _ _ _ moves met.2⟩
  | error fault => exact respects.stable _ _ _ _ moves met

/-- One step keeps what holds. -/
theorem Step.holds (respects : locked.Respects invariant good) {state next : LockState S F A M W}
    {label : Option (LockEvent S F A)} (step : locked.Step state label next) {past : List (LockEvent S F A)} (held : locked.Holds invariant good past state) :
    locked.Holds invariant good (past ++ label.toList) next := by
  cases step with
  | begin world memory => exact respects.ensures past world memory held
  | ask world memory operation next => exact held world .refl
  | finish world memory value later => exact held.2
  | fail world memory fault => exact held
  | move memory running moves =>
      rw [Option.toList_none, List.append_nil]
      cases running with
      | none => exact respects.stable _ _ _ _ moves held
      | some program => exact Ensures.move (respects.stable_meets memory) moves held

variable {start final : LockState S F A M W}
  {moments : List (Moment (LockState S F A M W) (Option (LockEvent S F A)))}

theorem filterMap_concat (labels : List (Option (LockEvent S F A))) (label : Option (LockEvent S F A)) :
    (labels ++ [label]).filterMap id = labels.filterMap id ++ label.toList := by
  cases label <;> simp

/-- What holds at the start of a run holds at each of its moments. -/
theorem holds_of_run (respects : locked.Respects invariant good)
    (run : Runs locked.Step start moments final) {past : List (LockEvent S F A)}
    (initial : locked.Holds invariant good past start) :
    locked.Holds invariant good (past ++ record moments) final ∧
      ∀ earlier moment later, moments = earlier ++ moment :: later →
        locked.Holds invariant good (past ++ record earlier) moment.state := by
  have kept := run.keeps_history (fun labels => locked.Holds invariant good (past ++ labels.filterMap id))
    (fun labels state label next step held => by
      rw [filterMap_concat, ← List.append_assoc]
      exact step.holds respects held) [] (by simpa using initial)
  simpa only [record, List.nil_append, List.filterMap_map, Function.id_comp] using kept

/-- In a run that keeps the invariant, each call returns something good. -/
theorem good_of_run (respects : locked.Respects invariant good)
    (run : Runs locked.Step start moments final) (initial : locked.Holds invariant good [] start)
    {earlier later : List (Moment (LockState S F A M W) (Option (LockEvent S F A)))} {state : LockState S F A M W}
    {value : A} (split : moments = earlier ++ ⟨state, some (.finish (.ok value))⟩ :: later) :
    good (record earlier) value := by
  have held := (holds_of_run respects run initial).2 _ _ _ split
  obtain ⟨next, step⟩ := run.taken ⟨state, some (.finish (.ok value))⟩ (by simp [split])
  cases step with
  | finish => exact held.1

end Rule

section Quiet

/-- In a world that does not move, a program has one outcome. -/
def settle (program : Program S F B) (world : W) : Except F B :=
  (program.evaluate (fun operation (state : Unit) => (locked.answer operation world, state)) ()).1

variable {locked} {start final : LockState S F A M W} {program : Program S F (A × M)} {world : W} {memory : M}
  {moments : List (Moment (LockState S F A M W) (Option (LockEvent S F A)))}

/-- Without a move the world stays. -/
theorem world_of_quiet (run : Runs locked.Step start moments final)
    (quiet : ∀ moment ∈ moments, moment.label ≠ none) :
    final.world = start.world ∧ ∀ moment ∈ moments, moment.state.world = start.world := by
  apply run.keeps (fun state => state.world = start.world) _ rfl
  intro ⟨state, label⟩ member next step same
  cases step with
  | move memory running moves => exact absurd rfl (quiet _ member)
  | begin world memory => exact same
  | ask world memory operation next => exact same
  | finish world memory value later => exact same
  | fail world memory fault => exact same

/-- A run that starts with the end of a call has no earlier end. -/
theorem outcome_of_head {state other : LockState S F A M W} {outcome last : Except F A}
    {rest earlier later : List (Moment (LockState S F A M W) (Option (LockEvent S F A)))}
    (split : ⟨other, some (.finish last)⟩ :: rest = earlier ++ ⟨state, some (.finish outcome)⟩ :: later)
    (first : ∀ moment ∈ earlier, ∀ outcome, moment.label ≠ some (.finish outcome)) : outcome = last := by
  cases earlier with
  | nil =>
      obtain ⟨same, _⟩ := List.cons.inj split
      cases same
      rfl
  | cons moment others =>
      obtain ⟨rfl, _⟩ := List.cons.inj split
      exact absurd rfl (first _ List.mem_cons_self _)

/-- Without a move a running call finishes with its one outcome. -/
theorem finish_of_quiet (run : Runs locked.Step ⟨world, memory, some program⟩ moments final)
    (quiet : ∀ moment ∈ moments, moment.label ≠ none)
    {earlier later : List (Moment (LockState S F A M W) (Option (LockEvent S F A)))} {state : LockState S F A M W}
    {outcome : Except F A} (split : moments = earlier ++ ⟨state, some (.finish outcome)⟩ :: later)
    (first : ∀ moment ∈ earlier, ∀ outcome, moment.label ≠ some (.finish outcome)) :
    outcome = (locked.settle program world).map Prod.fst := by
  induction program generalizing moments earlier with
  | done result =>
      cases run with
      | nil => simp at split
      | step label taken rest =>
          cases taken with
          | move memory running moves => exact absurd rfl (quiet _ List.mem_cons_self)
          | finish world memory value later => exact outcome_of_head split first
  | raise fault =>
      cases run with
      | nil => simp at split
      | step label taken rest =>
          cases taken with
          | move memory running moves => exact absurd rfl (quiet _ List.mem_cons_self)
          | fail world memory fault => exact outcome_of_head split first
  | perform operation next inductionHypothesis =>
      cases run with
      | nil => simp at split
      | step label taken rest =>
          cases taken with
          | move memory running moves => exact absurd rfl (quiet _ List.mem_cons_self)
          | ask world memory operation next =>
              cases earlier with
              | nil =>
                  obtain ⟨same, _⟩ := List.cons.inj split
                  cases same
              | cons moment others =>
                  obtain ⟨rfl, behind⟩ := List.cons.inj split
                  exact inductionHypothesis _ rest (fun moment member => quiet moment (.tail _ member)) behind
                    fun moment member => first moment (.tail _ member)

/-- A running call can always finish. -/
theorem exists_finish (program : Program S F (A × M)) (world : W) (memory : M) :
    ∃ moments later, Runs locked.Step ⟨world, memory, some program⟩ moments ⟨world, later, none⟩ ∧
      ∃ events, moments.map Moment.label = List.map (fun event => some (.ask event)) events ++
        [some (.finish ((locked.settle program world).map Prod.fst))] := by
  induction program with
  | done result =>
      obtain ⟨value, later⟩ := result
      exact ⟨_, later, .step _ (.finish world memory value later) .nil, [], rfl⟩
  | raise fault => exact ⟨_, memory, .step _ (.fail world memory fault) .nil, [], rfl⟩
  | perform operation next inductionHypothesis =>
      obtain ⟨moments, later, run, events, labels⟩ := inductionHypothesis (locked.answer operation world)
      refine ⟨_, later, .step _ (.ask world memory operation next) run,
        ⟨operation, locked.answer operation world⟩ :: events, ?_⟩
      rw [List.map_cons, labels]
      rfl

end Quiet

end Locked

end Pxtly.Foundation
