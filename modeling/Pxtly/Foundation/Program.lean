/-
This file gives programs that perform operations of an environment and may raise faults.
-/

import Mathlib.Data.List.Basic
import Mathlib.Data.String.Basic
import Mathlib.Tactic.Common
import Mathlib.Tactic.Ring

namespace Pxtly.Foundation

/-- A signature lists the operations of a program and the type of each answer. -/
structure Signature where
  Operation : Type
  Answer : Operation → Type

/-- A program ends with a value or a fault, or goes on with the answer to an operation. -/
inductive Program (S : Signature) (F A : Type) where
  | done (value : A)
  | raise (fault : F)
  | perform (operation : S.Operation) (next : S.Answer operation → Program S F A)

namespace Program

variable {S : Signature} {F A B : Type}

protected def bind : Program S F A → (A → Program S F B) → Program S F B
  | done value, next => next value
  | raise fault, _ => raise fault
  | perform operation rest, next => perform operation fun answer => (rest answer).bind next

instance : Monad (Program S F) where
  pure := done
  bind := Program.bind

/-- This is `try … except`: the handler continues from the fault. -/
def handle : Program S F A → (F → Program S F A) → Program S F A
  | done value, _ => done value
  | raise fault, handler => handler fault
  | perform operation rest, handler => perform operation fun answer => (rest answer).handle handler

/-- A fault of the program is raised as another one. -/
def mapFault {G : Type} (convert : F → G) : Program S F A → Program S G A
  | done value => done value
  | raise fault => raise (convert fault)
  | perform operation next => perform operation fun answer => (next answer).mapFault convert

/-- This program ends with the outcome of the other one, and raises no fault. -/
def attempt : Program S F A → Program S F (Except F A)
  | done value => done (.ok value)
  | raise fault => done (.error fault)
  | perform operation next => perform operation fun answer => (next answer).attempt

def lift : Except F A → Program S F A
  | .ok value => done value
  | .error fault => raise fault

/-- This program hands on the answer to one operation. -/
def call (operation : S.Operation) : Program S F (S.Answer operation) := perform operation done

/-- Only a program that has ended has a value. -/
def value : Program S F A → Option A
  | done value => some value
  | raise _ => none
  | perform _ _ => none

/-- Only a program that has failed has a fault. -/
def fault : Program S F A → Option F
  | done _ => none
  | raise fault => some fault
  | perform _ _ => none

@[simp] theorem lift_ok_bind (value : A) (next : A → Program S F B) :
    (lift (.ok value) : Program S F A) >>= next = next value := rfl

@[simp] theorem lift_error_bind (fault : F) (next : A → Program S F B) :
    (lift (.error fault) : Program S F A) >>= next = raise fault := rfl

theorem bind_assoc {C : Type} (program : Program S F A) (next : A → Program S F B) (last : B → Program S F C) :
    program >>= next >>= last = program >>= fun value => next value >>= last := by
  induction program with
  | done value => rfl
  | raise fault => rfl
  | perform operation rest inductionHypothesis => exact congrArg (perform operation) (funext inductionHypothesis)

/-- An event is an operation with the answer that the environment gave. -/
structure Event (S : Signature) where
  operation : S.Operation
  answer : S.Answer operation

/-- A program executes with a list of events to an outcome. -/
def Executes : Program S F A → List (Event S) → Except F A → Prop
  | done value, events, outcome => events = [] ∧ outcome = .ok value
  | raise fault, events, outcome => events = [] ∧ outcome = .error fault
  | perform operation next, events, outcome =>
      ∃ answer later, events = ⟨operation, answer⟩ :: later ∧ Executes (next answer) later outcome

@[simp] theorem executes_done (value : A) (events : List (Event S)) (outcome : Except F A) :
    Executes (done value) events outcome ↔ events = [] ∧ outcome = .ok value := Iff.rfl

theorem executes_of_value {program : Program S F A} {value : A} (ended : program.value = some value) :
    Executes program [] (.ok value) := by
  cases program with
  | done last => exact ⟨rfl, congrArg _ (Option.some.inj ended).symm⟩
  | raise fault => cases ended
  | perform operation next => cases ended

theorem executes_of_fault {program : Program S F A} {fault : F} (failed : program.fault = some fault) :
    Executes program [] (.error fault) := by
  cases program with
  | done value => cases failed
  | raise last => exact ⟨rfl, congrArg _ (Option.some.inj failed).symm⟩
  | perform operation next => cases failed

@[simp] theorem executes_pure (value : A) (events : List (Event S)) (outcome : Except F A) :
    Executes (pure value) events outcome ↔ events = [] ∧ outcome = .ok value := Iff.rfl

@[simp] theorem executes_raise (fault : F) (events : List (Event S)) (outcome : Except F A) :
    Executes (raise fault) events outcome ↔ events = [] ∧ outcome = .error fault := Iff.rfl

theorem executes_perform (operation : S.Operation) (next : S.Answer operation → Program S F A)
    (events : List (Event S)) (outcome : Except F A) :
    Executes (perform operation next) events outcome ↔
      ∃ answer later, events = ⟨operation, answer⟩ :: later ∧ Executes (next answer) later outcome := Iff.rfl

@[simp] theorem executes_lift (result : Except F A) (events : List (Event S)) (outcome : Except F A) :
    Executes (lift result) events outcome ↔ events = [] ∧ outcome = result := by
  cases result <;> rfl

/-- A sequence faults in its first part, or runs its second part behind the first one. -/
theorem executes_bind (program : Program S F A) (next : A → Program S F B) (events : List (Event S))
    (outcome : Except F B) :
    Executes (program >>= next) events outcome ↔
      (∃ fault, outcome = .error fault ∧ Executes program events (.error fault)) ∨
      ∃ first second value, events = first ++ second ∧ Executes program first (.ok value) ∧
        Executes (next value) second outcome := by
  change Executes (program.bind next) events outcome ↔ _
  induction program generalizing events with
  | done value =>
      simp only [Program.bind, executes_done, reduceCtorEq, and_false, exists_false, false_or,
        Except.ok.injEq]
      constructor
      · intro executed
        exact ⟨[], events, value, rfl, ⟨rfl, rfl⟩, executed⟩
      · rintro ⟨_, _, _, rfl, ⟨rfl, rfl⟩, executed⟩
        exact executed
  | raise fault => 
      simp only [Program.bind, executes_raise, reduceCtorEq, and_false, exists_false, or_false,
        Except.error.injEq, false_and]
      constructor
      · rintro ⟨rfl, rfl⟩
        exact ⟨fault, rfl, rfl, rfl⟩
      · rintro ⟨_, rfl, rfl, rfl⟩
        exact ⟨rfl, rfl⟩
  | perform operation rest inductionHypothesis =>
      simp only [Program.bind, executes_perform]
      constructor
      · rintro ⟨answer, later, rfl, executed⟩
        rcases (inductionHypothesis answer later).mp executed with
          ⟨fault, rfl, faulted⟩ | ⟨first, second, value, rfl, executed, continued⟩
        · exact .inl ⟨fault, rfl, answer, later, rfl, faulted⟩
        · exact .inr ⟨_ :: first, second, value, rfl, ⟨answer, first, rfl, executed⟩, continued⟩
      · rintro (⟨fault, rfl, answer, later, rfl, faulted⟩ |
          ⟨_, second, value, rfl, ⟨answer, first, rfl, executed⟩, continued⟩)
        · exact ⟨answer, later, rfl, (inductionHypothesis answer later).mpr (.inl ⟨fault, rfl, faulted⟩)⟩
        · exact ⟨answer, first ++ second, rfl,
            (inductionHypothesis answer _).mpr (.inr ⟨first, second, value, rfl, executed, continued⟩)⟩

/-- A sequence that returns a value runs both of its parts. -/
theorem executes_bind_ok {program : Program S F A} {next : A → Program S F B} {events : List (Event S)} {value : B}
    (executed : Executes (program >>= next) events (.ok value)) :
    ∃ first second middle, events = first ++ second ∧ Executes program first (.ok middle) ∧
      Executes (next middle) second (.ok value) := by
  rcases (executes_bind _ _ _ _).mp executed with ⟨_, contrary, _⟩ | split
  · cases contrary
  · exact split

/-- The first part of a sequence that only maps its value has the events of the whole. -/
theorem executes_of_map {program : Program S F A} {f : A → B} {events : List (Event S)} {outcome : Except F B}
    (executed : Executes (do return f (← program)) events outcome) :
    ∃ inner, Executes program events inner := by
  rcases (executes_bind _ _ _ _).mp executed with ⟨fault, _, faulted⟩ | ⟨first, second, value, rfl, ended, rfl, _⟩
  · exact ⟨_, faulted⟩
  · exact ⟨_, by rwa [List.append_nil]⟩

/-- A guarded program ends with its own value, or runs its handler behind its own fault. -/
theorem executes_handle (program : Program S F A) (handler : F → Program S F A) (events : List (Event S))
    (outcome : Except F A) :
    Executes (program.handle handler) events outcome ↔
      (∃ value, outcome = .ok value ∧ Executes program events (.ok value)) ∨
      ∃ first second fault, events = first ++ second ∧ Executes program first (.error fault) ∧
        Executes (handler fault) second outcome := by
  induction program generalizing events with
  | done value =>
      simp only [handle, executes_done, reduceCtorEq, and_false, false_and, exists_false, or_false,
        Except.ok.injEq]
      constructor
      · rintro ⟨rfl, rfl⟩
        exact ⟨value, rfl, rfl, rfl⟩
      · rintro ⟨_, rfl, rfl, rfl⟩
        exact ⟨rfl, rfl⟩
  | raise fault =>
      simp only [handle, executes_raise, reduceCtorEq, and_false, exists_false, false_or,
        Except.error.injEq]
      constructor
      · intro executed
        exact ⟨[], events, fault, rfl, ⟨rfl, rfl⟩, executed⟩
      · rintro ⟨_, _, _, rfl, ⟨rfl, rfl⟩, executed⟩
        exact executed
  | perform operation rest inductionHypothesis =>
      simp only [handle, executes_perform]
      constructor
      · rintro ⟨answer, later, rfl, executed⟩
        rcases (inductionHypothesis answer later).mp executed with
          ⟨value, rfl, ended⟩ | ⟨first, second, fault, rfl, faulted, handled⟩
        · exact .inl ⟨value, rfl, answer, later, rfl, ended⟩
        · exact .inr ⟨_ :: first, second, fault, rfl, ⟨answer, first, rfl, faulted⟩, handled⟩
      · rintro (⟨value, rfl, answer, later, rfl, ended⟩ |
          ⟨_, second, fault, rfl, ⟨answer, first, rfl, faulted⟩, handled⟩)
        · exact ⟨answer, later, rfl, (inductionHypothesis answer later).mpr (.inl ⟨value, rfl, ended⟩)⟩
        · exact ⟨answer, first ++ second, rfl,
            (inductionHypothesis answer _).mpr (.inr ⟨first, second, fault, rfl, faulted, handled⟩)⟩

@[simp] theorem executes_attempt (program : Program S F A) (events : List (Event S)) (outcome : Except F (Except F A)) :
    Executes program.attempt events outcome ↔ ∃ inner, outcome = .ok inner ∧ Executes program events inner := by
  induction program generalizing events with
  | done value =>
      constructor
      · rintro ⟨rfl, rfl⟩
        exact ⟨_, rfl, rfl, rfl⟩
      · rintro ⟨_, rfl, rfl, rfl⟩
        exact ⟨rfl, rfl⟩
  | raise fault =>
      constructor
      · rintro ⟨rfl, rfl⟩
        exact ⟨_, rfl, rfl, rfl⟩
      · rintro ⟨_, rfl, rfl, rfl⟩
        exact ⟨rfl, rfl⟩
  | perform operation next inductionHypothesis =>
      constructor
      · rintro ⟨answer, later, rfl, executed⟩
        obtain ⟨inner, rfl, ended⟩ := (inductionHypothesis answer later).mp executed
        exact ⟨inner, rfl, answer, later, rfl, ended⟩
      · rintro ⟨inner, rfl, answer, later, rfl, ended⟩
        exact ⟨answer, later, rfl, (inductionHypothesis answer later).mpr ⟨inner, rfl, ended⟩⟩

/-- A program stays within a set of operations when every path through it does. -/
def Within (allowed : S.Operation → Prop) : Program S F A → Prop
  | done _ => True
  | raise _ => True
  | perform operation next => allowed operation ∧ ∀ answer, (next answer).Within allowed

@[simp] theorem within_pure (allowed : S.Operation → Prop) (value : A) :
    Within allowed (pure value : Program S F A) := trivial

@[simp] theorem within_lift (allowed : S.Operation → Prop) (result : Except F A) :
    Within allowed (lift result : Program S F A) := by
  cases result <;> exact trivial

theorem Within.mono {allowed wider : S.Operation → Prop} {program : Program S F A}
    (inside : program.Within allowed) (implies : ∀ operation, allowed operation → wider operation) :
    program.Within wider := by
  induction program with
  | done value => trivial
  | raise fault => trivial
  | perform operation next inductionHypothesis =>
      exact ⟨implies operation inside.1, fun answer => inductionHypothesis answer (inside.2 answer)⟩

theorem Within.bind {allowed : S.Operation → Prop} {program : Program S F A} {next : A → Program S F B}
    (inside : program.Within allowed) (later : ∀ value, (next value).Within allowed) :
    (program >>= next).Within allowed := by
  change (program.bind next).Within allowed
  induction program with
  | done value => exact later value
  | raise fault => trivial
  | perform operation rest inductionHypothesis =>
      exact ⟨inside.1, fun answer => inductionHypothesis answer (inside.2 answer)⟩

theorem Within.handle {allowed : S.Operation → Prop} {program : Program S F A}
    {handler : F → Program S F A} (inside : program.Within allowed)
    (handled : ∀ fault, (handler fault).Within allowed) : (program.handle handler).Within allowed := by
  induction program with
  | done value => trivial
  | raise fault => exact handled fault
  | perform operation rest inductionHypothesis =>
      exact ⟨inside.1, fun answer => inductionHypothesis answer (inside.2 answer)⟩

theorem Within.attempt {allowed : S.Operation → Prop} {program : Program S F A} (inside : program.Within allowed) :
    program.attempt.Within allowed := by
  induction program with
  | done value => trivial
  | raise fault => trivial
  | perform operation next inductionHypothesis =>
      exact ⟨inside.1, fun answer => inductionHypothesis answer (inside.2 answer)⟩

/-- The events of a program that stays within a set come from operations of the set. -/
theorem Within.events {allowed : S.Operation → Prop} {program : Program S F A} {events : List (Event S)}
    {outcome : Except F A} (inside : program.Within allowed) (executed : Executes program events outcome) :
    ∀ event ∈ events, allowed event.operation := by
  induction program generalizing events with
  | done value =>
      obtain ⟨rfl, _⟩ := executed
      simp
  | raise fault =>
      obtain ⟨rfl, _⟩ := executed
      simp
  | perform operation next inductionHypothesis =>
      obtain ⟨answer, later, rfl, rest⟩ := executed
      intro event member
      rcases List.mem_cons.mp member with rfl | behind
      · exact inside.1
      · exact inductionHypothesis answer (inside.2 answer) rest event behind

section Faults

/-- A program avoids a fault when no path through it raises the fault. -/
def Avoids (fault : F) : Program S F A → Prop
  | done _ => True
  | raise other => other ≠ fault
  | perform _ next => ∀ answer, (next answer).Avoids fault

variable {fault : F}

theorem avoids_lift {result : Except F A} (other : result ≠ .error fault) :
    (lift result : Program S F A).Avoids fault := by
  cases result with
  | ok value => exact True.intro
  | error raised => exact fun same => other (congrArg _ same)

theorem Avoids.bind {program : Program S F A} {next : A → Program S F B} (avoids : program.Avoids fault)
    (later : ∀ value, (next value).Avoids fault) : (program >>= next).Avoids fault := by
  change (program.bind next).Avoids fault
  induction program with
  | done value => exact later value
  | raise other => exact avoids
  | perform operation rest inductionHypothesis => exact fun answer => inductionHypothesis answer (avoids answer)

theorem Avoids.not_executes {program : Program S F A} (avoids : program.Avoids fault) (events : List (Event S)) :
    ¬ Executes program events (.error fault) := by
  induction program generalizing events with
  | done value => exact fun executed => nomatch executed.2
  | raise other => exact fun executed => avoids (Except.error.inj executed.2).symm
  | perform operation next inductionHypothesis =>
      intro ⟨answer, later, _, executed⟩
      exact inductionHypothesis answer (avoids answer) later executed

end Faults

section Values

/-- Every value that a program returns satisfies the predicate. -/
def Returns (holds : A → Prop) : Program S F A → Prop
  | done value => holds value
  | raise _ => True
  | perform _ next => ∀ answer, (next answer).Returns holds

variable {holds : A → Prop}

theorem returns_lift {result : Except F A} (every : ∀ value, result = .ok value → holds value) :
    (lift result : Program S F A).Returns holds := by
  cases result with
  | ok value => exact every value rfl
  | error fault => exact True.intro

theorem returns_of_forall (every : ∀ value, holds value) (program : Program S F A) : program.Returns holds := by
  induction program with
  | done value => exact every value
  | raise fault => exact True.intro
  | perform operation next inductionHypothesis => exact inductionHypothesis

theorem Returns.bind {program : Program S F A} {next : A → Program S F B} {after : B → Prop}
    (returns : program.Returns holds) (later : ∀ value, holds value → (next value).Returns after) :
    (program >>= next).Returns after := by
  change (program.bind next).Returns after
  induction program with
  | done value => exact later value returns
  | raise fault => exact True.intro
  | perform operation rest inductionHypothesis => exact fun answer => inductionHypothesis answer (returns answer)

/-- Nothing has to be known about the value of the first program. -/
theorem returns_bind {program : Program S F A} {next : A → Program S F B} {after : B → Prop}
    (later : ∀ value, (next value).Returns after) : (program >>= next).Returns after :=
  (returns_of_forall (fun _ => True.intro) program).bind fun value _ => later value

theorem Returns.of_executes {program : Program S F A} (returns : program.Returns holds) {events : List (Event S)}
    {value : A} (executed : Executes program events (.ok value)) : holds value := by
  induction program generalizing events with
  | done last =>
      obtain rfl := Except.ok.inj executed.2
      exact returns
  | raise fault => cases executed.2
  | perform operation next inductionHypothesis =>
      obtain ⟨answer, later, _, rest⟩ := executed
      exact inductionHypothesis answer (returns answer) rest

end Values

section Guarantees

/-- Whatever the answers are, the goal holds of the events behind those of the past and of the outcome. -/
def Guarantees (goal : List (Event S) → Except F A → Prop) : Program S F A → List (Event S) → Prop
  | done value, past => goal past (.ok value)
  | raise fault, past => goal past (.error fault)
  | perform operation next, past => ∀ answer, (next answer).Guarantees goal (past ++ [⟨operation, answer⟩])

theorem Guarantees.of_executes {goal : List (Event S) → Except F A → Prop} {program : Program S F A}
    {past events : List (Event S)} {outcome : Except F A} (guarantees : program.Guarantees goal past)
    (executed : Executes program events outcome) : goal (past ++ events) outcome := by
  induction program generalizing past events with
  | done value =>
      obtain ⟨rfl, rfl⟩ := executed
      rwa [List.append_nil]
  | raise fault =>
      obtain ⟨rfl, rfl⟩ := executed
      rwa [List.append_nil]
  | perform operation next inductionHypothesis =>
      obtain ⟨answer, later, rfl, rest⟩ := executed
      have reached := inductionHypothesis answer (guarantees answer) rest
      rwa [List.append_assoc] at reached

/-- This is the goal of the first part of a sequence, where the second part goes on to another goal. -/
def andThen (next : A → Program S F B) (goal : List (Event S) → Except F B → Prop) (past : List (Event S)) :
    Except F A → Prop
  | .ok value => (next value).Guarantees goal past
  | .error fault => goal past (.error fault)

theorem Guarantees.bind {program : Program S F A} {next : A → Program S F B}
    {goal : List (Event S) → Except F B → Prop} {past : List (Event S)}
    (guarantees : program.Guarantees (andThen next goal) past) : (program >>= next).Guarantees goal past := by
  change (program.bind next).Guarantees goal past
  induction program generalizing past with
  | done value => exact guarantees
  | raise fault => exact guarantees
  | perform operation rest inductionHypothesis => exact fun answer => inductionHypothesis answer (guarantees answer)

theorem Guarantees.mono {goal wider : List (Event S) → Except F A → Prop} {program : Program S F A}
    {past : List (Event S)} (guarantees : program.Guarantees goal past)
    (implies : ∀ events outcome, goal events outcome → wider events outcome) : program.Guarantees wider past := by
  induction program generalizing past with
  | done value => exact implies _ _ guarantees
  | raise fault => exact implies _ _ guarantees
  | perform operation rest inductionHypothesis => exact fun answer => inductionHypothesis answer (guarantees answer)

/-- What each item of a loop keeps, the loop keeps, and a fault in any of them keeps its own goal. -/
theorem guarantees_foldlM {step : A → B → Program S F A} {goal : List (Event S) → Except F A → Prop} (items : List B)
    (kept : ∀ value past, ∀ item ∈ items, goal past (.ok value) → (step value item).Guarantees goal past)
    {value : A} {past : List (Event S)} (initial : goal past (.ok value)) :
    (items.foldlM step value : Program S F A).Guarantees goal past := by
  induction items generalizing value past with
  | nil => exact initial
  | cons item rest inductionHypothesis =>
      rw [List.foldlM_cons]
      refine Guarantees.bind ((kept value past item List.mem_cons_self initial).mono fun events outcome reached => ?_)
      cases outcome with
      | ok next => exact inductionHypothesis (fun value past other member => kept value past other (.tail _ member)) reached
      | error fault => exact reached

end Guarantees

section Evaluation

variable {T : Type} (respond : (operation : S.Operation) → T → S.Answer operation × T)

/-- An interpreter answers each operation from its state. -/
def evaluate : Program S F A → T → Except F A × T
  | done value, state => (.ok value, state)
  | raise fault, state => (.error fault, state)
  | perform operation next, state =>
      (next (respond operation state).1).evaluate (respond operation state).2

@[simp] theorem evaluate_pure (value : A) (state : T) :
    (pure value : Program S F A).evaluate respond state = (.ok value, state) := rfl

@[simp] theorem evaluate_raise (fault : F) (state : T) :
    (raise fault : Program S F A).evaluate respond state = (.error fault, state) := rfl

theorem evaluate_bind (program : Program S F A) (next : A → Program S F B) (state : T) :
    (program >>= next).evaluate respond state =
      match program.evaluate respond state with
      | (.ok value, later) => (next value).evaluate respond later
      | (.error fault, later) => (.error fault, later) := by
  change (program.bind next).evaluate respond state = _
  induction program generalizing state with
  | done value => rfl
  | raise fault => rfl
  | perform operation rest inductionHypothesis => exact inductionHypothesis _ _

/-- These are the events of an evaluation. -/
def transcript : Program S F A → T → List (Event S)
  | done _, _ => []
  | raise _, _ => []
  | perform operation next, state =>
      ⟨operation, (respond operation state).1⟩ ::
        (next (respond operation state).1).transcript (respond operation state).2

theorem executes_transcript (program : Program S F A) (state : T) :
    Executes program (program.transcript respond state) (program.evaluate respond state).1 := by
  induction program generalizing state with
  | done value => exact ⟨rfl, rfl⟩
  | raise fault => exact ⟨rfl, rfl⟩
  | perform operation next inductionHypothesis => exact ⟨_, _, rfl, inductionHypothesis _ _⟩

theorem evaluate_mapFault {G : Type} (program : Program S F A) (convert : F → G) (state : T) :
    (program.mapFault convert).evaluate respond state =
      ((program.evaluate respond state).1.mapError convert, (program.evaluate respond state).2) := by
  induction program generalizing state with
  | done value => rfl
  | raise fault => rfl
  | perform operation rest inductionHypothesis => exact inductionHypothesis _ _

end Evaluation

section Reachability

variable {T : Type} (responds : (operation : S.Operation) → T → S.Answer operation → T → Prop)

/-- The environment may answer an operation in several ways, and each way leads to an outcome and a state. -/
def Reaches : Program S F A → T → Except F A → T → Prop
  | done value, state, outcome, final => outcome = .ok value ∧ final = state
  | raise fault, state, outcome, final => outcome = .error fault ∧ final = state
  | perform operation next, state, outcome, final =>
      ∃ answer later, responds operation state answer later ∧ (next answer).Reaches later outcome final

variable {responds}

@[simp] theorem reaches_pure (value : A) (state : T) (outcome : Except F A) (final : T) :
    (pure value : Program S F A).Reaches responds state outcome final ↔ outcome = .ok value ∧ final = state := Iff.rfl

/-- A sequence faults in its first part, or goes on where its first part has ended. -/
theorem reaches_bind (program : Program S F A) (next : A → Program S F B) (state : T) (outcome : Except F B)
    (final : T) :
    (program >>= next).Reaches responds state outcome final ↔
      (∃ fault, outcome = .error fault ∧ program.Reaches responds state (.error fault) final) ∨
      ∃ value middle, program.Reaches responds state (.ok value) middle ∧
        (next value).Reaches responds middle outcome final := by
  change (program.bind next).Reaches responds state outcome final ↔ _
  induction program generalizing state with
  | done value => simp [Program.bind, Reaches]
  | raise fault => simp [Program.bind, Reaches]
  | perform operation rest inductionHypothesis =>
      simp only [Program.bind, Reaches, inductionHypothesis]
      constructor
      · rintro ⟨answer, later, answered, ⟨fault, rfl, faulted⟩ | ⟨value, middle, ended, continued⟩⟩
        · exact .inl ⟨fault, rfl, answer, later, answered, faulted⟩
        · exact .inr ⟨value, middle, ⟨answer, later, answered, ended⟩, continued⟩
      · rintro (⟨fault, rfl, answer, later, answered, faulted⟩ |
          ⟨value, middle, ⟨answer, later, answered, ended⟩, continued⟩)
        · exact ⟨answer, later, answered, .inl ⟨fault, rfl, faulted⟩⟩
        · exact ⟨answer, later, answered, .inr ⟨value, middle, ended, continued⟩⟩

/-- Where every operation has an answer, a program has an outcome. -/
theorem exists_reaches (answers : ∀ operation state, ∃ answer later, responds operation state answer later)
    (program : Program S F A) (state : T) : ∃ outcome final, program.Reaches responds state outcome final := by
  induction program generalizing state with
  | done value => exact ⟨_, _, rfl, rfl⟩
  | raise fault => exact ⟨_, _, rfl, rfl⟩
  | perform operation next inductionHypothesis =>
      obtain ⟨answer, later, answered⟩ := answers operation state
      obtain ⟨outcome, final, reached⟩ := inductionHypothesis answer later
      exact ⟨outcome, final, answer, later, answered, reached⟩

/-- An environment that answers in one of the possible ways leads to one of the reached outcomes. -/
theorem reaches_evaluate {respond : (operation : S.Operation) → T → S.Answer operation × T}
    (possible : ∀ operation state, responds operation state (respond operation state).1 (respond operation state).2)
    (program : Program S F A) (state : T) :
    program.Reaches responds state (program.evaluate respond state).1 (program.evaluate respond state).2 := by
  induction program generalizing state with
  | done value => exact ⟨rfl, rfl⟩
  | raise fault => exact ⟨rfl, rfl⟩
  | perform operation next inductionHypothesis =>
      exact ⟨_, _, possible operation state, inductionHypothesis _ _⟩

end Reachability

end Program

end Pxtly.Foundation
