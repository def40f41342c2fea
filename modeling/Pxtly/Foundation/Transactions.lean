/-
This file gives programs over a database: one at a time, or in transactions that interleave.
-/

import Mathlib.Data.Fintype.Defs
import Mathlib.Logic.Function.Basic
import Pxtly.Foundation.Program

namespace Pxtly.Foundation

open Program

/-- A database answers queries from its tables, and its constraints admit only some writes. -/
structure Database where
  Tables : Type
  Query : Type
  Result : Query → Type
  Write : Type
  answer : (query : Query) → Tables → Result query
  apply : Tables → Write → Tables
  admits : Tables → Write → Bool
  clashes : Write → Write → Bool

namespace Database

variable (database : Database)

inductive Operation where
  | read (query : database.Query)
  | write (write : database.Write)
  | commit

variable {database}

abbrev Operation.Result : database.Operation → Type
  | .read query => database.Result query
  | .write _ => Unit
  | .commit => Unit

variable (database)

/-- An operation without an answer has failed and has rolled its transaction back. -/
abbrev signature : Signature where
  Operation := database.Operation
  Answer operation := Option operation.Result

abbrev Event := Program.Event database.signature

variable {database} {F A B : Type}

/-- This event commits a transaction. -/
def committed : database.Event := ⟨.commit, some ()⟩

/-- A failed operation raises a fault. -/
def ask (fault : F) (operation : database.Operation) : Program database.signature F operation.Result :=
  .perform operation fun
    | some result => .done result
    | none => .raise fault

theorem within_ask {allowed : database.Operation → Prop} {operation : database.Operation}
    (inside : allowed operation) (fault : F) : (ask fault operation).Within allowed := by
  refine ⟨inside, fun answer => ?_⟩
  cases answer <;> exact True.intro

theorem avoids_ask {fault other : F} (different : other ≠ fault) (operation : database.Operation) :
    (ask other operation).Avoids fault := by
  intro answer
  cases answer with
  | some result => exact True.intro
  | none => exact different

theorem executes_ask_bind (fault : F) (operation : database.Operation)
    (next : operation.Result → Program database.signature F A) (events : List database.Event)
    (outcome : Except F A) :
    Executes (ask fault operation >>= next) events outcome ↔
      (∃ result later, events = ⟨operation, some result⟩ :: later ∧ Executes (next result) later outcome) ∨
        (events = [⟨operation, none⟩] ∧ outcome = .error fault) := by
  constructor
  · intro ⟨answer, later, same, executed⟩
    cases answer with
    | some result => exact .inl ⟨result, later, same, executed⟩
    | none =>
        obtain ⟨rfl, rfl⟩ := executed
        exact .inr ⟨same, rfl⟩
  · rintro (⟨result, later, rfl, executed⟩ | ⟨rfl, rfl⟩)
    · exact ⟨some result, later, rfl, executed⟩
    · exact ⟨none, [], rfl, rfl, rfl⟩

/-- Where a sequence returns, its first operation has answered. -/
theorem executes_ask_ok {fault : F} {operation : database.Operation}
    {next : operation.Result → Program database.signature F A} {events : List database.Event} {value : A}
    (executed : Executes (ask fault operation >>= next) events (.ok value)) :
    ∃ result later, events = ⟨operation, some result⟩ :: later ∧ Executes (next result) later (.ok value) := by
  rcases (executes_ask_bind _ _ _ _ _).mp executed with answered | ⟨_, failed⟩
  · exact answered
  · cases failed

theorem executes_ask {fault : F} {operation : database.Operation} {events : List database.Event}
    {result : operation.Result} (executed : Executes (ask fault operation) events (.ok result)) :
    events = [⟨operation, some result⟩] := by
  obtain ⟨answer, later, rfl, ended⟩ := executed
  cases answer with
  | some value =>
      obtain ⟨rfl, same⟩ := ended
      cases same
      rfl
  | none =>
      obtain ⟨_, wrong⟩ := ended
      cases wrong

/-- A transaction sees the committed tables with its own writes. -/
def view (tables : database.Tables) (pending : List database.Write) : database.Tables :=
  pending.foldl database.apply tables

section Alone

def Reads (operation : database.Operation) : Prop := ∃ query, operation = .read query

/-- The tables and the pending writes of the only transaction. -/
abbrev Session (database : Database) := database.Tables × List database.Write

def respond : (operation : database.Operation) → Session database →
    Option operation.Result × Session database
  | .read query, session => (some (database.answer query (view session.1 session.2)), session)
  | .write write, session =>
      if database.admits (view session.1 session.2) write then (some (), session.1, session.2 ++ [write])
      else (none, session.1, [])
  | .commit, session => (some (), view session.1 session.2, [])

/-- Pending writes are lost where the program ends. -/
def alone (program : Program database.signature F A) (tables : database.Tables) :
    Except F A × database.Tables :=
  let ended := program.evaluate respond (tables, [])
  (ended.1, ended.2.1)

theorem evaluate_ask (fault : F) (operation : database.Operation) (session : Session database) :
    (ask fault operation).evaluate respond session =
      match respond operation session with
      | (some result, later) => (.ok result, later)
      | (none, later) => (.error fault, later) := by
  simp only [ask, evaluate]
  rcases respond operation session with ⟨_ | result, later⟩ <;> rfl

theorem evaluate_write (fault : F) (write : database.Write) (next : Unit → Program database.signature F A)
    (session : Session database) :
    (ask fault (.write write) >>= next).evaluate respond session =
      if database.admits (view session.1 session.2) write then
        (next ()).evaluate respond (session.1, session.2 ++ [write])
      else (.error fault, session.1, []) := by
  rw [evaluate_bind, evaluate_ask, respond]
  by_cases admitted : database.admits (view session.1 session.2) write
  · rw [if_pos admitted, if_pos admitted]
  · rw [if_neg admitted, if_neg admitted]

/-- Two writes are both pending, or the first refusal rolls the transaction back. -/
theorem evaluate_writes (fault : F) (first second : database.Write) (tables : database.Tables) :
    (ask fault (.write first) >>= fun _ => ask fault (.write second)).evaluate respond (tables, []) =
      if database.admits tables first ∧ database.admits (database.apply tables first) second then
        (.ok (), tables, [first, second])
      else (.error fault, tables, []) := by
  rw [evaluate_write]
  by_cases admitted : database.admits tables first
  · rw [if_pos (show database.admits (view tables []) first = true from admitted), evaluate_ask]
    by_cases next : database.admits (database.apply tables first) second
    · have answered : respond (.write second) (tables, [first]) = (some (), tables, [first, second]) := if_pos next
      rw [List.nil_append, answered, if_pos ⟨admitted, next⟩]
    · have refused : respond (.write second) (tables, [first]) = (none, tables, []) := if_neg next
      rw [List.nil_append, refused, if_neg fun both => next both.2]
  · rw [if_neg (show ¬ database.admits (view tables []) first = true from admitted), if_neg fun both => admitted both.1]

/-- A program that only reads leaves its session as it is. -/
theorem evaluate_of_reads {program : Program database.signature F A} (reads : program.Within Reads)
    (session : Session database) : (program.evaluate respond session).2 = session := by
  induction program generalizing session with
  | done value => rfl
  | raise fault => rfl
  | perform operation next inductionHypothesis =>
      obtain ⟨⟨query, rfl⟩, later⟩ := reads
      exact inductionHypothesis _ (later _) session

/-- A program that only reads gives one outcome where it reads the same answers. -/
theorem evaluate_of_same_answers {program : Program database.signature F A} {first second : Session database}
    (same : program.Within fun operation =>
      Reads operation ∧ (respond operation first).1 = (respond operation second).1) :
    (program.evaluate respond first).1 = (program.evaluate respond second).1 := by
  induction program with
  | done value => rfl
  | raise fault => rfl
  | perform operation next inductionHypothesis =>
      obtain ⟨⟨⟨query, rfl⟩, answers⟩, later⟩ := same
      rw [evaluate, evaluate, ← answers]
      exact inductionHypothesis _ (later _)

theorem alone_map (program : Program database.signature F A) (f : A → B) (tables : database.Tables) :
    alone (do return f (← program)) tables = ((alone program tables).1.map f, (alone program tables).2) := by
  rw [alone, evaluate_bind, alone]
  generalize program.evaluate respond (tables, []) = ended
  obtain ⟨outcome, later, pending⟩ := ended
  cases outcome <;> rfl

/-- A program whose result is only checked leaves the same tables behind. -/
theorem alone_lift (program : Program database.signature F A) (check : A → Except F B) (tables : database.Tables) :
    alone (program >>= fun value => lift (check value)) tables =
      ((alone program tables).1 >>= check, (alone program tables).2) := by
  rw [alone, evaluate_bind, alone]
  generalize program.evaluate respond (tables, []) = ended
  obtain ⟨outcome, later, pending⟩ := ended
  cases outcome with
  | error fault => rfl
  | ok value =>
      have passed : (Except.ok value >>= check) = check value := rfl
      rw [passed]
      dsimp only
      cases check value <;> rfl

theorem alone_mapFault {G : Type} (program : Program database.signature F A) (convert : F → G)
    (tables : database.Tables) :
    alone (program.mapFault convert) tables =
      ((alone program tables).1.mapError convert, (alone program tables).2) := by
  rw [alone, evaluate_mapFault]
  rfl

end Alone

section Serial

variable {I : Type} (drifts : database.Tables → database.Tables → Prop)
  (program : I → Program database.signature F A)

/-- A request is served, or it fails and changes nothing. -/
inductive Leads (request : I) (tables : database.Tables) : Except F A → database.Tables → Prop where
  | serve : Leads request tables (alone (program request) tables).1 (alone (program request) tables).2
  | fail (fault : F) : Leads request tables (.error fault) tables

/-- A turn is a request, the tables that it met, and its outcome. -/
structure Turn (database : Database) (I F A : Type) where
  request : I
  tables : database.Tables
  outcome : Except F A

/-- Requests come one after the other, and the tables drift between them. -/
inductive Serial : database.Tables → List (Turn database I F A) → database.Tables → Prop where
  | nil {tables : database.Tables} : Serial tables [] tables
  | turn {tables drifted next final : database.Tables} {turns : List (Turn database I F A)} (request : I)
      (outcome : Except F A) (drift : drifts tables drifted) (leads : Leads program request drifted outcome next)
      (rest : Serial next turns final) : Serial tables (⟨request, drifted, outcome⟩ :: turns) final

variable {drifts program} {start final : database.Tables}
  {turns : List (Turn database I F A)}

theorem Serial.leads (run : Serial drifts program start turns final) :
    ∀ turn ∈ turns, ∃ next, Leads program turn.request turn.tables turn.outcome next := by
  induction run with
  | nil => exact nofun
  | turn request outcome moved leads rest inductionHypothesis =>
      exact List.forall_mem_cons.mpr ⟨⟨_, leads⟩, inductionHypothesis⟩

/-- The turns before a turn are a run of their own. -/
theorem Serial.before {earlier later : List (Turn database I F A)} {turn : Turn database I F A}
    (run : Serial drifts program start (earlier ++ turn :: later) final) :
    ∃ middle, Serial drifts program start earlier middle ∧ drifts middle turn.tables := by
  induction earlier generalizing start with
  | nil =>
      cases run with
      | turn request outcome moved leads rest => exact ⟨start, .nil, moved⟩
  | cons first earlier inductionHypothesis =>
      cases run with
      | turn request outcome moved leads rest =>
          obtain ⟨middle, before, reached⟩ := inductionHypothesis rest
          exact ⟨middle, .turn request outcome moved leads before, reached⟩

/-- An invariant of one turn is an invariant of a run. -/
theorem Serial.keeps (run : Serial drifts program start turns final) (invariant : database.Tables → Prop)
    (drift : ∀ tables drifted, drifts tables drifted → invariant tables → invariant drifted)
    (kept : ∀ turn ∈ turns, ∀ next, Leads program turn.request turn.tables turn.outcome next →
      invariant turn.tables → invariant next)
    (initial : invariant start) : invariant final ∧ ∀ turn ∈ turns, invariant turn.tables := by
  induction run with
  | nil => exact ⟨initial, nofun⟩
  | turn request outcome moved leads rest inductionHypothesis =>
      have reached := drift _ _ moved initial
      have next := kept _ List.mem_cons_self _ leads reached
      obtain ⟨last, inside⟩ := inductionHypothesis (fun turn member => kept turn (.tail _ member)) next
      exact ⟨last, List.forall_mem_cons.mpr ⟨reached, inside⟩⟩

/-- A property that only some outcomes bring about holds after a run with such an outcome, or it held before. -/
theorem Serial.holds_iff (run : Serial drifts program start turns final) (property : database.Tables → Prop)
    (event : Except F A → Prop) (drift : ∀ tables drifted, drifts tables drifted → (property drifted ↔ property tables))
    (step : ∀ request tables outcome next, Leads program request tables outcome next →
      (property next ↔ event outcome ∨ property tables)) :
    property final ↔ (∃ turn ∈ turns, event turn.outcome) ∨ property start := by
  induction run with
  | nil => simp
  | turn request outcome moved leads rest inductionHypothesis =>
      rw [inductionHypothesis, step _ _ _ _ leads, drift _ _ moved]
      simp only [List.mem_cons, exists_eq_or_imp]
      rw [or_left_comm, or_assoc]

/-- A turn that establishes an invariant is never followed by a turn that the invariant excludes. -/
theorem Serial.pairwise {first second : Turn database I F A → Prop}
    (run : Serial drifts program start turns final) (invariant : database.Tables → Prop)
    (drift : ∀ tables drifted, drifts tables drifted → invariant tables → invariant drifted)
    (kept : ∀ turn ∈ turns, ∀ next, Leads program turn.request turn.tables turn.outcome next →
      invariant turn.tables → invariant next)
    (established : ∀ turn ∈ turns, ∀ next, Leads program turn.request turn.tables turn.outcome next →
      first turn → invariant next)
    (excluded : ∀ turn ∈ turns, ∀ next, Leads program turn.request turn.tables turn.outcome next →
      invariant turn.tables → ¬ second turn) :
    turns.Pairwise fun earlier later => first earlier → ¬ second later := by
  induction run with
  | nil => exact .nil
  | turn request outcome moved leads rest inductionHypothesis =>
      refine .cons ?_ (inductionHypothesis (fun turn member => kept turn (.tail _ member))
        (fun turn member => established turn (.tail _ member))
        (fun turn member => excluded turn (.tail _ member)))
      intro later member holds
      have initial := established _ List.mem_cons_self _ leads holds
      obtain ⟨_, inside⟩ := rest.keeps invariant drift (fun turn member => kept turn (.tail _ member)) initial
      obtain ⟨next, leadsLater⟩ := rest.leads later member
      exact excluded later (.tail _ member) next leadsLater (inside later member)

end Serial

section Concurrent

variable {C : Type} [DecidableEq C]

/-- Concurrent calls share the committed tables, and each has its own pending writes. -/
structure Store (database : Database) (C : Type) where
  tables : database.Tables
  pending : C → List database.Write

/-- A write waits for pending writes that it clashes with; a failure rolls its transaction back. -/
inductive Step : Store database C → C × database.Event → Store database C → Prop where
  | read (state : Store database C) (call : C) (query : database.Query) :
      Step state (call, ⟨.read query, some (database.answer query (view state.tables (state.pending call)))⟩) state
  | write (state : Store database C) (call : C) (write : database.Write)
      (admitted : database.admits (view state.tables (state.pending call)) write = true)
      (free : ∀ other ≠ call, ∀ earlier ∈ state.pending other, database.clashes earlier write = false) :
      Step state (call, ⟨.write write, some ()⟩)
        { state with pending := Function.update state.pending call (state.pending call ++ [write]) }
  | commit (state : Store database C) (call : C) :
      Step state (call, ⟨.commit, some ()⟩)
        ⟨view state.tables (state.pending call), Function.update state.pending call []⟩
  | fail (state : Store database C) (call : C) (operation : database.Operation) :
      Step state (call, ⟨operation, none⟩)
        { state with pending := Function.update state.pending call [] }

variable (drifts : database.Tables → database.Tables → Prop) (tables : database.Tables)

/-- A run starts without pending writes, and the tables drift between its steps. -/
inductive Concurrent : List (C × database.Event) → Store database C → Prop where
  | start : Concurrent [] ⟨tables, fun _ => []⟩
  | drift {trace : List (C × database.Event)} {state : Store database C} {drifted : database.Tables}
      (run : Concurrent trace state) (drift : drifts state.tables drifted) :
      Concurrent trace { state with tables := drifted }
  | step {trace : List (C × database.Event)} {state next : Store database C} {entry : C × database.Event}
      (run : Concurrent trace state) (step : Step state entry next) : Concurrent (trace ++ [entry]) next

/-- These are the events of one call. -/
def eventsOf (trace : List (C × database.Event)) (call : C) : List database.Event :=
  (trace.filter fun entry => entry.1 = call).map Prod.snd

/-- Every call has begun its program. -/
def Begun (program : C → Program database.signature F A) (trace : List (C × database.Event)) : Prop :=
  ∀ call, ∃ later outcome, Executes (program call) (eventsOf trace call ++ later) outcome

/-- A call has returned where its events are all of its program. -/
def Returned (program : C → Program database.signature F A) (trace : List (C × database.Event)) (call : C)
    (value : A) : Prop := Executes (program call) (eventsOf trace call) (.ok value)

variable {drifts tables} {trace : List (C × database.Event)} {call : C} {event : database.Event}

theorem mem_eventsOf : event ∈ eventsOf trace call ↔ (call, event) ∈ trace := by
  simp [eventsOf]

theorem eventsOf_concat_self : eventsOf (trace ++ [(call, event)]) call = eventsOf trace call ++ [event] := by
  simp [eventsOf]

theorem eventsOf_concat_of_ne {other : C} (different : call ≠ other) :
    eventsOf (trace ++ [(call, event)]) other = eventsOf trace other := by
  simp [eventsOf, different]

/-- A call that has begun in a longer trace has begun in a shorter one. -/
theorem Begun.of_concat {program : C → Program database.signature F A} {entry : C × database.Event}
    (begun : Begun program (trace ++ [entry])) : Begun program trace := by
  intro other
  obtain ⟨later, outcome, executed⟩ := begun other
  by_cases same : entry.1 = other
  · subst same
    rw [eventsOf_concat_self, List.append_assoc] at executed
    exact ⟨_, _, executed⟩
  · rw [eventsOf_concat_of_ne same] at executed
    exact ⟨_, _, executed⟩

/-- An event saves a write, or it ends the transaction. -/
def saveEvent (pending : List database.Write) : database.Event → List database.Write
  | ⟨.read _, some _⟩ => pending
  | ⟨.write write, some _⟩ => pending ++ [write]
  | ⟨.commit, some _⟩ => []
  | ⟨_, none⟩ => []

theorem Step.pending_eq {state next : Store database C} {entry : C × database.Event}
    (step : Step state entry next) :
    next.pending = Function.update state.pending entry.1 (saveEvent (state.pending entry.1) entry.2) := by
  cases step with
  | read => exact (Function.update_eq_self _ _).symm
  | write => rfl
  | commit => rfl
  | fail call operation => cases operation <;> rfl

/-- The pending writes of a call are those of its events. -/
theorem Concurrent.pending_eq {state : Store database C} (run : Concurrent drifts tables trace state) (call : C) :
    state.pending call = (eventsOf trace call).foldl saveEvent [] := by
  induction run with
  | start => rfl
  | drift run moved inductionHypothesis => exact inductionHypothesis
  | @step trace state next entry run step inductionHypothesis =>
      rw [step.pending_eq]
      by_cases same : entry.1 = call
      · subst same
        rw [Function.update_self, eventsOf_concat_self, List.foldl_concat, inductionHypothesis]
      · rw [Function.update_of_ne (Ne.symm same), eventsOf_concat_of_ne same, inductionHypothesis]

theorem mem_foldl_saveEvent {write : database.Write} {pending : List database.Write}
    {events : List database.Event} (member : write ∈ events.foldl saveEvent pending) :
    write ∈ pending ∨ ⟨.write write, some ()⟩ ∈ events := by
  induction events generalizing pending with
  | nil => exact .inl member
  | cons event rest inductionHypothesis =>
      rcases inductionHypothesis member with saved | later
      · obtain ⟨operation, answer⟩ := event
        cases answer with
        | none => cases operation <;> cases saved
        | some result =>
            cases operation with
            | read query => exact .inl saved
            | write first =>
                rcases List.mem_append.mp saved with old | new
                · exact .inl old
                · obtain rfl := List.mem_singleton.mp new
                  exact .inr List.mem_cons_self
            | commit => cases saved
      · exact .inr (List.mem_cons_of_mem _ later)

/-- A pending write stands among the events of its call. -/
theorem Concurrent.mem_pending {state : Store database C} (run : Concurrent drifts tables trace state)
    {write : database.Write} (member : write ∈ state.pending call) :
    (call, ⟨.write write, some ()⟩) ∈ trace := by
  rw [run.pending_eq call] at member
  exact mem_eventsOf.mp ((mem_foldl_saveEvent member).resolve_left List.not_mem_nil)

theorem Step.of_read {state next : Store database C} {query : database.Query} {result : database.Result query}
    (step : Step state (call, ⟨.read query, some result⟩) next) :
    next = state ∧ result = database.answer query (view state.tables (state.pending call)) := by
  cases step with
  | read => exact ⟨rfl, rfl⟩

/-- Only a commit changes the tables. -/
theorem Step.tables_cases {state next : Store database C} {entry : C × database.Event}
    (step : Step state entry next) :
    next.tables = state.tables ∨
      (entry.2 = committed ∧ next.tables = view state.tables (state.pending entry.1)) := by
  cases step with
  | read => exact .inl rfl
  | write => exact .inl rfl
  | commit => exact .inr ⟨rfl, rfl⟩
  | fail => exact .inl rfl

end Concurrent

section Schedule

variable {C : Type} [DecidableEq C] {drifts : database.Tables → database.Tables → Prop} {tables : database.Tables}
  {trace : List (C × database.Event)}

/-- No other call has a pending write that the operation waits for. -/
def Free (state : Store database C) (call : C) (operation : database.Operation) : Prop :=
  ∀ other ≠ call, ∀ earlier ∈ state.pending other, ∀ write, operation = .write write →
    database.clashes earlier write = false

/-- An operation that is free takes the step that it takes alone. -/
theorem Step.of_respond {state : Store database C} {call : C} {operation : database.Operation}
    (free : Free state call operation) :
    Step state (call, ⟨operation, (respond operation (state.tables, state.pending call)).1⟩)
      ⟨(respond operation (state.tables, state.pending call)).2.1,
        Function.update state.pending call (respond operation (state.tables, state.pending call)).2.2⟩ := by
  cases operation with
  | read query =>
      simp only [respond, Function.update_eq_self]
      exact .read state call query
  | write write =>
      by_cases admitted : database.admits (view state.tables (state.pending call)) write
      · simp only [respond, if_pos admitted]
        exact .write state call write admitted fun other different earlier member =>
          free other different earlier member write rfl
      · simp only [respond, if_neg admitted]
        exact .fail state call _
  | commit => exact .commit state call

instance [Fintype C] (state : Store database C) (call : C) :
    (operation : database.Operation) → Decidable (Free state call operation)
  | .read _ => .isTrue fun _ _ _ _ _ wrong => nomatch wrong
  | .write write =>
      decidable_of_iff (∀ other ≠ call, ∀ earlier ∈ state.pending other, database.clashes earlier write = false)
        ⟨fun free other different earlier member _ same => Operation.write.inj same ▸ free other different earlier member,
          fun free other different earlier member => free other different earlier member write rfl⟩
  | .commit => .isTrue fun _ _ _ _ _ wrong => nomatch wrong

variable [Fintype C]

/-- A schedule names the call that goes on. A call that waits or that has ended stays where it is. -/
def advance (program : C → Program database.signature F A) (state : Store database C) :
    List C → List (C × database.Event) × (C → Program database.signature F A) × Store database C
  | [] => ([], program, state)
  | call :: rest =>
      match program call with
      | .perform operation next =>
          if Free state call operation then
            let answered := respond operation (state.tables, state.pending call)
            let later := advance (Function.update program call (next answered.1))
              ⟨answered.2.1, Function.update state.pending call answered.2.2⟩ rest
            ((call, ⟨operation, answered.1⟩) :: later.1, later.2)
          else advance program state rest
      | .done _ => advance program state rest
      | .raise _ => advance program state rest

/-- A schedule is a concurrent run. -/
theorem Concurrent.advance {state : Store database C} (run : Concurrent drifts tables trace state)
    (program : C → Program database.signature F A) (schedule : List C) :
    Concurrent drifts tables (trace ++ (Database.advance program state schedule).1)
      (Database.advance program state schedule).2.2 := by
  induction schedule generalizing trace state program with
  | nil => simpa [Database.advance] using run
  | cons call rest inductionHypothesis =>
      rw [Database.advance]
      split
      · next operation next same =>
          split
          · next free => simpa using inductionHypothesis (run.step (Step.of_respond free)) _
          · exact inductionHypothesis run program
      · exact inductionHypothesis run program
      · exact inductionHypothesis run program

theorem concurrent_advance (program : C → Program database.signature F A) (schedule : List C) :
    Concurrent drifts tables (advance program ⟨tables, fun _ => []⟩ schedule).1
      (advance program ⟨tables, fun _ => []⟩ schedule).2.2 :=
  Concurrent.advance .start program schedule

/-- This is what a call still has to do. -/
def remaining (program : C → Program database.signature F A) (state : Store database C) (schedule : List C)
    (call : C) : Program database.signature F A := (advance program state schedule).2.1 call

/-- What a call still has to do comes after its events. -/
theorem executes_advance (program : C → Program database.signature F A) (state : Store database C)
    (schedule : List C) {call : C} {later : List database.Event} {outcome : Except F A}
    (executed : Executes (remaining program state schedule call) later outcome) :
    Executes (program call) (eventsOf (advance program state schedule).1 call ++ later) outcome := by
  induction schedule generalizing program state with
  | nil => exact executed
  | cons first rest inductionHypothesis =>
      rw [remaining, advance] at executed
      rw [advance]
      split at executed
      · next operation next same =>
          split at executed
          · next free =>
              simp only [if_pos free]
              have rested := inductionHypothesis _ _ executed
              by_cases chosen : first = call
              · subst chosen
                rw [Function.update_self] at rested
                simp only [eventsOf, List.filter_cons_of_pos, decide_true, List.map_cons, same]
                exact ⟨_, _, rfl, rested⟩
              · rw [Function.update_of_ne (Ne.symm chosen)] at rested
                simpa [eventsOf, chosen] using rested
          · next blocked =>
              simp only [if_neg blocked]
              exact inductionHypothesis _ _ executed
      · exact inductionHypothesis _ _ executed
      · exact inductionHypothesis _ _ executed

/-- Every program can end, since every operation can fail. -/
theorem exists_executes (program : Program database.signature F A) :
    ∃ events outcome, Executes program events outcome := by
  induction program with
  | done value => exact ⟨[], _, rfl, rfl⟩
  | raise fault => exact ⟨[], _, rfl, rfl⟩
  | perform operation next inductionHypothesis =>
      obtain ⟨events, outcome, executed⟩ := inductionHypothesis none
      exact ⟨_, outcome, none, events, rfl, executed⟩

theorem begun_advance (program : C → Program database.signature F A) (state : Store database C)
    (schedule : List C) : Begun program (advance program state schedule).1 := by
  intro call
  obtain ⟨later, outcome, executed⟩ := exists_executes (remaining program state schedule call)
  exact ⟨later, outcome, executes_advance program state schedule executed⟩

theorem returned_advance {program : C → Program database.signature F A} {state : Store database C}
    {schedule : List C} {call : C} {value : A}
    (ended : (remaining program state schedule call).value = some value) :
    Returned program (advance program state schedule).1 call value := by
  have executed := executes_advance program state schedule (executes_of_value ended)
  rwa [List.append_nil] at executed

theorem failed_advance {program : C → Program database.signature F A} {state : Store database C}
    {schedule : List C} {call : C} {fault : F}
    (failed : (remaining program state schedule call).fault = some fault) :
    Executes (program call) (eventsOf (advance program state schedule).1 call) (.error fault) := by
  have executed := executes_advance program state schedule (executes_of_fault failed)
  rwa [List.append_nil] at executed

end Schedule

section Commits

variable {events later : List database.Event} {outcome : Except F A}

/-- An event is that of the first operation, or the first operation has answered before it. -/
theorem ask_event_cases {fault : F} {operation : database.Operation}
    {next : operation.Result → Program database.signature F A} {event : database.Event}
    (executed : Executes (ask fault operation >>= next) (events ++ event :: later) outcome) :
    (events = [] ∧ event.operation = operation) ∨
      ∃ result between, events = ⟨operation, some result⟩ :: between ∧
        Executes (next result) (between ++ event :: later) outcome := by
  rcases (executes_ask_bind _ _ _ _ _).mp executed with ⟨result, rest, same, continued⟩ | ⟨same, _⟩
  · cases events with
    | nil =>
        obtain ⟨rfl, _⟩ := List.cons.inj same
        exact .inl ⟨rfl, rfl⟩
    | cons first between =>
        obtain ⟨rfl, rfl⟩ := List.cons.inj same
        exact .inr ⟨result, between, rfl, continued⟩
  · cases events with
    | nil =>
        obtain ⟨rfl, _⟩ := List.cons.inj same
        exact .inl ⟨rfl, rfl⟩
    | cons first between =>
        obtain ⟨_, none⟩ := List.cons.inj same
        exact absurd none (by simp)

/-- An operation before the commit has answered. -/
theorem ask_before_commit {fault : F} {operation : database.Operation}
    {next : operation.Result → Program database.signature F A}
    (executed : Executes (ask fault operation >>= next) (events ++ committed :: later) outcome)
    (other : operation ≠ .commit) :
    ∃ result between, events = ⟨operation, some result⟩ :: between ∧
      Executes (next result) (between ++ committed :: later) outcome :=
  (ask_event_cases executed).resolve_left fun first => other first.2.symm

/-- Where a program ends with its commit, the commit is its last event. -/
theorem committed_of_last {fault : F} {value : A}
    (executed : Executes (ask fault .commit >>= fun _ => pure value) (events ++ committed :: later) outcome) :
    events = [] ∧ later = [] ∧ outcome = .ok value := by
  rcases (executes_ask_bind _ _ _ _ _).mp executed with ⟨result, rest, same, ended⟩ | ⟨same, _⟩
  · obtain ⟨rfl, rfl⟩ := ended
    obtain rfl : events = [] := List.append_eq_singleton_iff.mp same |>.elim (·.1) fun wrong => nomatch wrong.2
    exact ⟨rfl, (List.cons.inj same).2, rfl⟩
  · cases events with
    | nil =>
        obtain ⟨first, _⟩ := List.cons.inj same
        exact nomatch first
    | cons event between =>
        obtain ⟨_, none⟩ := List.cons.inj same
        exact absurd none (by simp)

theorem saveEvent_of_reads (reads : ∀ event ∈ events, Reads event.operation) :
    committed ∉ events ∧ events.foldl saveEvent [] = [] := by
  induction events with
  | nil => exact ⟨List.not_mem_nil, rfl⟩
  | cons event rest inductionHypothesis =>
      obtain ⟨query, read⟩ := reads event List.mem_cons_self
      obtain ⟨absent, nothing⟩ := inductionHypothesis fun later member => reads later (List.mem_cons_of_mem _ member)
      obtain ⟨operation, answer⟩ := event
      obtain rfl : operation = .read query := read
      constructor
      · intro member
        rcases List.mem_cons.mp member with same | later
        · cases same
        · exact absent later
      · cases answer <;> exact nothing

/-- A program ends before an event that it does not allow. -/
theorem executes_before {allowed : database.Operation → Prop} {program : Program database.signature F B}
    {next : B → Program database.signature F A} {event : database.Event} (inside : program.Within allowed)
    (outside : ¬ allowed event.operation) (executed : Executes (program >>= next) (events ++ event :: later) outcome) :
    ∃ first between value, events = first ++ between ∧ Executes program first (.ok value) ∧
      Executes (next value) (between ++ event :: later) outcome := by
  generalize whole : events ++ event :: later = all at executed
  rcases (executes_bind _ _ _ _).mp executed with ⟨fault, _, faulted⟩ | ⟨first, second, value, rfl, ended, continued⟩
  · have member : event ∈ all := whole ▸ List.mem_append_right _ List.mem_cons_self
    exact absurd (inside.events faulted event member) outside
  · rcases List.append_eq_append_iff.mp whole with ⟨rest, rfl, tail⟩ | ⟨between, rfl, tail⟩
    · cases rest with
      | nil =>
          rw [List.append_nil] at ended
          exact ⟨events, [], value, (List.append_nil _).symm, ended, by rwa [List.nil_append, tail, List.nil_append]⟩
      | cons other rest =>
          obtain ⟨rfl, _⟩ := List.cons.inj tail
          exact absurd (inside.events ended event (by simp)) outside
    · exact ⟨first, between, value, rfl, ended, tail ▸ continued⟩

/-- A program that only reads ends before an event that does not read. -/
theorem reads_before {program : Program database.signature F B} {next : B → Program database.signature F A}
    {event : database.Event} (reads : program.Within Reads) (changes : ¬ Reads event.operation)
    (executed : Executes (program >>= next) (events ++ event :: later) outcome) :
    ∃ first between value, events = first ++ between ∧ (∀ earlier ∈ first, Reads earlier.operation) ∧
      Executes (next value) (between ++ event :: later) outcome := by
  obtain ⟨first, between, value, same, ended, continued⟩ := executes_before reads changes executed
  exact ⟨first, between, value, same, reads.events ended, continued⟩

theorem not_reads_write (write : database.Write) : ¬ Reads (.write write : database.Operation) := by
  intro ⟨query, contrary⟩
  cases contrary

theorem not_reads_committed : ¬ Reads (@committed database).operation := nofun

/-- The operation leaves the transaction open. -/
def KeepsOpen (operation : database.Operation) : Prop := operation ≠ .commit

theorem keepsOpen_read (query : database.Query) : KeepsOpen (.read query : database.Operation) := nofun

theorem keepsOpen_write (write : database.Write) : KeepsOpen (.write write : database.Operation) := nofun

theorem not_keepsOpen_committed : ¬ KeepsOpen (@committed database).operation := fun different => different rfl

/-- A program that only reads ends before the commit. -/
theorem reads_before_commit {program : Program database.signature F B}
    {next : B → Program database.signature F A} (reads : program.Within Reads)
    (executed : Executes (program >>= next) (events ++ committed :: later) outcome) :
    ∃ first between value, events = first ++ between ∧ first.foldl saveEvent [] = [] ∧
      Executes (next value) (between ++ committed :: later) outcome := by
  obtain ⟨first, between, value, same, only, continued⟩ := reads_before reads not_reads_committed executed
  exact ⟨first, between, value, same, (saveEvent_of_reads only).2, continued⟩

end Commits

end Database

end Pxtly.Foundation
