/-
This file gives how many rows calls can add that look for a row before they insert one.
-/

import Pxtly.Foundation.Histories

namespace Pxtly.Foundation.Database

open Program

variable {database : Database}

/-- Some writes may add one of the counted rows, and no write takes one away. -/
structure Counter (database : Database) where
  count : database.Tables → Nat
  Adds : database.Write → Prop
  keeps : ∀ tables write, ¬ Adds write → count (database.apply tables write) = count tables
  grows : ∀ tables write, count tables ≤ count (database.apply tables write) ∧
    count (database.apply tables write) ≤ count tables + 1

namespace Counter

variable (counter : Counter database) {tables : database.Tables} {pending : List database.Write}

theorem count_le_view (tables : database.Tables) (pending : List database.Write) :
    counter.count tables ≤ counter.count (view tables pending) := by
  induction pending generalizing tables with
  | nil => exact le_refl _
  | cons write rest inductionHypothesis =>
      exact le_trans (counter.grows tables write).1 (inductionHypothesis (database.apply tables write))

theorem count_view_of_keeps (others : ∀ write ∈ pending, ¬ counter.Adds write) :
    counter.count (view tables pending) = counter.count tables := by
  induction pending generalizing tables with
  | nil => rfl
  | cons write rest inductionHypothesis =>
      have first := counter.keeps tables write (others write List.mem_cons_self)
      have later := @inductionHypothesis (database.apply tables write) fun next member =>
        others next (List.mem_cons_of_mem _ member)
      rw [← first, ← later]
      rfl

/-- At most one of the writes adds a row. -/
def AddsOne (pending : List database.Write) : Prop :=
  ∃ first write last, pending = first ++ write :: last ∧ ∀ other ∈ first ++ last, ¬ counter.Adds other

theorem count_view_of_addsOne (one : counter.AddsOne pending) :
    counter.count (view tables pending) ≤ counter.count tables + 1 := by
  obtain ⟨first, write, last, rfl, others⟩ := one
  have before := @count_view_of_keeps _ counter tables first fun other member =>
    others other (List.mem_append_left _ member)
  have after := @count_view_of_keeps _ counter (database.apply (view tables first) write) last fun other member =>
    others other (List.mem_append_right _ member)
  have whole : view tables (first ++ write :: last) = view (database.apply (view tables first) write) last := by
    rw [view, List.foldl_append]
    rfl
  rw [whole, after, ← before]
  exact (counter.grows (view tables first) write).2

/-- The operation adds no row. -/
def Abstains (operation : database.Operation) : Prop := ∀ write, operation = .write write → ¬ counter.Adds write

theorem abstains_of_reads {operation : database.Operation} (reads : Reads operation) : counter.Abstains operation := by
  obtain ⟨query, rfl⟩ := reads
  intro write wrong
  cases wrong

theorem abstains_write {write : database.Write} (keeps : ¬ counter.Adds write) : counter.Abstains (.write write) := by
  intro other same
  obtain rfl := Operation.write.inj same
  exact keeps

theorem abstains_commit : counter.Abstains .commit := by
  intro write wrong
  cases wrong

end Counter

section Runs

variable {C F A : Type} (counter : Counter database) (lookup : database.Event) (Rival : C → Prop)
  (program : C → Program database.signature F A)

/-- Between the look-up of a call and its commit, no rival commits. -/
def Undisturbed (trace : List (C × database.Event)) : Prop :=
  ∀ before middle after caller other,
    trace = before ++ (caller, lookup) :: middle ++ (caller, committed) :: after →
      Rival other → (other, committed) ∉ middle

/-- The answer to the look-up tells that there is no row. -/
def FindsNone : Prop :=
  ∃ query result, lookup = ⟨.read query, some result⟩ ∧
    ∀ tables, result = database.answer query tables → counter.count tables = 0

/-- Only rivals add rows: one row for each commit, after a look-up that has found none. -/
structure ChecksFirst : Prop where
  findsNone : FindsNone counter lookup
  foreign : ∀ call, ¬ Rival call → (program call).Within counter.Abstains
  checked : ∀ call, Rival call → ∀ events later outcome, Executes (program call) (events ++ committed :: later) outcome →
    (∀ write ∈ events.foldl saveEvent [], ¬ counter.Adds write) ∨
      lookup ∈ events ∧ counter.AddsOne (events.foldl saveEvent [])

variable {counter lookup Rival program}

theorem Undisturbed.of_append {trace rest : List (C × database.Event)}
    (undisturbed : Undisturbed lookup Rival (trace ++ rest)) : Undisturbed lookup Rival trace := by
  intro before middle after caller other same
  subst same
  exact undisturbed before middle (after ++ rest) caller other (by simp)

variable [DecidableEq C] {drifts : database.Tables → database.Tables → Prop} {tables : database.Tables}
  {trace : List (C × database.Event)} {state : Store database C}

theorem ChecksFirst.pending_keeps (checks : ChecksFirst counter lookup Rival program)
    (run : Concurrent drifts tables trace state) (begun : Begun program trace) {call : C} (foreign : ¬ Rival call) :
    ∀ write ∈ state.pending call, ¬ counter.Adds write := by
  intro write member
  obtain ⟨later, outcome, executed⟩ := begun call
  have event := mem_eventsOf.mpr (run.mem_pending member)
  exact (checks.foreign call foreign).events executed _ (List.mem_append_left _ event) write rfl

/-- After a look-up that found nothing there is no row until a rival commits. -/
theorem ChecksFirst.no_row_since_lookup (checks : ChecksFirst counter lookup Rival program)
    (fewer : ∀ before after, drifts before after → counter.count after ≤ counter.count before)
    (run : Concurrent drifts tables trace state) (begun : Begun program trace)
    {before middle : List (C × database.Event)} {caller : C} (found : trace = before ++ (caller, lookup) :: middle)
    (quiet : ∀ other, Rival other → (other, committed) ∉ middle) : counter.count state.tables = 0 := by
  induction run generalizing middle with
  | start => simp at found
  | @drift trace state drifted run moved inductionHypothesis =>
      have earlier := inductionHypothesis begun found quiet
      have later := fewer _ _ moved
      show counter.count drifted = 0
      omega
  | @step trace state next entry run step inductionHypothesis =>
      rcases List.eq_nil_or_concat middle with rfl | ⟨middle, last, rfl⟩
      · obtain ⟨rfl, same⟩ := List.append_inj' found rfl
        obtain rfl : entry = (caller, lookup) := List.singleton_injective same
        obtain ⟨query, result, rfl, none⟩ := checks.findsNone
        obtain ⟨rfl, answer⟩ := Step.of_read step
        have zero := none _ answer
        have fewest := counter.count_le_view next.tables (next.pending caller)
        omega
      · rw [List.concat_eq_append, ← List.cons_append, ← List.append_assoc] at found
        obtain ⟨rfl, same⟩ := List.append_inj' found rfl
        obtain rfl : entry = last := List.singleton_injective same
        have unchanged := inductionHypothesis begun.of_concat rfl fun other rival member =>
          quiet other rival (by simp [member])
        rcases step.tables_cases with kept | ⟨commits, changed⟩
        · rw [kept, unchanged]
        · obtain ⟨call, event⟩ := entry
          obtain rfl : event = committed := commits
          have foreign : ¬ Rival call := fun rival => quiet call rival (by simp)
          rw [changed, counter.count_view_of_keeps (checks.pending_keeps run begun.of_concat foreign), unchanged]

/-- A rival that commits undisturbed adds the only row, or it adds none. -/
theorem ChecksFirst.count_after_commit (checks : ChecksFirst counter lookup Rival program)
    (fewer : ∀ before after, drifts before after → counter.count after ≤ counter.count before)
    (run : Concurrent drifts tables trace state) {caller : C} (begun : Begun program (trace ++ [(caller, committed)]))
    (undisturbed : Undisturbed lookup Rival (trace ++ [(caller, committed)])) (rival : Rival caller)
    (earlier : counter.count state.tables ≤ 1) :
    counter.count (view state.tables (state.pending caller)) ≤ 1 := by
  obtain ⟨later, outcome, executed⟩ := begun caller
  rw [eventsOf_concat_self, List.append_assoc] at executed
  rw [run.pending_eq caller]
  rcases checks.checked caller rival _ _ _ executed with keeps | ⟨lookedUp, one⟩
  · rwa [counter.count_view_of_keeps keeps]
  · obtain ⟨before, middle, split⟩ := List.append_of_mem (mem_eventsOf.mp lookedUp)
    have quiet (other : C) (rivals : Rival other) : (other, committed) ∉ middle :=
      undisturbed before middle [] caller other (by rw [split]) rivals
    have none := checks.no_row_since_lookup fewer run begun.of_concat split quiet
    have added := @Counter.count_view_of_addsOne _ counter state.tables _ one
    omega

/-- A look-up was answered from the tables and the pending writes of its moment. -/
theorem exists_state_of_read (run : Concurrent drifts tables trace state)
    {before after : List (C × database.Event)} {call : C} {query : database.Query} {result : database.Result query}
    (split : trace = before ++ (call, ⟨.read query, some result⟩) :: after) :
    ∃ moment, Concurrent drifts tables before moment ∧
      result = database.answer query (view moment.tables (moment.pending call)) := by
  induction run generalizing after with
  | start => simp at split
  | drift run moved inductionHypothesis => exact inductionHypothesis split
  | @step trace state next entry run step inductionHypothesis =>
      rcases List.eq_nil_or_concat after with rfl | ⟨after, last, rfl⟩
      · obtain ⟨rfl, same⟩ := List.append_inj' split rfl
        obtain rfl : entry = (call, ⟨.read query, some result⟩) := List.singleton_injective same
        exact ⟨state, run, (Step.of_read step).2⟩
      · rw [List.concat_eq_append, ← List.cons_append, ← List.append_assoc] at split
        exact inductionHypothesis (List.append_inj' split rfl).1

/-- There is at most one row in every state of a run whose rivals do not overlap. -/
theorem ChecksFirst.count_le_one (checks : ChecksFirst counter lookup Rival program)
    (fewer : ∀ before after, drifts before after → counter.count after ≤ counter.count before)
    (run : Concurrent drifts tables trace state) (begun : Begun program trace)
    (initial : counter.count tables ≤ 1) (undisturbed : Undisturbed lookup Rival trace) :
    counter.count state.tables ≤ 1 := by
  induction run with
  | start => exact initial
  | @drift trace state drifted run moved inductionHypothesis =>
      exact le_trans (fewer _ _ moved) (inductionHypothesis begun undisturbed)
  | @step trace state next entry run step inductionHypothesis =>
      have earlier := inductionHypothesis begun.of_concat undisturbed.of_append
      rcases step.tables_cases with kept | ⟨commits, changed⟩
      · rwa [kept]
      · obtain ⟨call, event⟩ := entry
        obtain rfl : event = committed := commits
        rw [changed]
        by_cases rival : Rival call
        · exact checks.count_after_commit fewer run begun undisturbed rival earlier
        · rwa [counter.count_view_of_keeps (checks.pending_keeps run begun.of_concat rival)]

omit [DecidableEq C] in
/-- Calls do not disturb each other where only one of them commits. -/
theorem undisturbed_of_one_commit {commits : database.Event → Bool} (counted : commits committed = true)
    (single : (trace.countP fun entry => commits entry.2) ≤ 1) : Undisturbed lookup Rival trace := by
  intro before middle after caller other same rival member
  subst same
  obtain ⟨first, rest, rfl⟩ := List.append_of_mem member
  simp only [List.countP_append, List.countP_cons, counted, if_true] at single
  omega

end Runs

end Pxtly.Foundation.Database
