/-
This file gives what a unique key of the tables guarantees where transactions interleave.
-/

import Pxtly.Foundation.Transactions

namespace Pxtly.Foundation.Database

variable {database : Database} {C K : Type} [DecidableEq C]
  {drifts : database.Tables → database.Tables → Prop} {tables : database.Tables}
  {trace : List (C × database.Event)} {state next : Store database C} {entry : C × database.Event} {call : C} {k : K}

section Commits

theorem eventsOf_append (first second : List (C × database.Event)) (call : C) :
    eventsOf (first ++ second) call = eventsOf first call ++ eventsOf second call := by
  simp [eventsOf]

/-- An event of a call stands in the trace between its other events. -/
theorem exists_split_of_eventsOf {event : database.Event} {earlier later : List database.Event}
    (same : eventsOf trace call = earlier ++ event :: later) :
    ∃ before after, trace = before ++ (call, event) :: after ∧ eventsOf before call = earlier ∧
      eventsOf after call = later := by
  induction trace generalizing earlier with
  | nil =>
      have empty : earlier ++ event :: later = [] := same.symm
      simp at empty
  | cons entry rest inductionHypothesis =>
      by_cases own : entry.1 = call
      · subst own
        have events : entry.2 :: eventsOf rest entry.1 = earlier ++ event :: later := by
          rw [← same]
          simp [eventsOf]
        cases earlier with
        | nil =>
            obtain ⟨first, others⟩ := List.cons.inj events
            exact ⟨[], rest, by rw [← first]; rfl, rfl, others⟩
        | cons first earlier =>
            obtain ⟨rfl, others⟩ := List.cons.inj events
            obtain ⟨before, after, rfl, rfl, rfl⟩ := inductionHypothesis others
            exact ⟨entry :: before, after, rfl, by simp [eventsOf], rfl⟩
      · have events : eventsOf rest call = earlier ++ event :: later := by
          rw [← same]
          simp [eventsOf, own]
        obtain ⟨before, after, rfl, rfl, rfl⟩ := inductionHypothesis events
        exact ⟨entry :: before, after, rfl, by simp [eventsOf, own], rfl⟩

variable (wants : database.Write → K → Prop)

/-- The call has a pending write that wants the key. -/
def Pends (state : Store database C) (call : C) (k : K) : Prop := ∃ write ∈ state.pending call, wants write k

/-- The call has committed a write that wants the key. -/
def Takes (trace : List (C × database.Event)) (call : C) (k : K) : Prop :=
  ∃ before after, trace = before ++ (call, committed) :: after ∧
    ∃ write ∈ (eventsOf before call).foldl saveEvent [], wants write k

variable {wants}

theorem Takes.concat (takes : Takes wants trace call k) : Takes wants (trace ++ [entry]) call k := by
  obtain ⟨before, after, rfl, written⟩ := takes
  exact ⟨before, after ++ [entry], by simp, written⟩

/-- The last event of a trace takes what was pending before. -/
theorem takes_of_pends (run : Concurrent drifts tables trace state) (pends : Pends wants state call k) :
    Takes wants (trace ++ [(call, committed)]) call k := by
  obtain ⟨write, member, same⟩ := pends
  exact ⟨trace, [], rfl, write, run.pending_eq call ▸ member, same⟩

theorem takes_concat_cases (run : Concurrent drifts tables trace state) (takes : Takes wants (trace ++ [entry]) call k) :
    Takes wants trace call k ∨ (entry = (call, committed) ∧ Pends wants state call k) := by
  obtain ⟨before, after, same, write, member, keyed⟩ := takes
  rcases List.eq_nil_or_concat after with rfl | ⟨after, last, rfl⟩
  · obtain ⟨rfl, single⟩ := List.append_inj' same rfl
    exact .inr ⟨List.singleton_injective single, write, (run.pending_eq call).symm ▸ member, keyed⟩
  · rw [List.concat_eq_append, ← List.cons_append, ← List.append_assoc] at same
    obtain ⟨rfl, _⟩ := List.append_inj' same rfl
    exact .inl ⟨before, after, rfl, write, member, keyed⟩

/-- What a transaction sees was in the tables, or one of its own writes wants it. -/
theorem view_cases {taken : database.Tables → K → Prop}
    (applied : ∀ tables write k, taken (database.apply tables write) k → taken tables k ∨ wants write k)
    {tables : database.Tables} {pending : List database.Write} (seen : taken (view tables pending) k) :
    taken tables k ∨ ∃ write ∈ pending, wants write k := by
  induction pending generalizing tables with
  | nil => exact .inl seen
  | cons write rest inductionHypothesis =>
      rcases inductionHypothesis seen with first | ⟨later, member, wanted⟩
      · exact (applied _ _ _ first).imp id fun wanted => ⟨write, List.mem_cons_self, wanted⟩
      · exact .inr ⟨later, List.mem_cons_of_mem _ member, wanted⟩

/-- What is in the tables was there at the start, or some call has committed it. -/
theorem Concurrent.taken_cases {taken : database.Tables → K → Prop} (run : Concurrent drifts tables trace state)
    (applied : ∀ tables write k, taken (database.apply tables write) k → taken tables k ∨ wants write k)
    (drifted : ∀ tables drifted k, drifts tables drifted → taken drifted k → taken tables k)
    (present : taken state.tables k) : taken tables k ∨ ∃ call, Takes wants trace call k := by
  induction run with
  | start => exact .inl present
  | drift run moved inductionHypothesis => exact inductionHypothesis (drifted _ _ _ moved present)
  | @step trace state next entry run step inductionHypothesis =>
      have earlier (before : taken state.tables k) : taken tables k ∨ ∃ call, Takes wants (trace ++ [entry]) call k := by
        rcases inductionHypothesis before with initial | ⟨call, takes⟩
        · exact .inl initial
        · exact .inr ⟨call, takes.concat⟩
      rcases step.tables_cases with same | ⟨commits, changed⟩
      · exact earlier (same ▸ present)
      · obtain ⟨call, event⟩ := entry
        obtain rfl : event = committed := commits
        rw [changed] at present
        rcases view_cases applied present with before | pends
        · exact earlier before
        · exact .inr ⟨call, takes_of_pends run pends⟩

end Commits

section Constraints

/-- The tables admit no write that wants a key which is taken. -/
structure UniqueKey (database : Database) (drifts : database.Tables → database.Tables → Prop) (K : Type) where
  wants : database.Write → K → Prop
  taken : database.Tables → K → Prop
  not_taken : ∀ {tables write k}, database.admits tables write = true → wants write k → ¬ taken tables k
  taken_cases : ∀ tables write k, taken (database.apply tables write) k → taken tables k ∨ wants write k
  taken_apply : ∀ {tables k} write, taken tables k → taken (database.apply tables write) k
  taken_of_wants : ∀ {tables write k}, (∀ other, wants write other → ¬ taken tables other) → wants write k →
    taken (database.apply tables write) k
  taken_drift : ∀ {tables drifted k}, drifts tables drifted → (taken drifted k ↔ taken tables k)
  clashes : ∀ {first second k}, wants first k → wants second k → database.clashes first second = true

variable (unique : UniqueKey database drifts K)

/-- The writes want no key twice. -/
def Apart (pending : List database.Write) : Prop :=
  pending.Pairwise fun first second => ∀ k, unique.wants first k → ¬ unique.wants second k

variable {unique}

theorem UniqueKey.taken_view {tables : database.Tables} (pending : List database.Write)
    (taken : unique.taken tables k) : unique.taken (view tables pending) k := by
  induction pending generalizing tables with
  | nil => exact taken
  | cons write rest inductionHypothesis => exact inductionHypothesis (unique.taken_apply write taken)

/-- Writes that want new keys, and none of them twice, take them all. -/
theorem Apart.taken_view {tables : database.Tables} {pending : List database.Write} (apart : Apart unique pending)
    (fresh : ∀ write ∈ pending, ∀ k, unique.wants write k → ¬ unique.taken tables k) :
    ∀ write ∈ pending, unique.wants write k → unique.taken (view tables pending) k := by
  induction pending generalizing tables with
  | nil => exact nofun
  | cons first rest inductionHypothesis =>
      obtain ⟨head, tail⟩ := List.pairwise_cons.mp apart
      have later : ∀ write ∈ rest, ∀ k, unique.wants write k → ¬ unique.taken (database.apply tables first) k := by
        intro write member k wanted taken
        rcases unique.taken_cases _ _ _ taken with before | wantedFirst
        · exact fresh write (List.mem_cons_of_mem _ member) k wanted before
        · exact head write member k wantedFirst wanted
      intro write member wanted
      rcases List.mem_cons.mp member with rfl | member
      · exact UniqueKey.taken_view rest (unique.taken_of_wants (fresh write List.mem_cons_self) wanted)
      · exact inductionHypothesis tail later write member wanted

variable (unique)

/-- No key is wanted twice by pending writes, and no pending write wants a key which is taken. -/
structure Exclusive (state : Store database C) : Prop where
  apart : ∀ call, Apart unique (state.pending call)
  fresh : ∀ call k, Pends unique.wants state call k → ¬ unique.taken state.tables k
  disjoint : ∀ first second k, Pends unique.wants state first k → Pends unique.wants state second k → first = second

variable {unique}

omit [DecidableEq C] in
/-- A commit takes the keys that its writes want. -/
theorem Exclusive.taken_view (exclusive : Exclusive unique state) (pends : Pends unique.wants state call k) :
    unique.taken (view state.tables (state.pending call)) k := by
  obtain ⟨write, member, wanted⟩ := pends
  refine (exclusive.apart call).taken_view ?_ write member wanted
  exact fun write member k wanted => exclusive.fresh call k ⟨write, member, wanted⟩

theorem pends_update {pending : List database.Write} {changed : database.Tables} {other : C}
    (pends : Pends unique.wants ⟨changed, Function.update state.pending call pending⟩ other k) :
    (other ≠ call ∧ Pends unique.wants state other k) ∨ (other = call ∧ ∃ write ∈ pending, unique.wants write k) := by
  obtain ⟨write, member, wanted⟩ := pends
  simp only at member
  by_cases own : other = call
  · subst own
    rw [Function.update_self] at member
    exact .inr ⟨rfl, write, member, wanted⟩
  · rw [Function.update_of_ne own] at member
    exact .inl ⟨own, write, member, wanted⟩

theorem apart_update {pending : List database.Write} (exclusive : Exclusive unique state) (own : Apart unique pending)
    (other : C) : Apart unique (Function.update state.pending call pending other) := by
  by_cases same : other = call
  · subst same
    rwa [Function.update_self]
  · rw [Function.update_of_ne same]
    exact exclusive.apart other

theorem Exclusive.of_write {write : database.Write} (exclusive : Exclusive unique state)
    (admitted : database.admits (view state.tables (state.pending call)) write = true)
    (free : ∀ other ≠ call, ∀ earlier ∈ state.pending other, database.clashes earlier write = false) :
    Exclusive unique
      { state with pending := Function.update state.pending call (state.pending call ++ [write]) } := by
  have notTaken {k : K} (wanted : unique.wants write k) : ¬ unique.taken (view state.tables (state.pending call)) k :=
    unique.not_taken admitted wanted
  have notWanted {other : C} {k : K} (pends : Pends unique.wants state other k) : ¬ unique.wants write k := by
    intro wanted
    by_cases own : other = call
    · subst own
      exact notTaken wanted (exclusive.taken_view pends)
    · obtain ⟨earlier, member, wantedEarlier⟩ := pends
      have clash := unique.clashes wantedEarlier wanted
      rw [free other own earlier member] at clash
      cases clash
  have cases {other : C} {k : K} (pends : Pends unique.wants
      { state with pending := Function.update state.pending call (state.pending call ++ [write]) } other k) :
      Pends unique.wants state other k ∨ (other = call ∧ unique.wants write k) := by
    rcases pends_update pends with ⟨_, old⟩ | ⟨rfl, later, member, wanted⟩
    · exact .inl old
    · rcases List.mem_append.mp member with old | new
      · exact .inl ⟨later, old, wanted⟩
      · exact .inr ⟨rfl, List.mem_singleton.mp new ▸ wanted⟩
  constructor
  · refine apart_update exclusive ?_
    refine List.pairwise_append.mpr ⟨exclusive.apart call, List.pairwise_singleton _ _, ?_⟩
    intro earlier member later single k wantedEarlier
    exact List.mem_singleton.mp single ▸ notWanted ⟨earlier, member, wantedEarlier⟩
  · intro other k pends taken
    rcases cases pends with old | ⟨_, wanted⟩
    · exact exclusive.fresh other k old taken
    · exact notTaken wanted (UniqueKey.taken_view _ taken)
  · intro first second k firstPends secondPends
    rcases cases firstPends with firstOld | ⟨rfl, firstWanted⟩
    · rcases cases secondPends with secondOld | ⟨_, secondWanted⟩
      · exact exclusive.disjoint first second k firstOld secondOld
      · exact absurd secondWanted (notWanted firstOld)
    · rcases cases secondPends with secondOld | ⟨rfl, _⟩
      · exact absurd firstWanted (notWanted secondOld)
      · rfl

/-- Where a call ends its transaction, the others still want keys of their own. -/
theorem Exclusive.of_end (exclusive : Exclusive unique state) {changed : database.Tables}
    (kept : ∀ k, unique.taken changed k → unique.taken state.tables k ∨ Pends unique.wants state call k) :
    Exclusive unique ⟨changed, Function.update state.pending call []⟩ := by
  have old {other : C} {k : K}
      (pends : Pends unique.wants ⟨changed, Function.update state.pending call []⟩ other k) :
      other ≠ call ∧ Pends unique.wants state other k :=
    (pends_update pends).resolve_right fun own => by simp at own
  constructor
  · exact apart_update exclusive List.Pairwise.nil
  · intro other k pends taken
    obtain ⟨different, pendsOld⟩ := old pends
    rcases kept k taken with before | own
    · exact exclusive.fresh other k pendsOld before
    · exact different (exclusive.disjoint other call k pendsOld own)
  · exact fun first second k firstPends secondPends =>
      exclusive.disjoint first second k (old firstPends).2 (old secondPends).2

theorem Exclusive.step (exclusive : Exclusive unique state) (step : Step state entry next) : Exclusive unique next := by
  cases step with
  | read => exact exclusive
  | write call write admitted free => exact exclusive.of_write admitted free
  | commit call => exact exclusive.of_end fun k taken => view_cases unique.taken_cases taken
  | fail call operation => exact exclusive.of_end fun k taken => .inl taken

theorem Concurrent.exclusive (run : Concurrent drifts tables trace state) : Exclusive unique state := by
  induction run with
  | start =>
      constructor
      · exact fun call => List.Pairwise.nil
      · intro call k ⟨_, member, _⟩
        cases member
      · intro first second k ⟨_, member, _⟩
        cases member
  | drift run moved inductionHypothesis =>
      refine ⟨inductionHypothesis.apart, ?_, inductionHypothesis.disjoint⟩
      exact fun call k pends taken => inductionHypothesis.fresh call k pends ((unique.taken_drift moved).mp taken)
  | step run step inductionHypothesis => exact inductionHypothesis.step step

/-- A key that a call has taken stays taken. -/
theorem Concurrent.taken_of_takes (run : Concurrent drifts tables trace state)
    (takes : Takes unique.wants trace call k) : unique.taken state.tables k := by
  induction run with
  | start =>
      obtain ⟨before, after, same, _⟩ := takes
      simp at same
  | drift run moved inductionHypothesis => exact (unique.taken_drift moved).mpr (inductionHypothesis takes)
  | @step trace state next entry run step inductionHypothesis =>
      rcases takes_concat_cases run takes with earlier | ⟨rfl, pends⟩
      · have before := inductionHypothesis earlier
        rcases step.tables_cases with same | ⟨_, changed⟩
        · exact same ▸ before
        · exact changed ▸ UniqueKey.taken_view _ before
      · cases step with
        | commit => exact Exclusive.taken_view run.exclusive pends

/-- No key is taken by two calls. -/
theorem Concurrent.takes_once (run : Concurrent drifts tables trace state) {first second : C}
    (firstTakes : Takes unique.wants trace first k) (secondTakes : Takes unique.wants trace second k) :
    first = second := by
  induction run with
  | start =>
      obtain ⟨before, after, same, _⟩ := firstTakes
      simp at same
  | drift run moved inductionHypothesis => exact inductionHypothesis firstTakes secondTakes
  | @step trace state next entry run step inductionHypothesis =>
      have exclusive : Exclusive unique state := run.exclusive
      rcases takes_concat_cases run firstTakes with firstEarlier | ⟨_, firstPends⟩
      · rcases takes_concat_cases run secondTakes with secondEarlier | ⟨_, secondPends⟩
        · exact inductionHypothesis firstEarlier secondEarlier
        · exact absurd (run.taken_of_takes firstEarlier) (exclusive.fresh second k secondPends)
      · rcases takes_concat_cases run secondTakes with secondEarlier | ⟨_, secondPends⟩
        · exact absurd (run.taken_of_takes secondEarlier) (exclusive.fresh first k firstPends)
        · exact exclusive.disjoint first second k firstPends secondPends

end Constraints

end Pxtly.Foundation.Database
