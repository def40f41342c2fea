/-
This file gives an object that calls create once: each looks for it outside a lock and again under the lock.
-/

import Pxtly.Foundation.Interleavings

namespace Pxtly.Foundation

open Program

namespace SharedObject

/-- Calls look at the slot of an object, and create the object under a lock. -/
inductive Operation (R : Signature) (A : Type) where
  | look
  | acquire
  | create (operation : R.Operation)
  | assign (made : A)
  | release

abbrev Operation.Answer {R : Signature} {A : Type} : Operation R A → Type
  | .look => Option A
  | .acquire => Unit
  | .create operation => R.Answer operation
  | .assign _ => Unit
  | .release => Unit

abbrev signature (R : Signature) (A : Type) : Signature := ⟨Operation R A, Operation.Answer⟩

/-- The creation works on the world outside. -/
structure World (A E : Type) where
  slot : Option A
  held : Bool
  outside : E

variable {R : Signature} {A E F C : Type}

/-- The lock is taken when it is free. -/
inductive Responds (environs : (operation : R.Operation) → E → R.Answer operation → E → Prop) :
    (operation : Operation R A) → World A E → operation.Answer → World A E → Prop
  | look (world : World A E) : Responds environs .look world world.slot world
  | acquire (world : World A E) (free : world.held = false) :
      Responds environs .acquire world () { world with held := true }
  | create (world : World A E) (operation : R.Operation) (answer : R.Answer operation) (later : E)
      (answered : environs operation world.outside answer later) :
      Responds environs (.create operation) world answer { world with outside := later }
  | assign (world : World A E) (made : A) : Responds environs (.assign made) world () { world with slot := some made }
  | release (world : World A E) : Responds environs .release world () { world with held := false }

abbrev Creator (R : Signature) (F A B : Type) := Program (signature R A) F B

def create (construct : Program R F A) : Creator R F A A :=
  construct.expand fun operation => call (S := signature R A) (Operation.create operation)

/-- Under the lock, the slot is looked at again. -/
def underLock (construct : Program R F A) : Creator R F A Unit := do
  match ← call (S := signature R A) Operation.look with
  | some _ => return ()
  | none =>
      let made ← create construct
      call (S := signature R A) (Operation.assign made)

/-- The lock is released whatever the outcome is. -/
def leave (outcome : Except F Unit) : Creator R F A (Option A) := do
  call (S := signature R A) Operation.release
  lift outcome
  call (S := signature R A) Operation.look

/-- The slot is looked at without the lock first. -/
def getInstance (construct : Program R F A) : Creator R F A (Option A) := do
  match ← call (S := signature R A) Operation.look with
  | some _ => call (S := signature R A) Operation.look
  | none =>
      call (S := signature R A) Operation.acquire
      let outcome ← (underLock construct).attempt
      leave outcome

section Phases

/-- A call is somewhere in its program. -/
inductive Phase (R : Signature) (F A : Type) where
  | outside
  | waiting
  | entered
  | creating (rest : Program R F A)
  | leaving
  | behind
  | ended (found : Option A)
  | failed (fault : F)

variable (construct : Program R F A)

def Phase.program : Phase R F A → Creator R F A (Option A)
  | .outside => getInstance construct
  | .waiting => .perform .acquire fun _ => (underLock construct).attempt >>= leave
  | .entered => (underLock construct).attempt >>= leave
  | .creating rest =>
      (create rest >>= fun made => call (S := signature R A) (Operation.assign made)).attempt >>= leave
  | .leaving => leave (.ok ())
  | .behind => call (S := signature R A) Operation.look
  | .ended found => .done found
  | .failed fault => .raise fault

/-- A call goes from one phase to the next one with each event. -/
inductive Phase.Turn : Phase R F A → Event (signature R A) → Phase R F A → Prop
  | outside (found : Option A) : Turn .outside ⟨.look, found⟩ (if found.isSome then .behind else .waiting)
  | waiting : Turn .waiting ⟨.acquire, ()⟩ .entered
  | entered (found : Option A) : Turn .entered ⟨.look, found⟩ (if found.isSome then .leaving else .creating construct)
  | create (operation : R.Operation) (answer : R.Answer operation) (next : R.Answer operation → Program R F A) :
      Turn (.creating (.perform operation next)) ⟨.create operation, answer⟩ (.creating (next answer))
  | assign (made : A) : Turn (.creating (.done made)) ⟨.assign made, ()⟩ .leaving
  | fail (fault : F) : Turn (.creating (.raise fault)) ⟨.release, ()⟩ (.failed fault)
  | leaving : Turn .leaving ⟨.release, ()⟩ .behind
  | behind (found : Option A) : Turn .behind ⟨.look, found⟩ (.ended found)

theorem Phase.exists_turn {phase : Phase R F A} {operation : Operation R A}
    {next : operation.Answer → Creator R F A (Option A)} (awaits : phase.program construct = .perform operation next)
    (answer : operation.Answer) :
    ∃ later, Turn construct phase ⟨operation, answer⟩ later ∧ next answer = later.program construct := by
  cases phase with
  | outside =>
      obtain ⟨rfl, same⟩ := Program.perform.inj awaits
      obtain rfl := eq_of_heq same
      refine ⟨_, .outside answer, ?_⟩
      cases answer <;> rfl
  | waiting =>
      obtain ⟨rfl, same⟩ := Program.perform.inj awaits
      obtain rfl := eq_of_heq same
      exact ⟨_, .waiting, rfl⟩
  | entered =>
      obtain ⟨rfl, same⟩ := Program.perform.inj awaits
      obtain rfl := eq_of_heq same
      refine ⟨_, .entered answer, ?_⟩
      cases answer <;> rfl
  | creating rest =>
      cases rest with
      | done made =>
          obtain ⟨rfl, same⟩ := Program.perform.inj awaits
          obtain rfl := eq_of_heq same
          exact ⟨_, .assign made, rfl⟩
      | raise fault =>
          obtain ⟨rfl, same⟩ := Program.perform.inj awaits
          obtain rfl := eq_of_heq same
          exact ⟨_, .fail fault, rfl⟩
      | perform own continues =>
          obtain ⟨rfl, same⟩ := Program.perform.inj awaits
          obtain rfl := eq_of_heq same
          exact ⟨_, .create own answer continues, rfl⟩
  | leaving =>
      obtain ⟨rfl, same⟩ := Program.perform.inj awaits
      obtain rfl := eq_of_heq same
      exact ⟨_, .leaving, rfl⟩
  | behind =>
      obtain ⟨rfl, same⟩ := Program.perform.inj awaits
      obtain rfl := eq_of_heq same
      exact ⟨_, .behind answer, rfl⟩
  | ended found => cases awaits
  | failed fault => cases awaits

/-- In these phases a call has the lock. -/
def Phase.holds : Phase R F A → Bool
  | .entered | .creating _ | .leaving => true
  | _ => false

/-- A call creates nothing behind these phases. -/
def Phase.over : Phase R F A → Bool
  | .leaving | .behind | .ended _ | .failed _ => true
  | _ => false

/-- A call that creates has found the slot empty, and a call that goes out has found it filled. -/
def Phase.Fits (slot : Option A) : Phase R F A → Prop
  | .creating _ => slot = none
  | .leaving | .behind => slot ≠ none
  | .ended found => found = slot ∧ slot ≠ none
  | _ => True

/-- The events so far are those of a construction that goes on. -/
def Phase.Past (own : List (Event R)) : Phase R F A → Prop
  | .outside | .waiting | .entered => own = []
  | .creating rest => ∀ later outcome, Executes rest later outcome → Executes construct (own ++ later) outcome
  | .failed fault => Executes construct own (.error fault)
  | _ => True

/-- A call that has not ended waits for the answer to an operation, and with the lock it does not wait for the lock. -/
theorem Phase.exists_perform {phase : Phase R F A}
    (running : (∀ found, phase ≠ .ended found) ∧ ∀ fault, phase ≠ .failed fault) :
    ∃ operation next, phase.program construct = .perform operation next ∧
      (operation = .acquire → phase.holds = false) := by
  cases phase with
  | creating rest =>
      cases rest with
      | done made => exact ⟨_, _, rfl, nofun⟩
      | raise fault => exact ⟨_, _, rfl, nofun⟩
      | perform operation next => exact ⟨_, _, rfl, nofun⟩
  | outside => exact ⟨_, _, rfl, nofun⟩
  | waiting => exact ⟨_, _, rfl, fun _ => rfl⟩
  | entered => exact ⟨_, _, rfl, nofun⟩
  | leaving => exact ⟨_, _, rfl, nofun⟩
  | behind => exact ⟨_, _, rfl, nofun⟩
  | ended found => exact absurd rfl (running.1 found)
  | failed fault => exact absurd rfl (running.2 fault)

end Phases

section Traces

abbrev Trace (R : Signature) (A C : Type) := Pool.Trace (signature R A) C

/-- The owner has acquired the lock last and has not released it. -/
def ownerAfter (owner : Option C) (entry : C × Event (signature R A)) : Option C :=
  match entry.2.operation with
  | .acquire => some entry.1
  | .release => none
  | _ => owner

def owner (trace : Trace R A C) : Option C := trace.foldl ownerAfter none

def assigned : Event (signature R A) → Option A
  | ⟨.assign made, _⟩ => some made
  | _ => none

/-- These objects have gone into the slot. -/
def assignments (trace : Trace R A C) : List A := trace.filterMap fun entry => assigned entry.2

def creation : Event (signature R A) → Option (Event R)
  | ⟨.create operation, answer⟩ => some ⟨operation, answer⟩
  | _ => none

variable [DecidableEq C]

/-- These are the events of the construction by one call. -/
def creations (trace : Trace R A C) (call : C) : List (Event R) := (Pool.eventsOf trace call).filterMap creation

omit [DecidableEq C] in
theorem owner_concat (trace : Trace R A C) (entry : C × Event (signature R A)) :
    owner (trace ++ [entry]) = ownerAfter (owner trace) entry := List.foldl_concat ..

omit [DecidableEq C] in
theorem assignments_concat (trace : Trace R A C) (entry : C × Event (signature R A)) :
    assignments (trace ++ [entry]) = assignments trace ++ (assigned entry.2).toList := by
  rw [assignments, List.filterMap_append, assignments]
  cases made : assigned entry.2 <;> simp [made]

theorem creations_self (trace : Trace R A C) (call : C) (event : Event (signature R A)) :
    creations (trace ++ [(call, event)]) call = creations trace call ++ (creation event).toList := by
  rw [creations, Pool.eventsOf_append, List.filterMap_append, creations]
  cases made : creation event <;> simp [Pool.eventsOf, made]

theorem creations_of_ne (trace : Trace R A C) {call other : C} (different : other ≠ call)
    (event : Event (signature R A)) : creations (trace ++ [(call, event)]) other = creations trace other := by
  rw [creations, Pool.eventsOf_append, List.filterMap_append, creations]
  simp [Pool.eventsOf, Ne.symm different]

end Traces

section Turns

variable {construct : Program R F A} {phase later : Phase R F A} {event : Event (signature R A)}
  {environs : (operation : R.Operation) → E → R.Answer operation → E → Prop} {world next : World A E}

/-- A call has the lock between taking and releasing it. -/
theorem Phase.Turn.holds (turn : Phase.Turn construct phase event later) :
    match event.operation with
    | .acquire => later.holds = true
    | .release => phase.holds = true ∧ later.holds = false
    | _ => later.holds = phase.holds := by
  cases turn with
  | outside found => cases found <;> rfl
  | entered found => cases found <;> rfl
  | waiting => rfl
  | create operation answer next => rfl
  | assign made => rfl
  | fail fault => exact ⟨rfl, rfl⟩
  | leaving => exact ⟨rfl, rfl⟩
  | behind found => rfl

theorem Phase.Turn.fits (turn : Phase.Turn construct phase event later)
    (answered : Responds environs event.operation world event.answer next) (fits : phase.Fits world.slot) :
    later.Fits next.slot := by
  cases turn with
  | outside found =>
      cases answered
      obtain ⟨slot, held, outside⟩ := world
      cases slot with
      | none => trivial
      | some made => exact Option.some_ne_none made
  | entered found =>
      cases answered
      obtain ⟨slot, held, outside⟩ := world
      cases slot with
      | none => rfl
      | some made => exact Option.some_ne_none made
  | waiting => trivial
  | create operation answer rest =>
      cases answered
      exact fits
  | assign made =>
      cases answered
      exact nofun
  | fail fault => trivial
  | leaving =>
      cases answered
      exact fits
  | behind found =>
      cases answered
      exact ⟨rfl, fits⟩

/-- Only an assignment changes the slot, and the call that assigns has found the slot empty. -/
theorem Phase.Turn.slot (turn : Phase.Turn construct phase event later)
    (answered : Responds environs event.operation world event.answer next) (fits : phase.Fits world.slot) :
    (assigned event = none ∧ next.slot = world.slot) ∨
      ∃ made, assigned event = some made ∧ phase.holds = true ∧ world.slot = none ∧ next.slot = some made := by
  cases turn with
  | assign made =>
      cases answered
      exact .inr ⟨made, rfl, rfl, fits, rfl⟩
  | outside found =>
      cases answered
      exact .inl ⟨rfl, rfl⟩
  | entered found =>
      cases answered
      exact .inl ⟨rfl, rfl⟩
  | waiting =>
      cases answered
      exact .inl ⟨rfl, rfl⟩
  | create operation answer rest =>
      cases answered
      exact .inl ⟨rfl, rfl⟩
  | fail fault =>
      cases answered
      exact .inl ⟨rfl, rfl⟩
  | leaving =>
      cases answered
      exact .inl ⟨rfl, rfl⟩
  | behind found =>
      cases answered
      exact .inl ⟨rfl, rfl⟩

/-- A call that has no lock keeps what it knows while another one fills the slot. -/
theorem Phase.fits_filled (apart : phase.holds = false) (fits : phase.Fits none) (made : A) :
    phase.Fits (some made) := by
  cases phase with
  | creating rest => cases apart
  | leaving => cases apart
  | behind => exact absurd rfl fits
  | ended found => exact absurd rfl fits.2
  | outside => trivial
  | waiting => trivial
  | entered => trivial
  | failed fault => trivial

theorem Phase.Turn.past (turn : Phase.Turn construct phase event later) {own : List (Event R)}
    (past : phase.Past construct own) : later.Past construct (own ++ (creation event).toList) := by
  cases turn with
  | outside found =>
      obtain rfl : own = [] := past
      cases found <;> trivial
  | waiting =>
      obtain rfl : own = [] := past
      rfl
  | entered found =>
      obtain rfl : own = [] := past
      cases found with
      | none => exact fun later outcome executed => executed
      | some made => trivial
  | create operation answer next =>
      intro later outcome executed
      rw [List.append_assoc]
      exact past _ outcome ⟨answer, later, rfl, executed⟩
  | assign made => trivial
  | fail fault =>
      have ended := past [] (.error fault) ⟨rfl, rfl⟩
      exact ended
  | leaving => trivial
  | behind found => trivial

/-- A call that assigns has ended its construction. -/
theorem Phase.Turn.made (turn : Phase.Turn construct phase event later) {own : List (Event R)}
    (past : phase.Past construct own) {made : A} (assigns : assigned event = some made) :
    Executes construct own (.ok made) ∧ creation event = none ∧ later.over = true := by
  cases turn with
  | assign other =>
      obtain rfl := Option.some.inj assigns
      refine ⟨?_, rfl, rfl⟩
      rw [← List.append_nil own]
      exact past [] _ ⟨rfl, rfl⟩
  | outside found => cases assigns
  | waiting => cases assigns
  | entered found => cases assigns
  | create operation answer next => cases assigns
  | fail fault => cases assigns
  | leaving => cases assigns
  | behind found => cases assigns

theorem Phase.Turn.over (turn : Phase.Turn construct phase event later) (passed : phase.over = true) :
    creation event = none ∧ later.over = true := by
  cases turn with
  | leaving => exact ⟨rfl, rfl⟩
  | behind found => exact ⟨rfl, rfl⟩
  | outside found => cases passed
  | waiting => cases passed
  | entered found => cases passed
  | create operation answer next => cases passed
  | assign made => cases passed
  | fail fault => cases passed

end Turns

section Invariant

variable [DecidableEq C] {construct : Program R F A} {phases : C → Phase R F A} {labels : Trace R A C}
  {environs : (operation : R.Operation) → E → R.Answer operation → E → Prop}
  {pool next : Pool (signature R A) F (Option A) (World A E) C} {label : C × Event (signature R A)}

/-- The history tells the owner of the lock, the object in the slot, and what each call has created. -/
structure Kept (construct : Program R F A) (labels : Trace R A C)
    (pool : Pool (signature R A) F (Option A) (World A E) C) (phases : C → Phase R F A) : Prop where
  programs : ∀ call, pool.program call = (phases call).program construct
  held : pool.world.held = (owner labels).isSome
  holds : ∀ call, (phases call).holds = true ↔ owner labels = some call
  fits : ∀ call, (phases call).Fits pool.world.slot
  past : ∀ call, (phases call).Past construct (creations labels call)
  filled : assignments labels = pool.world.slot.toList
  makers : ∀ entry ∈ labels, ∀ made, assigned entry.2 = some made →
    Executes construct (creations labels entry.1) (.ok made) ∧ (phases entry.1).over = true

/-- A fact about each phase is kept where the call that goes on has it again, and the others keep it. -/
theorem forall_update (property : C → Phase R F A → Prop) {caller : C} {later : Phase R F A}
    (own : property caller later) (others : ∀ call, call ≠ caller → property call (phases call)) (call : C) :
    property call (Function.update phases caller later call) := by
  by_cases same : call = caller
  · subst same
    rwa [Function.update_self]
  · rw [Function.update_of_ne same]
    exact others call same

omit [DecidableEq C] in
theorem held_after {owner : Option C} {caller : C} {event : Event (signature R A)} {world next : World A E}
    (answered : Responds environs event.operation world event.answer next) (held : world.held = owner.isSome) :
    next.held = (ownerAfter owner (caller, event)).isSome := by
  obtain ⟨operation, answer⟩ := event
  cases answered with
  | look => exact held
  | acquire free => rfl
  | create operation answer later answered => exact held
  | assign made => exact held
  | release => rfl

/-- Exactly the owner is between taking and releasing the lock. -/
theorem Kept.holds_after (kept : Kept construct labels pool phases) {caller : C} {event : Event (signature R A)}
    {later : Phase R F A} {world : World A E} (turn : Phase.Turn construct (phases caller) event later)
    (answered : Responds environs event.operation pool.world event.answer world) (call : C) :
    (Function.update phases caller later call).holds = true ↔ ownerAfter (owner labels) (caller, event) = some call := by
  have turned := turn.holds
  have others : call ≠ caller → ((Function.update phases caller later call).holds = true ↔ owner labels = some call) := by
    intro different
    rw [Function.update_of_ne different]
    exact kept.holds call
  obtain ⟨operation, answer⟩ := event
  by_cases same : call = caller
  · subst same
    rw [Function.update_self]
    cases operation with
    | acquire => exact iff_of_true turned rfl
    | release => exact iff_of_false (by rw [turned.2]; nofun) nofun
    | look => exact (congrArg (· = true) turned).to_iff.trans (kept.holds call)
    | create operation => exact (congrArg (· = true) turned).to_iff.trans (kept.holds call)
    | assign made => exact (congrArg (· = true) turned).to_iff.trans (kept.holds call)
  · rw [others same]
    cases operation with
    | acquire =>
        -- The lock was free, so nobody has it but the caller.
        have free : owner labels = none := by
          cases answered with
          | acquire _ free => rwa [kept.held, Option.isSome_eq_false_iff, Option.isNone_iff_eq_none] at free
        rw [free]
        exact iff_of_false nofun fun mine => same (Option.some.inj mine).symm
    | release =>
        have mine := (kept.holds caller).mp turned.1
        rw [mine]
        exact iff_of_false (fun other => same (Option.some.inj other).symm) nofun
    | look => exact Iff.rfl
    | create operation => exact Iff.rfl
    | assign made => exact Iff.rfl

theorem Kept.step (kept : Kept construct labels pool phases) (taken : Pool.Step (Responds environs) pool label next) :
    ∃ phases, Kept construct (labels ++ [label]) next phases := by
  cases taken with
  | perform caller operation answer rest world awaits answered =>
      obtain ⟨later, turn, continues⟩ :=
        Phase.exists_turn construct ((kept.programs caller).symm.trans awaits) answer
      have slot := turn.slot answered (kept.fits caller)
      refine ⟨Function.update phases caller later, ?_, ?_, ?_, ?_, ?_, ?_, ?_⟩
      · intro call
        by_cases same : call = caller
        · subst same
          simpa only [Function.update_self] using continues
        · simpa only [Function.update_of_ne same] using kept.programs call
      · rw [owner_concat]
        exact held_after answered kept.held
      · rw [owner_concat]
        exact kept.holds_after turn answered
      · rcases slot with ⟨_, same⟩ | ⟨made, _, owns, empty, filled⟩
        · refine forall_update (fun _ phase => phase.Fits world.slot)
            (turn.fits answered (kept.fits caller)) fun call _ => ?_
          rw [same]
          exact kept.fits call
        · refine forall_update (fun _ phase => phase.Fits world.slot)
            (turn.fits answered (kept.fits caller)) fun call different => ?_
          have apart : (phases call).holds = false := by
            rw [Bool.eq_false_iff]
            intro holds
            have first := (kept.holds call).mp holds
            rw [(kept.holds caller).mp owns] at first
            exact different (Option.some.inj first).symm
          have fits := kept.fits call
          rw [empty] at fits
          rw [filled]
          exact Phase.fits_filled apart fits made
      · intro call
        by_cases same : call = caller
        · subst same
          rw [creations_self, Function.update_self]
          exact turn.past (kept.past call)
        · rw [creations_of_ne _ same, Function.update_of_ne same]
          exact kept.past call
      · rw [assignments_concat, kept.filled]
        rcases slot with ⟨quiet, same⟩ | ⟨made, assigns, _, empty, filled⟩
        · simp [quiet, same]
        · simp [assigns, empty, filled]
      · intro entry member made assigns
        rcases List.mem_append.mp member with earlier | last
        · obtain ⟨ended, passed⟩ := kept.makers entry earlier made assigns
          by_cases same : entry.1 = caller
          · rw [same] at ended passed
            obtain ⟨quiet, still⟩ := turn.over passed
            rw [same, creations_self, quiet, Option.toList_none, List.append_nil, Function.update_self]
            exact ⟨ended, still⟩
          · rw [creations_of_ne _ same, Function.update_of_ne same]
            exact ⟨ended, passed⟩
        · obtain rfl := List.mem_singleton.mp last
          obtain ⟨ended, quiet, passed⟩ := turn.made (kept.past caller) assigns
          rw [creations_self, quiet, Option.toList_none, List.append_nil, Function.update_self]
          exact ⟨ended, passed⟩

/-- Whatever a call creates, it creates with the lock and before there is an object. -/
theorem Kept.creates (kept : Kept construct labels pool phases) (taken : Pool.Step (Responds environs) pool label next)
    {operation : R.Operation} (creates : label.2.operation = .create operation) :
    owner labels = some label.1 ∧ assignments labels = [] := by
  cases taken with
  | perform caller performed answer rest world awaits answered =>
      obtain rfl : performed = .create operation := creates
      obtain ⟨later, turn, _⟩ := Phase.exists_turn construct ((kept.programs caller).symm.trans awaits) answer
      have fits := kept.fits caller
      have holds := kept.holds caller
      rw [kept.filled]
      generalize phases caller = phase at turn fits holds
      cases turn with
      | create operation answer next =>
          have empty : pool.world.slot = none := fits
          rw [empty]
          exact ⟨holds.mp rfl, rfl⟩

theorem Kept.found (kept : Kept construct labels pool phases) {call : C} {found : Option A}
    (ended : pool.program call = .done found) : ∃ made, found = some made ∧ assignments labels = [made] := by
  have program := kept.programs call
  have fits := kept.fits call
  rw [ended] at program
  rw [kept.filled]
  generalize phases call = phase at program fits
  cases phase with
  | ended last =>
      obtain rfl := Program.done.inj program
      obtain ⟨rfl, filled⟩ := fits
      obtain ⟨made, slot⟩ := Option.ne_none_iff_exists'.mp filled
      exact ⟨made, slot, by rw [slot]; rfl⟩
  | creating rest => cases rest <;> cases program
  | outside => cases program
  | waiting => cases program
  | entered => cases program
  | leaving => cases program
  | behind => cases program
  | failed fault => cases program

theorem Kept.failed (kept : Kept construct labels pool phases) {call : C} {fault : F}
    (ended : pool.program call = .raise fault) : Executes construct (creations labels call) (.error fault) := by
  have program := kept.programs call
  have past := kept.past call
  rw [ended] at program
  generalize phases call = phase at program past
  cases phase with
  | failed last =>
      obtain rfl := Program.raise.inj program
      exact past
  | creating rest => cases rest <;> cases program
  | outside => cases program
  | waiting => cases program
  | entered => cases program
  | leaving => cases program
  | behind => cases program
  | ended found => cases program

omit [DecidableEq C] in
theorem exists_responds (total : ∀ operation outside, ∃ answer later, environs operation outside answer later)
    (operation : Operation R A) (world : World A E) (free : operation = .acquire → world.held = false) :
    ∃ answer next, Responds environs operation world answer next := by
  cases operation with
  | look => exact ⟨_, _, .look world⟩
  | acquire => exact ⟨_, _, .acquire world (free rfl)⟩
  | create operation =>
      obtain ⟨answer, later, answered⟩ := total operation world.outside
      exact ⟨_, _, .create world operation answer later answered⟩
  | assign made => exact ⟨_, _, .assign world made⟩
  | release => exact ⟨_, _, .release world⟩

/-- While a call has not ended, some call can go on. -/
theorem Kept.progress (kept : Kept construct labels pool phases)
    (total : ∀ operation outside, ∃ answer later, environs operation outside answer later) {call : C}
    (running : (∀ found, pool.program call ≠ .done found) ∧ ∀ fault, pool.program call ≠ .raise fault) :
    ∃ label next, Pool.Step (Responds environs) pool label next := by
  have goes (other : C) (active : (∀ found, phases other ≠ .ended found) ∧ ∀ fault, phases other ≠ .failed fault)
      (apart : (phases other).holds = false → pool.world.held = false) :
      ∃ label next, Pool.Step (Responds environs) pool label next := by
    obtain ⟨operation, next, program, waits⟩ := Phase.exists_perform construct active
    obtain ⟨answer, world, answered⟩ := exists_responds total operation pool.world fun same => apart (waits same)
    exact ⟨_, _, .perform other operation answer next world ((kept.programs other).trans program) answered⟩
  cases held : pool.world.held with
  | false =>
      refine goes call ⟨fun found same => running.1 found ?_, fun fault same => running.2 fault ?_⟩ fun _ => held
      · rw [kept.programs, same]
        rfl
      · rw [kept.programs, same]
        rfl
  | true =>
      rw [kept.held] at held
      obtain ⟨other, owns⟩ := Option.isSome_iff_exists.mp held
      have holds := (kept.holds other).mpr owns
      refine goes other ⟨fun found same => ?_, fun fault same => ?_⟩ fun apart => ?_
      · rw [same] at holds
        cases holds
      · rw [same] at holds
        cases holds
      · rw [holds] at apart
        cases apart

variable {start final : Pool (signature R A) F (Option A) (World A E) C}
  {moments : List (Moment (Pool (signature R A) F (Option A) (World A E) C) (C × Event (signature R A)))}

/-- In a run from the empty slot and the free lock, the history tells all this at its end and at each of its moments. -/
theorem kept_of_run (run : Runs (Pool.Step (Responds environs)) start moments final)
    (fresh : start.world.slot = none ∧ start.world.held = false)
    (programs : ∀ call, start.program call = getInstance construct) :
    (∃ phases, Kept construct (Pool.traceOf moments) final phases) ∧
      ∀ earlier moment later, moments = earlier ++ moment :: later →
        ∃ phases, Kept construct (Pool.traceOf earlier) moment.state phases := by
  have initial : ∃ phases, Kept construct [] start phases := by
    refine ⟨fun _ => .outside, programs, fresh.2, fun call => iff_of_false nofun nofun, fun call => trivial,
      fun call => rfl, ?_, nofun⟩
    rw [fresh.1]
    rfl
  exact run.keeps_history (fun labels pool => ∃ phases, Kept construct labels pool phases)
    (fun labels pool label next taken held => held.choose_spec.step taken) [] initial


end Invariant

end SharedObject

end Pxtly.Foundation
