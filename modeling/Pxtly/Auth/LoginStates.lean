/-
This file gives the login states that the callbacks of the identity provider take from the store, over all
interleavings of the callbacks.
-/

import Mathlib.Data.Fintype.Basic
import Pxtly.Auth.Tokens
import Pxtly.Foundation.Interleavings

namespace Pxtly.Auth.LoginStates

open Foundation Program
open Pool (traceOf)

abbrev TokenSet := List (String × Json)

/-- The router turns a `ValueError` of the exchange into a response. -/
inductive Raised where
  | valueError (message : String)
  | other

inductive StateStep where
  | setex (key : String) (lifetime : Nat) (value : String)
  | get (key : String)
  | delete (key : String)
  | exchangeCode (code redirectURI codeVerifier : String)
  deriving DecidableEq

/-- A command to the store that has no answer has failed. -/
abbrev StateStep.Answer : StateStep → Type
  | .setex .. => Option Unit
  | .get _ => Option (Option String)
  | .delete _ => Option Unit
  | .exchangeCode .. => Except Raised TokenSet

def stateSignature : Signature where
  Operation := StateStep
  Answer := StateStep.Answer

abbrev StateEvent := Program.Event stateSignature

inductive CallbackFault where
  | http (status : Nat) (detail : String)
  | redisError
  | unpacking
  | other
  deriving DecidableEq

abbrev StateProgram (A : Type) := Program stateSignature CallbackFault A

def stateTTL : Nat := 300

def stateKey (state : String) : String := "oidc:state:" ++ state

theorem stateKey_inj {first second : String} (same : stateKey first = stateKey second) : first = second :=
  String.append_right_inj _ |>.mp same

def stateValue (codeVerifier redirectAfter : String) : String := codeVerifier ++ "|" ++ redirectAfter

/-- The login keeps the state and the verifier that it has drawn for the callback. -/
def oidcLogin (state codeVerifier redirectAfter : String) : StateProgram Unit :=
  .perform (.setex (stateKey state) stateTTL (stateValue codeVerifier redirectAfter)) fun
    | some () => .done ()
    | none => .raise .redisError

structure Callback where
  code : String
  state : String

/-- `code_verifier, _redirect_after = raw.split("|", 1)` -/
def verifierOf (raw : String) : Option String :=
  if '|' ∈ raw.toList then some (String.ofList (raw.toList.takeWhile (· ≠ '|'))) else none

section Router

variable (callbackURL : String)

def exchangeFault : Raised → CallbackFault
  | .valueError message => .http 401 message
  | .other => .other

/-- What follows on the deletion of the state: the code is exchanged with the verifier. -/
def redeem (callback : Callback) (raw : String) : StateProgram TokenSet :=
  match verifierOf raw with
  | none => .raise .unpacking
  | some codeVerifier =>
      .perform (.exchangeCode callback.code callbackURL codeVerifier) fun answer => lift (answer.mapError exchangeFault)

/-- What follows on the check of the state. -/
def spend (callback : Callback) (raw : String) : StateProgram TokenSet :=
  .perform (.delete (stateKey callback.state)) fun
    | none => .raise .redisError
    | some () => redeem callbackURL callback raw

def invalidState : CallbackFault := .http 400 "Invalid or expired state parameter."

/-- The callback up to the tokens, with which it then finds the user and opens the session. -/
def oidcCallback (callback : Callback) : StateProgram TokenSet :=
  .perform (.get (stateKey callback.state)) fun
    | none => .raise .redisError
    | some none => .raise invalidState
    | some (some raw) => if raw = "" then .raise invalidState else spend callbackURL callback raw

end Router

abbrev States := String → Option String

/-- Entries may expire at any time. -/
def Fades (states later : States) : Prop := ∀ key, later key = states key ∨ later key = none

/-- A command that fails has changed nothing, or only its reply was lost; the store answers the others atomically. -/
inductive Responds : (step : StateStep) → States → step.Answer → States → Prop where
  | set {states later : States} (key : String) (lifetime : Nat) (value : String)
      (fades : Fades (Function.update states key (some value)) later) : Responds (.setex key lifetime value) states (some ()) later
  | setLost {states later : States} (key : String) (lifetime : Nat) (value : String)
      (fades : Fades states later ∨ Fades (Function.update states key (some value)) later) :
      Responds (.setex key lifetime value) states none later
  | got {states later : States} (key : String) (fades : Fades states later) :
      Responds (.get key) states (some (later key)) later
  | getLost {states later : States} (key : String) (fades : Fades states later) : Responds (.get key) states none later
  | deleted {states later : States} (key : String) (fades : Fades states later) (gone : later key = none) :
      Responds (.delete key) states (some ()) later
  | deleteLost {states later : States} (key : String) (fades : Fades states later) :
      Responds (.delete key) states none later
  | exchanged {states later : States} (code redirectURI codeVerifier : String) (answer : Except Raised TokenSet)
      (fades : Fades states later) : Responds (.exchangeCode code redirectURI codeVerifier) states answer later

theorem fades_refl (states : States) : Fades states states := fun _ => .inl rfl

theorem Fades.trans {first second third : States} (before : Fades first second) (after : Fades second third) :
    Fades first third := by
  intro key
  rcases after key with same | gone
  · rw [same]
    exact before key
  · exact .inr gone

/-- The callback reads back the verifier that the login has drawn, which contains no bar. -/
theorem verifierOf_login {codeVerifier : String} (plain : '|' ∉ codeVerifier.toList) (redirectAfter : String) :
    verifierOf (stateValue codeVerifier redirectAfter) = some codeVerifier := by
  have bar : "|".toList = ['|'] := by decide
  have every : ∀ letter ∈ codeVerifier.toList, decide (letter ≠ '|') = true := by
    intro letter member
    exact decide_eq_true fun same => plain (same ▸ member)
  rw [verifierOf, stateValue, String.toList_append, String.toList_append, bar, if_pos (by simp), List.append_assoc,
    List.takeWhile_append_of_pos every, List.singleton_append, List.takeWhile_cons_of_neg (by simp), List.append_nil,
    String.ofList_toList]

section Consumption

variable {C : Type} [DecidableEq C] {callbackURL : String} {request : C → Callback} {stored : States}

abbrev Callbacks (C : Type) := Pool stateSignature CallbackFault TokenSet States C

/-- All callbacks are still to begin, and the logins have stored their states before. -/
def Callbacks.fresh (callbackURL : String) (request : C → Callback) (stored : States) : Callbacks C where
  world := stored
  program call := oidcCallback callbackURL (request call)

def nextStep : StateProgram TokenSet → Option StateStep
  | .perform step _ => some step
  | .done _ => none
  | .raise _ => none

/-- A state is not read while another callback that has read it is still to delete it. -/
def Undisturbed (pool : Callbacks C) (label : C × StateEvent) : Prop :=
  ∀ key raw, label.2 = ⟨.get key, some (some raw)⟩ →
    ∀ other, other ≠ label.1 → nextStep (pool.program other) ≠ some (.delete key)

instance [Fintype C] (pool : Callbacks C) : (label : C × StateEvent) → Decidable (Undisturbed pool label)
  | (call, ⟨.get key, some (some raw)⟩) =>
      decidable_of_iff (∀ other, other ≠ call → nextStep (pool.program other) ≠ some (.delete key))
        ⟨fun free key raw read => by cases read; exact free, fun undisturbed => undisturbed key raw rfl⟩
  | (_, ⟨.get _, none⟩) => isTrue fun _ _ read => by cases read
  | (_, ⟨.get _, some none⟩) => isTrue fun _ _ read => by cases read
  | (_, ⟨.setex .., _⟩) => isTrue fun _ _ read => by cases read
  | (_, ⟨.delete _, _⟩) => isTrue fun _ _ read => by cases read
  | (_, ⟨.exchangeCode .., _⟩) => isTrue fun _ _ read => by cases read

def StateStep.exchanges : StateStep → Bool
  | .exchangeCode .. => true
  | _ => false

/-- A callback that has passed the check of the state is still to delete it or to exchange its code. -/
def StateStep.spends : StateStep → Bool
  | .delete _ => true
  | .exchangeCode .. => true
  | _ => false

/-- These entries exchange a code for the callbacks that carry the state. -/
def exchanges (request : C → Callback) (state : String) (trace : Pool.Trace stateSignature C) : Pool.Trace stateSignature C :=
  trace.filter fun entry => (request entry.1).state = state ∧ entry.2.operation.exchanges

/-- A callback is in one of these stages, and what it has read was stored before. -/
inductive Stage (callbackURL : String) (stored : States) (callback : Callback) : StateProgram TokenSet → Prop where
  | begun : Stage callbackURL stored callback (oidcCallback callbackURL callback)
  | checked (raw : String) (kept : stored (stateKey callback.state) = some raw) :
      Stage callbackURL stored callback (spend callbackURL callback raw)
  | deleted (raw : String) (kept : stored (stateKey callback.state) = some raw) :
      Stage callbackURL stored callback (redeem callbackURL callback raw)
  | ended (value : TokenSet) : Stage callbackURL stored callback (.done value)
  | failed (fault : CallbackFault) : Stage callbackURL stored callback (.raise fault)

/-- This is all that an operation of a callback can lead to. -/
inductive Advance (callbackURL : String) (stored : States) (callback : Callback) (later : States) :
    StateEvent → StateProgram TokenSet → Prop where
  | refused (answer : Option (Option String)) (fault : CallbackFault) :
      Advance callbackURL stored callback later ⟨.get (stateKey callback.state), answer⟩ (.raise fault)
  | checked (raw : String) (kept : stored (stateKey callback.state) = some raw)
      (present : later (stateKey callback.state) ≠ none) :
      Advance callbackURL stored callback later ⟨.get (stateKey callback.state), some (some raw)⟩
        (spend callbackURL callback raw)
  | lost : Advance callbackURL stored callback later ⟨.delete (stateKey callback.state), none⟩ (.raise .redisError)
  | deleted (raw : String) (kept : stored (stateKey callback.state) = some raw)
      (gone : later (stateKey callback.state) = none) :
      Advance callbackURL stored callback later ⟨.delete (stateKey callback.state), some ()⟩
        (redeem callbackURL callback raw)
  | exchanged (raw codeVerifier : String) (kept : stored (stateKey callback.state) = some raw)
      (read : verifierOf raw = some codeVerifier) (answer : Except Raised TokenSet) :
      Advance callbackURL stored callback later ⟨.exchangeCode callback.code callbackURL codeVerifier, answer⟩
        (lift (answer.mapError exchangeFault))

theorem Advance.stage {callback : Callback} {later : States} {event : StateEvent} {program : StateProgram TokenSet}
    (advance : Advance callbackURL stored callback later event program) : Stage callbackURL stored callback program := by
  cases advance with
  | refused answer fault => exact .failed fault
  | checked raw kept present => exact .checked raw kept
  | lost => exact .failed _
  | deleted raw kept gone => exact .deleted raw kept
  | exchanged raw codeVerifier kept read answer =>
      cases answer with
      | ok tokens => exact .ended tokens
      | error fault => exact .failed _

theorem Responds.fades {step : StateStep} {states later : States} {answer : step.Answer}
    (answered : Responds step states answer later) (callback : step.spends ∨ ∃ key, step = .get key) :
    Fades states later := by
  cases answered with
  | set key lifetime value fades => simp [StateStep.spends] at callback
  | setLost key lifetime value fades => simp [StateStep.spends] at callback
  | got key fades => exact fades
  | getLost key fades => exact fades
  | deleted key fades gone => exact fades
  | deleteLost key fades => exact fades
  | exchanged code redirectURI codeVerifier answer fades => exact fades

theorem Stage.advance {callback : Callback} {program : StateProgram TokenSet}
    (stage : Stage callbackURL stored callback program) {step : StateStep}
    {next : step.Answer → StateProgram TokenSet} (awaits : program = .perform step next) {states later : States}
    (faded : Fades stored states) {answer : step.Answer} (answered : Responds step states answer later) :
    Advance callbackURL stored callback later ⟨step, answer⟩ (next answer) := by
  cases stage with
  | begun =>
      cases awaits
      cases answered with
      | got key fades =>
          cases found : later (stateKey callback.state) with
          | none => exact .refused _ _
          | some raw =>
              dsimp only
              split
              · exact .refused _ _
              · refine .checked raw ?_ (by simp [found])
                rcases faded.trans fades (stateKey callback.state) with same | gone
                · rw [← same, found]
                · rw [found] at gone
                  cases gone
      | getLost key fades => exact .refused _ _
  | checked raw kept =>
      cases awaits
      cases answered with
      | deleted key fades gone => exact .deleted raw kept gone
      | deleteLost key fades => exact .lost
  | deleted raw kept =>
      unfold redeem at awaits
      split at awaits
      · cases awaits
      · next codeVerifier read =>
          cases awaits
          exact .exchanged raw codeVerifier kept read answer
  | ended value => cases awaits
  | failed fault => cases awaits

def Claims (request : C → Callback) (state : String) (pool : Callbacks C) (call : C) : Prop :=
  (request call).state = state ∧ ∃ step ∈ nextStep (pool.program call), step.spends

def Redeems (request : C → Callback) (state : String) (pool : Callbacks C) (call : C) : Prop :=
  (request call).state = state ∧ ∃ step ∈ nextStep (pool.program call), step.exchanges

/-- At most one callback claims the state, and the state is gone before its code is exchanged. -/
structure Consumed (callbackURL : String) (request : C → Callback) (stored : States) (state : String)
    (trace : Pool.Trace stateSignature C) (pool : Callbacks C) : Prop where
  stages : ∀ call, Stage callbackURL stored (request call) (pool.program call)
  faded : Fades stored pool.world
  single : ∀ first second, Claims request state pool first → Claims request state pool second → first = second
  gone : (exchanges request state trace ≠ [] ∨ ∃ call, Redeems request state pool call) → pool.world (stateKey state) = none
  spent : exchanges request state trace ≠ [] →
    (exchanges request state trace).length = 1 ∧ ∀ call, ¬ Claims request state pool call
  verified : ∀ entry ∈ exchanges request state trace, ∃ raw code codeVerifier answer, stored (stateKey state) = some raw ∧
    verifierOf raw = some codeVerifier ∧ entry.2 = ⟨.exchangeCode code callbackURL codeVerifier, answer⟩

variable {state : String} {trace : Pool.Trace stateSignature C} {pool next : Callbacks C} {label : C × StateEvent}

omit [DecidableEq C] in
theorem Redeems.claims {call : C} (redeems : Redeems request state pool call) : Claims request state pool call := by
  obtain ⟨same, step, awaits, exchanges⟩ := redeems
  refine ⟨same, step, awaits, ?_⟩
  cases step with
  | setex key lifetime value => cases exchanges
  | get key => cases exchanges
  | delete key => cases exchanges
  | exchangeCode code redirectURI codeVerifier => rfl

theorem exchanges_of_redeem {callback : Callback} {raw : String} :
    ∀ step ∈ nextStep (redeem callbackURL callback raw), step.exchanges := by
  unfold redeem
  split
  · exact nofun
  · rintro step ⟨⟩
    rfl

omit [DecidableEq C] in
/-- A callback that claims the state without exchanging its code is still to delete the state. -/
theorem Claims.redeems_or {call : C} (claims : Claims request state pool call)
    (stage : Stage callbackURL stored (request call) (pool.program call)) :
    Redeems request state pool call ∨ nextStep (pool.program call) = some (.delete (stateKey state)) := by
  obtain ⟨rfl, step, awaits, spends⟩ := claims
  unfold Redeems
  generalize pool.program call = program at stage awaits
  cases stage with
  | begun =>
      cases awaits
      cases spends
  | checked raw kept => exact .inr rfl
  | deleted raw kept => exact .inl ⟨rfl, step, awaits, exchanges_of_redeem step awaits⟩
  | ended value => cases awaits
  | failed fault => cases awaits

omit [DecidableEq C] in
theorem exchanges_append :
    exchanges request state (trace ++ [label]) = exchanges request state trace ++ exchanges request state [label] :=
  List.filter_append _ _

/-- An operation that spends the state and does not end with a redemption leaves no claim of its callback. -/
theorem Advance.claims {callback : Callback} {later : States} {event : StateEvent} {program : StateProgram TokenSet}
    (advance : Advance callbackURL stored callback later event program) {step : StateStep} (awaits : step ∈ nextStep program) :
    (∃ raw, event = ⟨.get (stateKey callback.state), some (some raw)⟩ ∧ step = .delete (stateKey callback.state) ∧
        later (stateKey callback.state) ≠ none) ∨
      event = ⟨.delete (stateKey callback.state), some ()⟩ ∧ step.exchanges ∧ later (stateKey callback.state) = none := by
  cases advance with
  | refused answer fault => cases awaits
  | checked raw kept present =>
      cases awaits
      exact .inl ⟨raw, rfl, rfl, present⟩
  | lost => cases awaits
  | deleted raw kept gone => exact .inr ⟨rfl, exchanges_of_redeem step awaits, gone⟩
  | exchanged raw codeVerifier kept read answer => cases answer <;> cases awaits

theorem Advance.verifier {callback : Callback} {later : States} {event : StateEvent} {program : StateProgram TokenSet}
    (advance : Advance callbackURL stored callback later event program) (carried : callback.state = state)
    (exchanges : event.operation.exchanges) :
    ∃ raw code codeVerifier answer, stored (stateKey state) = some raw ∧ verifierOf raw = some codeVerifier ∧
      event = ⟨.exchangeCode code callbackURL codeVerifier, answer⟩ := by
  subst carried
  cases advance with
  | refused answer fault => cases exchanges
  | checked raw kept present => cases exchanges
  | lost => cases exchanges
  | deleted raw kept gone => cases exchanges
  | exchanged raw codeVerifier kept read answer => exact ⟨raw, callback.code, codeVerifier, answer, kept, read, rfl⟩

theorem Advance.fades {callback : Callback} {states later : States} {event : StateEvent} {program : StateProgram TokenSet}
    (advance : Advance callbackURL stored callback later event program)
    (answered : Responds event.operation states event.answer later) : Fades states later := by
  cases advance with
  | refused answer fault => exact answered.fades (.inr ⟨_, rfl⟩)
  | checked raw kept present => exact answered.fades (.inr ⟨_, rfl⟩)
  | lost => exact answered.fades (.inl rfl)
  | deleted raw kept gone => exact answered.fades (.inl rfl)
  | exchanged raw codeVerifier kept read answer => exact answered.fades (.inl rfl)

/-- This is all that a step does. -/
structure Advances (callbackURL : String) (request : C → Callback) (stored : States) (pool : Callbacks C)
    (label : C × StateEvent) (next : Callbacks C) : Prop where
  before : nextStep (pool.program label.1) = some label.2.operation
  after : Advance callbackURL stored (request label.1) next.world label.2 (next.program label.1)
  others : ∀ other, other ≠ label.1 → next.program other = pool.program other
  fades : Fades pool.world next.world

theorem Consumed.advances (consumed : Consumed callbackURL request stored state trace pool)
    (taken : Pool.Step Responds pool label next) : Advances callbackURL request stored pool label next := by
  cases taken with
  | perform call operation answer rest world awaits answered =>
      have advance := (consumed.stages call).advance awaits consumed.faded answered
      refine ⟨by rw [awaits]; rfl, by simpa using advance, ?_, advance.fades answered⟩
      exact fun other different => Function.update_of_ne different _ _

omit [DecidableEq C] in
/-- A claim is older than the step, or the step has just read the state. -/
theorem Claims.before {call : C} (claims : Claims request state next call)
    (advances : Advances callbackURL request stored pool label next) :
    Claims request state pool call ∨
      call = label.1 ∧ ∃ raw, label.2 = ⟨.get (stateKey state), some (some raw)⟩ ∧ next.world (stateKey state) ≠ none := by
  obtain ⟨same, step, awaits, spends⟩ := claims
  by_cases own : call = label.1
  · subst own
    rcases advances.after.claims awaits with ⟨raw, read, _, present⟩ | ⟨deleted, _, _⟩
    · rw [same] at read present
      exact .inr ⟨rfl, raw, read, present⟩
    · refine .inl ⟨same, label.2.operation, advances.before, ?_⟩
      rw [deleted]
      rfl
  · rw [advances.others call own] at awaits
    exact .inl ⟨same, step, awaits, spends⟩

omit [DecidableEq C] in
/-- A redemption is older than the step, or the step has just deleted the state. -/
theorem Redeems.before {call : C} (redeems : Redeems request state next call)
    (advances : Advances callbackURL request stored pool label next) :
    Redeems request state pool call ∨ next.world (stateKey state) = none := by
  obtain ⟨same, step, awaits, exchanges⟩ := redeems
  by_cases own : call = label.1
  · subst own
    rcases advances.after.claims awaits with ⟨raw, _, rfl, _⟩ | ⟨_, _, gone⟩
    · cases exchanges
    · rw [same] at gone
      exact .inr gone
  · rw [advances.others call own] at awaits
    exact .inl ⟨same, step, awaits, exchanges⟩

/-- The one who reads the state is the only one who claims it. -/
theorem Consumed.reader (consumed : Consumed callbackURL request stored state trace pool)
    (advances : Advances callbackURL request stored pool label next) (undisturbed : Undisturbed pool label) {call : C}
    (claims : Claims request state pool call) {raw : String}
    (read : label.2 = ⟨.get (stateKey state), some (some raw)⟩) (present : next.world (stateKey state) ≠ none) :
    call = label.1 := by
  rcases claims.redeems_or (consumed.stages call) with redeems | deletes
  · rcases advances.fades (stateKey state) with same | gone
    · exact absurd (same.trans (consumed.gone (.inr ⟨call, redeems⟩))) present
    · exact absurd gone present
  · by_contra other
    exact undisturbed (stateKey state) raw read call other deletes

theorem Consumed.step (consumed : Consumed callbackURL request stored state trace pool)
    (taken : Pool.Step Responds pool label next) (undisturbed : Undisturbed pool label) :
    Consumed callbackURL request stored state (trace ++ [label]) next := by
  have advances := consumed.advances taken
  have stays (gone : pool.world (stateKey state) = none) : next.world (stateKey state) = none := by
    rcases advances.fades (stateKey state) with same | faded
    · rw [same, gone]
    · exact faded
  have own (exchanged : exchanges request state [label] ≠ []) :
      Redeems request state pool label.1 ∧ exchanges request state [label] = [label] ∧ label.2.operation.exchanges := by
    obtain ⟨entry, member⟩ := List.exists_mem_of_ne_nil _ exchanged
    obtain ⟨listed, same⟩ := List.mem_filter.mp member
    obtain rfl := List.mem_singleton.mp listed
    obtain ⟨carried, exchanges⟩ := of_decide_eq_true same
    exact ⟨⟨carried, _, advances.before, exchanges⟩, List.filter_cons_of_pos same, exchanges⟩
  constructor
  · intro call
    by_cases same : call = label.1
    · subst same
      exact advances.after.stage
    · rw [advances.others call same]
      exact consumed.stages call
  · exact consumed.faded.trans advances.fades
  · intro first second one two
    rcases one.before advances with one | ⟨rfl, raw, read, present⟩
    · rcases two.before advances with two | ⟨rfl, raw, read, present⟩
      · exact consumed.single first second one two
      · exact consumed.reader advances undisturbed one read present
    · rcases two.before advances with two | ⟨rfl, _⟩
      · exact (consumed.reader advances undisturbed two read present).symm
      · rfl
  · rintro (exchanged | ⟨call, redeems⟩)
    · rw [exchanges_append, ne_eq, List.append_eq_nil_iff, not_and_or] at exchanged
      rcases exchanged with old | new
      · exact stays (consumed.gone (.inl old))
      · exact stays (consumed.gone (.inr ⟨_, (own new).1⟩))
    · rcases redeems.before advances with old | gone
      · exact stays (consumed.gone (.inr ⟨call, old⟩))
      · exact gone
  · intro exchanged
    by_cases new : exchanges request state [label] = []
    · rw [exchanges_append, new, List.append_nil] at exchanged ⊢
      obtain ⟨once, unclaimed⟩ := consumed.spent exchanged
      refine ⟨once, fun call claims => ?_⟩
      rcases claims.before advances with old | ⟨_, _, _, present⟩
      · exact unclaimed call old
      · exact present (stays (consumed.gone (.inl exchanged)))
    · obtain ⟨redeems, whole, exchanges⟩ := own new
      have first : LoginStates.exchanges request state trace = [] := by
        by_contra old
        exact (consumed.spent old).2 _ redeems.claims
      rw [exchanges_append, first, whole]
      refine ⟨rfl, fun call claims => ?_⟩
      rcases claims.before advances with old | ⟨_, raw, read, _⟩
      · obtain rfl := consumed.single _ _ old redeems.claims
        obtain ⟨_, step, awaits, _⟩ := claims
        rcases advances.after.claims awaits with ⟨raw, read, _⟩ | ⟨deleted, _⟩
        · rw [read] at exchanges
          cases exchanges
        · rw [deleted] at exchanges
          cases exchanges
      · rw [read] at exchanges
        cases exchanges
  · intro entry member
    rw [exchanges_append] at member
    rcases List.mem_append.mp member with old | new
    · exact consumed.verified entry old
    · obtain ⟨⟨carried, _⟩, whole, exchanges⟩ := own (List.ne_nil_of_mem new)
      rw [whole] at new
      obtain rfl := List.mem_singleton.mp new
      exact advances.after.verifier carried exchanges

omit [DecidableEq C] in
/-- Every callback has begun, and none has passed the check of the state. -/
theorem consumed_fresh (callbackURL : String) (request : C → Callback) (stored : States) (state : String) :
    Consumed callbackURL request stored state [] (Callbacks.fresh callbackURL request stored) := by
  have unclaimed (call : C) : ¬ Claims request state (Callbacks.fresh callbackURL request stored) call := by
    rintro ⟨_, step, ⟨⟩, spends⟩
    cases spends
  constructor
  · exact fun call => .begun
  · exact fades_refl stored
  · exact fun first second one => absurd one (unclaimed first)
  · rintro (none | ⟨call, redeems⟩)
    · exact absurd rfl none
    · exact absurd redeems.claims (unclaimed call)
  · exact fun none => absurd rfl none
  · exact nofun

variable {moments : List (Moment (Callbacks C) (C × StateEvent))} {final : Callbacks C}

/-- While no callback reads a state between the check and the deletion of another one, at most one callback exchanges its
code for the state, with the verifier that was stored. -/
theorem state_consumed_once
    (run : Runs (Pool.Step Responds) (Callbacks.fresh callbackURL request stored) moments final)
    (undisturbed : ∀ moment ∈ moments, Undisturbed moment.state moment.label) (state : String) :
    (exchanges request state (traceOf moments)).length ≤ 1 ∧
      ∀ entry ∈ exchanges request state (traceOf moments), ∃ raw code codeVerifier answer,
        stored (stateKey state) = some raw ∧ verifierOf raw = some codeVerifier ∧
          entry.2 = ⟨.exchangeCode code callbackURL codeVerifier, answer⟩ := by
  have consumed := ((run.restrict undisturbed).keeps_history (Consumed callbackURL request stored state)
    (fun trace pool label next taken consumed => consumed.step taken.1 taken.2) []
    (consumed_fresh callbackURL request stored state)).1
  rw [List.nil_append] at consumed
  refine ⟨?_, consumed.verified⟩
  by_cases none : exchanges request state (traceOf moments) = []
  · rw [none]
    exact Nat.zero_le 1
  · exact (consumed.spent none).1.le

end Consumption

section Schedules

/-- No entry expires, no command fails, and the identity provider accepts every code. -/
def respond : (step : StateStep) → States → step.Answer × States
  | .setex key _ value, states => (some (), Function.update states key (some value))
  | .get key, states => (some (states key), states)
  | .delete key, states => (some (), Function.update states key none)
  | .exchangeCode code _ _, states => (.ok [("access_token", .string code)], states)

theorem responds_respond (step : StateStep) (states : States) :
    Responds step states (respond step states).1 (respond step states).2 := by
  cases step with
  | setex key lifetime value => exact .set key lifetime value (fades_refl _)
  | get key => exact .got key (fades_refl _)
  | delete key =>
      refine .deleted key (fun other => ?_) (Function.update_self _ _ _)
      by_cases same : other = key
      · rw [same]
        exact .inr (Function.update_self _ _ _)
      · exact .inl (Function.update_of_ne same _ _)
  | exchangeCode code redirectURI codeVerifier => exact .exchanged code redirectURI codeVerifier _ (fades_refl _)

/-- Two callbacks carry the state of one login. -/
def sharedState (first : Bool) : Callback := ⟨if first then "code-1" else "code-2", "s1"⟩

def storedState : States := Function.update (fun _ => none) (stateKey "s1") (some (stateValue "verifier" "/"))

def sharedCallbacks : Callbacks Bool := .fresh "https://pxtly.io/callback" sharedState storedState

def oneAfterTheOther : List Bool := [true, true, true, false]

theorem sharedState_consumed_once :
    (exchanges sharedState "s1" (traceOf (Pool.record respond sharedCallbacks oneAfterTheOther).1)).length ≤ 1 := by
  refine (state_consumed_once (Pool.runs_record respond responds_respond sharedCallbacks oneAfterTheOther) ?_ "s1").1
  decide

/-- Both callbacks read the state before one of them deletes it. -/
theorem state_exchanged_twice :
    ¬ ∀ moments final, Runs (Pool.Step Responds) sharedCallbacks moments final →
      (exchanges sharedState "s1" (traceOf moments)).length ≤ 1 := by
  intro once
  have run := Pool.runs_record respond responds_respond sharedCallbacks [true, false, true, false, true, false]
  exact absurd (once _ _ run) (by decide)

end Schedules

end Pxtly.Auth.LoginStates
