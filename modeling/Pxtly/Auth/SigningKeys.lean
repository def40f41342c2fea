/-
This file gives the cache of the identity provider's signing keys, which concurrent validations of tokens share.
-/

import Mathlib.Algebra.Order.Ring.Rat
import Mathlib.Tactic.Linarith
import Pxtly.Auth.Tokens
import Pxtly.Foundation.Interleavings

namespace Pxtly.Auth.SigningKeys

open Foundation Program
open Pool (traceOf)

/-- These are the two variables of the module. -/
structure KeyCache where
  keys : Option Json := none
  fetchedAt : Rat := 0

/-- What lies between two awaits runs at once, so the clock is read together with the cache. -/
inductive KeyStep where
  | look
  | acquire
  | release
  | get
  | store (keys : Json)
  | decode (keys : Json) (token : String)

/-- A response that is an error or no JSON has no keys. A store says at which instant it was done. -/
abbrev KeyStep.Answer : KeyStep → Type
  | .look => Rat × KeyCache
  | .acquire => Unit
  | .release => Unit
  | .get => Option Json
  | .store _ => Rat
  | .decode .. => Except String Payload

def keySignature : Signature where
  Operation := KeyStep
  Answer := KeyStep.Answer

abbrev KeyEvent := Program.Event keySignature

abbrev KeyProgram (A : Type) := Program keySignature TokenFault A

def ask (step : KeyStep) : KeyProgram step.Answer := call (S := keySignature) step

def jwksTTL : Rat := 3600

/-- The cached keys serve a call that does not insist on new ones. -/
def freshKeys (force : Bool) (now : Rat) (cache : KeyCache) : Option Json :=
  if force then none
  else cache.keys.filter fun keys => truthy keys && decide (now - cache.fetchedAt < jwksTTL)

/-- The log counts the keys, which fails unless it finds a text, a list or a dictionary under their name. -/
def countable : Json → Bool
  | .object members =>
      match (dictGet members "keys").getD (.array []) with
      | .string _ => true
      | .array _ => true
      | .object _ => true
      | _ => false
  | _ => false

/-- What follows on the look at the cache under the lock. -/
def refreshFrom (force : Bool) (seen : Rat × KeyCache) : KeyProgram Json :=
  match freshKeys force seen.1 seen.2 with
  | some keys => return keys
  | none => do
      match ← ask .get with
      | none => .raise .unavailable
      | some keys => do
          let _ ← ask (.store keys)
          if countable keys then return keys else .raise .typeError

def refresh (force : Bool) : KeyProgram Json := ask .look >>= refreshFrom force

/-- What follows on the first look at the cache. -/
def fetchFrom (force : Bool) (seen : Rat × KeyCache) : KeyProgram Json :=
  match freshKeys force seen.1 seen.2 with
  | some keys => return keys
  | none => do
      ask .acquire
      let result ← (refresh force).attempt
      ask .release
      lift result

def fetchJwks (force : Bool) : KeyProgram Json := ask .look >>= fetchFrom force

section Validation

variable (decode : Json → (now : Int) → (token : String) → Except String Payload) (clientID : String)

/-- The audience is checked with the client only. -/
def accept (payload : Payload) : Except TokenFault Payload := do
  checkAudience ⟨Json, fun _ _ => none, decode, clientID⟩ payload
  return payload

/-- The keys may have changed since they were cached, so a refused token is decoded once more. -/
def validateToken (token : String) : KeyProgram Payload := do
  let keys ← fetchJwks false
  match ← ask (.decode keys token) with
  | .ok payload => lift (accept decode clientID payload)
  | .error _ =>
      let renewed ← fetchJwks true
      match ← ask (.decode renewed token) with
      | .ok payload => lift (accept decode clientID payload)
      | .error cause => .raise (.invalid cause)

end Validation

section Site

/-- The two clocks run on their own, and the identity provider may publish other keys at any time. -/
structure Site where
  monotonic : Rat
  wall : Int
  published : Option Json
  cache : KeyCache
  held : Bool

/-- No call moves. -/
structure Drifts (site later : Site) : Prop where
  monotonic : site.monotonic ≤ later.monotonic
  cache : later.cache = site.cache
  held : later.held = site.held

variable (decode : Json → (now : Int) → (token : String) → Except String Payload)

/-- The site drifts before each answer. The lock is only given while nobody holds it. -/
inductive Responds : (step : KeyStep) → Site → step.Answer → Site → Prop where
  | look {site later : Site} (drifts : Drifts site later) : Responds .look site (later.monotonic, later.cache) later
  | acquire {site later : Site} (drifts : Drifts site later) (free : later.held = false) :
      Responds .acquire site () { later with held := true }
  | release {site later : Site} (drifts : Drifts site later) : Responds .release site () { later with held := false }
  | get {site later : Site} (drifts : Drifts site later) : Responds .get site later.published later
  | store {site later : Site} (drifts : Drifts site later) (keys : Json) :
      Responds (.store keys) site later.monotonic { later with cache := ⟨some keys, later.monotonic⟩ }
  | decode {site later : Site} (drifts : Drifts site later) (keys : Json) (token : String) :
      Responds (.decode keys token) site (decode keys later.wall token) later

end Site

/-- A validation is at one of these places. -/
inductive Place where
  | looking (force : Bool)
  | acquiring (force : Bool)
  | relooking (force : Bool)
  | getting (force : Bool)
  | storing (force : Bool) (keys : Json)
  | releasing (force : Bool) (result : Except TokenFault Json)
  | decoding (force : Bool) (keys : Json)
  | ended (outcome : Except TokenFault Payload)

/-- These places are inside the lock. -/
def Place.inside : Place → Bool
  | .relooking _ => true
  | .getting _ => true
  | .storing .. => true
  | .releasing .. => true
  | _ => false

section Places

variable (decode : Json → (now : Int) → (token : String) → Except String Payload) (clientID token : String)

/-- What follows on the second keys. -/
def tryRenewed (keys : Json) : KeyProgram Payload := do
  match ← ask (.decode keys token) with
  | .ok payload => lift (accept decode clientID payload)
  | .error cause => .raise (.invalid cause)

/-- What follows on the keys depends on whether they are the second ones. -/
def tryKeys (force : Bool) (keys : Json) : KeyProgram Payload :=
  if force then tryRenewed decode clientID token keys
  else do
    match ← ask (.decode keys token) with
    | .ok payload => lift (accept decode clientID payload)
    | .error _ => fetchJwks true >>= tryRenewed decode clientID token

/-- What follows on the section under the lock. -/
def leaveLock (force : Bool) (result : Except TokenFault Json) : KeyProgram Payload := do
  ask .release
  let keys ← lift result
  tryKeys decode clientID token force keys

def logKeys (keys : Json) : Except TokenFault Json := if countable keys then .ok keys else .error .typeError

def Place.program : Place → KeyProgram Payload
  | .looking force => fetchJwks force >>= tryKeys decode clientID token force
  | .acquiring force => do
      ask .acquire
      let result ← (refresh force).attempt
      leaveLock decode clientID token force result
  | .relooking force => do
      let result ← (refresh force).attempt
      leaveLock decode clientID token force result
  | .getting force => do
      match ← ask .get with
      | none => leaveLock decode clientID token force (.error .unavailable)
      | some keys => do
          let _ ← ask (.store keys)
          leaveLock decode clientID token force (logKeys keys)
  | .storing force keys => do
      let _ ← ask (.store keys)
      leaveLock decode clientID token force (logKeys keys)
  | .releasing force result => leaveLock decode clientID token force result
  | .decoding force keys => tryKeys decode clientID token force keys
  | .ended outcome => lift outcome

/-- This is all that the answer to an operation can lead to. -/
inductive Moves : Place → KeyEvent → Place → Prop where
  | fresh (force : Bool) (now : Rat) (cache : KeyCache) (keys : Json) (serves : freshKeys force now cache = some keys) :
      Moves (.looking force) ⟨.look, (now, cache)⟩ (.decoding force keys)
  | stale (force : Bool) (now : Rat) (cache : KeyCache) (fails : freshKeys force now cache = none) :
      Moves (.looking force) ⟨.look, (now, cache)⟩ (.acquiring force)
  | acquired (force : Bool) : Moves (.acquiring force) ⟨.acquire, ()⟩ (.relooking force)
  | refreshed (force : Bool) (now : Rat) (cache : KeyCache) (keys : Json)
      (serves : freshKeys force now cache = some keys) :
      Moves (.relooking force) ⟨.look, (now, cache)⟩ (.releasing force (.ok keys))
  | still (force : Bool) (now : Rat) (cache : KeyCache) (fails : freshKeys force now cache = none) :
      Moves (.relooking force) ⟨.look, (now, cache)⟩ (.getting force)
  | unavailable (force : Bool) : Moves (.getting force) ⟨.get, none⟩ (.releasing force (.error .unavailable))
  | got (force : Bool) (keys : Json) : Moves (.getting force) ⟨.get, some keys⟩ (.storing force keys)
  | stored (force : Bool) (keys : Json) (stamp : Rat) :
      Moves (.storing force keys) ⟨.store keys, stamp⟩ (.releasing force (logKeys keys))
  | failed (force : Bool) (fault : TokenFault) :
      Moves (.releasing force (.error fault)) ⟨.release, ()⟩ (.ended (.error fault))
  | released (force : Bool) (keys : Json) : Moves (.releasing force (.ok keys)) ⟨.release, ()⟩ (.decoding force keys)
  | accepted (force : Bool) (keys : Json) (payload : Payload) :
      Moves (.decoding force keys) ⟨.decode keys token, .ok payload⟩ (.ended (accept decode clientID payload))
  | retried (keys : Json) (cause : String) :
      Moves (.decoding false keys) ⟨.decode keys token, .error cause⟩ (.looking true)
  | refused (keys : Json) (cause : String) :
      Moves (.decoding true keys) ⟨.decode keys token, .error cause⟩ (.ended (.error (.invalid cause)))

theorem validateToken_eq :
    validateToken decode clientID token = (Place.looking false).program decode clientID token := rfl

variable {decode clientID token}

variable (decode clientID token) in
theorem leaveLock_logKeys (force : Bool) (keys : Json) :
    (if countable keys then pure keys else raise .typeError : KeyProgram Json).attempt >>=
        leaveLock decode clientID token force =
      leaveLock decode clientID token force (logKeys keys) := by
  unfold logKeys
  split <;> rfl

theorem nextStep_ended {outcome : Except TokenFault Payload} {step : KeyStep} {next : step.Answer → KeyProgram Payload}
    (awaits : (lift outcome : KeyProgram Payload) = .perform step next) : False := by
  cases outcome <;> cases awaits

/-- An answer takes a validation from its place to another one. -/
theorem Place.advance {place : Place} {step : KeyStep} {next : step.Answer → KeyProgram Payload}
    (awaits : place.program decode clientID token = .perform step next) (answer : step.Answer) :
    ∃ reached, next answer = reached.program decode clientID token ∧
      Moves decode clientID token place ⟨step, answer⟩ reached := by
  cases place with
  | looking force =>
      cases awaits
      obtain ⟨now, cache⟩ := answer
      cases served : freshKeys force now cache with
      | some keys =>
          refine ⟨.decoding force keys, ?_, .fresh force now cache keys served⟩
          change fetchFrom force (now, cache) >>= tryKeys decode clientID token force = _
          rw [fetchFrom, served]
          rfl
      | none =>
          refine ⟨.acquiring force, ?_, .stale force now cache served⟩
          change fetchFrom force (now, cache) >>= tryKeys decode clientID token force = _
          rw [fetchFrom, served]
          refine congrArg (Program.perform (S := keySignature) KeyStep.acquire) (funext fun _ => ?_)
          exact Program.bind_assoc (refresh force).attempt (fun result => ask .release >>= fun _ => lift result) _
  | acquiring force =>
      cases awaits
      exact ⟨.relooking force, rfl, .acquired force⟩
  | relooking force =>
      cases awaits
      obtain ⟨now, cache⟩ := answer
      cases served : freshKeys force now cache with
      | some keys =>
          refine ⟨.releasing force (.ok keys), ?_, .refreshed force now cache keys served⟩
          change (refreshFrom force (now, cache)).attempt >>= leaveLock decode clientID token force = _
          rw [refreshFrom, served]
          rfl
      | none =>
          refine ⟨.getting force, ?_, .still force now cache served⟩
          change (refreshFrom force (now, cache)).attempt >>= leaveLock decode clientID token force = _
          rw [refreshFrom, served]
          refine congrArg (Program.perform (S := keySignature) KeyStep.get) (funext fun response => ?_)
          cases response with
          | none => rfl
          | some keys =>
              refine congrArg (Program.perform (S := keySignature) (KeyStep.store keys)) (funext fun stamp => ?_)
              exact leaveLock_logKeys decode clientID token force keys
  | getting force =>
      cases awaits
      cases answer with
      | none => exact ⟨_, rfl, .unavailable force⟩
      | some keys => exact ⟨_, rfl, .got force keys⟩
  | storing force keys =>
      cases awaits
      exact ⟨_, rfl, .stored force keys answer⟩
  | releasing force result =>
      cases awaits
      cases result with
      | ok keys => exact ⟨_, rfl, .released force keys⟩
      | error fault => exact ⟨.ended (.error fault), rfl, .failed force fault⟩
  | decoding force keys =>
      cases force with
      | true =>
          cases awaits
          cases answer with
          | ok payload => exact ⟨_, rfl, .accepted true keys payload⟩
          | error cause => exact ⟨.ended (.error (.invalid cause)), rfl, .refused keys cause⟩
      | false =>
          cases awaits
          cases answer with
          | ok payload => exact ⟨_, rfl, .accepted false keys payload⟩
          | error cause => exact ⟨.looking true, rfl, .retried keys cause⟩
  | ended outcome => exact (nextStep_ended awaits).elim

/-- Only at its end is a validation over. -/
theorem Place.eq_ended {place : Place} (outcome : Except TokenFault Payload)
    (ends : place.program decode clientID token = lift outcome) : place = .ended outcome := by
  cases place with
  | ended other => cases other <;> cases outcome <;> cases ends <;> rfl
  | decoding force keys => cases force <;> cases outcome <;> cases ends
  | looking force => cases outcome <;> cases ends
  | acquiring force => cases outcome <;> cases ends
  | relooking force => cases outcome <;> cases ends
  | getting force => cases outcome <;> cases ends
  | storing force keys => cases outcome <;> cases ends
  | releasing force result => cases outcome <;> cases ends

end Places

section Validations

variable {C : Type} [DecidableEq C]

abbrev Validations (C : Type) := Pool keySignature TokenFault Payload Site C

abbrev KeyTrace (C : Type) := Pool.Trace keySignature C

variable (decode : Json → (now : Int) → (token : String) → Except String Payload) (clientID : String) (token : C → String)

/-- The process has just started, and all validations are still to begin. -/
def Validations.fresh (monotonic : Rat) (wall : Int) (published : Option Json) : Validations C where
  world := ⟨monotonic, wall, published, {}, false⟩
  program call := validateToken decode clientID (token call)

/-- The validations are at their places. -/
def AtPlaces (pool : Validations C) (place : C → Place) : Prop :=
  ∀ call, pool.program call = (place call).program decode clientID (token call)

/-- In a step, one validation leaves its place, and the site answers it. -/
structure Steps (site : Site) (place : C → Place) (label : C × KeyEvent) (later : Site) (reached : C → Place) : Prop where
  moves : Moves decode clientID (token label.1) (place label.1) label.2 (reached label.1)
  others : ∀ other, other ≠ label.1 → reached other = place other
  answered : Responds decode label.2.operation site label.2.answer later

variable {decode clientID token} {pool next : Validations C} {label : C × KeyEvent} {place reached : C → Place}
  {site later : Site}

theorem AtPlaces.step (placed : AtPlaces decode clientID token pool place)
    (taken : Pool.Step (Responds decode) pool label next) :
    ∃ reached, AtPlaces decode clientID token next reached ∧
      Steps decode clientID token pool.world place label next.world reached := by
  cases taken with
  | perform call step answer rest world awaits answered =>
      obtain ⟨arrived, program, moves⟩ := Place.advance ((placed call).symm.trans awaits) answer
      refine ⟨Function.update place call arrived, fun other => ?_, ?_, ?_, answered⟩
      · by_cases same : other = call
        · subst same
          rw [Function.update_self, program]
          exact Function.update_self _ _ _
        · rw [Function.update_of_ne same, ← placed other]
          exact Function.update_of_ne same _ _
      · rw [Function.update_self]
        exact moves
      · exact fun other different => Function.update_of_ne different _ _

section Knowledge

/-- The first keys have refused the token of the call. -/
def Failed (token : C → String) (trace : KeyTrace C) (call : C) : Prop :=
  ∃ before old cause after, trace = before ++ (call, ⟨.decode old (token call), .error cause⟩) :: after

/-- After the first keys have refused its token, the call itself has got these keys. -/
def Renewed (token : C → String) (trace : KeyTrace C) (call : C) (keys : Json) : Prop :=
  ∃ before old cause after, trace = before ++ (call, ⟨.decode old (token call), .error cause⟩) :: after ∧
    (call, ⟨.get, some keys⟩) ∈ after

/-- A call has got the keys and has stored them at the instant. -/
def Stored (trace : KeyTrace C) (keys : Json) (stamp : Rat) : Prop :=
  ∃ caller, (caller, ⟨.get, some keys⟩) ∈ trace ∧ (caller, ⟨.store keys, stamp⟩) ∈ trace

/-- The call has got the keys itself, or has found them in the cache before their time was over. -/
def Current (trace : KeyTrace C) (call : C) (keys : Json) : Prop :=
  (call, ⟨.get, some keys⟩) ∈ trace ∨
    ∃ now stamp, (call, ⟨.look, (now, ⟨some keys, stamp⟩)⟩) ∈ trace ∧ now - stamp < jwksTTL ∧ Stored trace keys stamp

def Accepted (decode : Json → Int → String → Except String Payload) (clientID : String) (token : C → String)
    (trace : KeyTrace C) (call : C) (payload : Payload) : Prop :=
  ∃ keys wall, Current trace call keys ∧ decode keys wall (token call) = .ok payload ∧
    accept decode clientID payload = .ok payload

def Refused (decode : Json → Int → String → Except String Payload) (token : C → String) (trace : KeyTrace C) (call : C)
    (cause : String) : Prop :=
  ∃ keys wall, Renewed token trace call keys ∧ decode keys wall (token call) = .error cause

/-- This is what the trace says on a validation at a place. -/
def Place.Known (decode : Json → Int → String → Except String Payload) (clientID : String) (token : C → String)
    (trace : KeyTrace C) (call : C) : Place → Prop
  | .looking force => force = true → Failed token trace call
  | .acquiring force => force = true → Failed token trace call
  | .relooking force => force = true → Failed token trace call
  | .getting force => force = true → Failed token trace call
  | .storing force keys => (call, ⟨.get, some keys⟩) ∈ trace ∧ (force = true → Renewed token trace call keys)
  | .releasing force (.ok keys) => Current trace call keys ∧ (force = true → Renewed token trace call keys)
  | .releasing _ (.error fault) => ∀ cause, fault ≠ .invalid cause
  | .decoding force keys => Current trace call keys ∧ (force = true → Renewed token trace call keys)
  | .ended (.ok payload) => Accepted decode clientID token trace call payload
  | .ended (.error fault) => ∀ cause, fault = .invalid cause → Refused decode token trace call cause

variable {trace : KeyTrace C} {call : C}

omit [DecidableEq C] in
theorem Failed.append (failed : Failed token trace call) (more : KeyTrace C) : Failed token (trace ++ more) call := by
  obtain ⟨before, old, cause, after, rfl⟩ := failed
  exact ⟨before, old, cause, after ++ more, by simp⟩

omit [DecidableEq C] in
theorem Renewed.append {keys : Json} (renewed : Renewed token trace call keys) (more : KeyTrace C) :
    Renewed token (trace ++ more) call keys := by
  obtain ⟨before, old, cause, after, rfl, got⟩ := renewed
  exact ⟨before, old, cause, after ++ more, by simp, List.mem_append_left _ got⟩

omit [DecidableEq C] in
theorem Failed.renewed (failed : Failed token trace call) (keys : Json) :
    Renewed token (trace ++ [(call, ⟨.get, some keys⟩)]) call keys := by
  obtain ⟨before, old, cause, after, rfl⟩ := failed
  exact ⟨before, old, cause, after ++ [(call, ⟨.get, some keys⟩)], by simp, by simp⟩

omit [DecidableEq C] in
theorem Renewed.failed {keys : Json} (renewed : Renewed token trace call keys) : Failed token trace call := by
  obtain ⟨before, old, cause, after, same, got⟩ := renewed
  exact ⟨before, old, cause, after, same⟩

omit [DecidableEq C] in
theorem Stored.append {keys : Json} {stamp : Rat} (stored : Stored trace keys stamp) (more : KeyTrace C) :
    Stored (trace ++ more) keys stamp := by
  obtain ⟨caller, got, kept⟩ := stored
  exact ⟨caller, List.mem_append_left _ got, List.mem_append_left _ kept⟩

omit [DecidableEq C] in
theorem Current.append {keys : Json} (current : Current trace call keys) (more : KeyTrace C) :
    Current (trace ++ more) call keys := by
  rcases current with got | ⟨now, stamp, seen, young, stored⟩
  · exact .inl (List.mem_append_left _ got)
  · exact .inr ⟨now, stamp, List.mem_append_left _ seen, young, stored.append more⟩

omit [DecidableEq C] in
theorem Place.Known.append {place : Place} (known : place.Known decode clientID token trace call) (more : KeyTrace C) :
    place.Known decode clientID token (trace ++ more) call := by
  cases place with
  | looking force => exact fun forced => (known forced).append more
  | acquiring force => exact fun forced => (known forced).append more
  | relooking force => exact fun forced => (known forced).append more
  | getting force => exact fun forced => (known forced).append more
  | storing force keys => exact ⟨List.mem_append_left _ known.1, fun forced => (known.2 forced).append more⟩
  | releasing force result =>
      cases result with
      | ok keys => exact ⟨known.1.append more, fun forced => (known.2 forced).append more⟩
      | error fault => exact known
  | decoding force keys => exact ⟨known.1.append more, fun forced => (known.2 forced).append more⟩
  | ended outcome =>
      cases outcome with
      | ok payload =>
          obtain ⟨keys, wall, current, decoded⟩ := known
          exact ⟨keys, wall, current.append more, decoded⟩
      | error fault =>
          intro cause same
          obtain ⟨keys, wall, renewed, decoded⟩ := known cause same
          exact ⟨keys, wall, renewed.append more, decoded⟩

/-- What is cached was stored at its instant, and what is known of the validations agrees with their places. -/
structure Informed (decode : Json → Int → String → Except String Payload) (clientID : String) (token : C → String)
    (trace : KeyTrace C) (site : Site) (place : C → Place) : Prop where
  cached : ∀ keys, site.cache.keys = some keys → Stored trace keys site.cache.fetchedAt
  known : ∀ call, (place call).Known decode clientID token trace call

theorem freshKeys_eq_some {force : Bool} {now : Rat} {cache : KeyCache} {keys : Json}
    (serves : freshKeys force now cache = some keys) :
    force = false ∧ cache = ⟨some keys, cache.fetchedAt⟩ ∧ now - cache.fetchedAt < jwksTTL := by
  unfold freshKeys at serves
  cases force with
  | true => cases serves
  | false =>
      obtain ⟨same, young⟩ := Option.filter_eq_some_iff.mp serves
      rw [Bool.and_eq_true, decide_eq_true_eq] at young
      refine ⟨rfl, ?_, young.2⟩
      cases cache
      exact congrArg (KeyCache.mk · _) same

theorem accept_eq_ok {payload accepted : Payload} (passes : accept decode clientID payload = .ok accepted) :
    accepted = payload := by
  unfold accept at passes
  cases checked : checkAudience ⟨Json, fun _ _ => none, decode, clientID⟩ payload with
  | error fault =>
      rw [checked] at passes
      cases passes
  | ok passed =>
      rw [checked] at passes
      cases passes
      rfl

theorem accept_ne_invalid (payload : Payload) (cause : String) :
    accept decode clientID payload ≠ .error (.invalid cause) := by
  intro refused
  unfold accept checkAudience at refused
  dsimp only at refused
  generalize (dictGet payload.claims "aud").getD (.array []) = aud at refused
  generalize (dictGet payload.claims "azp").getD (.string "") = azp at refused
  cases inside : inAudience clientID aud with
  | error fault =>
      rw [inside] at refused
      cases refused
      cases aud <;> cases inside
  | ok member =>
      rw [inside] at refused
      cases member with
      | true => cases refused
      | false =>
          cases azp with
          | string text =>
              by_cases same : text = clientID
              · simp [same] at refused
              · simp [same] at refused
          | _ => cases refused

theorem Responds.decoded {keys : Json} {text : String} {answer : Except String Payload}
    (answered : Responds decode (.decode keys text) site answer later) : ∃ wall, decode keys wall text = answer := by
  cases answered with
  | decode drifts => exact ⟨_, rfl⟩

omit [DecidableEq C] in
theorem Moves.known {token : C → String} {call : C} {before after : Place} {event : KeyEvent}
    (moves : Moves decode clientID (token call) before event after)
    (known : before.Known decode clientID token trace call) (answered : Responds decode event.operation site event.answer later)
    (cached : ∀ keys, later.cache.keys = some keys → Stored (trace ++ [(call, event)]) keys later.cache.fetchedAt) :
    after.Known decode clientID token (trace ++ [(call, event)]) call := by
  have last : (call, event) ∈ trace ++ [(call, event)] := List.mem_append_right _ (List.mem_singleton_self _)
  have seen {force : Bool} {now : Rat} {cache : KeyCache} {keys : Json} (serves : freshKeys force now cache = some keys)
      (look : (call, (⟨.look, (now, cache)⟩ : KeyEvent)) ∈ trace ++ [(call, event)])
      (same : later.cache = cache) :
      Current (trace ++ [(call, event)]) call keys ∧ (force = true → Renewed token (trace ++ [(call, event)]) call keys) := by
    obtain ⟨rfl, whole, young⟩ := freshKeys_eq_some serves
    refine ⟨.inr ⟨now, cache.fetchedAt, whole ▸ look, young, ?_⟩, nofun⟩
    rw [← same]
    exact cached keys (by rw [same, whole])
  cases moves with
  | fresh force now cache keys serves =>
      cases answered with
      | look drifts => exact seen serves last rfl
  | stale force now cache fails => exact fun forced => (known forced).append _
  | acquired force => exact fun forced => (known forced).append _
  | refreshed force now cache keys serves =>
      cases answered with
      | look drifts => exact seen serves last rfl
  | still force now cache fails => exact fun forced => (known forced).append _
  | unavailable force => exact fun cause => nofun
  | got force keys => exact ⟨last, fun forced => (known forced).renewed keys⟩
  | stored force keys stamp =>
      unfold logKeys
      split
      · exact ⟨.inl (List.mem_append_left _ known.1), fun forced => (known.2 forced).append _⟩
      · exact fun cause => nofun
  | failed force fault => exact fun cause same => absurd same (known cause)
  | released force keys => exact ⟨known.1.append _, fun forced => (known.2 forced).append _⟩
  | accepted force keys payload =>
      cases checked : accept decode clientID payload with
      | ok accepted =>
          obtain rfl := accept_eq_ok checked
          obtain ⟨wall, decoded⟩ := answered.decoded
          exact ⟨keys, wall, known.1.append _, decoded, checked⟩
      | error fault => exact fun cause same => absurd (same ▸ checked) (accept_ne_invalid payload cause)
  | retried keys cause => exact fun _ => ⟨trace, keys, cause, [], rfl⟩
  | refused keys cause =>
      obtain ⟨wall, decoded⟩ := answered.decoded
      intro other same
      cases same
      exact ⟨keys, wall, (known.2 rfl).append _, decoded⟩

/-- Only a store changes the cache. -/
theorem Responds.cached {step : KeyStep} {answer : step.Answer} (answered : Responds decode step site answer later) :
    later.cache = site.cache ∨ ∃ keys, step = .store keys ∧ later.cache = ⟨some keys, later.monotonic⟩ ∧
      HEq answer later.monotonic := by
  cases answered with
  | look drifts => exact .inl drifts.cache
  | acquire drifts free => exact .inl drifts.cache
  | release drifts => exact .inl drifts.cache
  | get drifts => exact .inl drifts.cache
  | store drifts keys => exact .inr ⟨keys, rfl, rfl, HEq.rfl⟩
  | decode drifts keys text => exact .inl drifts.cache

theorem Informed.step (informed : Informed decode clientID token trace site place)
    (steps : Steps decode clientID token site place label later reached) :
    Informed decode clientID token (trace ++ [label]) later reached := by
  obtain ⟨call, step, answer⟩ := label
  have cached : ∀ keys, later.cache.keys = some keys →
      Stored (trace ++ [(call, (⟨step, answer⟩ : KeyEvent))]) keys later.cache.fetchedAt := by
    intro keys kept
    rcases steps.answered.cached with same | ⟨stored, rfl, same, stamped⟩
    · rw [same] at kept ⊢
      exact (informed.cached keys kept).append _
    · rw [same] at kept ⊢
      cases kept
      cases eq_of_heq stamped
      have known := informed.known call
      have moves := steps.moves
      dsimp only at moves
      generalize place call = before at known moves
      generalize reached call = after at moves
      cases moves with
      | stored force keys stamp =>
          exact ⟨call, List.mem_append_left _ known.1, List.mem_append_right _ (List.mem_singleton_self _)⟩
  refine ⟨cached, fun other => ?_⟩
  by_cases same : other = call
  · subst same
    exact steps.moves.known (informed.known other) steps.answered cached
  · rw [steps.others other same]
    exact (informed.known other).append _

end Knowledge

section Lock

/-- A call that does not insist on new keys is on its way to get them. -/
def Place.renews : Place → Bool
  | .getting force => !force
  | .storing force _ => !force
  | _ => false

/-- No call is served from the cache. -/
def Stale (site : Site) : Prop :=
  ∀ keys, site.cache.keys = some keys → truthy keys = true → site.cache.fetchedAt + jwksTTL ≤ site.monotonic

def KeyStep.stores : KeyStep → Bool
  | .store _ => true
  | _ => false

def KeyStep.decodes : KeyStep → Bool
  | .decode .. => true
  | _ => false

/-- One call at most is inside the lock, and the cache that it has found stale stays so. -/
structure Guarded (trace : KeyTrace C) (site : Site) (place : C → Place) : Prop where
  single : ∀ first second, (place first).inside → (place second).inside → first = second
  held : ∀ call, (place call).inside → site.held = true
  stale : ∀ call, (place call).renews → Stale site
  last : ∀ earlier caller keys stamp between,
    trace = earlier ++ (caller, ⟨.store keys, stamp⟩) :: between → (∀ entry ∈ between, entry.2.operation.stores = false) →
      site.cache = ⟨some keys, stamp⟩

variable {trace : KeyTrace C}

theorem Place.inside_of_renews {place : Place} (renews : place.renews) : place.inside := by
  cases place with
  | getting force => rfl
  | storing force keys => rfl
  | looking force => cases renews
  | acquiring force => cases renews
  | relooking force => cases renews
  | releasing force result => cases renews
  | decoding force keys => cases renews
  | ended outcome => cases renews

theorem Responds.monotonic {step : KeyStep} {answer : step.Answer} (answered : Responds decode step site answer later) :
    site.monotonic ≤ later.monotonic := by
  cases answered with
  | look drifts => exact drifts.monotonic
  | acquire drifts free => exact drifts.monotonic
  | release drifts => exact drifts.monotonic
  | get drifts => exact drifts.monotonic
  | store drifts keys => exact drifts.monotonic
  | decode drifts keys text => exact drifts.monotonic

theorem stale_of_freshKeys {now : Rat} {cache : KeyCache} (fails : freshKeys false now cache = none) {keys : Json}
    (kept : cache.keys = some keys) (usable : truthy keys = true) : cache.fetchedAt + jwksTTL ≤ now := by
  unfold freshKeys at fails
  rw [if_neg (by simp), kept, Option.filter_some, usable, Bool.true_and] at fails
  by_contra early
  rw [if_pos (by rw [decide_eq_true_eq]; linarith)] at fails
  cases fails

omit [DecidableEq C] in
theorem Stale.drifts (stale : Stale site) (same : later.cache = site.cache) (passes : site.monotonic ≤ later.monotonic) :
    Stale later := by
  intro keys kept usable
  rw [same] at kept ⊢
  exact (stale keys kept usable).trans passes

/-- A validation enters the lock only by taking it. -/
theorem Moves.inside {text : String} {before after : Place} {event : KeyEvent}
    (moves : Moves decode clientID text before event after) (inside : after.inside) :
    before.inside ∨ event.operation = .acquire := by
  cases moves with
  | fresh force now cache keys serves => cases inside
  | stale force now cache fails => cases inside
  | acquired force => exact .inr rfl
  | refreshed force now cache keys serves => exact .inl rfl
  | still force now cache fails => exact .inl rfl
  | unavailable force => exact .inl rfl
  | got force keys => exact .inl rfl
  | stored force keys stamp => exact .inl rfl
  | failed force fault => cases inside
  | released force keys => cases inside
  | accepted force keys payload => cases inside
  | retried keys cause => cases inside
  | refused keys cause => cases inside

/-- A validation releases the lock, or stores keys, inside the lock only, and is outside after the release. -/
theorem Moves.leaves {text : String} {before after : Place} {event : KeyEvent}
    (moves : Moves decode clientID text before event after) :
    (event.operation = .release → before.inside ∧ after.inside = false) ∧
      (event.operation.stores → before.inside ∧ after.renews = false) := by
  cases moves with
  | failed force fault => exact ⟨fun _ => ⟨rfl, rfl⟩, nofun⟩
  | released force keys => exact ⟨fun _ => ⟨rfl, rfl⟩, nofun⟩
  | stored force keys stamp => exact ⟨nofun, fun _ => ⟨rfl, rfl⟩⟩
  | fresh force now cache keys serves => exact ⟨nofun, nofun⟩
  | stale force now cache fails => exact ⟨nofun, nofun⟩
  | acquired force => exact ⟨nofun, nofun⟩
  | refreshed force now cache keys serves => exact ⟨nofun, nofun⟩
  | still force now cache fails => exact ⟨nofun, nofun⟩
  | unavailable force => exact ⟨nofun, nofun⟩
  | got force keys => exact ⟨nofun, nofun⟩
  | accepted force keys payload => exact ⟨nofun, nofun⟩
  | retried keys cause => exact ⟨nofun, nofun⟩
  | refused keys cause => exact ⟨nofun, nofun⟩

/-- A validation that goes to get keys was on its way before, or has just found the cache stale. -/
theorem Moves.renews {text : String} {before after : Place} {event : KeyEvent}
    (moves : Moves decode clientID text before event after) (renews : after.renews)
    (answered : Responds decode event.operation site event.answer later) : before.renews ∨ Stale later := by
  cases moves with
  | still force now cache fails =>
      cases force with
      | true => cases renews
      | false =>
          cases answered with
          | look drifts => exact .inr fun keys kept usable => stale_of_freshKeys fails kept usable
  | got force keys =>
      cases force with
      | true => cases renews
      | false => exact .inl rfl
  | fresh force now cache keys serves => cases renews
  | stale force now cache fails => cases renews
  | acquired force => cases renews
  | refreshed force now cache keys serves => cases renews
  | unavailable force => cases renews
  | stored force keys stamp => cases renews
  | failed force fault => cases renews
  | released force keys => cases renews
  | accepted force keys payload => cases renews
  | retried keys cause => cases renews
  | refused keys cause => cases renews

/-- The lock is taken while it is free, and only a release frees it. -/
theorem Responds.lock {step : KeyStep} {answer : step.Answer} (answered : Responds decode step site answer later) :
    (step = .acquire → site.held = false) ∧ (step ≠ .release → site.held = true ∨ step = .acquire → later.held = true) := by
  cases answered with
  | look drifts =>
      exact ⟨nofun, fun _ held => held.elim (fun held => drifts.held.trans held) nofun⟩
  | acquire drifts free => exact ⟨fun _ => drifts.held.symm.trans free, fun _ _ => rfl⟩
  | release drifts => exact ⟨nofun, fun other => absurd rfl other⟩
  | get drifts => exact ⟨nofun, fun _ held => held.elim (fun held => drifts.held.trans held) nofun⟩
  | store drifts keys => exact ⟨nofun, fun _ held => held.elim (fun held => drifts.held.trans held) nofun⟩
  | decode drifts keys text => exact ⟨nofun, fun _ held => held.elim (fun held => drifts.held.trans held) nofun⟩

theorem Guarded.step (guarded : Guarded trace site place)
    (steps : Steps decode clientID token site place label later reached) : Guarded (trace ++ [label]) later reached := by
  have before {other : C} (inside : (reached other).inside) :
      (place other).inside ∨ other = label.1 ∧ label.2.operation = .acquire := by
    by_cases same : other = label.1
    · subst same
      exact (steps.moves.inside inside).imp_right fun acquires => ⟨rfl, acquires⟩
    · rw [steps.others other same] at inside
      exact .inl inside
  have alone (acquires : label.2.operation = .acquire) {other : C} (inside : (place other).inside) : False := by
    have free := steps.answered.lock.1 acquires
    rw [guarded.held other inside] at free
    cases free
  have kept (silent : label.2.operation.stores = false) : later.cache = site.cache := by
    rcases steps.answered.cached with same | ⟨keys, stores, _⟩
    · exact same
    · rw [stores] at silent
      cases silent
  refine ⟨fun first second one two => ?_, fun call inside => ?_, fun call renews => ?_, ?_⟩
  · rcases before one with one | ⟨rfl, acquires⟩
    · rcases before two with two | ⟨rfl, acquires⟩
      · exact guarded.single first second one two
      · exact (alone acquires one).elim
    · rcases before two with two | ⟨rfl, _⟩
      · exact (alone acquires two).elim
      · rfl
  · have staying : label.2.operation ≠ .release := by
      intro releases
      obtain ⟨leaving, outside⟩ := steps.moves.leaves.1 releases
      rcases before inside with old | ⟨rfl, acquires⟩
      · obtain rfl := guarded.single call label.1 old leaving
        rw [outside] at inside
        cases inside
      · rw [acquires] at releases
        cases releases
    refine steps.answered.lock.2 staying ?_
    rcases before inside with old | ⟨_, acquires⟩
    · exact .inl (guarded.held call old)
    · exact .inr acquires
  · by_cases same : call = label.1
    · subst same
      rcases steps.moves.renews renews steps.answered with old | stale
      · refine (guarded.stale _ old).drifts (kept ?_) steps.answered.monotonic
        by_contra stores
        rw [(steps.moves.leaves.2 (by simpa using stores)).2] at renews
        cases renews
      · exact stale
    · rw [steps.others call same] at renews
      refine (guarded.stale call renews).drifts (kept ?_) steps.answered.monotonic
      by_contra stores
      have storing := (steps.moves.leaves.2 (by simpa using stores)).1
      exact same (guarded.single call label.1 (Place.inside_of_renews renews) storing)
  · intro earlier caller keys stamp between split silent
    rcases List.eq_nil_or_concat between with rfl | ⟨others, last, rfl⟩
    · obtain ⟨_, same⟩ := List.append_inj' split rfl
      obtain rfl := (List.cons.inj same).1
      have answered := steps.answered
      cases answered with
      | store drifts keys => rfl
    · rw [List.concat_eq_append, ← List.cons_append, ← List.append_assoc] at split
      obtain ⟨old, same⟩ := List.append_inj' split rfl
      obtain rfl := (List.cons.inj same).1
      rw [kept (silent label (by simp))]
      exact guarded.last earlier caller keys stamp others old fun entry member => silent entry (by simp [member])

end Lock

section Results

variable {monotonic : Rat} {wall : Int} {published : Option Json} {final : Validations C}
  {moments earlier rest : List (Moment (Validations C) (C × KeyEvent))} {moment : Moment (Validations C) (C × KeyEvent)}

/-- The validations are at places of which the trace says enough, and the lock guards the cache. -/
def Kept (decode : Json → Int → String → Except String Payload) (clientID : String) (token : C → String)
    (trace : KeyTrace C) (pool : Validations C) : Prop :=
  ∃ place, AtPlaces decode clientID token pool place ∧ Informed decode clientID token trace pool.world place ∧
    Guarded trace pool.world place

theorem Kept.step {trace : KeyTrace C} (kept : Kept decode clientID token trace pool)
    (taken : Pool.Step (Responds decode) pool label next) : Kept decode clientID token (trace ++ [label]) next := by
  obtain ⟨place, placed, informed, guarded⟩ := kept
  obtain ⟨reached, arrived, steps⟩ := placed.step taken
  exact ⟨reached, arrived, informed.step steps, guarded.step steps⟩

omit [DecidableEq C] in
theorem kept_fresh :
    Kept decode clientID token [] (Validations.fresh decode clientID token monotonic wall published) := by
  refine ⟨fun _ => .looking false, fun call => validateToken_eq decode clientID (token call), ⟨nofun, nofun⟩, ?_⟩
  refine ⟨nofun, nofun, nofun, fun earlier caller keys stamp between split => ?_⟩
  simp at split

theorem kept_of_run
    (run : Runs (Pool.Step (Responds decode)) (Validations.fresh decode clientID token monotonic wall published) moments final) :
    Kept decode clientID token (traceOf moments) final ∧
      ∀ earlier moment rest, moments = earlier ++ moment :: rest →
        Kept decode clientID token (traceOf earlier) moment.state := by
  have kept := run.keeps_history (Kept decode clientID token) (fun _ _ _ _ taken kept => kept.step taken) [] kept_fresh
  simpa only [List.nil_append] using kept

/-- In every interleaving, a token is accepted with keys that the identity provider has served, to the same validation
or less than the lifetime before it has looked, and it is refused only with keys that the validation has got after a
first refusal. -/
theorem validated_with_served_keys
    (run : Runs (Pool.Step (Responds decode)) (Validations.fresh decode clientID token monotonic wall published) moments final)
    (call : C) :
    (∀ payload, final.program call = .done payload →
      Accepted decode clientID token (traceOf moments) call payload) ∧
      ∀ cause, final.program call = .raise (.invalid cause) → Refused decode token (traceOf moments) call cause := by
  obtain ⟨place, placed, informed, guarded⟩ := (kept_of_run run).1
  have known := informed.known call
  constructor
  · intro payload ended
    rw [Place.eq_ended (.ok payload) ((placed call).symm.trans ended)] at known
    exact known
  · intro cause ended
    rw [Place.eq_ended (.error (.invalid cause)) ((placed call).symm.trans ended)] at known
    exact known cause rfl

omit [DecidableEq C] in
theorem Moves.storing {text : String} {before after : Place} {keys : Json} {stamp : Rat}
    (moves : Moves decode clientID text before ⟨.store keys, stamp⟩ after) : ∃ force, before = .storing force keys := by
  cases moves with
  | stored force keys stamp => exact ⟨force, rfl⟩

theorem Responds.stamped {keys : Json} {stamp : Rat} (answered : Responds decode (.store keys) site stamp later) :
    site.monotonic ≤ stamp := by
  cases answered with
  | store drifts keys => exact drifts.monotonic

omit [DecidableEq C] in
/-- What the concurrent validation accepts, the sequential one accepts with the same keys. -/
theorem Accepted.validateToken_eq {trace : KeyTrace C} {call : C} {payload : Payload}
    (accepted : Accepted decode clientID token trace call payload) :
    ∃ keys wall, Current trace call keys ∧ ∀ now, Auth.validateToken
      ⟨Json, fun _ _ => some keys, fun keys _ text => decode keys wall text, clientID⟩ now (token call) = .ok payload := by
  obtain ⟨keys, wall, current, decoded, passes⟩ := accepted
  refine ⟨keys, wall, current, fun now => ?_⟩
  have read : decodeToken ⟨Json, fun _ _ => some keys, fun keys _ text => decode keys wall text, clientID⟩ now
      (token call) = .ok payload := by
    unfold decodeToken
    change Except.bind (.ok keys) _ = _
    simp only [Except.bind, decoded]
    rfl
  unfold Auth.validateToken
  rw [read]
  exact passes

end Results

end Validations

section Schedules

/-- Every look takes an hour, and the identity provider always publishes the same keys. -/
def respond (decode : Json → Int → String → Except String Payload) :
    (step : KeyStep) → Site → step.Answer × Site
  | .look, site => ((site.monotonic + 3600, site.cache), { site with monotonic := site.monotonic + 3600 })
  | .acquire, site => ((), { site with held := true })
  | .release, site => ((), { site with held := false })
  | .get, site => (site.published, site)
  | .store keys, site => (site.monotonic, { site with cache := ⟨some keys, site.monotonic⟩ })
  | .decode keys text, site => (decode keys site.wall text, site)

/-- A lock that is held is not given again. -/
def KeyStep.allowed : KeyStep → Site → Bool
  | .acquire, site => !site.held
  | _, _ => true

theorem drifts_refl (site : Site) : Drifts site site := ⟨le_rfl, rfl, rfl⟩

theorem responds_respond (decode : Json → Int → String → Except String Payload) (step : KeyStep) (site : Site)
    (allowed : step.allowed site = true) : Responds decode step site (respond decode step site).1 (respond decode step site).2 := by
  cases step with
  | look =>
      have drifts : Drifts site { site with monotonic := site.monotonic + 3600 } :=
        ⟨by dsimp only; linarith, rfl, rfl⟩
      exact .look drifts
  | acquire => exact .acquire (drifts_refl site) (by simpa [KeyStep.allowed] using allowed)
  | release => exact .release (drifts_refl site)
  | get => exact .get (drifts_refl site)
  | store keys => exact .store (drifts_refl site) keys
  | decode keys text => exact .decode (drifts_refl site) keys text

def oneKey : Json := .object [("keys", .array [.string "k1"])]

def ownPayload : Payload := ⟨some "s1", some "j1", some 0, some 900, [("azp", .string "pxtly-api")]⟩

/-- The one key signs every token. -/
def decodeAny (_ : Json) (_ : Int) (_ : String) : Except String Payload := .ok ownPayload

def twoValidations : Validations Bool :=
  .fresh decodeAny "pxtly-api" (fun _ => "token") 0 0 (some oneKey)

abbrev validationsOf (schedule : List Bool) := Pool.record (respond decodeAny) twoValidations schedule

theorem runs_validationsOf (schedule : List Bool)
    (each : ∀ moment ∈ (validationsOf schedule).1, moment.label.2.operation.allowed moment.state.world = true) :
    Runs (Pool.Step (Responds decodeAny)) twoValidations (validationsOf schedule).1 (validationsOf schedule).2 :=
  @Pool.runs_record_of keySignature TokenFault Payload Site Bool _ (Responds decodeAny) (respond decodeAny) KeyStep.allowed
    (responds_respond decodeAny) twoValidations schedule each

/-- One validation gets the keys and decodes its token. -/
theorem token_accepted :
    Accepted decodeAny "pxtly-api" (fun _ => "token") (traceOf (validationsOf (List.replicate 7 true)).1) true ownPayload :=
  (validated_with_served_keys (runs_validationsOf (List.replicate 7 true) (by decide +kernel)) true).1 ownPayload rfl

/-- The second validation finds the keys of the first one an hour old. -/
def afterAnHour : List Bool := List.replicate 6 true ++ List.replicate 4 false

end Schedules

end Pxtly.Auth.SigningKeys
