/-
This file gives stores whose entries expire, and the commands that programs send to them.
-/

import Mathlib.Logic.Function.Basic
import Pxtly.Foundation.Program

namespace Pxtly.Foundation

/-- An entry of the store has a value and the instant at which it expires. -/
abbrev Expiring (K V : Type) := K → Option (V × Int)

namespace Expiring

variable {K V : Type}

def get (store : Expiring K V) (now : Int) (key : K) : Option V :=
  match store key with
  | none => none
  | some (value, deadline) => if now < deadline then some value else none

/-- A good value stays under the key until the instant. -/
def Lasts (store : Expiring K V) (key : K) (good : V → Prop) (instant : Int) : Prop :=
  ∃ value deadline, store key = some (value, deadline) ∧ good value ∧ instant ≤ deadline

theorem Lasts.get {store : Expiring K V} {key : K} {good : V → Prop} {instant : Int}
    (lasts : store.Lasts key good instant) {now : Int} (before : now < instant) :
    ∃ value, store.get now key = some value ∧ good value := by
  obtain ⟨value, deadline, stored, suits, long⟩ := lasts
  refine ⟨value, ?_, suits⟩
  rw [Expiring.get, stored]
  exact if_pos (Int.lt_of_lt_of_le before long)

variable [DecidableEq K]

def put (store : Expiring K V) (key : K) (value : V) (deadline : Int) : Expiring K V :=
  Function.update store key (some (value, deadline))

section Entries

variable {store : Expiring K V} {key : K} {good : V → Prop} {instant : Int}

theorem Lasts.put_other (lasts : store.Lasts key good instant) {other : K} (different : key ≠ other) (value : V)
    (deadline : Int) : (store.put other value deadline).Lasts key good instant := by
  obtain ⟨kept, late, stored, suits, long⟩ := lasts
  exact ⟨kept, late, (Function.update_of_ne different _ _).trans stored, suits, long⟩

theorem lasts_put (store : Expiring K V) (key : K) {value : V} (suits : good value) {deadline : Int}
    (long : instant ≤ deadline) : (store.put key value deadline).Lasts key good instant :=
  ⟨value, deadline, Function.update_self _ _ _, suits, long⟩

end Entries

section Commands

variable (K V)

inductive Command where
  | now
  | get (key : K)
  | setex (key : K) (lifetime : Int) (value : V)

variable {K V}

/-- A command to the store that has no answer has failed; the clock always answers. -/
abbrev Command.Answer : Command K V → Type
  | .now => Int
  | .get _ => Option (Option V)
  | .setex .. => Option Unit

variable (K V)

abbrev signature : Signature where
  Operation := Command K V
  Answer := Command.Answer

variable {K V}

/-- A failed command has changed nothing, or only its reply was lost. -/
inductive Responds (now : Int) : (command : Command K V) → Expiring K V → command.Answer → Expiring K V → Prop where
  | now (store : Expiring K V) : Responds now .now store now store
  | found (key : K) (store : Expiring K V) : Responds now (.get key) store (some (store.get now key)) store
  | unread (key : K) (store : Expiring K V) : Responds now (.get key) store none store
  | stored (key : K) (lifetime : Int) (value : V) (store : Expiring K V) :
      Responds now (.setex key lifetime value) store (some ()) (store.put key value (now + lifetime))
  | unstored (key : K) (lifetime : Int) (value : V) (store : Expiring K V) :
      Responds now (.setex key lifetime value) store none store
  | unconfirmed (key : K) (lifetime : Int) (value : V) (store : Expiring K V) :
      Responds now (.setex key lifetime value) store none (store.put key value (now + lifetime))

/-- Here no command fails. -/
def respond (now : Int) : (command : Command K V) → Expiring K V → command.Answer × Expiring K V
  | .now, store => (now, store)
  | .get key, store => (some (store.get now key), store)
  | .setex key lifetime value, store => (some (), store.put key value (now + lifetime))

theorem responds_respond (now : Int) (command : Command K V) (store : Expiring K V) :
    Responds now command store (respond now command store).1 (respond now command store).2 := by
  cases command with
  | now => exact .now store
  | get key => exact .found key store
  | setex key lifetime value => exact .stored key lifetime value store

variable {F A : Type} {now : Int} {store final : Expiring K V}

open Program

theorem reaches_now {next : Int → Program (signature K V) F A} {outcome : Except F A} :
    (call (S := signature K V) .now >>= next).Reaches (S := signature K V) (Responds now) store outcome final ↔
      (next now).Reaches (S := signature K V) (Responds now) store outcome final := by
  constructor
  · intro ⟨answer, later, responded, rest⟩
    cases responded
    exact rest
  · exact fun rest => ⟨now, store, .now store, rest⟩

/-- A command that fails raises a fault. -/
def send (fault : F) (key : K) (lifetime : Int) (value : V) : Program (signature K V) F Unit :=
  .perform (.setex key lifetime value) fun
    | some () => .done ()
    | none => .raise fault

theorem reaches_send {fault : F} {key : K} {lifetime : Int} {value : V} {outcome : Except F Unit}
    (reaches : (send fault key lifetime value).Reaches (S := signature K V) (Responds now) store outcome final) :
    final = store.put key value (now + lifetime) ∨ (outcome = .error fault ∧ final = store) := by
  obtain ⟨answer, later, responded, rest⟩ := reaches
  cases responded with
  | stored => exact .inl rest.2
  | unstored => exact .inr rest
  | unconfirmed => exact .inl rest.2

end Commands

end Expiring

end Pxtly.Foundation
