/-
This file gives a replica that applies the updates of its primary later, and in the same order.
-/

import Mathlib.Logic.Relation
import Mathlib.Data.List.Basic

namespace Pxtly.Foundation

open Relation

/-- A primary and its replica hold values, and some updates of the primary are still pending. -/
structure Replica (S U : Type) where
  primary : S
  replica : S
  pending : List U

namespace Replica

variable {S U : Type} (apply : S → U → S)

/-- The primary takes any update, and the replica takes the oldest pending one. -/
inductive Step : Replica S U → Replica S U → Prop where
  | submit (state : Replica S U) (update : U) :
      Step state { state with
        primary := apply state.primary update
        pending := state.pending ++ [update] }
  | commit (primary replica : S) (update : U) (pending : List U) :
      Step ⟨primary, replica, update :: pending⟩ ⟨primary, apply replica update, pending⟩

/-- The pending updates lead from the replica to the primary. -/
def Consistent (state : Replica S U) : Prop := state.pending.foldl apply state.replica = state.primary

variable {apply}

theorem Step.of_submit {state next : Replica S U} (update : U)
    (primary : next.primary = apply state.primary update) (replica : next.replica = state.replica)
    (pending : next.pending = state.pending ++ [update]) : Step apply state next := by
  have same : next =
      { state with primary := apply state.primary update, pending := state.pending ++ [update] } := by
    rw [← primary, ← replica, ← pending]
  rw [same]
  exact .submit state update

theorem Step.of_commit {state next : Replica S U} {update : U} (primary : next.primary = state.primary)
    (replica : next.replica = apply state.replica update)
    (pending : state.pending = update :: next.pending) : Step apply state next := by
  obtain ⟨first, second, updates⟩ := state
  obtain ⟨_, _, rest⟩ := next
  obtain rfl : _ = first := primary
  obtain rfl : updates = _ := pending
  obtain rfl : _ = apply second update := replica
  exact .commit _ second update rest

theorem consistent_of_settled {state : Replica S U} (same : state.replica = state.primary)
    (settled : state.pending = []) : Consistent apply state := by
  rw [Consistent, settled, List.foldl_nil, same]

/-- One step keeps a replica consistent. -/
theorem Step.consistent {state next : Replica S U} (step : Step apply state next)
    (consistent : Consistent apply state) : Consistent apply next := by
  cases step with
  | submit update =>
      rw [Consistent] at consistent ⊢
      rw [List.foldl_append, consistent, List.foldl_cons, List.foldl_nil]
  | commit primary replica update pending => exact consistent

/-- A run keeps a replica consistent. -/
theorem consistent_of_reached {start final : Replica S U} (reached : ReflTransGen (Step apply) start final)
    (consistent : Consistent apply start) : Consistent apply final := by
  induction reached with
  | refl => exact consistent
  | tail _ step inductionHypothesis => exact step.consistent inductionHypothesis

/-- A consistent replica without pending updates equals its primary. -/
theorem Consistent.settled {state : Replica S U} (consistent : Consistent apply state)
    (settled : state.pending = []) : state.replica = state.primary := by
  rw [Consistent, settled] at consistent
  exact consistent

end Replica

end Pxtly.Foundation
