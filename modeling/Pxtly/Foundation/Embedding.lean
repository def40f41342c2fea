/-
This file gives a small database as a part of a larger one.
-/

import Pxtly.Foundation.Transactions

namespace Pxtly.Foundation.Database

open Program

/-- The queries and writes of the inner database are also queries and writes of the outer one. -/
structure Embedding (inner outer : Database) where
  part : outer.Tables → inner.Tables
  query : inner.Query → outer.Query
  result : (query' : inner.Query) → outer.Result (query query') → inner.Result query'
  write : inner.Write → outer.Write
  answers : ∀ query' tables, result query' (outer.answer (query query') tables) = inner.answer query' (part tables)
  admits : ∀ tables write', outer.admits tables (write write') = inner.admits (part tables) write'
  part_apply : ∀ tables write', part (outer.apply tables (write write')) = inner.apply (part tables) write'

namespace Embedding

variable {inner outer : Database} {F A : Type} (embedding : Embedding inner outer)

/-- A program over the inner database runs over the outer one. -/
def translate : Program inner.signature F A → Program outer.signature F A
  | .done value => .done value
  | .raise fault => .raise fault
  | .perform (.read query') next => .perform (.read (embedding.query query')) fun answer =>
      translate (next (answer.map (embedding.result query')))
  | .perform (.write write') next => .perform (.write (embedding.write write')) fun answer => translate (next answer)
  | .perform .commit next => .perform .commit fun answer => translate (next answer)

theorem part_view (tables : outer.Tables) (pending : List inner.Write) :
    embedding.part (view tables (pending.map embedding.write)) = view (embedding.part tables) pending := by
  induction pending generalizing tables with
  | nil => rfl
  | cons write' rest inductionHypothesis =>
      have later := inductionHypothesis (outer.apply tables (embedding.write write'))
      rw [embedding.part_apply] at later
      exact later

/-- The translated program has the outcome of the program and leaves the same part behind. -/
theorem evaluate_translate (program : Program inner.signature F A) (tables : outer.Tables)
    (pending : List inner.Write) :
    let outside := (embedding.translate program).evaluate respond (tables, pending.map embedding.write)
    let inside := program.evaluate respond (embedding.part tables, pending)
    outside.1 = inside.1 ∧ embedding.part outside.2.1 = inside.2.1 := by
  induction program generalizing tables pending with
  | done value => exact ⟨rfl, rfl⟩
  | raise fault => exact ⟨rfl, rfl⟩
  | perform operation next inductionHypothesis =>
      cases operation with
      | read query' =>
          have answered := embedding.answers query' (view tables (pending.map embedding.write))
          rw [part_view] at answered
          simp only [translate, evaluate, respond, Option.map_some, answered]
          exact inductionHypothesis _ tables pending
      | write write' =>
          have admitted := embedding.admits (view tables (pending.map embedding.write)) write'
          rw [part_view] at admitted
          simp only [translate, evaluate, respond, admitted]
          split
          · have later := inductionHypothesis (some ()) tables (pending ++ [write'])
            rwa [List.map_append] at later
          · exact inductionHypothesis none tables []
      | commit =>
          have committed := inductionHypothesis (some ()) (view tables (pending.map embedding.write)) []
          rw [part_view] at committed
          exact committed

theorem alone_translate (program : Program inner.signature F A) (tables : outer.Tables) :
    (alone (embedding.translate program) tables).1 = (alone program (embedding.part tables)).1 ∧
      embedding.part (alone (embedding.translate program) tables).2 = (alone program (embedding.part tables)).2 :=
  embedding.evaluate_translate program tables []

/-- What the embedded writes keep is kept by a translated program. -/
theorem evaluate_keeps (invariant : outer.Tables → Prop)
    (kept : ∀ tables write', invariant tables → invariant (outer.apply tables (embedding.write write')))
    (program : Program inner.signature F A) (tables : outer.Tables) (pending : List inner.Write)
    (initial : invariant tables) :
    invariant ((embedding.translate program).evaluate respond (tables, pending.map embedding.write)).2.1 := by
  induction program generalizing tables pending with
  | done value => exact initial
  | raise fault => exact initial
  | perform operation next inductionHypothesis =>
      cases operation with
      | read query' => exact inductionHypothesis _ tables pending initial
      | write write' =>
          simp only [translate, evaluate, respond]
          split
          · have later := inductionHypothesis (some ()) tables (pending ++ [write']) initial
            rwa [List.map_append] at later
          · exact inductionHypothesis none tables [] initial
      | commit =>
          refine inductionHypothesis (some ()) (view tables (pending.map embedding.write)) [] ?_
          have seen : ∀ (writes : List inner.Write) (tables : outer.Tables), invariant tables →
              invariant (view tables (writes.map embedding.write)) := by
            intro writes
            induction writes with
            | nil => exact fun _ holds => holds
            | cons write' rest later => exact fun tables holds => later _ (kept tables write' holds)
          exact seen pending tables initial

theorem alone_keeps (invariant : outer.Tables → Prop)
    (kept : ∀ tables write', invariant tables → invariant (outer.apply tables (embedding.write write')))
    (program : Program inner.signature F A) {tables : outer.Tables} (initial : invariant tables) :
    invariant (alone (embedding.translate program) tables).2 :=
  embedding.evaluate_keeps invariant kept program tables [] initial

end Embedding

end Pxtly.Foundation.Database
