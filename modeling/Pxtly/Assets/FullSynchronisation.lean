/-
This file gives the task that starts the synchronisation of every asset, and that it starts each of them once.
-/

import Mathlib.Data.List.Dedup
import Pxtly.Chaincode.Models

namespace Pxtly.Assets

open Chaincode (AssetStatus statusRembourse)

section Pages

variable {A : Type} (items : List A) (limit offset : Nat)

/-- This is `LIMIT limit OFFSET offset`. -/
def pageOf : List A := (items.drop offset).take limit

theorem pageOf_append_drop : pageOf items limit offset ++ items.drop (offset + limit) = items.drop offset := by
  rw [pageOf, ← List.drop_drop, List.take_append_drop]

theorem length_pageOf : (pageOf items limit offset).length = min limit (items.length - offset) := by
  rw [pageOf, List.length_take, List.length_drop]

end Pages

section Task

/-- The query reads these two columns; the column of the status may be null. -/
structure AssetStatusRow where
  assetID : String
  status : Option AssetStatus

/-- A comparison with null is unknown, so the clause `WHERE` drops the row. -/
def AssetStatusRow.outstanding (row : AssetStatusRow) : Bool :=
  match row.status with
  | some status => status ≠ statusRembourse
  | none => false

/-- The collation of the database orders the distinct identifiers. -/
def outstandingIDs (collation : String → String → Bool) (assets : List AssetStatusRow) : List String :=
  ((assets.filter AssetStatusRow.outstanding).map AssetStatusRow.assetID).dedup.mergeSort collation

def syncBatchSize : Nat := 500

/-- The task keeps the offset, the number of started synchronisations and the calls of `delay`. -/
structure SyncAll where
  offset : Nat := 0
  launched : Nat := 0
  delayed : List String := []

/-- A round ends the loop with an empty batch, and after a batch that is not full. -/
def SyncAll.round (page : Nat → Nat → List String) (state : SyncAll) : SyncAll × Bool :=
  let batch := page syncBatchSize state.offset
  if batch.isEmpty then (state, false)
  else
    ({ offset := state.offset + syncBatchSize
       launched := state.launched + batch.length
       delayed := state.delayed ++ batch }, !(batch.length < syncBatchSize))

/-- Nothing is known of a loop that goes on for more rounds. -/
def SyncAll.loop (page : Nat → Nat → List String) : Nat → SyncAll → Option SyncAll
  | 0, _ => none
  | rounds + 1, state =>
      match state.round page with
      | (next, true) => SyncAll.loop page rounds next
      | (next, false) => some next

/-- The result is also written to the audit log, under the name of the task. -/
structure SyncAllReport where
  delayed : List String
  launched : Nat
  audited : String × List (String × Nat)

/-- The table does not change while the task runs. -/
def doSyncAll (collation : String → String → Bool) (assets : List AssetStatusRow) (rounds : Nat) :
    Option SyncAllReport :=
  (SyncAll.loop (pageOf (outstandingIDs collation assets)) rounds {}).map fun state =>
    { delayed := state.delayed
      launched := state.launched
      audited := ("sync_fabric_state_all", [("launched", state.launched)]) }

end Task

section Loop

variable {ids : List String}

/-- A round starts what its page holds, and goes on exactly where the page is full. -/
theorem round_pageOf (state : SyncAll) (left : state.offset < ids.length) :
    state.round (pageOf ids) =
      ({ offset := state.offset + syncBatchSize
         launched := state.launched + (pageOf ids syncBatchSize state.offset).length
         delayed := state.delayed ++ pageOf ids syncBatchSize state.offset },
       decide (state.offset + syncBatchSize ≤ ids.length)) := by
  have length := length_pageOf ids syncBatchSize state.offset
  have occupied : (pageOf ids syncBatchSize state.offset).isEmpty = false := by
    rw [← Bool.not_eq_true, List.isEmpty_iff_length_eq_zero, length]
    unfold syncBatchSize
    omega
  have full : (!decide ((pageOf ids syncBatchSize state.offset).length < syncBatchSize)) =
      decide (state.offset + syncBatchSize ≤ ids.length) := by
    rw [length, ← decide_not]
    apply decide_eq_decide.mpr
    omega
  rw [SyncAll.round, occupied, if_neg Bool.false_ne_true, full]

theorem round_of_le (state : SyncAll) (past : ids.length ≤ state.offset) : state.round (pageOf ids) = (state, false) := by
  have length := length_pageOf ids syncBatchSize state.offset
  have empty : (pageOf ids syncBatchSize state.offset).isEmpty = true := by
    rw [List.isEmpty_iff_length_eq_zero, length]
    omega
  rw [SyncAll.round, if_pos empty]

/-- By induction on the rounds: from any offset, the loop starts what is left, each of it once and in order. -/
theorem loop_pageOf {rounds : Nat} (state : SyncAll) (enough : ids.length - state.offset < syncBatchSize * rounds) :
    ∃ last, SyncAll.loop (pageOf ids) rounds state = some last ∧
      last.delayed = state.delayed ++ ids.drop state.offset ∧
      last.launched = state.launched + (ids.length - state.offset) := by
  induction rounds generalizing state with
  | zero => exact absurd enough (by omega)
  | succ rounds inductionHypothesis =>
      rcases Nat.lt_or_ge state.offset ids.length with left | past
      · have visited := pageOf_append_drop ids syncBatchSize state.offset
        have length := length_pageOf ids syncBatchSize state.offset
        rw [SyncAll.loop, round_pageOf state left]
        by_cases full : state.offset + syncBatchSize ≤ ids.length
        · have fewer : ids.length - (state.offset + syncBatchSize) < syncBatchSize * rounds := by
            rw [Nat.mul_succ] at enough
            omega
          obtain ⟨last, ended, delayed, launched⟩ := inductionHypothesis
            ⟨state.offset + syncBatchSize, state.launched + (pageOf ids syncBatchSize state.offset).length,
              state.delayed ++ pageOf ids syncBatchSize state.offset⟩ fewer
          refine ⟨last, by rw [decide_eq_true full]; exact ended, ?_, ?_⟩
          · rw [delayed, List.append_assoc, visited]
          · calc last.launched = state.launched + (pageOf ids syncBatchSize state.offset).length +
                  (ids.length - (state.offset + syncBatchSize)) := launched
              _ = state.launched + (ids.length - state.offset) := by
                rw [length]
                omega
        · rw [decide_eq_false full]
          refine ⟨_, rfl, ?_, ?_⟩
          · rw [← visited, List.drop_eq_nil_of_le (by omega), List.append_nil]
          · show state.launched + (pageOf ids syncBatchSize state.offset).length = _
            rw [length]
            omega
      · rw [SyncAll.loop, round_of_le state past]
        refine ⟨state, rfl, ?_, ?_⟩
        · rw [List.drop_eq_nil_of_le past, List.append_nil]
        · omega

end Loop

section Visits

variable {collation : String → String → Bool} {assets : List AssetStatusRow}

theorem mem_outstandingIDs {id : String} :
    id ∈ outstandingIDs collation assets ↔
      ∃ row ∈ assets, row.assetID = id ∧ ∃ status, row.status = some status ∧ status ≠ statusRembourse := by
  rw [outstandingIDs, List.mem_mergeSort, List.mem_dedup, List.mem_map]
  constructor
  · rintro ⟨row, selected, same⟩
    obtain ⟨member, outstanding⟩ := List.mem_filter.mp selected
    refine ⟨row, member, same, ?_⟩
    unfold AssetStatusRow.outstanding at outstanding
    cases present : row.status with
    | none => simp [present] at outstanding
    | some status => exact ⟨status, rfl, by simpa [present] using outstanding⟩
  · rintro ⟨row, member, same, status, present, different⟩
    refine ⟨row, List.mem_filter.mpr ⟨member, ?_⟩, same⟩
    simpa [AssetStatusRow.outstanding, present] using different

theorem nodup_outstandingIDs : (outstandingIDs collation assets).Nodup :=
  (List.mergeSort_perm _ _).nodup_iff.mpr (List.nodup_dedup _)

end Visits

end Pxtly.Assets
