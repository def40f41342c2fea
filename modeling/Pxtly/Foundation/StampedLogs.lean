/-
This file gives logs of stamped entries: which entry has the greatest stamp, and which one was written last.
-/

import Mathlib.Data.List.Induction
import Mathlib.Data.List.Sort
import Mathlib.Order.Defs.LinearOrder

namespace Pxtly.Foundation

section Latest

variable {A K : Type} [LinearOrder K] (stamp : A → K)

/-- The latest entry of a log is the one with the greatest stamp, wherever it stands. -/
def Latest (log : List A) (entry : A) : Prop := entry ∈ log ∧ ∀ other ∈ log, stamp other ≤ stamp entry

/-- This sorts a log from the greatest stamp to the least one. -/
def newestFirst (log : List A) : List A := log.mergeSort fun first second => stamp second ≤ stamp first

variable {stamp}

theorem mem_newestFirst {log : List A} {entry : A} : entry ∈ newestFirst stamp log ↔ entry ∈ log := List.mem_mergeSort

theorem latest_of_head {log : List A} {entry : A} (head : (newestFirst stamp log).head? = some entry) :
    Latest stamp log entry := by
  have sorted : (newestFirst stamp log).Pairwise fun first second => stamp second ≤ stamp first := by
    have pairs := @List.pairwise_mergeSort A (fun first second => decide (stamp second ≤ stamp first))
      (fun first second third one two => by simpa using (of_decide_eq_true two).trans (of_decide_eq_true one))
      (fun first second => by simpa using le_total (stamp second) (stamp first)) log
    simpa [newestFirst] using pairs
  obtain ⟨rest, same⟩ : ∃ rest, newestFirst stamp log = entry :: rest := by
    cases listed : newestFirst stamp log with
    | nil =>
        rw [listed] at head
        cases head
    | cons first rest =>
        rw [listed] at head
        obtain rfl := Option.some.inj head
        exact ⟨rest, rfl⟩
  refine ⟨mem_newestFirst.mp (same ▸ List.mem_cons_self), fun other member => ?_⟩
  rw [same] at sorted
  rcases List.mem_cons.mp (same ▸ mem_newestFirst.mpr member) with rfl | behind
  · exact le_rfl
  · exact (List.pairwise_cons.mp sorted).1 other behind

variable (stamp) in
theorem exists_head_of_mem {log : List A} {entry : A} (member : entry ∈ log) :
    ∃ latest, (newestFirst stamp log).head? = some latest := by
  cases listed : newestFirst stamp log with
  | nil => exact absurd (listed ▸ mem_newestFirst.mpr member) List.not_mem_nil
  | cons first rest => exact ⟨first, rfl⟩

/-- Where no stamp occurs twice, a log has one latest entry. -/
theorem Latest.unique {log : List A} {first second : A} (distinct : (log.map stamp).Nodup) (one : Latest stamp log first)
    (two : Latest stamp log second) : first = second :=
  List.inj_on_of_nodup_map distinct one.1 two.1 (le_antisymm (two.2 first one.1) (one.2 second two.1))

end Latest

section Last

variable {A V : Type} (value : A → Option V)

/-- The value that was written last stands; an entry without a value writes nothing. -/
def lastValue (start : V) (log : List A) : V := log.foldl (fun current entry => (value entry).getD current) start

variable {value}

@[simp] theorem lastValue_nil (start : V) : lastValue value start [] = start := rfl

@[simp] theorem lastValue_concat (start : V) (log : List A) (entry : A) :
    lastValue value start (log ++ [entry]) = (value entry).getD (lastValue value start log) := by
  rw [lastValue, List.foldl_append]
  rfl

variable (value) in
/-- The last value is the one of an entry, unless no entry has any. -/
theorem lastValue_cases (start : V) (log : List A) :
    (∃ entry ∈ log, value entry = some (lastValue value start log)) ∨
      lastValue value start log = start ∧ ∀ entry ∈ log, value entry = none := by
  induction log using List.reverseRecOn with
  | nil => exact .inr ⟨rfl, nofun⟩
  | append_singleton before last inductionHypothesis =>
      rw [lastValue_concat]
      cases written : value last with
      | some v => exact .inl ⟨last, by simp, written⟩
      | none =>
          rcases inductionHypothesis with ⟨entry, member, same⟩ | ⟨same, nothing⟩
          · exact .inl ⟨entry, List.mem_append_left _ member, same⟩
          · refine .inr ⟨same, fun entry member => ?_⟩
            rcases List.mem_append.mp member with old | new
            · exact nothing entry old
            · rwa [List.mem_singleton.mp new]

/-- The last value does not depend on the order exactly where all entries write one value. -/
theorem lastValue_perm_iff (start : V) (log : List A) :
    (∀ other, other.Perm log → lastValue value start other = lastValue value start log) ↔
      ∀ first ∈ log, ∀ second ∈ log, ∀ one two, value first = some one → value second = some two → one = two := by
  have reached {entry : A} {v : V} (member : entry ∈ log) (written : value entry = some v) :
      ∃ other, other.Perm log ∧ lastValue value start other = v := by
    obtain ⟨before, after, rfl⟩ := List.append_of_mem member
    refine ⟨before ++ after ++ [entry], ?_, by rw [lastValue_concat, written]; rfl⟩
    rw [List.append_assoc]
    exact List.Perm.append_left before (List.perm_append_singleton entry after)
  constructor
  · intro free first firstMember second secondMember one two firstWritten secondWritten
    obtain ⟨others, order, same⟩ := reached firstMember firstWritten
    obtain ⟨more, moreOrder, moreSame⟩ := reached secondMember secondWritten
    rw [← same, ← moreSame, free others order, free more moreOrder]
  · intro same other order
    rcases lastValue_cases value start other with ⟨first, member, written⟩ | ⟨kept, nothing⟩
    · rcases lastValue_cases value start log with ⟨second, secondMember, secondWritten⟩ | ⟨_, nothing⟩
      · exact same first (order.mem_iff.mp member) second secondMember _ _ written secondWritten
      · cases (nothing first (order.mem_iff.mp member)).symm.trans written
    · rcases lastValue_cases value start log with ⟨second, secondMember, written⟩ | ⟨same, _⟩
      · cases (nothing second (order.mem_iff.mpr secondMember)).symm.trans written
      · rw [kept, same]

end Last

end Pxtly.Foundation
