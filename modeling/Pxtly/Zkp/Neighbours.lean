/-
This file gives the loop that searches the neighbours of a key, and where it stops.
-/

import Mathlib.Data.Nat.Size
import Mathlib.Order.Bounds.Basic
import Pxtly.Zkp.NonMembership

namespace Pxtly.Zkp

section Rounds

variable (names : List String) (key : String)

/-- The loop runs for so many rounds; nothing is known where it has not stopped by then. -/
def searchWithin : Nat → Int → Int → Option (Option Int)
  | 0, lo, hi => if lo ≤ hi then none else some (some lo)
  | rounds + 1, lo, hi =>
      if lo ≤ hi then
        let mid := (lo + hi) / 2
        let name := names.getD mid.toNat ""
        if name = key then some none
        else if name < key then searchWithin rounds (mid + 1) hi
        else searchWithin rounds lo (mid - 1)
      else some (some lo)

variable {names key}

/-- Each round halves what is left, so the loop stops as soon as the rounds outnumber the halvings. -/
theorem searchWithin_eq {rounds : Nat} {lo hi : Int} (enough : (hi + 1 - lo).toNat < 2 ^ rounds) :
    searchWithin names key rounds lo hi = some (search names key lo hi) := by
  induction rounds generalizing lo hi with
  | zero =>
      have closed : ¬ lo ≤ hi := by
        rw [pow_zero] at enough
        omega
      rw [searchWithin, search, if_neg closed, if_neg closed]
  | succ rounds inductionHypothesis =>
      rw [pow_succ] at enough
      rw [searchWithin, search]
      by_cases open_ : lo ≤ hi
      · have right : (hi + 1 - ((lo + hi) / 2 + 1)).toNat < 2 ^ rounds := by omega
        have left : ((lo + hi) / 2 - 1 + 1 - lo).toNat < 2 ^ rounds := by omega
        have upper := inductionHypothesis right
        have lower := inductionHypothesis left
        simp only [if_pos open_, upper, lower, apply_ite some]
      · rw [if_neg open_, if_neg open_]

end Rounds

section Splits

variable {A : Type} {items : List A} {test : A → Bool}

/-- A list that passes a test up to an index and fails it from there on passes it so many times. -/
theorem length_filter_of_split {index : Nat} (within : index ≤ items.length)
    (before : ∀ i (inside : i < items.length), i < index → test items[i] = true)
    (after : ∀ i (inside : i < items.length), index ≤ i → test items[i] = false) :
    (items.filter test).length = index := by
  have front : (items.take index).filter test = items.take index := by
    rw [List.filter_eq_self]
    intro item member
    obtain ⟨i, inside, rfl⟩ := List.mem_take_iff_getElem.mp member
    exact before i (by omega) (by omega)
  have back : (items.drop index).filter test = [] := by
    rw [List.filter_eq_nil_iff]
    intro item member
    obtain ⟨i, inside, rfl⟩ := List.mem_drop_iff_getElem.mp member
    rw [after _ (by omega) (by omega)]
    exact Bool.false_ne_true
  rw [← List.take_append_drop index items, List.filter_append, front, back, List.append_nil, List.length_take]
  omega

end Splits

section Neighbours

variable {names : List String} {key : String}

/-- The search stops with nothing exactly where the key is one of the names. -/
theorem search_eq_none (sorted : names.Pairwise (· < ·)) :
    search names key 0 (names.length - 1) = none ↔ key ∈ names := by
  constructor
  · intro ended
    exact mem_of_search ended (le_refl 0) (by omega)
  · intro member
    cases ended : search names key 0 (names.length - 1) with
    | none => rfl
    | some index =>
        obtain ⟨_, _, before, after⟩ := search_splits sorted ended (le_refl 0) (by omega) (by omega)
          (fun i inside early => by omega) (fun i inside late => by omega)
        obtain ⟨i, inside, rfl⟩ := List.getElem_of_mem member
        rcases lt_or_ge (i : Int) index with early | late
        · exact absurd (before i inside early) (lt_irrefl _)
        · exact absurd (after i inside late) (lt_irrefl _)

/-- An index splits the names where those before it are smaller than the key and the others are greater. -/
structure Splits (names : List String) (key : String) (index : Nat) : Prop where
  within : index ≤ names.length
  before : ∀ i (inside : i < names.length), i < index → names[i] < key
  after : ∀ i (inside : i < names.length), index ≤ i → key < names[i]

theorem exists_splits (sorted : names.Pairwise (· < ·)) (absent : key ∉ names) :
    ∃ index : Nat, search names key 0 (names.length - 1) = some (index : Int) ∧ Splits names key index := by
  cases ended : search names key 0 (names.length - 1) with
  | none => exact absurd ((search_eq_none sorted).mp ended) absent
  | some index =>
      obtain ⟨low, high, before, after⟩ := search_splits sorted ended (le_refl 0) (by omega) (by omega)
        (fun i inside early => by omega) (fun i inside late => by omega)
      obtain ⟨place, rfl⟩ := Int.eq_ofNat_of_zero_le low
      refine ⟨place, rfl, by omega, ?_, ?_⟩
      · intro i inside early
        exact before i inside (by omega)
      · intro i inside late
        exact after i inside (by omega)

namespace Splits

variable {index : Nat}

theorem count (splits : Splits names key index) : (names.filter (· < key)).length = index := by
  apply length_filter_of_split splits.within
  · intro i inside early
    exact decide_eq_true (splits.before i inside early)
  · intro i inside late
    exact decide_eq_false (lt_asymm (splits.after i inside late))

/-- The name before the index is the last one below the key. -/
theorem isGreatest (splits : Splits names key index) (sorted : names.Pairwise (· < ·)) (preceded : 0 < index)
    (inside : index - 1 < names.length) :
    IsGreatest {name | name ∈ names ∧ name < key} names[index - 1] := by
  constructor
  · exact ⟨List.getElem_mem inside, splits.before _ inside (by omega)⟩
  · intro name below
    obtain ⟨i, present, rfl⟩ := List.getElem_of_mem below.1
    rcases lt_or_ge i index with early | late
    · exact sorted.sortedLT.getElem_le_getElem_iff.mpr (by omega)
    · exact absurd below.2 (lt_asymm (splits.after i present late))

/-- The name at the index is the first one above the key. -/
theorem isLeast (splits : Splits names key index) (sorted : names.Pairwise (· < ·)) (inside : index < names.length) :
    IsLeast {name | name ∈ names ∧ key < name} names[index] := by
  constructor
  · exact ⟨List.getElem_mem inside, splits.after _ inside (le_refl index)⟩
  · intro name above
    obtain ⟨i, present, rfl⟩ := List.getElem_of_mem above.1
    rcases lt_or_ge i index with early | late
    · exact absurd above.2 (lt_asymm (splits.before i present early))
    · exact sorted.sortedLT.getElem_le_getElem_iff.mpr late

end Splits

end Neighbours

/-- The search stops in time, with nothing for a listed key and with the count of the smaller names for any other. -/
theorem neighbours_exact (casing : Casing) (tree : MerkleTree) (name : String)
    (sorted : tree.sortedNames.Pairwise (· < ·)) :
    let names := tree.sortedNames
    let key := casing.lower name
    let outcome := search names key 0 (names.length - 1)
    searchWithin names key (Nat.size names.length) 0 (names.length - 1) = some outcome ∧
      (outcome = none ↔ key ∈ names) ∧
      (tree.nonMembershipProof casing name = none ↔ key ∈ names) ∧
      (key ∉ names → ∃ lo : Nat, outcome = some (lo : Int) ∧ lo = (names.filter (· < key)).length ∧
        lo ≤ names.length ∧
        (∀ inside : lo - 1 < names.length, 0 < lo →
          IsGreatest {listed | listed ∈ names ∧ listed < key} names[lo - 1]) ∧
        ∀ inside : lo < names.length, IsLeast {listed | listed ∈ names ∧ key < listed} names[lo]) := by
  intro names key outcome
  have ended : outcome = none ↔ key ∈ names := search_eq_none sorted
  refine ⟨?_, ended, ?_, ?_⟩
  · apply searchWithin_eq
    have enough := Nat.lt_size_self names.length
    omega
  · rw [MerkleTree.nonMembershipProof, Option.map_eq_none_iff]
    exact ended
  · intro absent
    obtain ⟨lo, stopped, splits⟩ := exists_splits sorted absent
    refine ⟨lo, stopped, splits.count.symm, splits.within, ?_, ?_⟩
    · intro inside preceded
      exact splits.isGreatest sorted preceded inside
    · intro inside
      exact splits.isLeast sorted inside

/-- A key below the first name, one above the last name and the name itself are searched in a list of one name. -/
theorem neighbours_of_single :
    let tree := MerkleTree.build asciiCasing ["Bob"]
    (tree.nonMembershipProof asciiCasing "BOB" = none ↔ asciiCasing.lower "BOB" ∈ tree.sortedNames) ∧
      searchWithin tree.sortedNames (asciiCasing.lower "alice") 1 0 0 = some (some 0) ∧
      searchWithin tree.sortedNames (asciiCasing.lower "Carl") 1 0 0 = some (some 1) := by
  have sorted : (MerkleTree.build asciiCasing ["Bob"]).sortedNames.Pairwise (· < ·) := by decide +kernel
  exact ⟨(neighbours_exact asciiCasing _ "BOB" sorted).2.2.1, by decide +kernel, by decide +kernel⟩

end Pxtly.Zkp
