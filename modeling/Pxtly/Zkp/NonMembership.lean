/-
This file gives when a tree proves that a name is not in its list, and the paths of its leaves, which all verify.
-/

import Mathlib
import Pxtly.Zkp.Merkle

namespace Pxtly.Zkp

open Foundation Foundation.HashTree

/-- This casing changes the capital letters of ASCII only. -/
def asciiCasing : Casing where
  lower text := String.ofList (text.toList.map Char.toLower)
  lower_lower text := by simp [Function.comp_def, Char.toLower_toLower_eq_toLower]

variable (casing : Casing)

section SortedNames

variable {casing}

theorem mem_sortedSet {names : List String} {text : String} :
    text ∈ sortedSet casing names ↔ ∃ name ∈ names, casing.lower name = text := by
  rw [sortedSet, List.mem_mergeSort, List.mem_dedup, List.mem_map]

theorem sortedSet_ne_nil {names : List String} (nonempty : names ≠ []) : sortedSet casing names ≠ [] := by
  obtain ⟨name, rest, rfl⟩ := List.exists_cons_of_ne_nil nonempty
  exact List.ne_nil_of_mem (mem_sortedSet.mpr ⟨name, List.mem_cons_self, rfl⟩)

theorem lower_of_mem_sortedSet {names : List String} {text : String}
    (member : text ∈ sortedSet casing names) : casing.lower text = text := by
  obtain ⟨name, _, rfl⟩ := mem_sortedSet.mp member
  exact casing.lower_lower name

theorem sortedSet_sorted (names : List String) : (sortedSet casing names).Pairwise (· < ·) := by
  have ordered : (sortedSet casing names).Pairwise (· ≤ ·) := List.pairwise_mergeSort' (· ≤ ·) _
  have distinct : (sortedSet casing names).Pairwise (· ≠ ·) :=
    (List.mergeSort_perm _ _).nodup_iff.mpr (List.nodup_dedup _)
  exact (ordered.and distinct).imp fun both => lt_of_le_of_ne both.1 both.2

theorem build_of_ne_nil {names : List String} (nonempty : names ≠ []) :
    MerkleTree.build casing names =
      .ofLeaves (sortedSet casing names) ((sortedSet casing names).map (leafHash casing)) := by
  simp [MerkleTree.build, sortedSet_ne_nil nonempty]

end SortedNames

section Search

variable {names : List String} {key : String} {lo hi : Int}

theorem mem_of_search (ended : search names key lo hi = none) (low : 0 ≤ lo) (high : hi < names.length) :
    key ∈ names := by
  induction lo, hi using search.induct names key with
  | case1 lo hi open_ mid name same =>
      have inside : mid.toNat < names.length := by omega
      have entry : name = names[mid.toNat] := List.getD_eq_getElem names "" inside
      rw [← same, entry]
      exact List.getElem_mem inside
  | case2 lo hi open_ mid name different less inductionHypothesis =>
      rw [search, if_pos open_] at ended
      simp only [mid, name, if_neg different, if_pos less] at ended
      exact inductionHypothesis ended (by omega) high
  | case3 lo hi open_ mid name different notLess inductionHypothesis =>
      rw [search, if_pos open_] at ended
      simp only [mid, name, if_neg different, if_neg notLess] at ended
      exact inductionHypothesis ended low (by omega)
  | case4 lo hi closed =>
      rw [search, if_neg closed] at ended
      cases ended

/-- The search ends at an index that splits the sorted names at the key. -/
theorem search_splits (sorted : names.Pairwise (· < ·)) {index : Int}
    (ended : search names key lo hi = some index) (low : 0 ≤ lo) (within : lo ≤ hi + 1)
    (high : hi < names.length)
    (before : ∀ i (inside : i < names.length), i < lo → names[i] < key)
    (after : ∀ i (inside : i < names.length), hi < i → key < names[i]) :
    0 ≤ index ∧ index ≤ names.length ∧
      (∀ i (inside : i < names.length), i < index → names[i] < key) ∧
      ∀ i (inside : i < names.length), index ≤ i → key < names[i] := by
  have ordered := List.pairwise_iff_getElem.mp sorted
  induction lo, hi using search.induct names key with
  | case1 lo hi open_ mid name same =>
      rw [search, if_pos open_] at ended
      simp only [mid, name, if_pos same] at ended
      cases ended
  | case2 lo hi open_ mid name different less inductionHypothesis =>
      rw [search, if_pos open_] at ended
      simp only [mid, name, if_neg different, if_pos less] at ended
      have middle : mid.toNat < names.length := by omega
      have entry : name = names[mid.toNat] := List.getD_eq_getElem names "" middle
      apply inductionHypothesis ended (by omega) (by omega) high _ after
      intro i inside earlier
      rcases lt_or_eq_of_le (show i ≤ mid.toNat by omega) with earlier | rfl
      · exact (ordered i _ inside middle earlier).trans (entry ▸ less)
      · exact entry ▸ less
  | case3 lo hi open_ mid name different notLess inductionHypothesis =>
      rw [search, if_pos open_] at ended
      simp only [mid, name, if_neg different, if_neg notLess] at ended
      have middle : mid.toNat < names.length := by omega
      have entry : name = names[mid.toNat] := List.getD_eq_getElem names "" middle
      have greater : key < name := lt_of_le_of_ne (not_lt.mp notLess) (Ne.symm different)
      apply inductionHypothesis ended low (by omega) (by omega) before
      intro i inside later
      rcases lt_or_eq_of_le (show mid.toNat ≤ i by omega) with later | rfl
      · exact greater.trans (entry ▸ ordered _ i middle inside later)
      · exact entry ▸ greater
  | case4 lo hi closed =>
      rw [search, if_neg closed, Option.some.injEq] at ended
      subst ended
      exact ⟨low, by omega, before, fun i inside later => after i inside (by omega)⟩

end Search

section Verification

variable {casing}

/-- A path that the tree wrote is climbed without an error. -/
theorem climbSteps_write (current : Bytes) (path : List (PathStep Bytes)) :
    climbSteps current (path.map ProofStep.write) = .ok (climb nodeHash current path) := by
  induction path generalizing current with
  | nil => rfl
  | cons step rest inductionHypothesis =>
      obtain ⟨sibling, right⟩ := step
      have read : bytesFromHex (hex sibling) = .ok sibling := by rw [bytesFromHex, fromHex_hex]
      cases right with
      | true =>
          rw [List.map_cons, ProofStep.write, climbSteps, read]
          exact inductionHypothesis (nodeHash current sibling)
      | false =>
          rw [List.map_cons, ProofStep.write, climbSteps, read]
          exact inductionHypothesis (nodeHash sibling current)

theorem verifyPath_write {current root : Bytes} {path : List (PathStep Bytes)} :
    verifyPath current (path.map ProofStep.write) (hex root) = .ok true ↔ climb nodeHash current path = root := by
  rw [verifyPath, climbSteps_write]
  show Except.ok (hex (climb nodeHash current path) == hex root) = Except.ok true ↔ _
  rw [Except.ok.injEq, beq_iff_eq, hex_inj]

theorem both_eq_true {left right : Except ValueError Bool} {last : Bool} :
    (do return (← left) && (← right) && last) = (.ok true : Except ValueError Bool) ↔
      left = .ok true ∧ right = .ok true ∧ last = true := by
  cases left with
  | error error => exact ⟨nofun, nofun⟩
  | ok first =>
      cases right with
      | error error => exact ⟨nofun, nofun⟩
      | ok second =>
          show Except.ok (first && second && last) = Except.ok true ↔ _
          simp [and_assoc]

/-- An accepted proof declares two leaves on either side of the key, and both reach the root. -/
theorem verifyNonMembership_eq_true {proof : NonMembershipProof} {expectedRoot : String} :
    verifyNonMembership casing proof expectedRoot = .ok true ↔
      hex (leafHash casing proof.leftLeafName) = proof.leftLeafHash ∧
      hex (leafHash casing proof.rightLeafName) = proof.rightLeafHash ∧
      casing.lower proof.leftLeafName < casing.lower proof.queriedName ∧
      casing.lower proof.queriedName < casing.lower proof.rightLeafName ∧
      verifyPath (leafHash casing proof.leftLeafName) proof.leftPath expectedRoot = .ok true ∧
      verifyPath (leafHash casing proof.rightLeafName) proof.rightPath expectedRoot = .ok true ∧
      proof.root = expectedRoot := by
  unfold verifyNonMembership
  by_cases leftHash : hex (leafHash casing proof.leftLeafName) = proof.leftLeafHash
  swap
  · simp [leftHash]
  by_cases rightHash : hex (leafHash casing proof.rightLeafName) = proof.rightLeafHash
  swap
  · simp [rightHash]
  have readLeft : bytesFromHex proof.leftLeafHash = .ok (leafHash casing proof.leftLeafName) := by
    rw [← leftHash, bytesFromHex, fromHex_hex]
  have readRight : bytesFromHex proof.rightLeafHash = .ok (leafHash casing proof.rightLeafName) := by
    rw [← rightHash, bytesFromHex, fromHex_hex]
  rw [readLeft, readRight]
  by_cases before : casing.lower proof.leftLeafName < casing.lower proof.queriedName
  swap
  · rcases eq_or_lt_of_le (not_lt.mp before) with same | after
    · simp [leftHash, rightHash, same]
    · simp [leftHash, rightHash, not_le.mpr after, before]
  by_cases after : casing.lower proof.queriedName < casing.lower proof.rightLeafName
  swap
  · rcases eq_or_lt_of_le (not_lt.mp after) with same | late
    · simp [leftHash, rightHash, same, before.ne]
    · simp [leftHash, rightHash, not_le.mpr late, after]
  simp only [leftHash, rightHash, before, after, before.le, after.le, before.ne, after.ne', ne_eq,
    not_true_eq_false, if_false, and_self, or_self, true_and]
  exact both_eq_true.trans (by rw [beq_iff_eq])

end Verification

section Completeness

variable {casing} {names : List String} {name : String}

/-- The two leaves of the proof decide its verification, since their paths always reach the root. -/
theorem verify_proofAt (nonempty : names ≠ []) {left right : Nat}
    (leftInside : left < (sortedSet casing names).length)
    (rightInside : right < (sortedSet casing names).length) :
    let tree := MerkleTree.build casing names
    verifyNonMembership casing (tree.proofAt name left right) (hex tree.root) = .ok true ↔
      (sortedSet casing names)[left] < casing.lower name ∧
        casing.lower name < (sortedSet casing names)[right] := by
  intro tree
  have built : tree = _ := build_of_ne_nil nonempty
  clear_value tree
  subst built
  have entry (index : Nat) (inside : index < (sortedSet casing names).length) :
      (sortedSet casing names).getD index "" = (sortedSet casing names)[index] :=
    List.getD_eq_getElem _ _ inside
  have lowered (index : Nat) (inside : index < (sortedSet casing names).length) :
      casing.lower (sortedSet casing names)[index] = (sortedSet casing names)[index] :=
    lower_of_mem_sortedSet (List.getElem_mem inside)
  have leaf (index : Nat) (inside : index < (sortedSet casing names).length) :
      ((sortedSet casing names).map (leafHash casing)).getD index [] =
        leafHash casing (sortedSet casing names)[index] := by
    rw [List.getD_eq_getElem _ _ (by simpa using inside), List.getElem_map]
  have reaches (index : Nat) (inside : index < (sortedSet casing names).length) :
      climb nodeHash (leafHash casing (sortedSet casing names)[index])
          (pathAlong [] (levels nodeHash ((sortedSet casing names).map (leafHash casing))).dropLast index) =
        (rootOf nodeHash ((sortedSet casing names).map (leafHash casing))).getD [] := by
    rw [← climb_path nodeHash [] _ index (by simpa using inside), leaf index inside, Option.getD_some]
  rw [verifyNonMembership_eq_true]
  simp only [MerkleTree.proofAt, MerkleTree.ofLeaves, MerkleTree.merklePath, entry left leftInside,
    entry right rightInside, leaf left leftInside, leaf right rightInside, lowered left leftInside,
    lowered right rightInside, verifyPath_write, reaches left leftInside, reaches right rightInside,
    true_and, and_true]

theorem nonMembershipProof_of_ne_nil (nonempty : names ≠ []) :
    (MerkleTree.build casing names).nonMembershipProof casing name =
      let count : Int := (sortedSet casing names).length
      (search (sortedSet casing names) (casing.lower name) 0 (count - 1)).map fun index =>
        (MerkleTree.build casing names).proofAt name (max (index - 1) 0).toNat
          (min index (count - 1)).toNat := by
  rw [build_of_ne_nil nonempty]
  rfl

/-- The sentinel is the only leaf over no name, so it stands on both sides of every key. -/
theorem refused_of_nil {proof : NonMembershipProof} {root : String}
    (proved : (MerkleTree.build casing []).nonMembershipProof casing name = some proof) :
    verifyNonMembership casing proof root ≠ .ok true := by
  have single (index : Nat) : [""].getD index "" = "" := by cases index <;> rfl
  obtain ⟨index, _, rfl⟩ := Option.map_eq_some_iff.mp proved
  intro accepted
  obtain ⟨_, _, before, after, _⟩ := verifyNonMembership_eq_true.mp accepted
  have leaves : (MerkleTree.build casing []).sortedNames = [""] := by
    simp [MerkleTree.build, sortedSet, MerkleTree.ofLeaves]
  simp only [MerkleTree.proofAt, leaves, single] at before after
  exact lt_asymm before after

theorem exists_listed_iff (property : String → Prop) :
    (∃ listed ∈ names, property (casing.lower listed)) ↔ ∃ text ∈ sortedSet casing names, property text := by
  simp [mem_sortedSet]

/-- The two leaves around the insertion point straddle the key where neither end of the list is passed. -/
theorem accepted_iff_straddled (nonempty : names ≠ []) {proof : NonMembershipProof}
    (proved : (MerkleTree.build casing names).nonMembershipProof casing name = some proof) :
    verifyNonMembership casing proof (hex (MerkleTree.build casing names).root) = .ok true ↔
      (∃ listed ∈ names, casing.lower listed < casing.lower name) ∧
        ∃ listed ∈ names, casing.lower name < casing.lower listed := by
  have occupied : 0 < (sortedSet casing names).length :=
    List.length_pos_iff.mpr (sortedSet_ne_nil nonempty)
  rw [nonMembershipProof_of_ne_nil nonempty, Option.map_eq_some_iff] at proved
  obtain ⟨index, ended, rfl⟩ := proved
  obtain ⟨low, high, before, after⟩ := search_splits (sortedSet_sorted names) ended (le_refl 0)
    (by omega) (by omega) (fun i inside early => by omega) (fun i inside late => by omega)
  refine (verify_proofAt nonempty (by omega) (by omega)).trans ?_
  rw [exists_listed_iff (· < casing.lower name), exists_listed_iff (casing.lower name < ·)]
  have below (i : Nat) (inside : i < (sortedSet casing names).length)
      (less : (sortedSet casing names)[i] < casing.lower name) : (i : Int) < index := by
    by_contra late
    exact lt_asymm less (after i inside (by omega))
  have above (i : Nat) (inside : i < (sortedSet casing names).length)
      (greater : casing.lower name < (sortedSet casing names)[i]) : index ≤ (i : Int) := by
    by_contra early
    exact lt_asymm greater (before i inside (by omega))
  constructor
  · intro ⟨less, greater⟩
    exact ⟨⟨_, List.getElem_mem _, less⟩, ⟨_, List.getElem_mem _, greater⟩⟩
  · intro ⟨⟨first, firstMember, less⟩, ⟨last, lastMember, greater⟩⟩
    obtain ⟨i, firstInside, rfl⟩ := List.getElem_of_mem firstMember
    obtain ⟨j, lastInside, rfl⟩ := List.getElem_of_mem lastMember
    have passed := below i firstInside less
    have left := above j lastInside greater
    exact ⟨before _ (by omega) (by omega), after _ (by omega) (by omega)⟩

/-- A tree proves the absence of a name where listed names stand on both sides of it, and nowhere else. -/
theorem absence_proved_iff (casing : Casing) (names : List String) (name : String)
    (absent : ∀ listed ∈ names, casing.lower listed ≠ casing.lower name) :
    (∃ proof, (MerkleTree.build casing names).nonMembershipProof casing name = some proof ∧
        verifyNonMembership casing proof (hex (MerkleTree.build casing names).root) = .ok true) ↔
      (∃ listed ∈ names, casing.lower listed < casing.lower name) ∧
        ∃ listed ∈ names, casing.lower name < casing.lower listed := by
  rcases eq_or_ne names [] with rfl | nonempty
  · constructor
    · intro ⟨proof, proved, accepted⟩
      exact absurd accepted (refused_of_nil proved)
    · intro ⟨⟨_, listed, _⟩, _⟩
      cases listed
  · constructor
    · intro ⟨proof, proved, accepted⟩
      exact (accepted_iff_straddled nonempty proved).mp accepted
    · intro straddled
      cases proved : (MerkleTree.build casing names).nonMembershipProof casing name with
      | some proof => exact ⟨proof, rfl, (accepted_iff_straddled nonempty proved).mpr straddled⟩
      | none =>
          have ended := proved
          rw [nonMembershipProof_of_ne_nil nonempty, Option.map_eq_none_iff] at ended
          obtain ⟨listed, member, same⟩ := mem_sortedSet.mp (mem_of_search ended (le_refl 0) (by omega))
          exact absurd same (absent listed member)

/-- The tree over two names proves that a name between them is absent. -/
theorem absence_proved_between :
    ∃ proof, (MerkleTree.build asciiCasing ["Ann", "cleo"]).nonMembershipProof asciiCasing "BOB" = some proof ∧
      verifyNonMembership asciiCasing proof
        (hex (MerkleTree.build asciiCasing ["Ann", "cleo"]).root) = .ok true :=
  (absence_proved_iff asciiCasing ["Ann", "cleo"] "BOB" (by decide +kernel)).mpr
    ⟨⟨"Ann", by simp, by decide +kernel⟩, ⟨"cleo", by simp, by decide +kernel⟩⟩

/-- The tree over one name gives a proof for a name before it, and the proof is refused. -/
theorem absence_before_first_refused :
    (∀ listed ∈ ["bob"], asciiCasing.lower listed ≠ asciiCasing.lower "alice") ∧
      ∃ proof, (MerkleTree.build asciiCasing ["bob"]).nonMembershipProof asciiCasing "alice" = some proof ∧
        verifyNonMembership asciiCasing proof (hex (MerkleTree.build asciiCasing ["bob"]).root) =
          .ok false := by
  have ended : search (MerkleTree.build asciiCasing ["bob"]).sortedNames (asciiCasing.lower "alice") 0
      ((MerkleTree.build asciiCasing ["bob"]).sortedNames.length - 1) = some 0 := by decide +kernel
  exact ⟨by decide +kernel, _, Option.map_eq_some_iff.mpr ⟨0, ended, rfl⟩, by decide +kernel⟩

end Completeness

section Paths

variable {sortedNames : List String} {leaves : List Foundation.Bytes}

/-- A path has a step for each level but the root. -/
theorem length_merklePath (tree : MerkleTree) (leafIndex : Nat) :
    (tree.merklePath leafIndex).length = tree.levels.length - 1 := by
  rw [MerkleTree.merklePath, List.length_map, length_pathAlong, List.length_dropLast]

theorem verifyPath_ofLeaves {leafIndex : Nat} (inside : leafIndex < leaves.length) :
    let tree := MerkleTree.ofLeaves sortedNames leaves
    verifyPath leaves[leafIndex] (tree.merklePath leafIndex) (Foundation.hex tree.root) = .ok true := by
  intro tree
  have climbed := climb_path nodeHash [] leaves leafIndex inside
  rw [List.getD_eq_getElem _ _ inside] at climbed
  have root : tree.root = (rootOf nodeHash leaves).getD [] := rfl
  rw [MerkleTree.merklePath, verifyPath_write, root, ← climbed]
  rfl

end Paths

section Membership

/-- Also the tree over no name is a tree over leaves. -/
theorem exists_ofLeaves (casing : Casing) (names : List String) :
    ∃ sortedNames leaves, MerkleTree.build casing names = .ofLeaves sortedNames leaves := by
  rcases eq_or_ne (sortedSet casing names) [] with nothing | named
  · exact ⟨_, _, if_pos nothing⟩
  · exact ⟨_, _, if_neg named⟩

theorem length_leaves (casing : Casing) {names : List String} (nonempty : names ≠ []) :
    (MerkleTree.build casing names).leaves.length = (names.map casing.lower).dedup.length := by
  rw [build_of_ne_nil nonempty, MerkleTree.ofLeaves, List.length_map, sortedSet, List.length_mergeSort]

/-- Every leaf of a tree has a path that verifies against the root, with one step a level. -/
theorem every_path_verifies (casing : Casing) (names : List String) (leafIndex : Nat)
    (inside : leafIndex < (MerkleTree.build casing names).leaves.length) :
    let tree := MerkleTree.build casing names
    verifyPath tree.leaves[leafIndex] (tree.merklePath leafIndex) (Foundation.hex tree.root) = .ok true ∧
      (tree.merklePath leafIndex).length = tree.levels.length - 1 ∧
      (tree.merklePath leafIndex).length = Nat.clog 2 tree.leaves.length := by
  obtain ⟨sortedNames, leaves, built⟩ := exists_ofLeaves casing names
  generalize MerkleTree.build casing names = tree at built inside ⊢
  subst built
  have depth : (MerkleTree.ofLeaves sortedNames leaves).levels.length = Nat.clog 2 leaves.length + 1 :=
    length_levels nodeHash leaves
  refine ⟨verifyPath_ofLeaves inside, length_merklePath _ _, ?_⟩
  rw [length_merklePath, depth]
  rfl

/-- The last of three leaves stands alone in its level, and its path verifies. -/
theorem third_path_verifies :
    let tree := MerkleTree.build asciiCasing ["Ann", "bob", "Cleo"]
    (verifyPath (tree.leaves.getD 2 []) (tree.merklePath 2) (Foundation.hex tree.root) = .ok true) ∧
      (tree.merklePath 2).length = 2 := by
  have count : (MerkleTree.build asciiCasing ["Ann", "bob", "Cleo"]).leaves.length = 3 :=
    (length_leaves asciiCasing (List.cons_ne_nil _ _)).trans (by decide +kernel)
  have inside : 2 < (MerkleTree.build asciiCasing ["Ann", "bob", "Cleo"]).leaves.length := by omega
  obtain ⟨verified, _, steps⟩ := every_path_verifies asciiCasing ["Ann", "bob", "Cleo"] 2 inside
  refine ⟨?_, steps.trans ?_⟩
  · rw [List.getD_eq_getElem _ _ inside]
    exact verified
  · rw [count]
    decide

end Membership

end Pxtly.Zkp
