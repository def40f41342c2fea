/-
This file gives the messages that a tree over sanctioned names hashes, and what its root commits to.
-/

import Pxtly.Zkp.NonMembership

namespace Pxtly.Zkp

open Foundation Foundation.HashTree

theorem leafMessage_ne_nodeMessage (value : String) (left right : Bytes) :
    leafMessage value ≠ nodeMessage left right := by
  intro same
  have tags : (leafMessage value).take 1 = (nodeMessage left right).take 1 := congrArg (List.take 1) same
  have leafTag : (leafMessage value).take 1 = [76] := by
    rw [leafMessage, List.take_append_of_le_length (by decide)]
    decide
  have nodeTag : (nodeMessage left right).take 1 = [78] := by
    rw [nodeMessage, List.append_assoc, List.take_append_of_le_length (by decide)]
    decide
  rw [leafTag, nodeTag] at tags
  exact absurd tags (by decide)

/-- The tags separate leaves from nodes, and digests have one length. -/
def sanctionsScheme : Scheme String Bytes Bytes where
  hash := sha256
  leafMessage := leafMessage
  nodeMessage := nodeMessage
  Sized digest := digest.length = 32
  sized_hash := length_sha256
  leafMessage_injective first second same := encode_injective (List.append_cancel_left same)
  leaf_ne_node := leafMessage_ne_nodeMessage
  node_left := by
    intro first second sibling other firstSize secondSize same
    rw [nodeMessage, nodeMessage, List.append_assoc, List.append_assoc] at same
    exact (List.append_inj (List.append_cancel_left same) (firstSize.trans secondSize.symm)).1
  node_right := by
    intro first second sibling other firstSize secondSize same
    exact (List.append_inj' same (firstSize.trans secondSize.symm)).2

variable (casing : Casing)

/-- These messages are hashed for the tree over some names. -/
def builtMessages (names : List String) : List Bytes := sanctionsScheme.builtMessages (sortedSet casing names)

variable {casing}

theorem leaves_sortedSet (names : List String) :
    (sortedSet casing names).map (leafHash casing) = (sortedSet casing names).map sanctionsScheme.leafHash := by
  apply List.map_congr_left
  intro text member
  rw [leafHash, lower_of_mem_sortedSet member]
  rfl

/-- The root over some names is the root of the scheme over their sorted set. -/
theorem rootOf_sortedSet {names : List String} (nonempty : names ≠ []) :
    rootOf sanctionsScheme.join ((sortedSet casing names).map sanctionsScheme.leafHash) =
      some (MerkleTree.build casing names).root := by
  have occupied : (sortedSet casing names).map (leafHash casing) ≠ [] := by
    simpa using sortedSet_ne_nil nonempty
  obtain ⟨root, found⟩ := exists_rootOf nodeHash _ occupied
  rw [build_of_ne_nil nonempty, MerkleTree.ofLeaves, found, ← leaves_sortedSet]
  exact found

theorem root_nil : (MerkleTree.build casing []).root = emptySentinel := by
  have nothing : sortedSet casing [] = [] := by simp [sortedSet]
  rw [MerkleTree.build, nothing, if_pos rfl, MerkleTree.ofLeaves, rootOf_of_le (by simp)]
  rfl

/-- The root over some names is the digest of one of the messages. -/
theorem exists_message_of_root (casing : Casing) {names : List String} (nonempty : names ≠ []) :
    ∃ message ∈ builtMessages casing names, (MerkleTree.build casing names).root = sha256 message := by
  obtain ⟨tree, root, _, known⟩ := sanctionsScheme.exists_tree (sortedSet casing names) (sortedSet_ne_nil nonempty)
  rw [rootOf_sortedSet nonempty, Option.some.injEq] at root
  cases tree with
  | leaf value => exact ⟨_, known _ (List.mem_singleton_self _), root⟩
  | node left right => exact ⟨_, known _ List.mem_cons_self, root⟩

theorem sortedSet_inj {first second : List String}
    (same : ∀ text, text ∈ sortedSet casing first ↔ text ∈ sortedSet casing second) :
    sortedSet casing first = sortedSet casing second :=
  (sortedSet_sorted first).sortedLT.eq_of_mem_iff (sortedSet_sorted second).sortedLT same

/-- Two lists have one root where they have the same names, up to order, repetition and case. -/
theorem same_root_iff (casing : Casing) (first second : List String)
    (clean : Set.InjOn sha256
      {message | message ∈ builtMessages casing first ∨ message ∈ builtMessages casing second})
    (nonzero : ∀ message, message ∈ builtMessages casing first ∨ message ∈ builtMessages casing second →
      sha256 message ≠ emptySentinel) :
    (MerkleTree.build casing first).root = (MerkleTree.build casing second).root ↔
      ∀ text, (∃ name ∈ first, casing.lower name = text) ↔ ∃ name ∈ second, casing.lower name = text := by
  simp only [← mem_sortedSet]
  constructor
  · intro same text
    rcases eq_or_ne first [] with rfl | firstNonempty <;> rcases eq_or_ne second [] with rfl | secondNonempty
    · exact Iff.rfl
    · obtain ⟨message, known, root⟩ := exists_message_of_root casing secondNonempty
      rw [root_nil, root] at same
      exact absurd same.symm (nonzero message (.inr known))
    · obtain ⟨message, known, root⟩ := exists_message_of_root casing firstNonempty
      rw [root_nil, root] at same
      exact absurd same (nonzero message (.inl known))
    · apply sanctionsScheme.same_values_of_root clean (sortedSet_ne_nil firstNonempty)
        (sortedSet_ne_nil secondNonempty)
      · exact fun message member => .inl member
      · exact fun message member => .inr member
      · rw [rootOf_sortedSet firstNonempty, rootOf_sortedSet secondNonempty, same]
  · intro same
    rw [MerkleTree.build, MerkleTree.build, sortedSet_inj same]

/-- Different names, each alone in a list, have different roots. -/
theorem roots_differ :
    (MerkleTree.build asciiCasing ["Ann"]).root ≠ (MerkleTree.build asciiCasing ["bob", "BOB"]).root := by
  have firstBuilt : builtMessages asciiCasing ["Ann"] = [leafMessage "ann"] := by decide +kernel
  have secondBuilt : builtMessages asciiCasing ["bob", "BOB"] = [leafMessage "bob"] := by decide +kernel
  have distinct : sha256 (leafMessage "ann") ≠ sha256 (leafMessage "bob") := by decide +kernel
  have nonzero : ∀ message ∈ [leafMessage "ann", leafMessage "bob"], sha256 message ≠ emptySentinel := by
    decide +kernel
  have criterion := same_root_iff asciiCasing ["Ann"] ["bob", "BOB"]
    (by simp [firstBuilt, secondBuilt, Set.InjOn, distinct, distinct.symm])
    (by simpa [firstBuilt, secondBuilt] using nonzero)
  rw [ne_eq, criterion]
  intro same
  exact absurd ((same "ann").mp ⟨"Ann", by decide +kernel⟩) (by decide +kernel)

end Pxtly.Zkp
