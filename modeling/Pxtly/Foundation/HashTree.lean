/-
This file gives trees of digests over lists: their levels, their paths, and what a root commits to.
-/

import Mathlib.Data.List.Basic
import Mathlib.Data.Nat.Log
import Mathlib.Data.Set.Function
import Mathlib.Tactic.Common

namespace Pxtly.Foundation.HashTree

section Levels

variable {D : Type}

/-- Neighbours form pairs, and a last entry without a neighbour is paired with itself. -/
def pairs : List D → List (D × D)
  | [] => []
  | [last] => [(last, last)]
  | left :: right :: rest => (left, right) :: pairs rest

theorem length_pairs (level : List D) : (pairs level).length = (level.length + 1) / 2 := by
  induction level using pairs.induct with
  | case1 => simp [pairs]
  | case2 last => simp [pairs]
  | case3 left right rest inductionHypothesis =>
      simp only [pairs, List.length_cons, inductionHypothesis]
      omega

theorem mem_of_mem_pairs {level : List D} {pair : D × D} (member : pair ∈ pairs level) :
    pair.1 ∈ level ∧ pair.2 ∈ level := by
  induction level using pairs.induct with
  | case1 => cases member
  | case2 last =>
      obtain rfl := List.mem_singleton.mp member
      simp
  | case3 left right rest inductionHypothesis =>
      rcases List.mem_cons.mp member with rfl | later
      · simp
      · have inside := inductionHypothesis later
        simp [inside.1, inside.2]

theorem exists_mem_pairs {level : List D} {entry : D} (member : entry ∈ level) :
    ∃ pair ∈ pairs level, entry = pair.1 ∨ entry = pair.2 := by
  induction level using pairs.induct with
  | case1 => cases member
  | case2 last =>
      obtain rfl := List.mem_singleton.mp member
      exact ⟨(entry, entry), List.mem_singleton_self _, .inl rfl⟩
  | case3 left right rest inductionHypothesis =>
      simp only [List.mem_cons] at member
      rcases member with rfl | rfl | later
      · exact ⟨(entry, right), List.mem_cons_self, .inl rfl⟩
      · exact ⟨(left, entry), List.mem_cons_self, .inr rfl⟩
      · obtain ⟨pair, inside, same⟩ := inductionHypothesis later
        exact ⟨pair, List.mem_cons_of_mem _ inside, same⟩

theorem pairs_map {E : Type} (f : D → E) (level : List D) :
    pairs (level.map f) = (pairs level).map (Prod.map f f) := by
  induction level using pairs.induct with
  | case1 => rfl
  | case2 last => rfl
  | case3 left right rest inductionHypothesis => simp [pairs, inductionHypothesis]

def nextLevel (join : D → D → D) (level : List D) : List D :=
  (pairs level).map fun pair => join pair.1 pair.2

theorem length_nextLevel (join : D → D → D) (level : List D) :
    (nextLevel join level).length = (level.length + 1) / 2 := by
  rw [nextLevel, List.length_map, length_pairs]

/-- The levels go up from the leaves to a single digest. -/
def levels (join : D → D → D) (level : List D) : List (List D) :=
  if 1 < level.length then level :: levels join (nextLevel join level) else [level]
termination_by level.length
decreasing_by rw [length_nextLevel]; omega

/-- The last level holds the root. -/
def rootOf (join : D → D → D) (level : List D) : Option D :=
  if 1 < level.length then rootOf join (nextLevel join level) else level.head?
termination_by level.length
decreasing_by rw [length_nextLevel]; omega

theorem levels_ne_nil (join : D → D → D) (level : List D) : levels join level ≠ [] := by
  unfold levels
  split <;> exact List.cons_ne_nil _ _

theorem levels_of_lt {join : D → D → D} {level : List D} (several : 1 < level.length) :
    levels join level = level :: levels join (nextLevel join level) := by
  rw [levels, if_pos several]

theorem levels_of_le {join : D → D → D} {level : List D} (single : ¬ 1 < level.length) :
    levels join level = [level] := by
  rw [levels, if_neg single]

theorem rootOf_of_lt {join : D → D → D} {level : List D} (several : 1 < level.length) :
    rootOf join level = rootOf join (nextLevel join level) := by
  rw [rootOf, if_pos several]

theorem rootOf_of_le {join : D → D → D} {level : List D} (single : ¬ 1 < level.length) :
    rootOf join level = level.head? := by
  rw [rootOf, if_neg single]

theorem dropLast_levels_of_lt {join : D → D → D} {level : List D} (several : 1 < level.length) :
    (levels join level).dropLast = level :: (levels join (nextLevel join level)).dropLast := by
  rw [levels_of_lt several, List.dropLast_cons_of_ne_nil (levels_ne_nil join _)]

/-- The levels shrink to one, so a property of levels is proved from the last one down. -/
theorem level_induction {motive : List D → Prop} (join : D → D → D)
    (single : ∀ level, ¬ 1 < level.length → motive level)
    (several : ∀ level, 1 < level.length → motive (nextLevel join level) → motive level)
    (level : List D) : motive level := by
  induction level using levels.induct join with
  | case1 level long inductionHypothesis => exact several level long inductionHypothesis
  | case2 level short => exact single level short

/-- Above the leaves stand as many levels as a leaf has halvings down to one. -/
theorem length_levels (join : D → D → D) (level : List D) :
    (levels join level).length = Nat.clog 2 level.length + 1 := by
  induction level using level_induction join with
  | single level short =>
      rw [levels_of_le short, Nat.clog_of_right_le_one (by omega)]
      rfl
  | several level long inductionHypothesis =>
      rw [levels_of_lt long, List.length_cons, inductionHypothesis, length_nextLevel,
        Nat.clog_of_two_le (by decide) long]
      rfl

/-- A non-empty list has a root. -/
theorem exists_rootOf (join : D → D → D) (level : List D) (nonempty : level ≠ []) :
    ∃ root, rootOf join level = some root := by
  induction level using level_induction join with
  | single level short =>
      rw [rootOf_of_le short]
      exact ⟨level.head nonempty, List.head?_eq_some_head nonempty⟩
  | several level long inductionHypothesis =>
      rw [rootOf_of_lt long]
      apply inductionHypothesis
      rw [← List.length_pos_iff, length_nextLevel]
      omega

/-- A map that respects the joins maps the roots. -/
theorem rootOf_map {E : Type} {join : D → D → D} {joinMapped : E → E → E} {f : D → E}
    (respects : ∀ left right, f (join left right) = joinMapped (f left) (f right)) (level : List D) :
    rootOf joinMapped (level.map f) = (rootOf join level).map f := by
  induction level using level_induction join with
  | single level short =>
      rw [rootOf_of_le short, rootOf_of_le (by simpa using short), List.head?_map]
  | several level long inductionHypothesis =>
      have next : nextLevel joinMapped (level.map f) = (nextLevel join level).map f := by
        simp [nextLevel, pairs_map, respects]
      rw [rootOf_of_lt long, rootOf_of_lt (by simpa using long), next, inductionHypothesis]

end Levels

section Paths

variable {D : Type}

/-- A step of a path gives the sibling and its side. -/
structure PathStep (D : Type) where
  sibling : D
  right : Bool

/-- An even index has its sibling on the right, where a last entry is its own sibling. -/
def stepAt (fallback : D) (level : List D) (index : Nat) : PathStep D :=
  if index % 2 = 0 then
    ⟨level.getD (if index + 1 < level.length then index + 1 else index) fallback, true⟩
  else ⟨level.getD (index - 1) fallback, false⟩

/-- A path takes one step in each level. -/
def pathAlong (fallback : D) : List (List D) → Nat → List (PathStep D)
  | [], _ => []
  | level :: above, index => stepAt fallback level index :: pathAlong fallback above (index / 2)

theorem length_pathAlong (fallback : D) (above : List (List D)) (index : Nat) :
    (pathAlong fallback above index).length = above.length := by
  induction above generalizing index with
  | nil => rfl
  | cons level above inductionHypothesis => rw [pathAlong, List.length_cons, List.length_cons, inductionHypothesis]

/-- The two digests of a step stand in this order. -/
def PathStep.pair (step : PathStep D) (current : D) : D × D :=
  if step.right then (current, step.sibling) else (step.sibling, current)

def PathStep.next (join : D → D → D) (current : D) (step : PathStep D) : D :=
  join (step.pair current).1 (step.pair current).2

def climb (join : D → D → D) : D → List (PathStep D) → D := List.foldl (PathStep.next join)

theorem stepAt_cons_cons (fallback left right : D) (rest : List D) (index : Nat)
    (inside : index < rest.length) :
    stepAt fallback (left :: right :: rest) (index + 2) = stepAt fallback rest index := by
  have parity : (index + 2) % 2 = index % 2 := by omega
  unfold stepAt
  by_cases even : index % 2 = 0
  · rw [if_pos even, if_pos (parity.trans even)]
    by_cases last : index + 1 < rest.length
    · rw [if_pos last, if_pos (by simp only [List.length_cons]; omega)]
      rfl
    · rw [if_neg last, if_neg (by simp only [List.length_cons]; omega)]
      rfl
  · obtain ⟨before, rfl⟩ : ∃ before, index = before + 1 := ⟨index - 1, by omega⟩
    rw [if_neg even, if_neg (by rwa [parity])]
    rfl

/-- The step at an index leads to the entry above. -/
theorem pair_stepAt (fallback : D) (level : List D) (index : Nat) (inside : index < level.length) :
    (pairs level)[index / 2]? =
      some ((stepAt fallback level index).pair (level.getD index fallback)) := by
  induction level using pairs.induct generalizing index with
  | case1 => cases inside
  | case2 last =>
      obtain rfl : index = 0 := by simpa using inside
      rfl
  | case3 left right rest inductionHypothesis =>
      match index with
      | 0 => simp [pairs, stepAt, PathStep.pair]
      | 1 => simp [pairs, stepAt, PathStep.pair]
      | index + 2 =>
          simp only [List.length_cons] at inside
          have half : (index + 2) / 2 = index / 2 + 1 := by omega
          rw [half, pairs, List.getElem?_cons_succ, inductionHypothesis index (by omega),
            stepAt_cons_cons fallback left right rest index (by omega)]
          rfl

theorem getD_nextLevel (join : D → D → D) (fallback : D) (level : List D) (index : Nat)
    (inside : index < level.length) :
    (nextLevel join level).getD (index / 2) fallback =
      (stepAt fallback level index).next join (level.getD index fallback) := by
  rw [nextLevel, List.getD_eq_getElem?_getD, List.getElem?_map, pair_stepAt fallback level index inside]
  rfl

/-- The path of an entry climbs to the root. -/
theorem climb_path (join : D → D → D) (fallback : D) (level : List D) (index : Nat)
    (inside : index < level.length) :
    some (climb join (level.getD index fallback)
      (pathAlong fallback (levels join level).dropLast index)) = rootOf join level := by
  induction level using level_induction join generalizing index with
  | single level short =>
      obtain ⟨entry, rfl⟩ : ∃ entry, level = [entry] :=
        List.length_eq_one_iff.mp (by omega)
      obtain rfl : index = 0 := by simpa using inside
      rw [levels_of_le short, rootOf_of_le short]
      rfl
  | several level long inductionHypothesis =>
      rw [dropLast_levels_of_lt long, rootOf_of_lt long, pathAlong, climb, List.foldl_cons,
        ← getD_nextLevel join fallback level index inside]
      exact inductionHypothesis (index / 2) (by rw [length_nextLevel]; omega)

end Paths

section Schemes

variable {L D M : Type}

/-- A leaf holds a value, and a node stands over two trees. -/
inductive Tree (L : Type) where
  | leaf (value : L)
  | node (left right : Tree L)

def Tree.leaves : Tree L → List L
  | leaf value => [value]
  | node left right => left.leaves ++ right.leaves

/-- A scheme hashes messages from which the leaves, the nodes and their digests can be told. -/
structure Scheme (L D M : Type) where
  hash : M → D
  leafMessage : L → M
  nodeMessage : D → D → M
  Sized : D → Prop
  sized_hash : ∀ message, Sized (hash message)
  leafMessage_injective : Function.Injective leafMessage
  leaf_ne_node : ∀ value left right, leafMessage value ≠ nodeMessage left right
  node_left : ∀ {first second sibling other}, Sized first → Sized second →
    nodeMessage first sibling = nodeMessage second other → first = second
  node_right : ∀ {first second sibling other}, Sized first → Sized second →
    nodeMessage sibling first = nodeMessage other second → first = second

namespace Scheme

variable (scheme : Scheme L D M)

def leafHash (value : L) : D := scheme.hash (scheme.leafMessage value)

def join (left right : D) : D := scheme.hash (scheme.nodeMessage left right)

def digest : Tree L → D
  | .leaf value => scheme.leafHash value
  | .node left right => scheme.join (digest left) (digest right)

/-- These messages are hashed for the digest of a tree. -/
def messages : Tree L → List M
  | .leaf value => [scheme.leafMessage value]
  | .node left right =>
      scheme.nodeMessage (scheme.digest left) (scheme.digest right) :: (messages left ++ messages right)

/-- These messages are hashed on the way up a path. -/
def pathMessages : D → List (PathStep D) → List M
  | _, [] => []
  | current, step :: rest =>
      scheme.nodeMessage (step.pair current).1 (step.pair current).2 ::
        pathMessages (step.next scheme.join current) rest

/-- These messages are hashed for the levels above the leaves. -/
def levelMessages (levels : List (List D)) : List M :=
  levels.dropLast.flatMap fun level => (pairs level).map fun pair => scheme.nodeMessage pair.1 pair.2

/-- These messages are hashed for a tree over a list of values. -/
def builtMessages (values : List L) : List M :=
  values.map scheme.leafMessage ++ scheme.levelMessages (levels scheme.join (values.map scheme.leafHash))

variable {scheme}

theorem sized_digest (tree : Tree L) : scheme.Sized (scheme.digest tree) := by
  cases tree <;> exact scheme.sized_hash _

theorem sized_climb {current : D} (sized : scheme.Sized current) (path : List (PathStep D)) :
    scheme.Sized (climb scheme.join current path) := by
  induction path generalizing current with
  | nil => exact sized
  | cons step rest inductionHypothesis => exact inductionHypothesis (scheme.sized_hash _)

theorem climb_concat (join : D → D → D) (current : D) (path : List (PathStep D)) (step : PathStep D) :
    climb join current (path ++ [step]) = step.next join (climb join current path) := by
  simp [climb]

theorem pathMessages_concat (current : D) (path : List (PathStep D)) (step : PathStep D) :
    scheme.pathMessages current (path ++ [step]) = scheme.pathMessages current path ++
      [scheme.nodeMessage (step.pair (climb scheme.join current path)).1
        (step.pair (climb scheme.join current path)).2] := by
  induction path generalizing current with
  | nil => rfl
  | cons first rest inductionHypothesis =>
      rw [List.cons_append, pathMessages, inductionHypothesis]
      rfl

/-- Trees with one digest are the same tree where no two of their messages collide. -/
theorem digest_inj {known : Set M} (clean : Set.InjOn scheme.hash known) {first second : Tree L}
    (firstKnown : ∀ message ∈ scheme.messages first, message ∈ known)
    (secondKnown : ∀ message ∈ scheme.messages second, message ∈ known)
    (same : scheme.digest first = scheme.digest second) : first = second := by
  induction first generalizing second with
  | leaf value =>
      cases second with
      | leaf other =>
          have equal := clean (firstKnown _ (List.mem_singleton_self _))
            (secondKnown _ (List.mem_singleton_self _)) same
          rw [scheme.leafMessage_injective equal]
      | node left right =>
          have equal := clean (firstKnown _ (List.mem_singleton_self _))
            (secondKnown _ List.mem_cons_self) same
          exact absurd equal (scheme.leaf_ne_node _ _ _)
  | node left right leftHypothesis rightHypothesis =>
      cases second with
      | leaf other =>
          have equal := clean (firstKnown _ List.mem_cons_self)
            (secondKnown _ (List.mem_singleton_self _)) same
          exact absurd equal.symm (scheme.leaf_ne_node _ _ _)
      | node otherLeft otherRight =>
          have equal := clean (firstKnown _ List.mem_cons_self) (secondKnown _ List.mem_cons_self) same
          simp only [messages, List.mem_cons, List.mem_append] at firstKnown secondKnown
          have lefts : left = otherLeft := by
            apply leftHypothesis
            · exact fun message member => firstKnown message (.inr (.inl member))
            · exact fun message member => secondKnown message (.inr (.inl member))
            · exact scheme.node_left (sized_digest _) (sized_digest _) equal
          have rights : right = otherRight := by
            apply rightHypothesis
            · exact fun message member => firstKnown message (.inr (.inr member))
            · exact fun message member => secondKnown message (.inr (.inr member))
            · exact scheme.node_right (sized_digest _) (sized_digest _) equal
          rw [lefts, rights]

/-- A path that climbs from a leaf to the digest of a tree starts at a leaf of the tree. -/
theorem mem_leaves_of_climb {known : Set M} (clean : Set.InjOn scheme.hash known) {tree : Tree L}
    {value : L} {path : List (PathStep D)}
    (treeKnown : ∀ message ∈ scheme.messages tree, message ∈ known)
    (leafKnown : scheme.leafMessage value ∈ known)
    (pathKnown : ∀ message ∈ scheme.pathMessages (scheme.leafHash value) path, message ∈ known)
    (reaches : climb scheme.join (scheme.leafHash value) path = scheme.digest tree) :
    value ∈ tree.leaves := by
  have sized : scheme.Sized (scheme.leafHash value) := scheme.sized_hash _
  induction tree generalizing path with
  | leaf other =>
      have treeMessage := treeKnown _ (List.mem_singleton_self _)
      rcases List.eq_nil_or_concat path with rfl | ⟨before, last, rfl⟩
      · rw [scheme.leafMessage_injective (clean leafKnown treeMessage reaches)]
        exact List.mem_singleton_self _
      · rw [List.concat_eq_append] at pathKnown reaches
        rw [climb_concat] at reaches
        rw [pathMessages_concat] at pathKnown
        have equal := clean (pathKnown _ (List.mem_append_right _ (List.mem_singleton_self _))) treeMessage
          reaches
        exact absurd equal.symm (scheme.leaf_ne_node _ _ _)
  | node left right leftHypothesis rightHypothesis =>
      have treeMessage := treeKnown _ List.mem_cons_self
      simp only [messages, List.mem_cons, List.mem_append] at treeKnown
      rcases List.eq_nil_or_concat path with rfl | ⟨before, last, rfl⟩
      · exact absurd (clean leafKnown treeMessage reaches) (scheme.leaf_ne_node _ _ _)
      · rw [List.concat_eq_append] at pathKnown reaches
        rw [climb_concat] at reaches
        rw [pathMessages_concat] at pathKnown
        have equal := clean (pathKnown _ (List.mem_append_right _ (List.mem_singleton_self _))) treeMessage
          reaches
        have beforeKnown : ∀ message ∈ scheme.pathMessages (scheme.leafHash value) before,
            message ∈ known := fun message member => pathKnown message (List.mem_append_left _ member)
        rw [Tree.leaves, List.mem_append]
        -- The side of the last step decides which child the shorter path reaches.
        by_cases side : last.right = true
        · simp only [PathStep.pair, if_pos side] at equal
          refine .inl (leftHypothesis ?_ beforeKnown ?_)
          · exact fun message member => treeKnown message (.inr (.inl member))
          · exact scheme.node_left (sized_climb sized before) (sized_digest left) equal
        · simp only [PathStep.pair, if_neg side] at equal
          refine .inr (rightHypothesis ?_ beforeKnown ?_)
          · exact fun message member => treeKnown message (.inr (.inr member))
          · exact scheme.node_right (sized_climb sized before) (sized_digest right) equal

theorem levelMessages_of_lt {level : List D} (several : 1 < level.length) :
    scheme.levelMessages (levels scheme.join level) =
      (pairs level).map (fun pair => scheme.nodeMessage pair.1 pair.2) ++
        scheme.levelMessages (levels scheme.join (nextLevel scheme.join level)) := by
  rw [levelMessages, dropLast_levels_of_lt several, List.flatMap_cons]
  rfl

/-- The path of an entry hashes nothing that the levels did not hash. -/
theorem pathMessages_path (fallback : D) {level : List D} {index : Nat} (inside : index < level.length) :
    ∀ message ∈ scheme.pathMessages (level.getD index fallback)
        (pathAlong fallback (levels scheme.join level).dropLast index),
      message ∈ scheme.levelMessages (levels scheme.join level) := by
  induction level using level_induction scheme.join generalizing index with
  | single level short =>
      rw [levels_of_le short]
      exact fun message member => nomatch member
  | several level long inductionHypothesis =>
      rw [levelMessages_of_lt long, dropLast_levels_of_lt long, pathAlong, pathMessages,
        ← getD_nextLevel scheme.join fallback level index inside]
      intro message member
      rcases List.mem_cons.mp member with rfl | member
      · apply List.mem_append_left
        exact List.mem_map.mpr ⟨_, List.mem_of_getElem? (pair_stepAt fallback level index inside), rfl⟩
      · apply List.mem_append_right
        exact inductionHypothesis (by rw [length_nextLevel]; omega) message member

/-- The tree over a list of trees has their leaves, and its messages are theirs and those of the levels. -/
theorem rootOf_trees (scheme : Scheme L D M) {trees : List (Tree L)} {tree : Tree L}
    (root : rootOf Tree.node trees = some tree) :
    (∀ value, value ∈ tree.leaves ↔ ∃ part ∈ trees, value ∈ part.leaves) ∧
      ∀ message ∈ scheme.messages tree, (∃ part ∈ trees, message ∈ scheme.messages part) ∨
        message ∈ scheme.levelMessages (levels scheme.join (trees.map scheme.digest)) := by
  induction trees using level_induction Tree.node with
  | single trees short =>
      rw [rootOf_of_le short] at root
      obtain ⟨rest, rfl⟩ := List.head?_eq_some_iff.mp root
      obtain rfl : rest = [] := by
        rw [← List.length_eq_zero_iff]
        simp only [List.length_cons] at short
        omega
      exact ⟨by simp, fun message member => .inl ⟨tree, List.mem_singleton_self _, member⟩⟩
  | several trees long inductionHypothesis =>
      rw [rootOf_of_lt long] at root
      obtain ⟨leaves, known⟩ := inductionHypothesis root
      have digests : (nextLevel Tree.node trees).map scheme.digest =
          nextLevel scheme.join (trees.map scheme.digest) := by
        simp [nextLevel, pairs_map, digest]
      rw [levelMessages_of_lt (by simpa using long), ← digests]
      constructor
      · intro value
        rw [leaves]
        constructor
        · rintro ⟨part, member, inside⟩
          obtain ⟨pair, paired, rfl⟩ := List.mem_map.mp member
          rcases List.mem_append.mp inside with inside | inside
          · exact ⟨pair.1, (mem_of_mem_pairs paired).1, inside⟩
          · exact ⟨pair.2, (mem_of_mem_pairs paired).2, inside⟩
        · rintro ⟨part, member, inside⟩
          obtain ⟨pair, paired, same⟩ := exists_mem_pairs member
          refine ⟨_, List.mem_map_of_mem paired, ?_⟩
          rw [Tree.leaves, List.mem_append]
          rcases same with rfl | rfl
          · exact .inl inside
          · exact .inr inside
      · intro message member
        rw [List.mem_append]
        rcases known message member with ⟨part, member, inside⟩ | above
        · obtain ⟨pair, paired, rfl⟩ := List.mem_map.mp member
          simp only [messages, List.mem_cons, List.mem_append] at inside
          rcases inside with rfl | inside | inside
          · refine .inr (.inl ?_)
            rw [pairs_map, List.map_map]
            exact List.mem_map.mpr ⟨pair, paired, rfl⟩
          · exact .inl ⟨pair.1, (mem_of_mem_pairs paired).1, inside⟩
          · exact .inl ⟨pair.2, (mem_of_mem_pairs paired).2, inside⟩
        · exact .inr (.inr above)

/-- The root over some values is the digest of a tree that has them as its leaves. -/
theorem exists_tree (scheme : Scheme L D M) (values : List L) (nonempty : values ≠ []) :
    ∃ tree : Tree L, rootOf scheme.join (values.map scheme.leafHash) = some (scheme.digest tree) ∧
      (∀ value, value ∈ tree.leaves ↔ value ∈ values) ∧
      ∀ message ∈ scheme.messages tree, message ∈ scheme.builtMessages values := by
  obtain ⟨tree, root⟩ := exists_rootOf Tree.node (values.map Tree.leaf) (by simpa using nonempty)
  obtain ⟨leaves, known⟩ := rootOf_trees scheme root
  have digests : (values.map Tree.leaf).map scheme.digest = values.map scheme.leafHash := by
    simp [Function.comp_def, digest]
  refine ⟨tree, ?_, ?_, ?_⟩
  · have respects : ∀ left right, scheme.digest (Tree.node left right) =
        scheme.join (scheme.digest left) (scheme.digest right) := fun _ _ => rfl
    rw [← digests, rootOf_map respects, root]
    rfl
  · intro value
    simp [leaves, Tree.leaves]
  · intro message member
    rw [builtMessages, List.mem_append, ← digests]
    rcases known message member with ⟨part, present, inside⟩ | above
    · obtain ⟨value, listed, rfl⟩ := List.mem_map.mp present
      obtain rfl := List.mem_singleton.mp inside
      exact .inl (List.mem_map_of_mem listed)
    · exact .inr above

/-- A path from a leaf to the root over some values starts at one of them. -/
theorem mem_of_climb {known : Set M} (clean : Set.InjOn scheme.hash known) {values : List L}
    {value : L} {path : List (PathStep D)} (nonempty : values ≠ [])
    (built : ∀ message ∈ scheme.builtMessages values, message ∈ known)
    (leafKnown : scheme.leafMessage value ∈ known)
    (pathKnown : ∀ message ∈ scheme.pathMessages (scheme.leafHash value) path, message ∈ known)
    (reaches : some (climb scheme.join (scheme.leafHash value) path) =
      rootOf scheme.join (values.map scheme.leafHash)) : value ∈ values := by
  obtain ⟨tree, root, leaves, messages⟩ := exists_tree scheme values nonempty
  rw [root, Option.some.injEq] at reaches
  rw [← leaves]
  exact mem_leaves_of_climb clean (fun message member => built message (messages message member))
    leafKnown pathKnown reaches

/-- Lists of values with one root have the same values. -/
theorem same_values_of_root {known : Set M} (clean : Set.InjOn scheme.hash known) {first second : List L}
    (firstNonempty : first ≠ []) (secondNonempty : second ≠ [])
    (firstBuilt : ∀ message ∈ scheme.builtMessages first, message ∈ known)
    (secondBuilt : ∀ message ∈ scheme.builtMessages second, message ∈ known)
    (same : rootOf scheme.join (first.map scheme.leafHash) =
      rootOf scheme.join (second.map scheme.leafHash)) (value : L) : value ∈ first ↔ value ∈ second := by
  obtain ⟨tree, root, leaves, messages⟩ := exists_tree scheme first firstNonempty
  obtain ⟨other, otherRoot, otherLeaves, otherMessages⟩ := exists_tree scheme second secondNonempty
  rw [root, otherRoot, Option.some.injEq] at same
  have equal := digest_inj clean (fun message member => firstBuilt message (messages message member))
    (fun message member => secondBuilt message (otherMessages message member)) same
  rw [← leaves, ← otherLeaves, equal]

end Scheme

end Schemes

end Pxtly.Foundation.HashTree
