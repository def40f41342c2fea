/-
This file gives the sorted Merkle tree over sanctioned names and its proofs of non-membership.
-/

import Mathlib.Data.List.Dedup
import Mathlib.Data.List.Sort
import Mathlib.Data.String.Basic
import Pxtly.Foundation.HashTree
import Pxtly.Foundation.Sha256

namespace Pxtly.Zkp

open Foundation Foundation.HashTree

/-- A casing stands for `str.lower`: a text in lower case stays as it is. -/
structure Casing where
  lower : String → String
  lower_lower : ∀ text, lower (lower text) = lower text

variable (casing : Casing)

def leafMessage (value : String) : Bytes := encode "LEAF:" ++ encode value

def nodeMessage (left right : Bytes) : Bytes := encode "NODE:" ++ left ++ right

def leafHash (value : String) : Bytes := sha256 (leafMessage (casing.lower value))

def nodeHash (left right : Bytes) : Bytes := sha256 (nodeMessage left right)

structure MerkleTree where
  sortedNames : List String
  leaves : List Bytes
  root : Bytes
  levels : List (List Bytes)

/-- This is `sorted(set(n.lower() for n in names))`. -/
def sortedSet (names : List String) : List String := (names.map casing.lower).dedup.mergeSort (· ≤ ·)

def emptySentinel : Bytes := List.replicate 32 0

def MerkleTree.ofLeaves (sortedNames : List String) (leaves : List Bytes) : MerkleTree where
  sortedNames
  leaves
  root := (rootOf nodeHash leaves).getD []
  levels := HashTree.levels nodeHash leaves

/-- A tree over no name has the sentinel as its only leaf. -/
def MerkleTree.build (names : List String) : MerkleTree :=
  let sortedNames := sortedSet casing names
  if sortedNames = [] then .ofLeaves [""] [emptySentinel]
  else .ofLeaves sortedNames (sortedNames.map (leafHash casing))

structure ProofStep where
  hash : String
  side : String
  deriving DecidableEq

def ProofStep.write (step : PathStep Bytes) : ProofStep where
  hash := hex step.sibling
  side := if step.right then "right" else "left"

def MerkleTree.merklePath (tree : MerkleTree) (leafIndex : Nat) : List ProofStep :=
  (pathAlong [] tree.levels.dropLast leafIndex).map ProofStep.write

structure NonMembershipProof where
  queriedName : String
  leftLeafName : String
  rightLeafName : String
  leftLeafHash : String
  rightLeafHash : String
  leftPath : List ProofStep
  rightPath : List ProofStep
  root : String

/-- The search ends at the insertion point, or with nothing where the key is present. -/
def search (names : List String) (key : String) (lo hi : Int) : Option Int :=
  if lo ≤ hi then
    let mid := (lo + hi) / 2
    let name := names.getD mid.toNat ""
    if name = key then none
    else if name < key then search names key (mid + 1) hi
    else search names key lo (mid - 1)
  else some lo
termination_by (hi + 1 - lo).toNat
decreasing_by all_goals omega

/-- The straddling leaves stand at these two indices. -/
def MerkleTree.proofAt (tree : MerkleTree) (name : String) (leftIndex rightIndex : Nat) :
    NonMembershipProof where
  queriedName := name
  leftLeafName := tree.sortedNames.getD leftIndex ""
  rightLeafName := tree.sortedNames.getD rightIndex ""
  leftLeafHash := hex (tree.leaves.getD leftIndex [])
  rightLeafHash := hex (tree.leaves.getD rightIndex [])
  leftPath := tree.merklePath leftIndex
  rightPath := tree.merklePath rightIndex
  root := hex tree.root

def MerkleTree.nonMembershipProof (tree : MerkleTree) (name : String) : Option NonMembershipProof :=
  let count : Int := tree.sortedNames.length
  (search tree.sortedNames (casing.lower name) 0 (count - 1)).map fun lo =>
    tree.proofAt name (max (lo - 1) 0).toNat (min lo (count - 1)).toNat

/-- `bytes.fromhex` raises this error. -/
structure ValueError where
  text : String
  deriving DecidableEq

def bytesFromHex (text : String) : Except ValueError Bytes :=
  match fromHex text with
  | some bytes => .ok bytes
  | none => .error ⟨text⟩

/-- Every side but `right` counts as the left one. -/
def climbSteps : Bytes → List ProofStep → Except ValueError Bytes
  | current, [] => .ok current
  | current, step :: rest => do
      let sibling ← bytesFromHex step.hash
      if step.side = "right" then climbSteps (nodeHash current sibling) rest
      else climbSteps (nodeHash sibling current) rest

def verifyPath (leafHash : Bytes) (path : List ProofStep) (expectedRoot : String) :
    Except ValueError Bool := do
  let current ← climbSteps leafHash path
  return hex current == expectedRoot

def verifyNonMembership (proof : NonMembershipProof) (expectedRoot : String) : Except ValueError Bool :=
  let key := casing.lower proof.queriedName
  let left := casing.lower proof.leftLeafName
  let right := casing.lower proof.rightLeafName
  if hex (leafHash casing proof.leftLeafName) ≠ proof.leftLeafHash then .ok false
  else if hex (leafHash casing proof.rightLeafName) ≠ proof.rightLeafHash then .ok false
  else if ¬ (left ≤ key ∧ key ≤ right) then .ok false
  else if left = key ∨ right = key then .ok false
  else do
    let leftOk ← verifyPath (← bytesFromHex proof.leftLeafHash) proof.leftPath expectedRoot
    let rightOk ← verifyPath (← bytesFromHex proof.rightLeafHash) proof.rightPath expectedRoot
    return leftOk && rightOk && proof.root == expectedRoot

end Pxtly.Zkp
