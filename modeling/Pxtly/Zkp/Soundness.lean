/-
This file gives which listed names a forged proof can pass off as absent.
-/

import Pxtly.Zkp.Commitment

namespace Pxtly.Zkp

open Foundation Foundation.HashTree

section Paths

def ProofStep.read (step : ProofStep) : Option (PathStep Bytes) :=
  (fromHex step.hash).map fun sibling => ⟨sibling, step.side = "right"⟩

/-- The steps end where a sibling cannot be read. -/
def readPath : List ProofStep → List (PathStep Bytes)
  | [] => []
  | step :: rest =>
      match step.read with
      | some readable => readable :: readPath rest
      | none => []

/-- Every sibling of a path is a hexadecimal text. -/
def ReadablePath (path : List ProofStep) : Prop := ∀ step ∈ path, step.read ≠ none

theorem read_write (step : PathStep Bytes) : (ProofStep.write step).read = some step := by
  obtain ⟨sibling, right⟩ := step
  cases right <;> simp [ProofStep.read, ProofStep.write]

theorem readPath_write (path : List (PathStep Bytes)) : readPath (path.map ProofStep.write) = path := by
  induction path with
  | nil => rfl
  | cons step rest inductionHypothesis => simp [readPath, read_write, inductionHypothesis]

theorem climbSteps_cons (current : Bytes) (step : ProofStep) (rest : List ProofStep) :
    climbSteps current (step :: rest) =
      match step.read with
      | some readable => climbSteps (readable.next nodeHash current) rest
      | none => .error ⟨step.hash⟩ := by
  rw [climbSteps, bytesFromHex, ProofStep.read]
  cases fromHex step.hash with
  | none => rfl
  | some sibling =>
      by_cases side : step.side = "right"
      · simp [side, PathStep.next, PathStep.pair, bind, Except.bind]
      · simp [side, PathStep.next, PathStep.pair, bind, Except.bind]

/-- A climb that ends read every step. -/
theorem climb_readPath {current last : Bytes} {path : List ProofStep}
    (ended : climbSteps current path = .ok last) : climb nodeHash current (readPath path) = last := by
  induction path generalizing current with
  | nil => exact Except.ok.inj ended
  | cons step rest inductionHypothesis =>
      rw [climbSteps_cons] at ended
      rw [readPath]
      cases reading : step.read with
      | none =>
          rw [reading] at ended
          cases ended
      | some readable =>
          rw [reading] at ended
          exact inductionHypothesis ended

theorem exists_climb_of_readable (current : Bytes) {path : List ProofStep} (readable : ReadablePath path) :
    ∃ last, climbSteps current path = .ok last := by
  induction path generalizing current with
  | nil => exact ⟨current, rfl⟩
  | cons step rest inductionHypothesis =>
      obtain ⟨first, reading⟩ := Option.ne_none_iff_exists'.mp (readable step List.mem_cons_self)
      rw [climbSteps_cons, reading]
      exact inductionHypothesis _ fun later member => readable later (List.mem_cons_of_mem _ member)

theorem climb_of_verifyPath {current : Bytes} {path : List ProofStep} {root : Bytes}
    (verified : verifyPath current path (hex root) = .ok true) :
    climb nodeHash current (readPath path) = root := by
  rw [verifyPath] at verified
  cases ended : climbSteps current path with
  | error error =>
      rw [ended] at verified
      cases verified
  | ok last =>
      rw [ended] at verified
      have same : (hex last == hex root) = true := Except.ok.inj verified
      rw [climb_readPath ended, ← hex_inj]
      exact beq_iff_eq.mp same

end Paths

section Proofs

variable (casing : Casing)

/-- These messages are hashed for one leaf of a proof and on its path. -/
def branchMessages (leafName : String) (path : List ProofStep) : List Bytes :=
  leafMessage (casing.lower leafName) ::
    sanctionsScheme.pathMessages (leafHash casing leafName) (readPath path)

def proofMessages (proof : NonMembershipProof) : List Bytes :=
  branchMessages casing proof.leftLeafName proof.leftPath ++
    branchMessages casing proof.rightLeafName proof.rightPath

/-- The paths hold hexadecimal texts. -/
def NonMembershipProof.Readable (proof : NonMembershipProof) : Prop :=
  ReadablePath proof.leftPath ∧ ReadablePath proof.rightPath

variable {casing} {names : List String} {proof : NonMembershipProof}

/-- A branch that reaches the root starts at a listed name. -/
theorem listed_of_branch {known : Set Bytes} (clean : Set.InjOn sha256 known) (nonempty : names ≠ [])
    (built : ∀ message ∈ builtMessages casing names, message ∈ known) {leafName : String}
    {path : List ProofStep} (branch : ∀ message ∈ branchMessages casing leafName path, message ∈ known)
    (verified : verifyPath (leafHash casing leafName) path (hex (MerkleTree.build casing names).root) =
      .ok true) : ∃ listed ∈ names, casing.lower listed = casing.lower leafName := by
  rw [← mem_sortedSet]
  apply sanctionsScheme.mem_of_climb clean (sortedSet_ne_nil nonempty) built
  · exact branch _ List.mem_cons_self
  · exact fun message member => branch message (List.mem_cons_of_mem _ member)
  · rw [rootOf_sortedSet nonempty]
    exact congrArg some (climb_of_verifyPath verified)

/-- An accepted proof names two listed leaves on either side of the key. -/
theorem straddled_of_accepted (nonempty : names ≠ [])
    (clean : Set.InjOn sha256
      {message | message ∈ builtMessages casing names ∨ message ∈ proofMessages casing proof})
    (accepted : verifyNonMembership casing proof (hex (MerkleTree.build casing names).root) = .ok true) :
    (∃ listed ∈ names, casing.lower listed < casing.lower proof.queriedName) ∧
      ∃ listed ∈ names, casing.lower proof.queriedName < casing.lower listed := by
  obtain ⟨_, _, before, after, left, right, _⟩ := verifyNonMembership_eq_true.mp accepted
  have built : ∀ message ∈ builtMessages casing names,
      message ∈ builtMessages casing names ∨ message ∈ proofMessages casing proof :=
    fun message member => .inl member
  obtain ⟨first, firstListed, firstSame⟩ := listed_of_branch clean nonempty built
    (fun message member => .inr (List.mem_append_left _ member)) left
  obtain ⟨last, lastListed, lastSame⟩ := listed_of_branch clean nonempty built
    (fun message member => .inr (List.mem_append_right _ member)) right
  exact ⟨⟨first, firstListed, firstSame ▸ before⟩, ⟨last, lastListed, lastSame ▸ after⟩⟩

theorem verifyPath_of_readable (current : Bytes) {path : List ProofStep} (readable : ReadablePath path)
    (root : String) : ∃ verdict, verifyPath current path root = .ok verdict := by
  obtain ⟨last, ended⟩ := exists_climb_of_readable current readable
  exact ⟨hex last == root, by rw [verifyPath, ended]; rfl⟩

/-- The verification of a proof with hexadecimal paths ends without an error. -/
theorem verified_of_readable (casing : Casing) (readable : proof.Readable) (root : String) :
    ∃ verdict, verifyNonMembership casing proof root = .ok verdict := by
  rw [verifyNonMembership]
  split
  · exact ⟨false, rfl⟩
  rename_i leftHash
  split
  · exact ⟨false, rfl⟩
  rename_i rightHash
  split
  · exact ⟨false, rfl⟩
  split
  · exact ⟨false, rfl⟩
  rw [ne_eq, not_not] at leftHash rightHash
  rw [← leftHash, ← rightHash, bytesFromHex, bytesFromHex, fromHex_hex, fromHex_hex]
  obtain ⟨left, leftVerified⟩ := verifyPath_of_readable (leafHash casing proof.leftLeafName) readable.1 root
  obtain ⟨right, rightVerified⟩ :=
    verifyPath_of_readable (leafHash casing proof.rightLeafName) readable.2 root
  exact ⟨left && right && proof.root == root, by simp [leftVerified, rightVerified, bind, Except.bind]; rfl⟩

/-- The proof that a tree writes for two of its leaves hashes nothing new. -/
theorem proofMessages_proofAt (nonempty : names ≠ []) (name : String) {left right : Nat}
    (leftInside : left < (sortedSet casing names).length)
    (rightInside : right < (sortedSet casing names).length) :
    ∀ message ∈ proofMessages casing ((MerkleTree.build casing names).proofAt name left right),
      message ∈ builtMessages casing names := by
  have branch (index : Nat) (inside : index < (sortedSet casing names).length) :
      ∀ message ∈ branchMessages casing ((MerkleTree.build casing names).sortedNames.getD index "")
          ((MerkleTree.build casing names).merklePath index), message ∈ builtMessages casing names := by
    have entry : (sortedSet casing names).getD index "" = (sortedSet casing names)[index] :=
      List.getD_eq_getElem _ _ inside
    have member : (sortedSet casing names)[index] ∈ sortedSet casing names := List.getElem_mem inside
    have leaf : ((sortedSet casing names).map sanctionsScheme.leafHash).getD index [] =
        leafHash casing (sortedSet casing names)[index] := by
      rw [← leaves_sortedSet, List.getD_eq_getElem _ _ (by simpa using inside), List.getElem_map]
    intro message known
    rw [build_of_ne_nil nonempty, MerkleTree.ofLeaves, MerkleTree.merklePath, branchMessages, entry,
      readPath_write, lower_of_mem_sortedSet member] at known
    rcases List.mem_cons.mp known with rfl | known
    · exact List.mem_append_left _ (List.mem_map_of_mem member)
    · rw [leaves_sortedSet, ← leaf] at known
      exact List.mem_append_right _ (Scheme.pathMessages_path [] (by simpa using inside) message known)
  intro message known
  rcases List.mem_append.mp known with known | known
  · exact branch left leftInside message known
  · exact branch right rightInside message known

/-- A listed name is passed off as absent where listed names stand on both sides of it, and nowhere else. -/
theorem listed_name_refused_iff (casing : Casing) (names : List String) (name : String)
    (listed : ∃ entry ∈ names, casing.lower entry = casing.lower name)
    (clean : Set.InjOn sha256 {message | message ∈ builtMessages casing names}) :
    (∀ proof : NonMembershipProof, casing.lower proof.queriedName = casing.lower name →
        Set.InjOn sha256
          {message | message ∈ builtMessages casing names ∨ message ∈ proofMessages casing proof} →
        verifyNonMembership casing proof (hex (MerkleTree.build casing names).root) ≠ .ok true ∧
          (proof.Readable →
            verifyNonMembership casing proof (hex (MerkleTree.build casing names).root) = .ok false)) ↔
      ¬ ((∃ entry ∈ names, casing.lower entry < casing.lower name) ∧
        ∃ entry ∈ names, casing.lower name < casing.lower entry) := by
  have nonempty : names ≠ [] := by
    obtain ⟨entry, member, _⟩ := listed
    exact List.ne_nil_of_mem member
  constructor
  · intro refused straddled
    rw [exists_listed_iff (· < casing.lower name), exists_listed_iff (casing.lower name < ·)] at straddled
    obtain ⟨⟨first, firstMember, less⟩, ⟨last, lastMember, greater⟩⟩ := straddled
    obtain ⟨left, leftInside, rfl⟩ := List.getElem_of_mem firstMember
    obtain ⟨right, rightInside, rfl⟩ := List.getElem_of_mem lastMember
    have accepted := (verify_proofAt nonempty leftInside rightInside).mpr ⟨less, greater⟩
    refine (refused ((MerkleTree.build casing names).proofAt name left right) rfl ?_).1 accepted
    apply clean.mono
    intro message known
    exact known.elim id (proofMessages_proofAt nonempty name leftInside rightInside message)
  · intro edge proof same cleanProof
    have refused : verifyNonMembership casing proof (hex (MerkleTree.build casing names).root) ≠ .ok true := by
      intro accepted
      have straddled := straddled_of_accepted nonempty cleanProof accepted
      rw [same] at straddled
      exact edge straddled
    refine ⟨refused, fun readable => ?_⟩
    obtain ⟨verdict, ended⟩ := verified_of_readable casing readable
      (hex (MerkleTree.build casing names).root)
    cases verdict with
    | true => exact absurd ended refused
    | false => exact ended

theorem injOn_of_nodup {messages : List Bytes} (distinct : (messages.map sha256).Nodup) :
    Set.InjOn sha256 {message | message ∈ messages} :=
  fun _ first _ second same => List.inj_on_of_nodup_map distinct first second same

/-- A forged proof declares two leaves that the tree over one name does not hold. -/
def forgedProof : NonMembershipProof where
  queriedName := "Bob"
  leftLeafName := "alice"
  rightLeafName := "carol"
  leftLeafHash := hex (leafHash asciiCasing "alice")
  rightLeafHash := hex (leafHash asciiCasing "carol")
  leftPath := []
  rightPath := []
  root := hex (leafHash asciiCasing "bob")

theorem forgedProof_refused :
    verifyNonMembership asciiCasing forgedProof (hex (MerkleTree.build asciiCasing ["bob"]).root) =
      .ok false := by
  have built : builtMessages asciiCasing ["bob"] = [leafMessage "bob"] := by decide +kernel
  have written : proofMessages asciiCasing forgedProof = [leafMessage "alice", leafMessage "carol"] := by
    decide +kernel
  have distinct := @injOn_of_nodup
    [leafMessage "bob", leafMessage "alice", leafMessage "carol"] (by decide +kernel)
  have criterion := listed_name_refused_iff asciiCasing ["bob"] "BOB" ⟨"bob", by decide +kernel⟩
    (distinct.mono (by simp [built]))
  have refused := criterion.mpr (by decide +kernel) forgedProof (by decide +kernel)
    (distinct.mono (by simp [built, written]))
  exact refused.2 ⟨by simp [ReadablePath, forgedProof], by simp [ReadablePath, forgedProof]⟩

/-- The leaves around a listed name are not adjacent, and the tree's own paths for them are accepted. -/
theorem listed_name_accepted :
    "bob" ∈ ["ann", "bob", "cleo"] ∧
      Set.InjOn sha256 {message | message ∈ builtMessages asciiCasing ["ann", "bob", "cleo"] ∨
        message ∈ proofMessages asciiCasing
          ((MerkleTree.build asciiCasing ["ann", "bob", "cleo"]).proofAt "bob" 0 2)} ∧
      verifyNonMembership asciiCasing
        ((MerkleTree.build asciiCasing ["ann", "bob", "cleo"]).proofAt "bob" 0 2)
        (hex (MerkleTree.build asciiCasing ["ann", "bob", "cleo"]).root) = .ok true := by
  have lowered : (["ann", "bob", "cleo"].map asciiCasing.lower).dedup = ["ann", "bob", "cleo"] := by
    decide +kernel
  have sorted : sortedSet asciiCasing ["ann", "bob", "cleo"] = ["ann", "bob", "cleo"] := by
    rw [sortedSet, lowered]
    exact List.mergeSort_eq_self (· ≤ ·) (by decide +kernel)
  have built : builtMessages asciiCasing ["ann", "bob", "cleo"] =
      [leafMessage "ann", leafMessage "bob", leafMessage "cleo",
        nodeMessage (sha256 (leafMessage "ann")) (sha256 (leafMessage "bob")),
        nodeMessage (sha256 (leafMessage "cleo")) (sha256 (leafMessage "cleo")),
        nodeMessage
          (nodeHash (sha256 (leafMessage "ann")) (sha256 (leafMessage "bob")))
          (nodeHash (sha256 (leafMessage "cleo")) (sha256 (leafMessage "cleo")))] := by
    rw [builtMessages, sorted, Scheme.builtMessages, Scheme.levelMessages_of_lt (by simp),
      Scheme.levelMessages_of_lt (by simp [nextLevel, pairs]), Scheme.levelMessages,
      levels_of_le (by simp [nextLevel, pairs])]
    simp [nextLevel, pairs, Scheme.leafHash, Scheme.join, nodeHash, sanctionsScheme]
  have distinct := @injOn_of_nodup (builtMessages asciiCasing ["ann", "bob", "cleo"])
    (by rw [built]; decide +kernel)
  have straddled : "ann" < asciiCasing.lower "bob" ∧ asciiCasing.lower "bob" < "cleo" := by decide +kernel
  refine ⟨by simp, distinct.mono ?_, ?_⟩
  · intro message known
    exact known.elim id (proofMessages_proofAt (by simp) "bob" (by simp [sorted]) (by simp [sorted]) message)
  · apply (verify_proofAt (by simp) (by simp [sorted]) (by simp [sorted])).mpr
    simp only [sorted]
    exact straddled

end Proofs

end Pxtly.Zkp
