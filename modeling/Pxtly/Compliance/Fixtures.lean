/-
This file gives the cached loader of the compliance fixtures.
-/

import Pxtly.Foundation.Errors
import Pxtly.Foundation.Program
import Pxtly.Foundation.Python

namespace Pxtly.Compliance

open Foundation Program

abbrev Document := List (String × Json)

/-- The loader keeps the last trusted document with the time stamp of its file. -/
structure Cache where
  data : Document := []
  mtime : Option Int := none

inductive FileOperation where
  | stat
  | readManifest
  | publicKey
  | signatureIsFile
  | readSignature

/-- A missing file is told apart from any other failure. -/
inductive Stat where
  | modified (mtime : Int)
  | missing
  | failed
  deriving DecidableEq

/-- An answer is missing where the operation raises an error. -/
abbrev FileOperation.Result : FileOperation → Type
  | .stat => Stat
  | .readManifest => Option Bytes
  | .publicKey => Option String
  | .signatureIsFile => Option Bool
  | .readSignature => Option Bytes

def fileSignature : Signature where
  Operation := FileOperation
  Answer := FileOperation.Result

/-- These exceptions leave the loader. -/
inductive LoadFault where
  | osError
  | parseError
  deriving DecidableEq

/-- The parser reads a value, refuses a malformed text, or fails with an error that the loader does not expect. -/
inductive Parsed where
  | value (json : Json)
  | refused
  | failed

/-- The loader checks Ed25519 signatures and parses the JSON text of the manifest. -/
structure Toolkit where
  verifies : Bytes → Bytes → Bytes → Bool
  parse : Bytes → Parsed

abbrev Loader (A : Type) := Program fileSignature LoadFault A

def consult (operation : FileOperation) : Loader operation.Result := .perform operation .done

variable (toolkit : Toolkit)

/-- Surrounding space is no part of a key, and no key is configured where nothing is left. -/
def keyText (configured : Option String) : String := String.ofList (strip (configured.getD "").toList)

/-- A key that cannot be read and a signature that cannot be read both count as a mismatch. -/
def verifySignature (raw : Bytes) : Loader Bool := do
  let publicKey := keyText (← consult .publicKey)
  if publicKey = "" then return true
  else
    match ← consult .signatureIsFile with
    | none => raise .osError
    | some false => return false
    | some true =>
        match fromHex publicKey with
        | none => return false
        | some publicBytes =>
            match ← consult .readSignature with
            | none => return false
            | some signature => return toolkit.verifies publicBytes signature raw

/-- A document that is no object counts as the empty one. -/
def documentOf : Json → Document
  | .object members => members
  | _ => []

/-- Whenever no new document can be trusted, the cached one is served, even when it is empty. -/
def readFixtures (cache : Cache) : Loader (Document × Cache) := do
  match ← consult .stat with
  | .missing => return (cache.data, cache)
  | .failed => raise .osError
  | .modified mtime =>
      if cache.mtime = some mtime ∧ cache.data.isEmpty = false then return (cache.data, cache)
      else
        match ← consult .readManifest with
        | none => return (cache.data, cache)
        | some raw =>
            if ← verifySignature toolkit raw then
              match toolkit.parse raw with
              | .refused => return (cache.data, cache)
              | .failed => raise .parseError
              | .value json => return (documentOf json, ⟨documentOf json, some mtime⟩)
            else return (cache.data, cache)

def sanctionsListsOf (document : Document) : Document := documentOf ((dictGet document "sanctions_lists").getD (.object []))

def getSanctionsLists (cache : Cache) : Loader (Document × Cache) := do
  let (document, later) ← readFixtures toolkit cache
  return (sanctionsListsOf document, later)

/-- These files and this key do not change while they are read. -/
structure Files where
  stat : Stat
  manifest : Option Bytes
  publicKey : Option String
  signatureIsFile : Option Bool
  signature : Option Bytes

def Files.answer (files : Files) : (operation : FileOperation) → operation.Result
  | .stat => files.stat
  | .readManifest => files.manifest
  | .publicKey => files.publicKey
  | .signatureIsFile => files.signatureIsFile
  | .readSignature => files.signature

def Files.run {A : Type} (files : Files) (loader : Loader A) : Except LoadFault A :=
  (loader.evaluate (T := Unit) (fun operation state => (files.answer operation, state)) ()).1

@[simp] theorem Files.run_pure {A : Type} (files : Files) (value : A) : files.run (pure value) = .ok value := rfl

@[simp] theorem Files.run_raise {A : Type} (files : Files) (fault : LoadFault) :
    files.run (raise fault : Loader A) = .error fault := rfl

@[simp] theorem Files.run_consult_bind {A : Type} (files : Files) (operation : FileOperation)
    (next : operation.Result → Loader A) :
    files.run (consult operation >>= next) = files.run (next (files.answer operation)) := rfl

theorem Files.run_bind {A B : Type} (files : Files) (loader : Loader A) (next : A → Loader B) :
    files.run (loader >>= next) = files.run loader >>= fun value => files.run (next value) := by
  simp only [run, evaluate_bind]
  cases (loader.evaluate _ ()) with
  | mk outcome state => cases outcome <;> rfl

/-- The configured key accepts these bytes, or no key is configured. -/
def Files.Signed (files : Files) (raw : Bytes) : Prop :=
  keyText files.publicKey = "" ∨ files.signatureIsFile = some true ∧
    ∃ publicBytes signature, fromHex (keyText files.publicKey) = some publicBytes ∧
      files.signature = some signature ∧ toolkit.verifies publicBytes signature raw = true

/-- The check of the signature raises an error only when the file system does not say whether it is a file. -/
def Files.Unanswered (files : Files) : Prop := keyText files.publicKey ≠ "" ∧ files.signatureIsFile = none

theorem Files.run_verifySignature (files : Files) (raw : Bytes) :
    files.Unanswered ∧ files.run (verifySignature toolkit raw) = .error .osError ∨
      ¬ files.Unanswered ∧ ∃ trusted, files.run (verifySignature toolkit raw) = .ok trusted ∧
        (trusted = true ↔ files.Signed toolkit raw) := by
  unfold verifySignature Unanswered Signed
  rw [run_consult_bind, answer]
  by_cases blank : keyText files.publicKey = ""
  · right
    rw [if_pos blank]
    exact ⟨fun unanswered => unanswered.1 blank, true, rfl, by simp [blank]⟩
  · rw [if_neg blank, run_consult_bind, answer]
    cases isFile : files.signatureIsFile with
    | none => exact .inl ⟨⟨blank, rfl⟩, rfl⟩
    | some file =>
        right
        refine ⟨by simp, ?_⟩
        cases file with
        | false => exact ⟨false, rfl, by simp [blank]⟩
        | true =>
            cases key : fromHex (keyText files.publicKey) with
            | none => exact ⟨false, rfl, by simp [blank]⟩
            | some publicBytes =>
                rw [run_consult_bind, answer]
                cases signature : files.signature with
                | none => exact ⟨false, rfl, by simp [blank]⟩
                | some bytes => exact ⟨_, rfl, by simp [blank]⟩

/-- The manifest is an object that the loader may trust. -/
def Files.Verified (files : Files) : Prop :=
  ∃ mtime raw members, files.stat = .modified mtime ∧ files.manifest = some raw ∧ files.Signed toolkit raw ∧
    toolkit.parse raw = .value (.object members)

/-- No trusted manifest is on the disk, and none is cached. -/
structure Unavailable (files : Files) (cache : Cache) : Prop where
  unverified : ¬ files.Verified toolkit
  uncached : cache.data = []

/-- The loader meets a failure that it does not turn into a document. -/
def Files.Interrupted (files : Files) : Prop :=
  files.stat = .failed ∨ ∃ mtime raw, files.stat = .modified mtime ∧ files.manifest = some raw ∧
    (files.Unanswered ∨ ¬ files.Unanswered ∧ files.Signed toolkit raw ∧ toolkit.parse raw = .failed)

/-- A load fails, serves the cached document, or reads a trusted one and caches it. -/
theorem Files.run_readFixtures_cases (files : Files) (cache : Cache) :
    files.Interrupted toolkit ∧ (∃ fault, files.run (readFixtures toolkit cache) = .error fault) ∨
      (cache.data = [] → ¬ files.Interrupted toolkit) ∧
        files.run (readFixtures toolkit cache) = .ok (cache.data, cache) ∨
      ¬ files.Interrupted toolkit ∧ ∃ mtime raw json, files.stat = .modified mtime ∧ files.manifest = some raw ∧
        ¬ files.Unanswered ∧ files.Signed toolkit raw ∧ toolkit.parse raw = .value json ∧
        files.run (readFixtures toolkit cache) = .ok (documentOf json, ⟨documentOf json, some mtime⟩) := by
  unfold readFixtures Interrupted
  rw [run_consult_bind, answer]
  cases stat : files.stat with
  | missing => exact .inr (.inl ⟨fun _ => by simp, rfl⟩)
  | failed => exact .inl ⟨.inl rfl, _, rfl⟩
  | modified mtime =>
      simp only [reduceCtorEq, false_or]
      by_cases cached : cache.mtime = some mtime ∧ cache.data.isEmpty = false
      · rw [if_pos cached]
        exact .inr (.inl ⟨fun empty => by simp [empty] at cached, rfl⟩)
      · rw [if_neg cached, run_consult_bind, answer]
        cases manifest : files.manifest with
        | none => exact .inr (.inl ⟨fun _ => by simp, rfl⟩)
        | some raw =>
            simp only [run_bind]
            rcases files.run_verifySignature toolkit raw with ⟨unanswered, failed⟩ | ⟨answered, trusted, checked, signed⟩
            · rw [failed]
              exact .inl ⟨⟨mtime, raw, rfl, rfl, .inl unanswered⟩, _, rfl⟩
            · rw [checked, ok_bind]
              cases trusted with
              | false =>
                  have unsigned : ¬ files.Signed toolkit raw := fun accepted => absurd (signed.mpr accepted) (by simp)
                  exact .inr (.inl ⟨fun _ => by simp [answered, unsigned], rfl⟩)
              | true =>
                  have accepted := signed.mp rfl
                  simp only [if_true]
                  cases parsed : toolkit.parse raw with
                  | refused => exact .inr (.inl ⟨fun _ => by simp [answered, parsed], rfl⟩)
                  | failed => exact .inl ⟨⟨mtime, raw, rfl, rfl, .inr ⟨answered, accepted, parsed⟩⟩, _, rfl⟩
                  | value json =>
                      exact .inr (.inr ⟨by simp [answered, parsed], mtime, raw, json, rfl, rfl, answered, accepted,
                        parsed, rfl⟩)

/-- Only an object gives a document that is not empty. -/
theorem documentOf_of_no_object {json : Json} (noObject : ∀ members, json ≠ .object members) : documentOf json = [] := by
  cases json with
  | object members => exact absurd rfl (noObject members)
  | _ => rfl

/-- Without a trusted manifest the loader raises an error or serves the empty document. -/
theorem Files.run_readFixtures {files : Files} {cache : Cache} (unavailable : Unavailable toolkit files cache) :
    files.Interrupted toolkit ∧ (∃ fault, files.run (readFixtures toolkit cache) = .error fault) ∨
      ¬ files.Interrupted toolkit ∧ ∃ later, files.run (readFixtures toolkit cache) = .ok ([], later) := by
  obtain ⟨unverified, uncached⟩ := unavailable
  rcases files.run_readFixtures_cases toolkit cache with
    failed | ⟨quiet, served⟩ | ⟨quiet, mtime, raw, json, stat, manifest, _, signed, parsed, read⟩
  · exact .inl failed
  · rw [uncached] at served
    exact .inr ⟨quiet uncached, cache, served⟩
  · have empty := documentOf_of_no_object fun members same =>
      unverified ⟨mtime, raw, members, stat, manifest, signed, same ▸ parsed⟩
    rw [empty] at read
    exact .inr ⟨quiet, _, read⟩

/-- A cached document is served while the time stamp of the manifest stays. -/
theorem Files.run_readFixtures_of_cached {files : Files} {cache : Cache} {mtime : Int}
    (stat : files.stat = .modified mtime) (cached : cache.mtime = some mtime ∧ cache.data.isEmpty = false) :
    files.run (readFixtures toolkit cache) = .ok (cache.data, cache) := by
  unfold readFixtures
  rw [run_consult_bind, answer, stat]
  simp only
  rw [if_pos cached]
  rfl

/-- A trusted manifest that is not cached is read and cached under its time stamp. -/
theorem Files.run_readFixtures_of_signed {files : Files} {cache : Cache} {mtime : Int} {raw : Bytes} {json : Json}
    (stat : files.stat = .modified mtime) (uncached : ¬ (cache.mtime = some mtime ∧ cache.data.isEmpty = false))
    (manifest : files.manifest = some raw) (answered : ¬ files.Unanswered) (signed : files.Signed toolkit raw)
    (parsed : toolkit.parse raw = .value json) :
    files.run (readFixtures toolkit cache) = .ok (documentOf json, ⟨documentOf json, some mtime⟩) := by
  unfold readFixtures
  rw [run_consult_bind, answer, stat]
  simp only
  rw [if_neg uncached, run_consult_bind, answer, manifest]
  simp only [run_bind]
  rcases files.run_verifySignature toolkit raw with ⟨unanswered, _⟩ | ⟨_, trusted, checked, iff_⟩
  · exact absurd unanswered answered
  · rw [checked, ok_bind, iff_.mpr signed, if_pos rfl, parsed]
    rfl

/-- While the files stay, a second load returns the document of the first one. -/
theorem Files.run_readFixtures_again {files : Files} {cache later : Cache} {document : Document}
    (loaded : files.run (readFixtures toolkit cache) = .ok (document, later)) :
    ∃ last, files.run (readFixtures toolkit later) = .ok (document, last) := by
  rcases files.run_readFixtures_cases toolkit cache with
    ⟨_, fault, failed⟩ | ⟨_, served⟩ | ⟨_, mtime, raw, json, stat, manifest, answered, signed, parsed, read⟩
  · rw [failed] at loaded
    cases loaded
  · obtain ⟨rfl, rfl⟩ := Prod.mk.inj (Except.ok.inj (served.symm.trans loaded))
    exact ⟨_, served⟩
  · obtain ⟨rfl, rfl⟩ := Prod.mk.inj (Except.ok.inj (read.symm.trans loaded))
    by_cases cached : (documentOf json).isEmpty = false
    · exact ⟨_, run_readFixtures_of_cached toolkit stat ⟨rfl, cached⟩⟩
    · exact ⟨_, run_readFixtures_of_signed toolkit stat (fun both => cached both.2) manifest answered signed parsed⟩

theorem Files.run_getSanctionsLists_again {files : Files} {cache later : Cache} {lists : Document}
    (loaded : files.run (getSanctionsLists toolkit cache) = .ok (lists, later)) :
    ∃ last, files.run (getSanctionsLists toolkit later) = .ok (lists, last) := by
  simp only [getSanctionsLists, run_bind, bind_eq_ok] at loaded ⊢
  obtain ⟨⟨document, renewed⟩, read, same⟩ := loaded
  obtain ⟨rfl, rfl⟩ := Prod.mk.inj (Except.ok.inj same)
  obtain ⟨last, again⟩ := run_readFixtures_again toolkit read
  exact ⟨last, (document, last), again, rfl⟩

/-- Without a trusted manifest the screened lists are missing or empty. -/
theorem Files.run_getSanctionsLists {files : Files} {cache : Cache} (unavailable : Unavailable toolkit files cache) :
    files.Interrupted toolkit ∧ (∃ fault, files.run (getSanctionsLists toolkit cache) = .error fault) ∨
      ¬ files.Interrupted toolkit ∧ ∃ later, files.run (getSanctionsLists toolkit cache) = .ok ([], later) := by
  unfold getSanctionsLists
  rw [run_bind]
  rcases run_readFixtures toolkit unavailable with ⟨interrupted, fault, failed⟩ | ⟨calm, later, loaded⟩
  · exact .inl ⟨interrupted, fault, by rw [failed]; rfl⟩
  · exact .inr ⟨calm, later, by rw [loaded]; rfl⟩

end Pxtly.Compliance
