/-
This file gives the cached tree over the sanctions lists and what its root tells about the lists that are screened.
-/

import Pxtly.Compliance.Service
import Pxtly.Compliance.Snapshots
import Pxtly.Foundation.Runs
import Pxtly.Zkp.Commitment

namespace Pxtly.Zkp

open Foundation Program
open Compliance (Cache Document Files LoadFault Loader Matcher ScreenFault Toolkit candidateText getSanctionsLists iterate)

section Loader

variable (casing : Casing) (matcher : Matcher) (toolkit : Toolkit)

/-- These are the texts of all entries of all lists. -/
def allNames (lists : Document) : Except ScreenFault (List String) := do
  let entries ← ((lastOfKeys lists).map Prod.snd).mapM iterate
  return entries.flatten.map (candidateText matcher)

/-- The loader keeps its tree for good; it builds one only where it has none. -/
def getSanctionsTree (cachedTree : Option MerkleTree) (cache : Cache) : Loader (Except ScreenFault MerkleTree × Cache) :=
  match cachedTree with
  | some tree => return (.ok tree, cache)
  | none => do
      let (lists, later) ← getSanctionsLists toolkit cache
      return ((allNames matcher lists).map (MerkleTree.build casing), later)

end Loader

section Publisher

/-- The two caches of a process stand over one set of files. -/
structure Publisher where
  files : Files
  cache : Cache
  cachedTree : Option MerkleTree

namespace Publisher

variable (casing : Casing) (matcher : Matcher) (toolkit : Toolkit) (publisher : Publisher)

/-- A call of `get_sanctions_tree` returns a tree and renews the caches. -/
def sanctionsTree : Except ScreenFault MerkleTree × Publisher :=
  match publisher.files.run (getSanctionsTree casing matcher toolkit publisher.cachedTree publisher.cache) with
  | .error fault => (.error (.load fault), publisher)
  | .ok (.error fault, later) => (.error fault, { publisher with cache := later })
  | .ok (.ok tree, later) => (.ok tree, { publisher with cache := later, cachedTree := some tree })

/-- A call of `get_sanctions_lists` returns the lists and renews the cache of the loader. -/
def sanctionsLists : Except ScreenFault Document × Publisher :=
  match publisher.files.run (getSanctionsLists toolkit publisher.cache) with
  | .error fault => (.error (.load fault), publisher)
  | .ok (lists, later) => (.ok lists, { publisher with cache := later })

/-- A screening renews the cache of the loader. -/
def screened (fullName : String) : Publisher :=
  match publisher.files.run (Compliance.screen matcher toolkit publisher.cache fullName) with
  | .error _ => publisher
  | .ok (_, later) => { publisher with cache := later }

/-- This is the root that `setup_key` and `zkp_status` publish. -/
def publishedRoot : Except ScreenFault Bytes := (publisher.sanctionsTree casing matcher toolkit).1.map MerkleTree.root

/-- This is the root over the lists that the screener reads. -/
def screenedRoot : Except ScreenFault Bytes := do
  let lists ← (publisher.sanctionsLists toolkit).1
  let names ← allNames matcher lists
  return (MerkleTree.build casing names).root

def Matches : Prop := publisher.publishedRoot casing matcher toolkit = publisher.screenedRoot casing matcher toolkit

/-- The next load returns the parse of the manifest. -/
def Accepts : Prop :=
  ∃ raw json later, publisher.files.manifest = some raw ∧ toolkit.parse raw = .value json ∧
    publisher.files.run (Compliance.readFixtures toolkit publisher.cache) = .ok (Compliance.documentOf json, later)

end Publisher

/-- A call publishes the root, screens a name, or updates the manifest. -/
inductive SanctionsCall where
  | publish
  | screen (fullName : String)
  | update (files : Files)

variable (casing : Casing) (matcher : Matcher) (toolkit : Toolkit)

/-- The loader accepts each update. -/
inductive Publisher.Step : Publisher → SanctionsCall → Publisher → Prop
  | publish (publisher : Publisher) : Step publisher .publish (publisher.sanctionsTree casing matcher toolkit).2
  | screen (publisher : Publisher) (fullName : String) :
      Step publisher (.screen fullName) (publisher.screened matcher toolkit fullName)
  | update (publisher : Publisher) (files : Files) (accepted : Accepts toolkit { publisher with files }) :
      Step publisher (.update files) { publisher with files }

/-- An update keeps the root of the lists, or it comes before the first tree. -/
def KeepsRoot (publisher : Publisher) : SanctionsCall → Prop
  | .update files => publisher.cachedTree = none ∨
      Publisher.screenedRoot casing matcher toolkit { publisher with files } = publisher.screenedRoot casing matcher toolkit
  | _ => True

variable {casing matcher toolkit} {publisher next : Publisher} {call : SanctionsCall}

/-- A screening renews the cache as a call for the lists does. -/
theorem Publisher.screened_eq (fullName : String) :
    publisher.screened matcher toolkit fullName = (publisher.sanctionsLists toolkit).2 := by
  unfold screened sanctionsLists Compliance.screen
  rw [Files.run_bind]
  cases publisher.files.run (getSanctionsLists toolkit publisher.cache) with
  | error fault => rfl
  | ok loaded => rfl

theorem Publisher.sanctionsLists_cachedTree :
    (publisher.sanctionsLists toolkit).2.cachedTree = publisher.cachedTree := by
  unfold sanctionsLists
  split <;> rfl

/-- The tree has no part in the lists. -/
theorem Publisher.sanctionsLists_of_tree (cachedTree : Option MerkleTree) :
    (Publisher.sanctionsLists toolkit { publisher with cachedTree }).1 = (publisher.sanctionsLists toolkit).1 := by
  unfold sanctionsLists
  cases publisher.files.run (getSanctionsLists toolkit publisher.cache) <;> rfl

/-- While the files stay, the lists stay. -/
theorem Publisher.sanctionsLists_again :
    ((publisher.sanctionsLists toolkit).2.sanctionsLists toolkit).1 = (publisher.sanctionsLists toolkit).1 := by
  cases loaded : publisher.files.run (getSanctionsLists toolkit publisher.cache) with
  | error fault =>
      have same : publisher.sanctionsLists toolkit = (.error (.load fault), publisher) := by rw [sanctionsLists, loaded]
      rw [same, same]
  | ok result =>
      obtain ⟨lists, later⟩ := result
      obtain ⟨last, again⟩ := publisher.files.run_getSanctionsLists_again toolkit loaded
      have first : publisher.sanctionsLists toolkit = (.ok lists, { publisher with cache := later }) := by
        rw [sanctionsLists, loaded]
      rw [first, sanctionsLists]
      simp only [again]

/-- The lists decide the root over them. -/
theorem Publisher.screenedRoot_congr {other : Publisher}
    (same : (publisher.sanctionsLists toolkit).1 = (other.sanctionsLists toolkit).1) :
    publisher.screenedRoot casing matcher toolkit = other.screenedRoot casing matcher toolkit := by
  rw [screenedRoot, same, screenedRoot]

theorem Publisher.sanctionsTree_of_cached {tree : MerkleTree} (cached : publisher.cachedTree = some tree) :
    publisher.sanctionsTree casing matcher toolkit = (.ok tree, publisher) := by
  obtain ⟨files, cache, cachedTree⟩ := publisher
  obtain rfl := cached
  rfl

/-- Without a tree, a call reads the lists and keeps the tree that it builds over them. -/
theorem Publisher.sanctionsTree_of_uncached (uncached : publisher.cachedTree = none) :
    publisher.sanctionsTree casing matcher toolkit =
      let built := (publisher.sanctionsLists toolkit).1 >>= fun lists =>
        (allNames matcher lists).map (MerkleTree.build casing)
      (built, { (publisher.sanctionsLists toolkit).2 with cachedTree := built.toOption }) := by
  obtain ⟨files, cache, cachedTree⟩ := publisher
  obtain rfl := uncached
  unfold sanctionsTree sanctionsLists getSanctionsTree
  simp only [Files.run_bind]
  cases files.run (getSanctionsLists toolkit cache) with
  | error fault => rfl
  | ok loaded =>
      obtain ⟨lists, later⟩ := loaded
      simp only [ok_bind, Files.run_pure]
      cases allNames matcher lists <;> rfl

theorem Publisher.matches_of_uncached (uncached : publisher.cachedTree = none) :
    publisher.Matches casing matcher toolkit := by
  rw [Matches, publishedRoot, sanctionsTree_of_uncached uncached, screenedRoot]
  cases (publisher.sanctionsLists toolkit).1 with
  | error fault => rfl
  | ok lists =>
      simp only [ok_bind]
      cases allNames matcher lists <;> rfl

theorem Publisher.matches_iff_of_cached {tree : MerkleTree} (cached : publisher.cachedTree = some tree) :
    publisher.Matches casing matcher toolkit ↔ publisher.screenedRoot casing matcher toolkit = .ok tree.root := by
  rw [Matches, publishedRoot, sanctionsTree_of_cached cached]
  exact eq_comm

/-- Reading the lists keeps what matches. -/
theorem Publisher.Matches.sanctionsLists (same : publisher.Matches casing matcher toolkit) :
    (publisher.sanctionsLists toolkit).2.Matches casing matcher toolkit := by
  cases cached : publisher.cachedTree with
  | none => exact matches_of_uncached (sanctionsLists_cachedTree.trans cached)
  | some tree =>
      rw [matches_iff_of_cached (sanctionsLists_cachedTree.trans cached), screenedRoot_congr sanctionsLists_again]
      exact (matches_iff_of_cached cached).mp same

/-- Publishing the root keeps what matches. -/
theorem Publisher.Matches.sanctionsTree (same : publisher.Matches casing matcher toolkit) :
    (publisher.sanctionsTree casing matcher toolkit).2.Matches casing matcher toolkit := by
  cases cached : publisher.cachedTree with
  | some tree =>
      rw [sanctionsTree_of_cached cached]
      exact same
  | none =>
      have root := @matches_of_uncached casing matcher toolkit publisher cached
      rw [Matches, publishedRoot] at root
      rw [sanctionsTree_of_uncached cached] at root ⊢
      simp only at root ⊢
      generalize ((publisher.sanctionsLists toolkit).1 >>= fun lists =>
        (allNames matcher lists).map (MerkleTree.build casing)) = built at root ⊢
      cases built with
      | error fault => exact matches_of_uncached rfl
      | ok tree =>
          rw [matches_iff_of_cached rfl, screenedRoot_congr (sanctionsLists_of_tree _ |>.trans sanctionsLists_again)]
          exact root.symm

/-- A step keeps what matches exactly when it keeps the root of the lists. -/
theorem Publisher.Step.matches_iff (step : Step casing matcher toolkit publisher call next)
    (same : publisher.Matches casing matcher toolkit) :
    next.Matches casing matcher toolkit ↔ KeepsRoot casing matcher toolkit publisher call := by
  cases step with
  | publish => exact iff_of_true same.sanctionsTree trivial
  | screen fullName =>
      rw [screened_eq]
      exact iff_of_true same.sanctionsLists trivial
  | update files accepted =>
      obtain ⟨earlier, cache, cachedTree⟩ := publisher
      cases cachedTree with
      | none => exact iff_of_true (matches_of_uncached rfl) (.inl rfl)
      | some tree =>
          rw [matches_iff_of_cached rfl] at same ⊢
          simp [KeepsRoot, same]

/-- The published root matches the screened lists throughout a run exactly when no update behind the first tree changes
the root of the lists. -/
theorem published_root_matches_iff {start final : Publisher} {moments : List (Moment Publisher SanctionsCall)}
    (uncached : start.cachedTree = none) (run : Runs (Publisher.Step casing matcher toolkit) start moments final) :
    (final.Matches casing matcher toolkit ∧ ∀ moment ∈ moments, moment.state.Matches casing matcher toolkit) ↔
      ∀ moment ∈ moments, KeepsRoot casing matcher toolkit moment.state moment.label :=
  run.holds_throughout_iff (fun _ _ _ step same => step.matches_iff same) (Publisher.matches_of_uncached uncached)

end Publisher

section Loads

variable (casing : Casing) {matcher : Matcher} {toolkit : Toolkit} {publisher : Publisher} {document : Document}
  {later : Cache} {names : List String}

/-- A load decides the lists and the cache behind them. -/
theorem Publisher.sanctionsLists_of_run
    (loaded : publisher.files.run (Compliance.readFixtures toolkit publisher.cache) = .ok (document, later)) :
    publisher.sanctionsLists toolkit = (.ok (Compliance.sanctionsListsOf document), { publisher with cache := later }) := by
  rw [sanctionsLists, getSanctionsLists, Files.run_bind, loaded]
  rfl

theorem Publisher.screenedRoot_of_run
    (loaded : publisher.files.run (Compliance.readFixtures toolkit publisher.cache) = .ok (document, later))
    (listed : allNames matcher (Compliance.sanctionsListsOf document) = .ok names) :
    publisher.screenedRoot casing matcher toolkit = .ok (MerkleTree.build casing names).root := by
  rw [screenedRoot, sanctionsLists_of_run loaded, ok_bind, listed]
  rfl

/-- The first tree is built over the names of the load and kept. -/
theorem Publisher.sanctionsTree_of_run (uncached : publisher.cachedTree = none)
    (loaded : publisher.files.run (Compliance.readFixtures toolkit publisher.cache) = .ok (document, later))
    (listed : allNames matcher (Compliance.sanctionsListsOf document) = .ok names) :
    publisher.sanctionsTree casing matcher toolkit = (.ok (MerkleTree.build casing names),
      ⟨publisher.files, later, some (MerkleTree.build casing names)⟩) := by
  rw [sanctionsTree_of_uncached uncached, sanctionsLists_of_run loaded]
  simp only [ok_bind, listed]
  rfl

end Loads

section Samples

open Compliance (CacheFits newDisk newDocument oldDisk oldDocument plainMatcher publisherKey publisherToolkit)

def oldPublisher : Publisher := ⟨oldDisk.files publisherKey, {}, none⟩

theorem oldPublisher_uncached : oldPublisher.cachedTree = none := rfl

/-- Without an update the published root matches the screened lists. -/
theorem oldPublisher_root_matches : ∃ moments final,
    Runs (Publisher.Step asciiCasing plainMatcher publisherToolkit) oldPublisher moments final ∧ moments.length = 2 ∧
      final.Matches asciiCasing plainMatcher publisherToolkit ∧
      ∀ moment ∈ moments, moment.state.Matches asciiCasing plainMatcher publisherToolkit := by
  have run : Runs (Publisher.Step asciiCasing plainMatcher publisherToolkit) oldPublisher _ _ :=
    .step _ (.publish oldPublisher) (.step _ (.screen _ "Jean Martin") .nil)
  refine ⟨_, _, run, rfl, (published_root_matches_iff oldPublisher_uncached run).mpr ?_⟩
  simp [KeepsRoot]

/-- A name that stands alone in its list gives the digest of its leaf as the root. -/
theorem root_of_alone {name : String} {message : Bytes} (messages : builtMessages asciiCasing [name] = [message]) :
    (MerkleTree.build asciiCasing [name]).root = sha256 message := by
  obtain ⟨built, known, root⟩ := exists_message_of_root asciiCasing (List.cons_ne_nil name [])
  rw [messages, List.mem_singleton] at known
  rw [root, known]

theorem listed_roots_differ :
    (MerkleTree.build asciiCasing ["Jean Martin"]).root ≠ (MerkleTree.build asciiCasing ["Ivan Petrov"]).root := by
  have added : builtMessages asciiCasing ["Jean Martin"] = [leafMessage "jean martin"] := by decide +kernel
  have removed : builtMessages asciiCasing ["Ivan Petrov"] = [leafMessage "ivan petrov"] := by decide +kernel
  rw [root_of_alone added, root_of_alone removed]
  decide +kernel

theorem oldDocument_names :
    allNames plainMatcher (Compliance.sanctionsListsOf oldDocument) = .ok ["Ivan Petrov"] := rfl

theorem newDocument_names :
    allNames plainMatcher (Compliance.sanctionsListsOf newDocument) = .ok ["Jean Martin"] := rfl

/-- The root is published before the manifest is replaced, and it stays the root over the replaced lists. -/
theorem stale_root_published : ∃ moments final,
    Runs (Publisher.Step asciiCasing plainMatcher publisherToolkit) oldPublisher moments final ∧
      final.publishedRoot asciiCasing plainMatcher publisherToolkit =
        .ok (MerkleTree.build asciiCasing ["Ivan Petrov"]).root ∧
      final.screenedRoot asciiCasing plainMatcher publisherToolkit =
        .ok (MerkleTree.build asciiCasing ["Jean Martin"]).root ∧
      ¬ final.Matches asciiCasing plainMatcher publisherToolkit := by
  have unread : CacheFits publisherToolkit oldDisk {} := nofun
  obtain ⟨cached, loaded⟩ := Compliance.run_of_settled unread Compliance.oldDisk_settled
  have fits : CacheFits publisherToolkit newDisk cached :=
    (unread.of_run loaded).drift publisherToolkit Compliance.oldDisk_drift
  obtain ⟨renewed, reloaded⟩ := Compliance.run_of_settled fits Compliance.newDisk_settled
  have built := Publisher.sanctionsTree_of_run asciiCasing oldPublisher_uncached loaded oldDocument_names
  have published : Publisher.Step asciiCasing plainMatcher publisherToolkit oldPublisher .publish _ := .publish oldPublisher
  rw [built] at published
  have updated : Publisher.Step asciiCasing plainMatcher publisherToolkit
      ⟨oldPublisher.files, cached, some (MerkleTree.build asciiCasing ["Ivan Petrov"])⟩
      (.update (newDisk.files publisherKey))
      ⟨newDisk.files publisherKey, cached, some (MerkleTree.build asciiCasing ["Ivan Petrov"])⟩ :=
    .update _ _ ⟨Compliance.newManifest, .object newDocument, renewed, rfl, Compliance.newManifest_parsed, reloaded⟩
  have screened : Publisher.screenedRoot asciiCasing plainMatcher publisherToolkit
      ⟨newDisk.files publisherKey, cached, some (MerkleTree.build asciiCasing ["Ivan Petrov"])⟩ = _ :=
    Publisher.screenedRoot_of_run asciiCasing reloaded newDocument_names
  refine ⟨_, _, .step _ published (.step _ updated .nil), rfl, screened, ?_⟩
  rw [Publisher.matches_iff_of_cached rfl, screened]
  exact fun same => listed_roots_differ (Except.ok.inj same)

end Samples

end Pxtly.Zkp
