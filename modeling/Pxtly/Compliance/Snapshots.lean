/-
This file gives the loads of the fixtures while another process writes the manifest and its signature.
-/

import Pxtly.Compliance.Fixtures
import Pxtly.Foundation.Locks

namespace Pxtly.Compliance

open Foundation Program

section Disk

/-- A file that cannot be read has no content. -/
structure Manifest where
  mtime : Int
  content : Option Bytes

/-- The disk keeps every time stamp that a manifest has had. -/
structure Disk where
  manifest : Option Manifest
  signature : Option (Option Bytes)
  stamps : List Int
  stamped : ∀ file ∈ manifest, file.mtime ∈ stamps

/-- Each write of the manifest gives it a time stamp that it has not had before. -/
inductive Disk.Writes : Disk → Disk → Prop
  | manifest (disk : Disk) (file : Manifest) (fresh : file.mtime ∉ disk.stamps) :
      Writes disk ⟨some file, disk.signature, file.mtime :: disk.stamps, by simp⟩
  | remove (disk : Disk) : Writes disk ⟨none, disk.signature, disk.stamps, nofun⟩
  | signature (disk : Disk) (content : Option (Option Bytes)) :
      Writes disk ⟨disk.manifest, content, disk.stamps, disk.stamped⟩

def Disk.files (disk : Disk) (publicKey : String) : Files where
  stat := disk.manifest.elim .missing fun file => .modified file.mtime
  manifest := disk.manifest.bind Manifest.content
  publicKey := some publicKey
  signatureIsFile := some disk.signature.isSome
  signature := disk.signature.bind id

end Disk

abbrev Drift : Disk → Disk → Prop := Relation.ReflTransGen Disk.Writes

abbrev LoadEvent := LockEvent fileSignature LoadFault Document

/-- This is `load_fixtures`. -/
def loading (toolkit : Toolkit) (publicKey : String) : Locked fileSignature LoadFault Document Cache Disk where
  program := readFixtures toolkit
  answer operation disk := (disk.files publicKey).answer operation
  Moves := Disk.Writes

variable (toolkit : Toolkit) (publicKey : String)

/-- A document is empty, or it is the parse of bytes that one call has read and then found signed. -/
def Trusted (record : List LoadEvent) (document : Document) : Prop :=
  document = [] ∨ ∃ earlier between later raw signature publicBytes json,
    record = earlier ++ .ask ⟨.readManifest, some raw⟩ :: (between ++ .ask ⟨.readSignature, some signature⟩ :: later) ∧
      .begin ∉ between ∧ fromHex (keyText (some publicKey)) = some publicBytes ∧
      toolkit.verifies publicBytes signature raw = true ∧ toolkit.parse raw = .value json ∧ document = documentOf json

theorem Trusted.mono {past now : List LoadEvent} {document : Document} (continued : past <+: now)
    (trusted : Trusted toolkit publicKey past document) : Trusted toolkit publicKey now document := by
  rcases trusted with empty | ⟨earlier, between, later, raw, signature, publicBytes, json, rfl, inside⟩
  · exact .inl empty
  · obtain ⟨more, rfl⟩ := continued
    exact .inr ⟨earlier, between, later ++ more, raw, signature, publicBytes, json, by simp, inside⟩

/-- While the manifest has this time stamp, it has this content. -/
def Seen (stamp : Int) (raw : Bytes) (disk : Disk) : Prop :=
  stamp ∈ disk.stamps ∧ ∀ file ∈ disk.manifest, file.mtime = stamp → file.content = some raw

theorem Disk.Writes.stamps {disk later : Disk} (writes : disk.Writes later) {stamp : Int} (used : stamp ∈ disk.stamps) :
    stamp ∈ later.stamps := by
  cases writes with
  | manifest file fresh => exact .tail _ used
  | remove => exact used
  | signature content => exact used

theorem Seen.writes {stamp : Int} {raw : Bytes} {disk later : Disk} (seen : Seen stamp raw disk)
    (writes : disk.Writes later) : Seen stamp raw later := by
  refine ⟨writes.stamps seen.1, ?_⟩
  cases writes with
  | manifest file fresh =>
      intro other here same
      obtain rfl := Option.some.inj here
      exact absurd (same ▸ seen.1) fresh
  | remove => exact nofun
  | signature content => exact seen.2

theorem stamps_of_drift {disk later : Disk} (drift : Drift disk later) {stamp : Int} (used : stamp ∈ disk.stamps) :
    stamp ∈ later.stamps := by
  induction drift with
  | refl => exact used
  | tail _ writes inductionHypothesis => exact writes.stamps inductionHypothesis

theorem Seen.drift {stamp : Int} {raw : Bytes} {disk later : Disk} (seen : Seen stamp raw disk)
    (drift : Drift disk later) : Seen stamp raw later := by
  induction drift with
  | refl => exact seen
  | tail _ writes inductionHypothesis => exact inductionHypothesis.writes writes

/-- The cached document is the parse of what the manifest holds under the cached time stamp. -/
def CacheFits (disk : Disk) (cache : Cache) : Prop :=
  ∀ stamp ∈ cache.mtime, ∃ raw json, Seen stamp raw disk ∧ toolkit.parse raw = .value json ∧ cache.data = documentOf json

theorem CacheFits.drift {disk later : Disk} {cache : Cache} (fits : CacheFits toolkit disk cache)
    (drift : Drift disk later) : CacheFits toolkit later cache := by
  intro stamp cached
  obtain ⟨raw, json, seen, parsed⟩ := fits stamp cached
  exact ⟨raw, json, seen.drift drift, parsed⟩

/-- The cached document is trusted and fits the disk. -/
def CacheSound (past : List LoadEvent) (disk : Disk) (cache : Cache) : Prop :=
  Trusted toolkit publicKey past cache.data ∧ CacheFits toolkit disk cache

variable {toolkit publicKey} {past : List LoadEvent} {disk : Disk} {cache : Cache}

theorem CacheSound.later (sound : CacheSound toolkit publicKey past disk cache) {now : List LoadEvent} {later : Disk}
    (continued : past <+: now) (drift : Drift disk later) : CacheSound toolkit publicKey now later cache :=
  ⟨sound.1.mono toolkit publicKey continued, sound.2.drift toolkit drift⟩

/-- A call that serves the cached document keeps a sound cache. -/
theorem CacheSound.served (sound : CacheSound toolkit publicKey past disk cache) {now : List LoadEvent} {later : Disk}
    (continued : past <+: now) (drift : Drift disk later) :
    Locked.Meets (CacheSound toolkit publicKey) (Trusted toolkit publicKey) cache now later (.ok (cache.data, cache)) :=
  ⟨(sound.later continued drift).1, sound.later (continued.trans (List.prefix_append _ _)) drift⟩

theorem CacheSound.failed (sound : CacheSound toolkit publicKey past disk cache) {now : List LoadEvent} {later : Disk}
    (continued : past <+: now) (drift : Drift disk later) (fault : LoadFault) :
    Locked.Meets (CacheSound toolkit publicKey) (Trusted toolkit publicKey) cache now later (.error fault) :=
  sound.later (continued.trans (List.prefix_append _ _)) drift

theorem ensures_consult_bind {B : Type} {goal : List LoadEvent → Disk → Except LoadFault B → Prop}
    (operation : FileOperation) (next : operation.Result → Loader B) :
    (loading toolkit publicKey).Ensures goal (consult operation >>= next) past disk ↔
      ∀ later, Drift disk later → (loading toolkit publicKey).Ensures goal
        (next ((later.files publicKey).answer operation))
        (past ++ [.ask ⟨operation, (later.files publicKey).answer operation⟩]) later := Iff.rfl

/-- A check ends well when it may refuse at any time and may accept a signature that it has read. -/
theorem ensures_verifySignature (configured : keyText (some publicKey) ≠ "") {raw : Bytes}
    {goal : List LoadEvent → Disk → Except LoadFault Bool → Prop}
    (refused : ∀ now later, past <+: now → Drift disk later → goal now later (.ok false))
    (accepted : ∀ asked later signature publicBytes, Drift disk later → .begin ∉ asked →
      fromHex (keyText (some publicKey)) = some publicBytes → toolkit.verifies publicBytes signature raw = true →
      goal (past ++ (asked ++ [.ask ⟨.readSignature, some signature⟩])) later (.ok true)) :
    (loading toolkit publicKey).Ensures goal (verifySignature toolkit raw) past disk := by
  unfold verifySignature
  rw [ensures_consult_bind]
  intro first firstDrift
  change (loading toolkit publicKey).Ensures goal (if keyText (some publicKey) = "" then _ else _) _ _
  rw [if_neg configured, ensures_consult_bind]
  intro second secondDrift
  have drift := firstDrift.trans secondDrift
  rw [List.append_assoc]
  simp only [Files.answer, Disk.files]
  cases second.signature.isSome with
  | false => exact refused _ _ (List.prefix_append _ _) drift
  | true =>
      cases key : fromHex (keyText (some publicKey)) with
      | none => exact refused _ _ (List.prefix_append _ _) drift
      | some publicBytes =>
          simp only
          rw [ensures_consult_bind]
          intro third thirdDrift
          rw [List.append_assoc]
          simp only [Files.answer, Disk.files]
          cases third.signature.bind id with
          | none => exact refused _ _ (List.prefix_append _ _) (drift.trans thirdDrift)
          | some signature =>
              cases verified : toolkit.verifies publicBytes signature raw with
              | false =>
                  simp only [verified]
                  exact refused _ _ (List.prefix_append _ _) (drift.trans thirdDrift)
              | true =>
                  simp only [verified]
                  exact accepted _ _ signature publicBytes (drift.trans thirdDrift) (by simp) key verified

theorem ensures_if {B : Type} {goal : List LoadEvent → Disk → Except LoadFault B → Prop} (condition : Prop)
    [Decidable condition] {first second : Loader B}
    (positive : condition → (loading toolkit publicKey).Ensures goal first past disk)
    (negative : ¬ condition → (loading toolkit publicKey).Ensures goal second past disk) :
    (loading toolkit publicKey).Ensures goal (if condition then first else second) past disk := by
  by_cases holds : condition
  · rw [if_pos holds]
    exact positive holds
  · rw [if_neg holds]
    exact negative holds

/-- A document that was read under its time stamp and found signed is trusted and fits the disk. -/
theorem meets_read (before : List LoadEvent) {asked : List LoadEvent} {raw signature publicBytes : Bytes}
    {json : Json} {stamp : Int} (inside : .begin ∉ asked) (key : fromHex (keyText (some publicKey)) = some publicBytes)
    (verified : toolkit.verifies publicBytes signature raw = true) (parsed : toolkit.parse raw = .value json)
    (seen : Seen stamp raw disk) :
    Locked.Meets (CacheSound toolkit publicKey) (Trusted toolkit publicKey) cache
      (before ++ .ask ⟨.readManifest, some raw⟩ :: (asked ++ [.ask ⟨.readSignature, some signature⟩])) disk
      (.ok (documentOf json, ⟨documentOf json, some stamp⟩)) := by
  have trusted : Trusted toolkit publicKey
      (before ++ .ask ⟨.readManifest, some raw⟩ :: (asked ++ [.ask ⟨.readSignature, some signature⟩])) (documentOf json) :=
    .inr ⟨before, asked, [], raw, signature, publicBytes, json, rfl, inside, key, verified, parsed, rfl⟩
  refine ⟨trusted, trusted.mono toolkit publicKey (List.prefix_append _ _), ?_⟩
  intro other same
  obtain rfl := Option.some.inj same
  exact ⟨raw, json, seen, parsed, rfl⟩

/-- Each load keeps the cache sound and returns a trusted document, whatever is written meanwhile. -/
theorem loading_respects (configured : keyText (some publicKey) ≠ "") :
    (loading toolkit publicKey).Respects (CacheSound toolkit publicKey) (Trusted toolkit publicKey) where
  stable past disk later cache writes sound := sound.later (List.prefix_refl past) (.single writes)
  ensures past disk cache sound := by
    change (loading toolkit publicKey).Ensures _ (readFixtures toolkit cache) _ _
    unfold readFixtures
    rw [ensures_consult_bind]
    intro first drift
    simp only [Files.answer, Disk.files]
    rw [List.append_assoc]
    cases manifest : first.manifest with
    | none => exact sound.served (List.prefix_append _ _) drift
    | some file =>
        simp only [Option.elim_some]
        apply ensures_if
        · intro _
          exact sound.served (List.prefix_append _ _) drift
        · intro _
          rw [ensures_consult_bind]
          intro second secondDrift
          simp only [Files.answer, Disk.files]
          cases content : second.manifest.bind Manifest.content with
          | none => exact sound.served ((List.prefix_append _ _).trans (List.prefix_append _ _)) (drift.trans secondDrift)
          | some raw =>
              have seen : Seen file.mtime raw second := by
                refine ⟨stamps_of_drift secondDrift (first.stamped file manifest), ?_⟩
                intro other here _
                rwa [Option.mem_def.mp here] at content
              simp only
              rw [Locked.ensures_bind]
              refine @ensures_verifySignature toolkit publicKey _ second configured raw _ ?_ ?_
              · intro now later continued lastDrift
                exact sound.served (((List.prefix_append _ _).trans (List.prefix_append _ _)).trans continued)
                  ((drift.trans secondDrift).trans lastDrift)
              · intro asked later signature publicBytes lastDrift inside key verified
                have drifted := (drift.trans secondDrift).trans lastDrift
                simp only [if_true, List.append_assoc]
                cases parsed : toolkit.parse raw with
                | refused => exact sound.served (List.prefix_append _ _) drifted
                | failed => exact sound.failed (List.prefix_append _ _) drifted .parseError
                | value json =>
                    have read : Locked.Meets (CacheSound toolkit publicKey) (Trusted toolkit publicKey) cache _ later _ :=
                      meets_read (past ++ [.begin, .ask ⟨.stat, .modified file.mtime⟩]) inside key verified parsed
                        (seen.drift lastDrift)
                    rw [List.append_assoc] at read
                    exact read

section Settled

/-- The disk holds a readable manifest with an object in it, and a valid signature for it. -/
def Settled (toolkit : Toolkit) (publicKey : String) (disk : Disk) (members : Document) : Prop :=
  ∃ file raw signature publicBytes, disk.manifest = some file ∧ file.content = some raw ∧
    disk.signature = some (some signature) ∧ fromHex (keyText (some publicKey)) = some publicBytes ∧
    toolkit.verifies publicBytes signature raw = true ∧ toolkit.parse raw = .value (.object members)

variable {members : Document}

/-- A load from a settled disk returns its content, from the cache or from the manifest. -/
theorem run_of_settled (fits : CacheFits toolkit disk cache)
    (settled : Settled toolkit publicKey disk members) :
    ∃ later, (disk.files publicKey).run (readFixtures toolkit cache) = .ok (members, later) := by
  obtain ⟨file, raw, signature, publicBytes, manifest, content, stored, key, verified, parsed⟩ := settled
  have stat : (disk.files publicKey).stat = .modified file.mtime := by simp [Disk.files, manifest]
  by_cases cached : cache.mtime = some file.mtime ∧ cache.data.isEmpty = false
  · obtain ⟨known, json, seen, knownParsed, same⟩ := fits file.mtime cached.1
    obtain rfl := Option.some.inj (content.symm.trans (seen.2 file manifest rfl))
    obtain rfl := Parsed.value.inj (knownParsed.symm.trans parsed)
    refine ⟨cache, ?_⟩
    rw [Files.run_readFixtures_of_cached toolkit stat cached, same]
    rfl
  · refine ⟨_, Files.run_readFixtures_of_signed toolkit stat cached ?_ ?_ ?_ parsed⟩
    · simp [Disk.files, manifest, content]
    · intro unanswered
      simp [Files.Unanswered, Disk.files] at unanswered
    · refine .inr ⟨?_, publicBytes, signature, key, ?_, verified⟩
      · simp [Disk.files, stored]
      · simp [Disk.files, stored]

/-- A load that nothing interrupts leaves a cache that fits the disk. -/
theorem CacheFits.of_run (fits : CacheFits toolkit disk cache) {later : Cache} {document : Document}
    (loaded : (disk.files publicKey).run (readFixtures toolkit cache) = .ok (document, later)) :
    CacheFits toolkit disk later := by
  rcases (disk.files publicKey).run_readFixtures_cases toolkit cache with
    ⟨_, fault, failed⟩ | ⟨_, served⟩ | ⟨_, mtime, raw, json, stat, manifest, _, _, parsed, read⟩
  · rw [failed] at loaded
    cases loaded
  · obtain ⟨_, rfl⟩ := Prod.mk.inj (Except.ok.inj (served.symm.trans loaded))
    exact fits
  · obtain ⟨_, rfl⟩ := Prod.mk.inj (Except.ok.inj (read.symm.trans loaded))
    intro stamp cached
    obtain rfl := Option.some.inj cached
    cases held : disk.manifest with
    | none => simp [Disk.files, held] at manifest
    | some file =>
        have content : file.content = some raw := by simpa [Disk.files, held] using manifest
        have same : file.mtime = mtime := by simpa [Disk.files, held] using stat
        refine ⟨raw, json, ⟨same ▸ disk.stamped file held, ?_⟩, parsed, rfl⟩
        intro other here _
        obtain rfl := Option.some.inj (held.symm.trans here)
        exact content

end Settled

section Runs

abbrev LoadState := LockState fileSignature LoadFault Document Cache Disk

abbrev LoadMoment := Moment LoadState (Option LoadEvent)

abbrev LoadRun (toolkit : Toolkit) (publicKey : String) : LoadState → List LoadMoment → LoadState → Prop :=
  Runs (loading toolkit publicKey).Step

/-- The writer does nothing. -/
def Quiet (moments : List LoadMoment) : Prop := ∀ moment ∈ moments, moment.label ≠ none

def Unfinished (moments : List LoadMoment) : Prop :=
  ∀ moment ∈ moments, ∀ outcome, moment.label ≠ some (.finish outcome)

/-- Each document that a load returns is trusted. -/
def ServesTrusted (toolkit : Toolkit) (publicKey : String) (moments : List LoadMoment) : Prop :=
  ∀ earlier state document later, moments = earlier ++ ⟨state, some (.finish (.ok document))⟩ :: later →
    Trusted toolkit publicKey (Locked.record earlier) document

/-- A running load can finish, and whenever it finishes without a write it returns the document. -/
structure Returns (toolkit : Toolkit) (publicKey : String) (state : LoadState) (members : Document) : Prop where
  returned : ∀ moments final, LoadRun toolkit publicKey state moments final → Quiet moments →
    ∀ earlier last outcome later, moments = earlier ++ ⟨last, some (.finish outcome)⟩ :: later → Unfinished earlier →
      outcome = .ok members
  finishes : ∃ moments final events, LoadRun toolkit publicKey state moments final ∧
    moments.map Moment.label =
      List.map (fun event => some (LockEvent.ask event)) events ++ [some (.finish (.ok members))]

/-- Behind a state in which no load runs and no write follows, each load returns the document. -/
def ServesSettled (toolkit : Toolkit) (publicKey : String) (state : LoadState) (members : Document) : Prop :=
  ∀ moments final, LoadRun toolkit publicKey state moments final → Quiet moments →
    ∀ earlier moment later next, moments = earlier ++ moment :: later → moment.label = some .begin →
      (loading toolkit publicKey).Step moment.state (some .begin) next → Returns toolkit publicKey next members

variable {start final : LoadState} {moments : List LoadMoment} {members : Document}

/-- A load that starts from a settled disk with a sound cache returns its content. -/
theorem returns_of_settled (fits : CacheFits toolkit disk cache) (settled : Settled toolkit publicKey disk members) :
    Returns toolkit publicKey ⟨disk, cache, some (readFixtures toolkit cache)⟩ members := by
  obtain ⟨later, loaded⟩ := run_of_settled fits settled
  have outcome : ((loading toolkit publicKey).settle (readFixtures toolkit cache) disk).map Prod.fst = .ok members := by
    change (((disk.files publicKey).run (readFixtures toolkit cache)).map Prod.fst) = _
    rw [loaded]
    rfl
  constructor
  · intro moments final run quiet earlier last ended behind split first
    rw [Locked.finish_of_quiet run quiet split first, outcome]
  · obtain ⟨moments, memory, run, events, labels⟩ :=
      (loading toolkit publicKey).exists_finish (readFixtures toolkit cache) disk cache
    rw [outcome] at labels
    exact ⟨moments, _, events, run, labels⟩

theorem empty_cache_sound (disk : Disk) :
    (loading toolkit publicKey).Holds (CacheSound toolkit publicKey) (Trusted toolkit publicKey) [] ⟨disk, {}, none⟩ :=
  ⟨.inl rfl, nofun⟩

theorem servesSettled_of_holds (configured : keyText (some publicKey) ≠ "") {past : List LoadEvent} {state : LoadState}
    (held : (loading toolkit publicKey).Holds (CacheSound toolkit publicKey) (Trusted toolkit publicKey) past state)
    (settled : Settled toolkit publicKey state.world members) : ServesSettled toolkit publicKey state members := by
  intro moments final run quiet earlier moment later next split _ step
  have world := (Locked.world_of_quiet run quiet).2 moment (by simp [split])
  have sound := (Locked.holds_of_run (loading_respects configured) run held).2 earlier moment later split
  obtain ⟨current, label⟩ := moment
  cases step with
  | begin world' memory =>
      obtain rfl : world' = state.world := world
      exact returns_of_settled sound.2 settled

/-- Whatever the other process writes, each load returns a trusted document; behind its last write each load that starts
returns what it has left. -/
theorem only_verified_snapshots (configured : keyText (some publicKey) ≠ "")
    (run : LoadRun toolkit publicKey ⟨disk, {}, none⟩ moments final) :
    ServesTrusted toolkit publicKey moments ∧
      ∀ members, Settled toolkit publicKey final.world members → ServesSettled toolkit publicKey final members := by
  constructor
  · intro earlier state document later split
    exact Locked.good_of_run (loading_respects configured) run (empty_cache_sound disk) split
  · intro members settled
    exact servesSettled_of_holds configured
      (Locked.holds_of_run (loading_respects configured) run (empty_cache_sound disk)).1 settled

end Runs

section Samples

def publisherKey : String := "d75a980182b10ab7d54bfed3c964073a0ee172f3daa62325af021a68f707511a"

def oldManifest : Bytes := encode "\x7b\"sanctions_lists\":\x7b\"OFAC_SDN\":[\"Ivan Petrov\"]\x7d\x7d"

def newManifest : Bytes := encode "\x7b\"sanctions_lists\":\x7b\"OFAC_SDN\":[\"Jean Martin\"]\x7d\x7d"

def oldSignature : Bytes := (fromHex ("530064b675597fb483315d0837534fe99d7c29d3a06a0a18287f70a55cda559a" ++
  "eecb11880cd027ca452bc0e91f2ce4eb11af4be0c767bfc7a842780cc4229608")).getD []

def newSignature : Bytes := (fromHex ("915a2d4d1c68f0f46873c7b356149226f7df4bb7f283534748b71ad9c5c04248" ++
  "122f171d17eea3342d9e572f8078e5b8fac1f08a84c08a1f672bdfe37807b608")).getD []

def oldDocument : Document := [("sanctions_lists", .object [("OFAC_SDN", .array [.string "Ivan Petrov"])])]

def newDocument : Document := [("sanctions_lists", .object [("OFAC_SDN", .array [.string "Jean Martin"])])]

/-- These tools know the two manifests and the two signatures that their publisher has made. -/
def publisherToolkit : Toolkit where
  verifies publicBytes signature raw := decide (some publicBytes = fromHex publisherKey) &&
    (decide (raw = oldManifest ∧ signature = oldSignature) || decide (raw = newManifest ∧ signature = newSignature))
  parse raw :=
    if raw = oldManifest then .value (.object oldDocument)
    else if raw = newManifest then .value (.object newDocument)
    else .refused

def oldDisk : Disk := ⟨some ⟨1, some oldManifest⟩, some (some oldSignature), [1], by simp⟩

def newDisk : Disk := ⟨some ⟨2, some newManifest⟩, some (some newSignature), [2, 1], by simp⟩

theorem oldDisk_settled : Settled publisherToolkit publisherKey oldDisk oldDocument :=
  ⟨⟨1, some oldManifest⟩, oldManifest, oldSignature, (fromHex publisherKey).getD [], rfl, rfl, rfl, by decide +kernel,
    by decide +kernel, by simp [publisherToolkit]⟩

theorem newManifest_parsed : publisherToolkit.parse newManifest = .value (.object newDocument) := by
  have different : newManifest ≠ oldManifest := by decide +kernel
  simp [publisherToolkit, different]

theorem newDisk_settled : Settled publisherToolkit publisherKey newDisk newDocument :=
  ⟨⟨2, some newManifest⟩, newManifest, newSignature, (fromHex publisherKey).getD [], rfl, rfl, rfl, by decide +kernel,
    by decide +kernel, newManifest_parsed⟩

/-- The new manifest and its signature replace the old ones. -/
theorem oldDisk_drift : Drift oldDisk newDisk :=
  .tail (.single (.manifest oldDisk ⟨2, some newManifest⟩ (by decide))) (.signature _ (some (some newSignature)))

theorem consult_step (operation : FileOperation) (next : operation.Result → Loader (Document × Cache)) :
    (loading toolkit publicKey).Step ⟨disk, cache, some (consult operation >>= next)⟩
      (some (.ask ⟨operation, (disk.files publicKey).answer operation⟩))
      ⟨disk, cache, some (next ((disk.files publicKey).answer operation))⟩ :=
  @Locked.Step.ask _ _ _ _ _ (loading toolkit publicKey) disk cache operation next

/-- A load has asked for the time stamp when the manifest and its signature are replaced. -/
theorem replaced_snapshot_served : ∃ moments final,
    LoadRun publisherToolkit publisherKey ⟨oldDisk, {}, none⟩ moments final ∧
      Settled publisherToolkit publisherKey final.world newDocument ∧
      ServesTrusted publisherToolkit publisherKey moments ∧
      ∀ members, Settled publisherToolkit publisherKey final.world members →
        ServesSettled publisherToolkit publisherKey final members := by
  have begun : (loading publisherToolkit publisherKey).Step ⟨oldDisk, ⟨[], none⟩, none⟩ (some .begin)
      ⟨oldDisk, ⟨[], none⟩, some (readFixtures publisherToolkit ⟨[], none⟩)⟩ := .begin _ _
  have asked : (loading publisherToolkit publisherKey).Step
      ⟨oldDisk, ⟨[], none⟩, some (readFixtures publisherToolkit ⟨[], none⟩)⟩ _ _ := consult_step .stat _
  have run : LoadRun publisherToolkit publisherKey ⟨oldDisk, ⟨[], none⟩, none⟩ _ ⟨newDisk, ⟨[], none⟩, _⟩ :=
    .step _ begun <| .step _ asked <| .step _ (.move _ _ (.manifest oldDisk ⟨2, some newManifest⟩ (by decide))) <|
      .step _ (.move _ _ (.signature _ (some (some newSignature)))) .nil
  exact ⟨_, _, run, newDisk_settled, only_verified_snapshots (by decide +kernel) run⟩

end Samples

end Pxtly.Compliance
