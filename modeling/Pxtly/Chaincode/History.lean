/-
This file gives the append-only law of the trails and the discipline of the freezes in them.
-/

import Pxtly.Chaincode.Provenance

namespace Pxtly.Chaincode

open Foundation

/-- A held asset can only be released, so its trail continues with an unfreeze. -/
theorem custody_held_next {holding final : Holding} {record : ProvenanceRecord}
    {later : List ProvenanceRecord} (held : holding.hold ≠ none)
    (continued : (record :: later).foldlM custody.step holding = some final) :
    record.action = "DEGELE" ∧ later.foldlM custody.step { holding with hold := none } = some final := by
  rw [List.foldlM_cons] at continued
  obtain ⟨next, stepped, rest⟩ := Option.bind_eq_some_iff.mp continued
  cases custodyStep_of_step stepped with
  | transfer action free sender => exact absurd free held
  | freeze action free => exact absurd free held
  | unfreeze action _ => exact ⟨action, rest⟩

/-- A held asset keeps its owner and its value up to the end of the freeze. -/
theorem custody_held_fixed {holding final : Holding} {added : List ProvenanceRecord}
    (held : holding.hold ≠ none) (continued : added.foldlM custody.step holding = some final)
    (unreleased : ∀ record ∈ added.dropLast, record.action ≠ "DEGELE") :
    final.owner = holding.owner ∧ final.value = holding.value := by
  cases added with
  | nil =>
      obtain rfl := Option.some.inj continued
      exact ⟨rfl, rfl⟩
  | cons record later =>
      obtain ⟨released, rest⟩ := custody_held_next held continued
      cases later with
      | nil =>
          obtain rfl := Option.some.inj rest
          exact ⟨rfl, rfl⟩
      | cons second others => exact absurd released (unreleased record (by simp))

/-- The freezes and unfreezes of a trail alternate, and a freeze comes first. -/
def Alternates (records : List ProvenanceRecord) : Prop :=
  ∀ index (inside : index < (records.filter changesHold).length),
    (records.filter changesHold)[index].action = if index % 2 = 0 then "GELE" else "DEGELE"

/-- The trail alternates, and the freeze in force tells how many records changed the hold. -/
theorem custody_alternates {records : List ProvenanceRecord} {holding : Holding}
    (replayed : custody.replay records = some holding) :
    Alternates records ∧ (holding.hold = none ↔ (records.filter changesHold).length % 2 = 0) := by
  refine custody.replay_induction
    (fun records holding => Alternates records ∧
      (holding.hold = none ↔ (records.filter changesHold).length % 2 = 0)) ?_ ?_ records holding replayed
  · intro record holding started
    obtain ⟨action, rfl⟩ := custody_start started
    simp [Alternates, changesHold, action]
  · intro records holding record next before inductionHypothesis stepped
    obtain ⟨alternates, parity⟩ := inductionHypothesis
    have extended (changes : changesHold record = true)
        (action : record.action = if (records.filter changesHold).length % 2 = 0 then "GELE" else "DEGELE") :
        Alternates (records ++ [record]) := by
      intro index inside
      simp only [List.filter_append, List.filter_cons, changes, if_true, List.filter_nil] at inside ⊢
      by_cases earlier : index < (records.filter changesHold).length
      · rw [List.getElem_append_left earlier]
        exact alternates index earlier
      · have last : index = (records.filter changesHold).length := by
          rw [List.length_append, List.length_singleton] at inside
          omega
        subst last
        simpa using action
    cases custodyStep_of_step stepped with
    | transfer action free sender =>
        have same : (records ++ [record]).filter changesHold = records.filter changesHold := by
          simp [List.filter_append, changesHold, action]
        constructor
        · intro index inside
          simp only [same] at inside ⊢
          exact alternates index inside
        · simpa [same, free] using parity
    | freeze action free =>
        have even := parity.mp free
        have changes : changesHold record = true := by simp [changesHold, action]
        constructor
        · apply extended changes
          rw [if_pos even, action]
        · simp only [List.filter_append, List.filter_cons, changes, if_true, List.filter_nil,
            List.length_append, List.length_singleton, reduceCtorEq, false_iff]
          omega
    | unfreeze action held =>
        have odd : ¬ (records.filter changesHold).length % 2 = 0 := fun even => held (parity.mpr even)
        have changes : changesHold record = true := by simp [changesHold, action]
        constructor
        · apply extended changes
          rw [if_neg odd, action]
        · simp only [List.filter_append, List.filter_cons, changes, if_true, List.filter_nil,
            List.length_append, List.length_singleton, true_iff]
          omega

/-- No transfer stands between a freeze and the next unfreeze. -/
theorem custody_frozen_segment {front middle back : List ProvenanceRecord} {freeze : ProvenanceRecord}
    {holding : Holding} (replayed : custody.replay (front ++ freeze :: (middle ++ back)) = some holding)
    (freezes : freeze.action = "GELE") (unreleased : ∀ record ∈ middle, record.action ≠ "DEGELE") :
    ∀ record ∈ middle, record.action ≠ "TRANSFERE" := by
  have split : front ++ freeze :: (middle ++ back) = (front ++ [freeze]) ++ (middle ++ back) := by simp
  rw [split] at replayed
  obtain ⟨frozen, before, later⟩ := custody.replay_prefix replayed (by simp)
  have held : frozen.hold ≠ none := by
    rw [custody_hold before]
    simp [changesHold, freezes, Option.filter]
  cases middle with
  | nil => simp
  | cons record others =>
      obtain ⟨released, _⟩ := custody_held_next held later
      exact absurd released (unreleased record List.mem_cons_self)

/-- These are the fields that a tokenisation sets for good. -/
structure Issue where
  assetID : String
  isin : String
  assetType : AssetType
  assetName : String
  issuerMSP : String
  issuerLEI : String
  nominalValue : Float
  currency : String
  issuanceDate : String

def FinancialAsset.issue (asset : FinancialAsset) : Issue where
  assetID := asset.assetID
  isin := asset.isin
  assetType := asset.assetType
  assetName := asset.assetName
  issuerMSP := asset.issuerMSP
  issuerLEI := asset.issuerLEI
  nominalValue := asset.nominalValue
  currency := asset.currency
  issuanceDate := asset.issuanceDate

/-- An asset continues another one when it adds records to the trail of the same issue. -/
structure Continues (before after : FinancialAsset) (added : List ProvenanceRecord) : Prop where
  trail : after.provenance = before.provenance ++ added
  issue : after.issue = before.issue
  fresh : ∀ record ∈ added, record.action ≠ "TOKENISE"

theorem Continues.refl (asset : FinancialAsset) : Continues asset asset [] where
  trail := (List.append_nil _).symm
  issue := rfl
  fresh := by simp

theorem Continues.trans {before middle after : FinancialAsset} {first second : List ProvenanceRecord}
    (early : Continues before middle first) (late : Continues middle after second) :
    Continues before after (first ++ second) where
  trail := by rw [late.trail, early.trail, List.append_assoc]
  issue := late.issue.trans early.issue
  fresh record member := by
    rcases List.mem_append.mp member with inside | inside
    · exact early.fresh record inside
    · exact late.fresh record inside

/-- A change of a stored asset adds one record to its trail. -/
theorem Change.continues {proposal : Proposal} {ledger : Ledger} {key : String}
    {before after : FinancialAsset} (change : Change (proposal.context ledger) key after)
    (stored : ledger.find key = some before) :
    ∃ record, Continues before after [record] := by
  cases change with
  | tokenised asset record absent =>
      obtain ⟨json, found, _⟩ := (ledger.find_eq_some key before).mp stored
      cases absent.symm.trans found
  | transferred read record readOk active signed role action sender =>
      obtain rfl := Option.some.inj (stored.symm.trans (find_of_readAsset readOk))
      exact ⟨record, rfl, rfl, by simp [action]⟩
  | frozen read record regulatoryRef readOk free signed role action reference =>
      obtain rfl := Option.some.inj (stored.symm.trans (find_of_readAsset readOk))
      exact ⟨record, rfl, rfl, by simp [action]⟩
  | unfrozen read record readOk held signed role action =>
      obtain rfl := Option.some.inj (stored.symm.trans (find_of_readAsset readOk))
      exact ⟨record, rfl, rfl, by simp [action]⟩

/-- One call adds at most one record to the trail of each asset. -/
theorem Ledger.submit_continues {ledger : Ledger} (call : Call) {key : String} {before : FinancialAsset}
    (stored : ledger.find key = some before) :
    ∃ after added, (ledger.submit call).1.find key = some after ∧ added.length ≤ 1 ∧
      Continues before after added := by
  rcases ledger.find_submit call key with same | ⟨after, change, found⟩
  · exact ⟨before, [], same.trans stored, by simp, Continues.refl before⟩
  · obtain ⟨record, continues⟩ := change.continues stored
    exact ⟨after, [record], found, by simp, continues⟩

/-- A run only adds records to the trails. -/
theorem Ledger.run_continues {ledger : Ledger} (calls : List Call) {key : String} {before : FinancialAsset}
    (stored : ledger.find key = some before) :
    ∃ after added, (ledger.run calls).find key = some after ∧ Continues before after added := by
  induction calls generalizing ledger before with
  | nil => exact ⟨before, [], stored, Continues.refl before⟩
  | cons call calls inductionHypothesis =>
      obtain ⟨middle, first, found, _, early⟩ := submit_continues call stored
      obtain ⟨after, second, foundLater, late⟩ := inductionHypothesis found
      exact ⟨after, first ++ second, foundLater, early.trans late⟩

/-- Between two sound states of a frozen asset, the owner and the value stay until the release. -/
theorem Continues.frozen_fixed {key : String} {before after : FinancialAsset}
    {added : List ProvenanceRecord} (continues : Continues before after added) (early : Sound key before)
    (late : Sound key after) (frozen : before.status = statusGele)
    (unreleased : ∀ record ∈ added.dropLast, record.action ≠ "DEGELE") :
    after.currentOwner = before.currentOwner ∧ after.currentValue = before.currentValue := by
  obtain ⟨holding, replayed, reflects⟩ := early.replay
  obtain ⟨final, replayedLater, reflectsLater⟩ := late.replay
  rw [continues.trail, custody.replay_append _ _ (custody.ne_nil_of_replay replayed), replayed,
    Option.bind_some] at replayedLater
  obtain ⟨owner, value⟩ :=
    custody_held_fixed (reflects.hold_ne_none frozen) replayedLater unreleased
  rw [reflects.owner, reflects.value, reflectsLater.owner, reflectsLater.value]
  exact ⟨owner, value⟩

def Ledger.Undeleted (ledger : Ledger) : Prop :=
  ∀ key, ∀ entry ∈ ledger.history key, entry.isDelete = false

/-- The history laws hold of a ledger, of each call on it and of each run from it. -/
structure HistoryLaws (ledger : Ledger) : Prop where
  readable : ∀ key json, ledger.worldState.lookup key = some json → ∃ asset, ledger.find key = some asset
  undeleted : ledger.Undeleted
  call : ∀ call key before, ledger.find key = some before →
    ∃ after added, (ledger.submit call).1.find key = some after ∧ added.length ≤ 1 ∧
      Continues before after added
  later : ∀ calls key before, ledger.find key = some before →
    ∃ after added, (ledger.run calls).find key = some after ∧ Continues before after added ∧
      (before.status = statusGele → (∀ record ∈ added.dropLast, record.action ≠ "DEGELE") →
        after.currentOwner = before.currentOwner ∧ after.currentValue = before.currentValue)
  alternates : ∀ key asset, ledger.find key = some asset → Alternates asset.provenance
  untouched : ∀ key asset front freeze middle back, ledger.find key = some asset →
    asset.provenance = front ++ freeze :: (middle ++ back) → freeze.action = "GELE" →
    (∀ record ∈ middle, record.action ≠ "DEGELE") → ∀ record ∈ middle, record.action ≠ "TRANSFERE"
  authorised : ∀ key asset, ledger.find key = some asset → ∀ record ∈ asset.provenance,
    (record.action = "TOKENISE" ∨ record.action = "TRANSFERE" →
      equalFold record.actorMSP "BANK01MSP" = true) ∧
    (record.action = "GELE" ∨ record.action = "DEGELE" → equalFold record.actorMSP "REG01MSP" = true)

theorem Ledger.submit_undeleted {ledger : Ledger} (undeleted : ledger.Undeleted) (call : Call) :
    (ledger.submit call).1.Undeleted := by
  rcases ledger.submit_cases call with same | ⟨assetID, asset, document, _, _, put⟩
  · rwa [same]
  · rw [put]
    intro key entry member
    by_cases here : key = assetID
    · subst here
      rw [put_history_self] at member
      rcases List.mem_cons.mp member with rfl | earlier
      · rfl
      · exact undeleted key entry earlier
    · rw [ledger.put_history_other _ _ _ _ here] at member
      exact undeleted key entry member

theorem Ledger.run_undeleted {ledger : Ledger} (undeleted : ledger.Undeleted) (calls : List Call) :
    (ledger.run calls).Undeleted := by
  induction calls generalizing ledger with
  | nil => exact undeleted
  | cons call calls inductionHypothesis => exact inductionHypothesis (submit_undeleted undeleted call)

/-- Every version of a key is the document of an asset. -/
def Ledger.Documented (ledger : Ledger) : Prop :=
  ∀ key, ∀ entry ∈ ledger.history key, ∃ asset : FinancialAsset, asset.marshal = .ok entry.value

theorem Ledger.submit_documented {ledger : Ledger} (documented : ledger.Documented) (call : Call) :
    (ledger.submit call).1.Documented := by
  rcases ledger.submit_cases call with same | ⟨assetID, asset, document, _, marshalled, put⟩
  · rwa [same]
  · rw [put]
    intro key entry member
    by_cases here : key = assetID
    · subst here
      rw [put_history_self] at member
      rcases List.mem_cons.mp member with rfl | earlier
      · exact ⟨asset, marshalled⟩
      · exact documented key entry earlier
    · rw [ledger.put_history_other _ _ _ _ here] at member
      exact documented key entry member

theorem Ledger.run_documented {ledger : Ledger} (documented : ledger.Documented) (calls : List Call) :
    (ledger.run calls).Documented := by
  induction calls generalizing ledger with
  | nil => exact documented
  | cons call calls inductionHypothesis => exact inductionHypothesis (submit_documented documented call)

/-- A sound ledger without deletions obeys the history laws. -/
theorem Ledger.Sound.historyLaws {ledger : Ledger} (sound : ledger.Sound) (undeleted : ledger.Undeleted) :
    HistoryLaws ledger where
  readable key json stored := by
    obtain ⟨asset, decoded, _⟩ := sound key json stored
    exact ⟨asset, (ledger.find_eq_some key asset).mpr ⟨json, stored, decoded⟩⟩
  undeleted := undeleted
  call call key before stored := submit_continues call stored
  later calls key before stored := by
    obtain ⟨after, added, found, continues⟩ := run_continues calls stored
    exact ⟨after, added, found, continues,
      continues.frozen_fixed (sound.of_find stored) ((run_sound sound calls).of_find found)⟩
  alternates key asset stored := by
    obtain ⟨holding, replayed, _⟩ := (sound.of_find stored).replay
    exact (custody_alternates replayed).1
  untouched key asset front freeze middle back stored split freezes unreleased := by
    obtain ⟨holding, replayed, _⟩ := (sound.of_find stored).replay
    exact custody_frozen_segment (split ▸ replayed) freezes unreleased
  authorised key asset stored record member := by
    have authorised := (sound.of_find stored).authorised record member
    constructor
    · rintro (action | action) <;> simpa [ProvenanceRecord.Authorised, changesHold, action] using authorised
    · rintro (action | action) <;> simpa [ProvenanceRecord.Authorised, changesHold, action] using authorised

/-- Every ledger that a run of calls reaches obeys the history laws. -/
theorem run_historyLaws (calls : List Call) : HistoryLaws (Ledger.empty.run calls) := by
  apply Ledger.Sound.historyLaws
  · exact Ledger.run_sound Ledger.empty_sound calls
  · apply Ledger.run_undeleted
    intro key entry member
    cases member

end Pxtly.Chaincode
