/-
This file gives the custody that a trail describes, and the agreement of each stored asset with it.
-/

import Pxtly.Foundation.EventSourcing
import Pxtly.Chaincode.Calls

namespace Pxtly.Chaincode

open Foundation

/-- A holding is what a trail says about its asset: the owner, the value and the freeze in force. -/
structure Holding where
  owner : String
  value : Float
  transfers : Nat
  hold : Option ProvenanceRecord

/-- A holding starts with a tokenisation, moves while it is free and is held at most once at a time. -/
def custody : Aggregate Holding ProvenanceRecord where
  start record :=
    if record.action = "TOKENISE" then some ⟨record.toOwner, record.amount, 0, none⟩ else none
  step holding record :=
    if record.action = "TRANSFERE" ∧ holding.hold = none ∧ record.fromOwner = holding.owner then
      some ⟨record.toOwner, record.amount, holding.transfers + 1, none⟩
    else if record.action = "GELE" ∧ holding.hold = none then some { holding with hold := some record }
    else if record.action = "DEGELE" ∧ holding.hold ≠ none then some { holding with hold := none }
    else none

/-- A later event is a transfer, a freeze or an unfreeze. -/
inductive CustodyStep (holding : Holding) (record : ProvenanceRecord) : Holding → Prop where
  | transfer (action : record.action = "TRANSFERE") (free : holding.hold = none)
      (sender : record.fromOwner = holding.owner) :
      CustodyStep holding record ⟨record.toOwner, record.amount, holding.transfers + 1, none⟩
  | freeze (action : record.action = "GELE") (free : holding.hold = none) :
      CustodyStep holding record { holding with hold := some record }
  | unfreeze (action : record.action = "DEGELE") (held : holding.hold ≠ none) :
      CustodyStep holding record { holding with hold := none }

theorem custody_start {record : ProvenanceRecord} {holding : Holding}
    (started : custody.start record = some holding) :
    record.action = "TOKENISE" ∧ holding = ⟨record.toOwner, record.amount, 0, none⟩ := by
  simp only [custody, Option.ite_none_right_eq_some] at started
  exact ⟨started.1, (Option.some.inj started.2).symm⟩

theorem custodyStep_of_step {holding next : Holding} {record : ProvenanceRecord}
    (stepped : custody.step holding record = some next) : CustodyStep holding record next := by
  simp only [custody] at stepped
  split at stepped
  next guard =>
    obtain rfl := Option.some.inj stepped
    exact .transfer guard.1 guard.2.1 guard.2.2
  next =>
    split at stepped
    next guard =>
      obtain rfl := Option.some.inj stepped
      exact .freeze guard.1 guard.2
    next =>
      split at stepped
      next guard =>
        obtain rfl := Option.some.inj stepped
        exact .unfreeze guard.1 guard.2
      next => cases stepped

theorem step_of_custodyStep {holding next : Holding} {record : ProvenanceRecord}
    (step : CustodyStep holding record next) : custody.step holding record = some next := by
  cases step with
  | transfer action free sender => simp [custody, action, free, sender]
  | freeze action free => simp [custody, action, free]
  | unfreeze action held => simp [custody, action, held]

/-- These records give the asset an owner and a value. -/
def movesOwnership (record : ProvenanceRecord) : Bool :=
  record.action == "TOKENISE" || record.action == "TRANSFERE"

/-- These records freeze the asset or release it. -/
def changesHold (record : ProvenanceRecord) : Bool :=
  record.action == "GELE" || record.action == "DEGELE"

def isTransfer (record : ProvenanceRecord) : Bool := record.action == "TRANSFERE"

/-- The first record of a trail, and only the first, is a tokenisation. -/
theorem custody_first {records : List ProvenanceRecord} {holding : Holding}
    (replayed : custody.replay records = some holding) :
    ∀ index (inside : index < records.length), records[index].action = "TOKENISE" ↔ index = 0 := by
  refine custody.replay_induction
    (fun records _ => ∀ index (inside : index < records.length),
      records[index].action = "TOKENISE" ↔ index = 0) ?_ ?_ records holding replayed
  · intro record holding started index inside
    have zero : index = 0 := by simpa using inside
    subst zero
    simpa using (custody_start started).1
  · intro records holding record next before inductionHypothesis stepped index inside
    have later : record.action ≠ "TOKENISE" := by
      cases custodyStep_of_step stepped with
      | transfer action free sender => simp [action]
      | freeze action free => simp [action]
      | unfreeze action held => simp [action]
    have nonempty : 0 < records.length := List.length_pos_of_ne_nil (custody.ne_nil_of_replay before)
    rw [List.length_append, List.length_singleton] at inside
    by_cases earlier : index < records.length
    · rw [List.getElem_append_left earlier]
      exact inductionHypothesis index earlier
    · have last : index = records.length := by omega
      subst last
      simp only [List.getElem_concat_length]
      have positive : ¬ records.length = 0 := by omega
      simp [later, positive]

/-- The owner and the value are those of the last record that moved the ownership. -/
theorem custody_owner {records : List ProvenanceRecord} {holding : Holding}
    (replayed : custody.replay records = some holding) :
    ∃ record, lastOf movesOwnership records = some record ∧ holding.owner = record.toOwner ∧
      holding.value = record.amount := by
  refine custody.replay_induction
    (fun records holding => ∃ record, lastOf movesOwnership records = some record ∧
      holding.owner = record.toOwner ∧ holding.value = record.amount) ?_ ?_ records holding replayed
  · intro record holding started
    obtain ⟨action, rfl⟩ := custody_start started
    exact ⟨record, by simp [lastOf, movesOwnership, action], rfl, rfl⟩
  · intro records holding record next before inductionHypothesis stepped
    obtain ⟨mover, last, owner, value⟩ := inductionHypothesis
    cases custodyStep_of_step stepped with
    | transfer action free sender => exact ⟨record, by simp [movesOwnership, action], rfl, rfl⟩
    | freeze action free => exact ⟨mover, by simp [movesOwnership, action, last], owner, value⟩
    | unfreeze action held => exact ⟨mover, by simp [movesOwnership, action, last], owner, value⟩

/-- The counter is the number of transfers. -/
theorem custody_transfers {records : List ProvenanceRecord} {holding : Holding}
    (replayed : custody.replay records = some holding) : holding.transfers = records.countP isTransfer := by
  refine custody.replay_induction
    (fun records holding => holding.transfers = records.countP isTransfer) ?_ ?_ records holding replayed
  · intro record holding started
    obtain ⟨action, rfl⟩ := custody_start started
    simp [isTransfer, action]
  · intro records holding record next before inductionHypothesis stepped
    rw [List.countP_append, List.countP_singleton, ← inductionHypothesis]
    cases custodyStep_of_step stepped with
    | transfer action free sender => simp [isTransfer, action]
    | freeze action free => simp [isTransfer, action]
    | unfreeze action held => simp [isTransfer, action]

/-- A freeze is in force when the last record that changed the hold is a freeze. -/
theorem custody_hold {records : List ProvenanceRecord} {holding : Holding}
    (replayed : custody.replay records = some holding) :
    holding.hold = (lastOf changesHold records).filter (·.action == "GELE") := by
  refine custody.replay_induction
    (fun records holding => holding.hold = (lastOf changesHold records).filter (·.action == "GELE"))
    ?_ ?_ records holding replayed
  · intro record holding started
    obtain ⟨action, rfl⟩ := custody_start started
    simp [lastOf, changesHold, action]
  · intro records holding record next before inductionHypothesis stepped
    cases custodyStep_of_step stepped with
    | transfer action free sender => simp [changesHold, action, ← inductionHypothesis, free]
    | freeze action free => simp [changesHold, action, Option.filter]
    | unfreeze action held => simp [changesHold, action, Option.filter]

/-- Each transfer leaves the owner that the records before it established. -/
theorem custody_senders {front back : List ProvenanceRecord} {record : ProvenanceRecord} {holding : Holding}
    (replayed : custody.replay (front ++ record :: back) = some holding)
    (action : record.action = "TRANSFERE") :
    ∃ previous, lastOf movesOwnership front = some previous ∧ record.fromOwner = previous.toOwner := by
  have nonempty : front ≠ [] := by
    rintro rfl
    have first := custody_first replayed 0 (by simp)
    simp [action] at first
  obtain ⟨middle, before, later⟩ := custody.replay_prefix replayed nonempty
  obtain ⟨next, stepped, _⟩ := Option.bind_eq_some_iff.mp later
  obtain ⟨previous, last, owner, _⟩ := custody_owner before
  refine ⟨previous, last, ?_⟩
  cases custodyStep_of_step stepped with
  | transfer _ free sender => rw [sender, owner]
  | freeze freezes free => exact absurd (action.symm.trans freezes) (by decide)
  | unfreeze releases held => exact absurd (action.symm.trans releases) (by decide)

/-- The redundant fields of an asset agree with a holding. -/
structure Reflects (asset : FinancialAsset) (holding : Holding) : Prop where
  owner : asset.currentOwner = holding.owner
  value : asset.currentValue = holding.value
  transfers : asset.totalTransfers = holding.transfers
  free : holding.hold = none → asset.status = statusActif ∧ asset.frozenBy = "" ∧ asset.frozenAt = "" ∧
    asset.frozenReason = "" ∧ asset.regulatoryRef = ""
  held : ∀ record, holding.hold = some record → asset.status = statusGele ∧
    asset.frozenBy = record.actorDN ∧ asset.frozenAt = record.timestamp.formatRFC3339 ∧
    asset.frozenReason = record.justification ∧ record.actorDN ≠ "" ∧ asset.regulatoryRef ≠ ""

/-- Tokenisations and transfers come from the bank, freezes and unfreezes from the regulator. -/
def ProvenanceRecord.Authorised (record : ProvenanceRecord) : Prop :=
  equalFold record.actorMSP (if changesHold record then "REG01MSP" else "BANK01MSP") = true

/-- A sound asset is stored under its identifier and is the replay of its trail. -/
structure Sound (key : String) (asset : FinancialAsset) : Prop where
  key : asset.assetID = key
  identifier : assetIDPattern.matchString asset.assetID = true
  replay : ∃ holding, custody.replay asset.provenance = some holding ∧ Reflects asset holding
  authorised : ∀ record ∈ asset.provenance, record.Authorised

/-- Under a sound ledger every document decodes to a sound asset. -/
def Ledger.Sound (ledger : Ledger) : Prop :=
  ∀ key json, ledger.worldState.lookup key = some json →
    ∃ asset, FinancialAsset.unmarshal json = .ok asset ∧ Chaincode.Sound key asset

theorem formatRFC3339_nonempty (time : Time) : time.formatRFC3339 ≠ "" := by
  intro empty
  have characters := congrArg String.toList empty
  simp [Time.formatRFC3339] at characters

/-- The trail of a sound asset stays authorised under one more authorised record. -/
theorem authorised_concat {records : List ProvenanceRecord} {record : ProvenanceRecord}
    (before : ∀ record ∈ records, record.Authorised) (last : record.Authorised) :
    ∀ other ∈ records ++ [record], other.Authorised := by
  intro other member
  rcases List.mem_append.mp member with earlier | here
  · exact before other earlier
  · rw [List.mem_singleton.mp here]
    exact last

theorem Reflects.hold_eq_none {asset : FinancialAsset} {holding : Holding} (reflects : Reflects asset holding)
    (notFrozen : asset.status ≠ statusGele) : holding.hold = none := by
  cases held : holding.hold with
  | none => rfl
  | some record => exact absurd (reflects.held record held).1 notFrozen

theorem Reflects.hold_ne_none {asset : FinancialAsset} {holding : Holding} (reflects : Reflects asset holding)
    (frozen : asset.status = statusGele) : holding.hold ≠ none := by
  intro free
  have active := (reflects.free free).1
  rw [frozen] at active
  exact absurd active (by decide)

/-- The replay of a trail follows one more record. -/
theorem replay_of_custodyStep {records : List ProvenanceRecord} {record : ProvenanceRecord}
    {holding next : Holding} (replayed : custody.replay records = some holding)
    (step : CustodyStep holding record next) : custody.replay (records ++ [record]) = some next := by
  rw [custody.replay_concat records record (custody.ne_nil_of_replay replayed), replayed]
  exact step_of_custodyStep step

/-- Each change of a sound asset gives a sound asset. -/
theorem Change.sound {proposal : Proposal} {ledger : Ledger} {key : String} {asset : FinancialAsset}
    (change : Change (proposal.context ledger) key asset)
    (sound : ∀ before, ledger.find key = some before → Chaincode.Sound key before) :
    Chaincode.Sound key asset := by
  cases change with
  | tokenised asset record absent identifier stored signed role action trail owner value transfers
      status unheld =>
      have started : custody.start record = some ⟨record.toOwner, record.amount, 0, none⟩ := by
        simp [custody, action]
      refine ⟨stored, by rwa [stored], ⟨⟨record.toOwner, record.amount, 0, none⟩, ?_, ?_⟩, ?_⟩
      · rw [trail, Aggregate.replay_singleton, started]
      · exact ⟨owner, value, transfers, fun _ => ⟨status, unheld⟩, fun _ impossible => by cases impossible⟩
      · intro other member
        rw [trail, List.mem_singleton] at member
        subst member
        simpa [ProvenanceRecord.Authorised, changesHold, action] using role
  | transferred before record read active signed role action sender =>
      obtain ⟨stored, identifier, ⟨holding, replayed, reflects⟩, authorised⟩ :=
        sound before (find_of_readAsset read)
      have free := reflects.hold_eq_none (by rw [active]; decide)
      have step := CustodyStep.transfer action free (sender.trans reflects.owner)
      refine ⟨stored, identifier, ⟨_, replay_of_custodyStep replayed step, ?_⟩, ?_⟩
      · exact ⟨rfl, rfl, by simp [FinancialAsset.afterTransfer, reflects.transfers],
          fun _ => reflects.free free, fun _ impossible => by cases impossible⟩
      · exact authorised_concat authorised
          (by simpa [ProvenanceRecord.Authorised, changesHold, action] using role)
  | frozen before record regulatoryRef read notFrozen signed role action reference =>
      obtain ⟨stored, identifier, ⟨holding, replayed, reflects⟩, authorised⟩ :=
        sound before (find_of_readAsset read)
      have step := CustodyStep.freeze action (reflects.hold_eq_none notFrozen)
      refine ⟨stored, identifier, ⟨_, replay_of_custodyStep replayed step, ?_⟩, ?_⟩
      · refine ⟨reflects.owner, reflects.value, reflects.transfers, (fun impossible => by cases impossible), ?_⟩
        intro held same
        obtain rfl := Option.some.inj same
        exact ⟨rfl, rfl, rfl, rfl, signed.dnNonempty, regulatoryRef_nonempty _ reference⟩
      · exact authorised_concat authorised
          (by simpa [ProvenanceRecord.Authorised, changesHold, action] using role)
  | unfrozen before record read frozen signed role action =>
      obtain ⟨stored, identifier, ⟨holding, replayed, reflects⟩, authorised⟩ :=
        sound before (find_of_readAsset read)
      have step := CustodyStep.unfreeze action (reflects.hold_ne_none frozen)
      refine ⟨stored, identifier, ⟨_, replay_of_custodyStep replayed step, ?_⟩, ?_⟩
      · exact ⟨reflects.owner, reflects.value, reflects.transfers, fun _ => ⟨rfl, rfl, rfl, rfl, rfl⟩,
          fun _ impossible => by cases impossible⟩
      · exact authorised_concat authorised
          (by simpa [ProvenanceRecord.Authorised, changesHold, action] using role)

/-- A sound ledger stores sound assets. -/
theorem Ledger.Sound.of_find {ledger : Ledger} (sound : ledger.Sound) {key : String}
    {asset : FinancialAsset} (stored : ledger.find key = some asset) : Chaincode.Sound key asset := by
  obtain ⟨json, found, decoded⟩ := (ledger.find_eq_some key asset).mp stored
  obtain ⟨same, decodedAgain, isSound⟩ := sound key json found
  obtain rfl := Except.ok.inj (decoded.symm.trans decodedAgain)
  exact isSound

theorem Ledger.empty_sound : Ledger.empty.Sound := by
  intro key json stored
  cases stored

/-- One call keeps the ledger sound. -/
theorem Ledger.submit_sound {ledger : Ledger} (sound : ledger.Sound) (call : Call) :
    (ledger.submit call).1.Sound := by
  intro key json stored
  rcases ledger.lookup_submit call key with same | ⟨asset, change, found⟩
  · exact sound key json (same ▸ stored)
  · obtain ⟨again, storedAgain, decoded⟩ := (find_eq_some _ _ _).mp found
    obtain rfl := Option.some.inj (stored.symm.trans storedAgain)
    exact ⟨asset, decoded, change.sound fun before => sound.of_find⟩

/-- A run of calls keeps the ledger sound. -/
theorem Ledger.run_sound {ledger : Ledger} (sound : ledger.Sound) (calls : List Call) :
    (ledger.run calls).Sound := by
  induction calls generalizing ledger with
  | nil => exact sound
  | cons call calls inductionHypothesis => exact inductionHypothesis (submit_sound sound call)

/-- An event-sourced asset can be rebuilt from its trail alone. -/
structure EventSourced (key : String) (asset : FinancialAsset) : Prop where
  key : asset.assetID = key
  identifier : assetIDPattern.matchString asset.assetID = true
  replayed : ∃ holding, custody.replay asset.provenance = some holding ∧ Reflects asset holding
  nonempty : asset.provenance ≠ []
  tokenised : ∀ index (inside : index < asset.provenance.length),
    asset.provenance[index].action = "TOKENISE" ↔ index = 0
  owner : ∃ record, lastOf movesOwnership asset.provenance = some record ∧
    asset.currentOwner = record.toOwner ∧ asset.currentValue = record.amount
  senders : ∀ front record back, asset.provenance = front ++ record :: back →
    record.action = "TRANSFERE" → ∃ previous, lastOf movesOwnership front = some previous ∧
      record.fromOwner = previous.toOwner
  transfers : asset.totalTransfers = asset.provenance.countP isTransfer
  frozen : asset.status = statusGele ↔
    ∃ record, lastOf changesHold asset.provenance = some record ∧ record.action = "GELE"
  otherwise : asset.status ≠ statusGele → asset.status = statusActif
  heldFields : asset.status = statusGele →
    asset.frozenBy ≠ "" ∧ asset.frozenAt ≠ "" ∧ asset.regulatoryRef ≠ ""
  freeFields : asset.status = statusActif →
    asset.frozenBy = "" ∧ asset.frozenAt = "" ∧ asset.regulatoryRef = ""

theorem Sound.eventSourced {key : String} {asset : FinancialAsset} (sound : Sound key asset) :
    EventSourced key asset := by
  obtain ⟨stored, identifier, ⟨holding, replayed, reflects⟩, authorised⟩ := sound
  obtain ⟨mover, last, owner, value⟩ := custody_owner replayed
  have hold := custody_hold replayed
  have frozen : asset.status = statusGele ↔ holding.hold ≠ none :=
    ⟨reflects.hold_ne_none, fun held => by
      obtain ⟨record, same⟩ := Option.ne_none_iff_exists'.mp held
      exact (reflects.held record same).1⟩
  refine ⟨stored, identifier, ⟨holding, replayed, reflects⟩, custody.ne_nil_of_replay replayed,
    custody_first replayed, ⟨mover, last, reflects.owner.trans owner, reflects.value.trans value⟩,
    ?_, ?_, ?_, ?_, ?_, ?_⟩
  · intro front record back split action
    exact custody_senders (split ▸ replayed) action
  · rw [reflects.transfers, custody_transfers replayed]
  · rw [frozen, hold]
    simp [Option.filter_eq_none_iff]
  · intro notFrozen
    exact (reflects.free (reflects.hold_eq_none notFrozen)).1
  · intro isFrozen
    obtain ⟨record, same⟩ := Option.ne_none_iff_exists'.mp (frozen.mp isFrozen)
    obtain ⟨_, frozenBy, frozenAt, _, dn, reference⟩ := reflects.held record same
    exact ⟨by rwa [frozenBy], by rw [frozenAt]; exact formatRFC3339_nonempty _, reference⟩
  · intro active
    obtain ⟨_, frozenBy, frozenAt, _, reference⟩ :=
      reflects.free (reflects.hold_eq_none (by rw [active]; decide))
    exact ⟨frozenBy, frozenAt, reference⟩

/-- A bond is issued, sold and then frozen. -/
def frozenSale : List Call := [
  ⟨.healthy bank "t1", .tokenizeAsset "RWA-BANK-BOND-2026-001" "FR0000000001" "OBLIGATION" "Bond"
    "BANK0100000000000000" 100.0 "EUR" "2026-01-01" "issue"⟩,
  ⟨.healthy bank "t2", .transferAsset "RWA-BANK-BOND-2026-001" "alice@bank01.com" "sale" 120.0⟩,
  ⟨.healthy regulator "t3", .freezeAsset "RWA-BANK-BOND-2026-001" "inquiry" "REG-INV-2026-001"⟩]

/-- Every document that any run of calls stores decodes to an event-sourced asset. -/
theorem run_eventSourced (calls : List Call) (key : String) (json : Json)
    (stored : (Ledger.empty.run calls).worldState.lookup key = some json) :
    ∃ asset, FinancialAsset.unmarshal json = .ok asset ∧ EventSourced key asset := by
  obtain ⟨asset, decoded, sound⟩ := Ledger.run_sound Ledger.empty_sound calls key json stored
  exact ⟨asset, decoded, sound.eventSourced⟩

theorem run_eventSourced_frozenSale : ∃ asset,
    (Ledger.empty.run frozenSale).find "RWA-BANK-BOND-2026-001" = some asset ∧
      asset.status = statusGele ∧ asset.totalTransfers = 1 ∧
      EventSourced "RWA-BANK-BOND-2026-001" asset := by
  have seen : ((Ledger.empty.run frozenSale).find "RWA-BANK-BOND-2026-001").map
      (fun asset => (asset.status, asset.totalTransfers)) = some (statusGele, 1) := by decide +kernel
  obtain ⟨asset, found, fields⟩ := Option.map_eq_some_iff.mp seen
  obtain ⟨status, transfers⟩ := Prod.mk.inj fields
  obtain ⟨json, stored, decoded⟩ := (Ledger.find_eq_some _ _ _).mp found
  obtain ⟨same, decodedAgain, sourced⟩ := run_eventSourced frozenSale _ json stored
  obtain rfl := Except.ok.inj (decoded.symm.trans decodedAgain)
  exact ⟨asset, found, status, transfers, sourced⟩

end Pxtly.Chaincode
