/-
This file gives the integrity checker of the audit and the traces that the contract leaves.
-/

import Pxtly.Chaincode.History
import Pxtly.Foundation.Python
import Pxtly.Foundation.Sha256

namespace Pxtly.Audit

open Foundation
open Chaincode (Call Ledger custody)

/-- A timestamp is kept as its ISO text. -/
structure ProvenanceRecord where
  txID : String
  timestamp : String
  actorMSP : String
  actorDN : String
  action : String
  fromOwner : String
  toOwner : String
  amount : Float
  justification : String
  blockNumber : Int

structure RecordIntegrity where
  recordIndex : Nat
  txID : String
  computedHash : String
  valid : Bool
  tamperedFields : List String

structure IntegrityReport where
  assetID : String
  totalRecords : Nat
  valid : Bool
  tamperedCount : Nat
  records : List RecordIntegrity
  checkedAt : Int

def allowedActions : List String := ["TOKENISE", "TRANSFERE", "GELE", "DEGELE"]

/-- This is `json.dumps` of the fields of a record in the order of their names; `floatText` writes a float. -/
def ProvenanceRecord.serial (floatText : Float → String) (record : ProvenanceRecord) : String :=
  let members := [
    ("action", dumpsText record.action),
    ("actor_dn", dumpsText record.actorDN),
    ("actor_msp", dumpsText record.actorMSP),
    ("amount", floatText record.amount),
    ("block_number", toString record.blockNumber),
    ("from_owner", dumpsText record.fromOwner),
    ("justification", dumpsText record.justification),
    ("timestamp", dumpsText record.timestamp),
    ("to_owner", dumpsText record.toOwner),
    ("tx_id", dumpsText record.txID)]
  "\x7b" ++ ", ".intercalate (members.map fun member => dumpsText member.1 ++ ": " ++ member.2) ++ "\x7d"

/-- The loop carries these values from one record to the next. -/
structure Progress where
  records : List RecordIntegrity := []
  globalValid : Bool := true
  tamperedCount : Nat := 0
  seenTokenise : Bool := false

/-- The flag already counts the record itself. -/
def tamperedFields (index : Nat) (seenTokenise : Bool) (record : ProvenanceRecord) : List String :=
  (if index = 0 ∧ record.action ≠ "TOKENISE" then ["action (TOKENISE missing)"] else []) ++
  (if record.action = "GELE" ∧ seenTokenise = false then ["action (GELE before TOKENISE)"] else []) ++
  (if record.action ∉ allowedActions then ["action (" ++ record.action ++ " unknown)"] else [])

def Progress.visit (floatText : Float → String) (progress : Progress) (entry : ProvenanceRecord × Nat) : Progress :=
  let (record, index) := entry
  let seenTokenise := record.action == "TOKENISE" || progress.seenTokenise
  let tampered := tamperedFields index seenTokenise record
  let isValid := tampered.isEmpty
  { records := progress.records ++ [{
      recordIndex := index
      txID := record.txID
      computedHash := hex (sha256 (encode (record.serial floatText)))
      valid := isValid
      tamperedFields := tampered }]
    globalValid := progress.globalValid && isValid
    tamperedCount := if isValid then progress.tamperedCount else progress.tamperedCount + 1
    seenTokenise }

/-- This is `IntegrityChecker.check`. -/
def check (floatText : Float → String) (now : Int) (assetID : String) (provenance : List ProvenanceRecord) :
    IntegrityReport :=
  let progress := provenance.zipIdx.foldl (Progress.visit floatText) {}
  { assetID
    totalRecords := provenance.length
    valid := progress.globalValid
    tamperedCount := progress.tamperedCount
    records := progress.records
    checkedAt := now }

section Verdict

variable {floatText : Float → String}

theorem globalValid_of_foldl (progress : Progress) (entries : List (ProvenanceRecord × Nat))
    (valid : (entries.foldl (Progress.visit floatText) progress).globalValid = true) : progress.globalValid = true := by
  induction entries generalizing progress with
  | nil => exact valid
  | cons entry entries inductionHypothesis =>
      have before := inductionHypothesis _ valid
      exact (Bool.and_eq_true_iff.mp before).1

/-- Behind a tokenisation, only unknown actions count. -/
theorem globalValid_foldl (progress : Progress) (seen : progress.seenTokenise = true) (records : List ProvenanceRecord)
    (index : Nat) (positive : 0 < index) :
    ((records.zipIdx index).foldl (Progress.visit floatText) progress).globalValid = true ↔
      progress.globalValid = true ∧ ∀ record ∈ records, record.action ∈ allowedActions := by
  induction records generalizing progress index with
  | nil => simp
  | cons record records inductionHypothesis =>
      have later : (progress.visit floatText (record, index)).seenTokenise = true := by simp [Progress.visit, seen]
      have clean : (tamperedFields index (record.action == "TOKENISE" || progress.seenTokenise) record).isEmpty = true ↔
          record.action ∈ allowedActions := by
        have notFirst : ¬ (index = 0 ∧ record.action ≠ "TOKENISE") := by omega
        simp [tamperedFields, seen, notFirst]
      rw [List.zipIdx_cons, List.foldl_cons, inductionHypothesis _ later (index + 1) (Nat.succ_pos index)]
      simp only [Progress.visit, Bool.and_eq_true, clean, List.forall_mem_cons, and_assoc]

/-- The checker looks at the first action and for unknown ones, and at nothing else. -/
theorem check_valid_iff (floatText : Float → String) (now : Int) (assetID : String) (provenance : List ProvenanceRecord) :
    (check floatText now assetID provenance).valid = true ↔
      (∀ first ∈ provenance.head?, first.action = "TOKENISE") ∧
        ∀ record ∈ provenance, record.action ∈ allowedActions := by
  cases provenance with
  | nil => simp [check]
  | cons first rest =>
      have start : (check floatText now assetID (first :: rest)).valid =
          ((rest.zipIdx 1).foldl (Progress.visit floatText) (Progress.visit floatText {} (first, 0))).globalValid := rfl
      rw [start]
      simp only [List.head?_cons, Option.mem_some_iff, forall_eq', List.forall_mem_cons]
      by_cases tokenised : first.action = "TOKENISE"
      · have seen : (Progress.visit floatText {} (first, 0)).seenTokenise = true := by simp [Progress.visit, tokenised]
        have clean : (Progress.visit floatText {} (first, 0)).globalValid = true := by
          simp [Progress.visit, tamperedFields, tokenised, allowedActions]
        have known : first.action ∈ allowedActions := by simp [tokenised, allowedActions]
        rw [globalValid_foldl _ seen rest 1 Nat.one_pos]
        simp only [clean, tokenised, true_and]
        exact (and_iff_right (tokenised ▸ known)).symm
      · apply iff_of_false
        · intro valid
          have before := globalValid_of_foldl _ _ valid
          simp [Progress.visit, tamperedFields, tokenised] at before
        · exact fun both => tokenised both.1

end Verdict

section Traces

/-- The order of a trail depends on these fields of its records. -/
structure Entry where
  action : String
  fromOwner : String
  toOwner : String
  deriving DecidableEq

def ProvenanceRecord.entry (record : ProvenanceRecord) : Entry := ⟨record.action, record.fromOwner, record.toOwner⟩

def onChain (record : Chaincode.ProvenanceRecord) : Entry := ⟨record.action, record.fromOwner, record.toOwner⟩

def Entry.moves (entry : Entry) : Bool := entry.action == "TOKENISE" || entry.action == "TRANSFERE"

def Entry.holds (entry : Entry) : Bool := entry.action == "GELE" || entry.action == "DEGELE"

/-- These are the conditions on the trail of an asset. -/
structure IsTrace (entries : List Entry) : Prop where
  nonempty : entries ≠ []
  tokenised : ∀ index (inside : index < entries.length), entries[index].action = "TOKENISE" ↔ index = 0
  known : ∀ entry ∈ entries, entry.action ∈ allowedActions
  alternating : ∀ index (inside : index < (entries.filter Entry.holds).length),
    (entries.filter Entry.holds)[index].action = if index % 2 = 0 then "GELE" else "DEGELE"
  free : ∀ front entry back, entries = front ++ entry :: back → entry.action = "TRANSFERE" →
    ∀ last, lastOf Entry.holds front = some last → last.action ≠ "GELE"
  senders : ∀ front entry back, entries = front ++ entry :: back → entry.action = "TRANSFERE" →
    ∃ previous, lastOf Entry.moves front = some previous ∧ entry.fromOwner = previous.toOwner

theorem lastOf_map {A B : Type} (convert : A → B) (test : B → Bool) (items : List A) :
    lastOf test (items.map convert) = (lastOf (test ∘ convert) items).map convert := by
  rw [lastOf, lastOf, List.filter_map, List.getLast?_map]

theorem moves_onChain : Entry.moves ∘ onChain = Chaincode.movesOwnership := rfl

theorem holds_onChain : Entry.holds ∘ onChain = Chaincode.changesHold := rfl

theorem split_map {A B : Type} {convert : A → B} {items : List A} {front back : List B} {item : B}
    (split : items.map convert = front ++ item :: back) :
    ∃ before source after, items = before ++ source :: after ∧ before.map convert = front ∧ convert source = item := by
  obtain ⟨before, rest, rfl, same, behind⟩ := List.map_eq_append_iff.mp split
  obtain ⟨source, after, rfl, converted, _⟩ := List.map_eq_cons_iff.mp behind
  exact ⟨before, source, after, rfl, same, converted⟩

/-- Every record of a trail has one of the four actions. -/
theorem custody_known {records : List Chaincode.ProvenanceRecord} {holding : Chaincode.Holding}
    (replayed : custody.replay records = some holding) : ∀ record ∈ records, record.action ∈ allowedActions := by
  refine custody.replay_induction (fun records _ => ∀ record ∈ records, record.action ∈ allowedActions) ?_ ?_
    records holding replayed
  · intro record holding started
    simp [(Chaincode.custody_start started).1, allowedActions]
  · intro records holding record next before inductionHypothesis stepped other member
    rcases List.mem_append.mp member with earlier | last
    · exact inductionHypothesis other earlier
    · rw [List.mem_singleton.mp last]
      cases Chaincode.custodyStep_of_step stepped with
      | transfer action free sender => simp [action, allowedActions]
      | freeze action free => simp [action, allowedActions]
      | unfreeze action held => simp [action, allowedActions]

/-- No record of a trail moves the asset while a freeze is in force. -/
theorem custody_free {front back : List Chaincode.ProvenanceRecord} {record : Chaincode.ProvenanceRecord}
    {holding : Chaincode.Holding} (replayed : custody.replay (front ++ record :: back) = some holding)
    (action : record.action = "TRANSFERE") {last : Chaincode.ProvenanceRecord}
    (held : lastOf Chaincode.changesHold front = some last) : last.action ≠ "GELE" := by
  have nonempty : front ≠ [] := by
    rintro rfl
    cases held
  obtain ⟨middle, before, later⟩ := custody.replay_prefix replayed nonempty
  obtain ⟨next, stepped, _⟩ := Option.bind_eq_some_iff.mp later
  have hold := Chaincode.custody_hold before
  rw [held] at hold
  intro freezes
  have inForce : middle.hold = some last := by simp [hold, Option.filter, freezes]
  cases Chaincode.custodyStep_of_step stepped with
  | transfer _ free sender =>
      rw [inForce] at free
      cases free
  | freeze other free => exact absurd (action.symm.trans other) (by decide)
  | unfreeze other held => exact absurd (action.symm.trans other) (by decide)

/-- What the contract can replay is a trace. -/
theorem isTrace_of_custody {records : List Chaincode.ProvenanceRecord} {holding : Chaincode.Holding}
    (replayed : custody.replay records = some holding) : IsTrace (records.map onChain) where
  nonempty := by simpa using custody.ne_nil_of_replay replayed
  tokenised index inside := by
    rw [List.getElem_map]
    exact Chaincode.custody_first replayed index (by simpa using inside)
  known entry member := by
    obtain ⟨record, inside, rfl⟩ := List.mem_map.mp member
    exact custody_known replayed record inside
  alternating index inside := by
    have same : (records.map onChain).filter Entry.holds = (records.filter Chaincode.changesHold).map onChain := by
      rw [List.filter_map, holds_onChain]
    simp only [same, List.getElem_map]
    exact (Chaincode.custody_alternates replayed).1 index (by simpa [same] using inside)
  free front entry back split action last held := by
    obtain ⟨before, source, after, rfl, rfl, rfl⟩ := split_map split
    rw [lastOf_map, holds_onChain] at held
    obtain ⟨record, found, rfl⟩ := Option.map_eq_some_iff.mp held
    exact custody_free replayed action found
  senders front entry back split action := by
    obtain ⟨before, source, after, rfl, rfl, rfl⟩ := split_map split
    obtain ⟨previous, found, sender⟩ := Chaincode.custody_senders replayed action
    refine ⟨onChain previous, ?_, sender⟩
    rw [lastOf_map, moves_onChain, found]
    rfl

theorem isTrace_of_run (calls : List Call) (key : String) (asset : Chaincode.FinancialAsset)
    (found : (Ledger.empty.run calls).find key = some asset) : IsTrace (asset.provenance.map onChain) := by
  obtain ⟨holding, replayed, _⟩ := ((Ledger.run_sound Ledger.empty_sound calls).of_find found).replay
  exact isTrace_of_custody replayed

end Traces

/-- A list begins with an action other than a tokenisation. -/
def BeginsOtherwise (provenance : List ProvenanceRecord) : Prop :=
  ∃ first rest, provenance = first :: rest ∧ first.action ≠ "TOKENISE"

theorem beginsOtherwise_iff (provenance : List ProvenanceRecord) :
    BeginsOtherwise provenance ↔ ¬ ∀ first ∈ provenance.head?, first.action = "TOKENISE" := by
  cases provenance with
  | nil => simp [BeginsOtherwise]
  | cons first rest => simp [BeginsOtherwise]

theorem IsTrace.begins {provenance : List ProvenanceRecord} (trace : IsTrace (provenance.map ProvenanceRecord.entry)) :
    (∀ first ∈ provenance.head?, first.action = "TOKENISE") ∧ ∀ record ∈ provenance, record.action ∈ allowedActions := by
  constructor
  · intro first head
    cases provenance with
    | nil => cases head
    | cons record rest =>
        obtain rfl := Option.some.inj head
        exact (trace.tokenised 0 (by simp)).mpr rfl
  · intro record member
    exact trace.known record.entry (List.mem_map_of_mem member)

/-- The trails of all runs are traces; the checker decides the traces exactly on the traces and on the lists that begin
otherwise or contain an unknown action. -/
theorem check_decides_traces_iff (floatText : Float → String) (now : Int) (assetID : String)
    (provenance : List ProvenanceRecord) :
    (∀ calls key asset, (Ledger.empty.run calls).find key = some asset → IsTrace (asset.provenance.map onChain)) ∧
      (((check floatText now assetID provenance).valid = true ↔ IsTrace (provenance.map ProvenanceRecord.entry)) ↔
        (IsTrace (provenance.map ProvenanceRecord.entry) ∨ BeginsOtherwise provenance ∨
          ∃ record ∈ provenance, record.action ∉ allowedActions)) := by
  refine ⟨isTrace_of_run, ?_⟩
  have refused : ¬ (check floatText now assetID provenance).valid = true ↔
      BeginsOtherwise provenance ∨ ∃ record ∈ provenance, record.action ∉ allowedActions := by
    rw [check_valid_iff, beginsOtherwise_iff, not_and_or]
    simp only [not_forall, exists_prop]
  have accepted : IsTrace (provenance.map ProvenanceRecord.entry) →
      (check floatText now assetID provenance).valid = true := by
    intro trace
    exact (check_valid_iff floatText now assetID provenance).mpr trace.begins
  constructor
  · intro same
    by_cases trace : IsTrace (provenance.map ProvenanceRecord.entry)
    · exact .inl trace
    · exact .inr (refused.mp fun valid => trace (same.mp valid))
  · rintro (trace | wrong)
    · exact ⟨fun _ => trace, accepted⟩
    · exact iff_of_false (refused.mpr wrong) fun trace => refused.mpr wrong (accepted trace)

def sampleRecord (txID action fromOwner toOwner : String) : ProvenanceRecord where
  txID
  timestamp := "2026-04-01T00:00:00+00:00"
  actorMSP := "BANK01MSP"
  actorDN := "CN=alice"
  action
  fromOwner
  toOwner
  amount := 0
  justification := "sale of the bond"
  blockNumber := 0

/-- Bob sells what Alice was given. -/
def strangerSale : List ProvenanceRecord :=
  [sampleRecord "t1" "TOKENISE" "" "alice@bank01.com", sampleRecord "t2" "TRANSFERE" "bob@bank01.com" "carol@bank01.com"]

/-- The checker takes a sale by a stranger to be valid; its amounts are printed as Python prints zero. -/
theorem stranger_sale_valid :
    ¬ ∀ provenance : List ProvenanceRecord,
      (check (fun _ => "0.0") 0 "RWA-BANK-BOND-2026-001" provenance).valid = true ↔
        IsTrace (provenance.map ProvenanceRecord.entry) := by
  intro decides
  have valid : (check (fun _ => "0.0") 0 "RWA-BANK-BOND-2026-001" strangerSale).valid = true := by
    rw [check_valid_iff]
    decide
  have trace := (decides strangerSale).mp valid
  obtain ⟨previous, last, sender⟩ := trace.senders [_] _ [] rfl rfl
  obtain rfl := Option.some.inj last
  exact absurd sender (by decide)

end Pxtly.Audit
