/-
This file compares the transaction rows of successful operations with the constraints of their table, and it gives the
trigger of this table.
-/

import Pxtly.Assets.Saga
import Pxtly.Foundation.RowLocks
import Pxtly.Foundation.Runs

namespace Pxtly.Assets

open Foundation Program
open Chaincode (FinancialAsset)

/-- These constraints of the table `transactions` bind what the service writes. -/
structure Storable (table : List TransactionRow) : Prop where
  txRefUnique : (table.map TransactionRow.txRef).Nodup
  txRefShort : ∀ row ∈ table, row.txRef.length ≤ 50
  fabricTxIDUnique : (table.map TransactionRow.fabricTxID).Nodup
  blockNumberPresent : ∀ row ∈ table, row.fabricBlockNumber ≠ none

/-- A task's row when it commits an update. -/
def UnitOfWork.transaction : UnitOfWork → Option TransactionRow
  | .insert _ => none
  | .update _ _ transaction => some transaction

/-- A recording is a call whose chaincode function answered with the document of an asset, up to its commit. -/
structure Recording where
  identityLabel : String
  task : Task
  events : List ServiceEvent
  outcome : Except ServiceError AssetResponse
  executed : Executes (perform identityLabel task) events outcome
  asset : FinancialAsset
  document : Json
  marshalled : asset.marshal = .ok document
  answered : events.find? isSubmission =
    some ⟨.submitTransaction task.call identityLabel, Reply.success document⟩
  work : UnitOfWork
  reply : Reply Unit
  committed : ⟨.commit work, reply⟩ ∈ events
  transaction : TransactionRow
  recorded : work.transaction = some transaction

/-- The document of an asset names neither its transaction nor its block. -/
theorem readResponse_document {asset : FinancialAsset} {document : Json} (invalidResponse : String)
    (marshalled : asset.marshal = .ok document) :
    readResponse invalidResponse document = .ok unknownFabric := by
  simp only [FinancialAsset.marshal, bind_eq_ok] at marshalled
  obtain ⟨_, _, _, _, _, _, _, _, same⟩ := marshalled
  obtain rfl := Except.ok.inj same
  rfl

/-- A prepared row keeps what the response said about its transaction and its block. -/
theorem transaction_of_prepares {task : Task} {seen : List ServiceEvent} {fabric : PyText × Option PyInt}
    {work : UnitOfWork} {transaction : TransactionRow} (prepares : task.Prepares seen fabric work)
    (recorded : work.transaction = some transaction) :
    transaction.fabricTxID = fabric.1 ∧ transaction.fabricBlockNumber = fabric.2 ∧
      ∃ fresh, transaction.txRef = txRef fresh := by
  cases task with
  | tokenize request =>
      obtain ⟨org, user, _, rfl⟩ := prepares
      cases recorded
  | transfer request currentUser fresh =>
      obtain ⟨asset, recipient, _, _, _, rfl⟩ := prepares
      obtain rfl := Option.some.inj recorded
      exact ⟨rfl, rfl, fresh, rfl⟩
  | freeze request currentUser fresh =>
      obtain ⟨asset, _, rfl⟩ := prepares
      obtain rfl := Option.some.inj recorded
      exact ⟨rfl, rfl, fresh, rfl⟩
  | unfreezeAsset request currentUser fresh =>
      obtain ⟨asset, _, rfl⟩ := prepares
      obtain rfl := Option.some.inj recorded
      exact ⟨rfl, rfl, fresh, rfl⟩

/-- Every recording gives the same empty transaction text and no block number. -/
theorem Recording.transaction_fields (recording : Recording) :
    recording.transaction.fabricTxID = .text "" ∧ recording.transaction.fabricBlockNumber = none ∧
      ∃ fresh, recording.transaction.txRef = txRef fresh := by
  obtain ⟨before, payload, lookups, reached, answered⟩ :=
    answered_of_commit recording.executed recording.committed
  have same := Option.some.inj (recording.answered.symm.trans answered)
  have document : recording.document = payload := by
    have replies := (Event.mk.inj same).2
    exact Reply.success.inj (eq_of_heq replies)
  obtain ⟨fabric, read, prepares⟩ := reached.prepared
  rw [← document, readResponse_document _ recording.marshalled] at read
  obtain rfl := Except.ok.inj read
  exact transaction_of_prepares prepares recording.recorded

theorem txRef_length (fresh : Uuid) : (txRef fresh).length = 39 := by
  rw [txRef, String.length_append, fresh.canonical]
  rfl

/-- The reference of a recording always fits its column. -/
theorem Recording.txRef_short (recording : Recording) : recording.transaction.txRef.length ≤ 50 := by
  obtain ⟨_, _, fresh, reference⟩ := recording.transaction_fields
  rw [reference, txRef_length]
  omega

/-- A table takes the rows of a sequence of recordings exactly when the sequence is empty. -/
theorem storable_iff_nil {existing : List TransactionRow} (storable : Storable existing)
    (recordings : List Recording) :
    Storable (existing ++ recordings.map Recording.transaction) ↔ recordings = [] := by
  constructor
  · intro stored
    cases recordings with
    | nil => rfl
    | cons recording later =>
        have member : recording.transaction ∈
            existing ++ (recording :: later).map Recording.transaction := by simp
        exact absurd recording.transaction_fields.2.1 (stored.blockNumberPresent _ member)
  · rintro rfl
    simpa using storable

theorem blockNumber_readable : intReadable (.integer 7) = true := rfl

/-- An earlier row names its transaction and its block. -/
def earlierRow : TransactionRow where
  txRef := txRef bondUuid
  fabricTxID := .text "t0"
  fabricBlockNumber := some ⟨.integer 7, blockNumber_readable⟩
  txType := "TRANSFERT"
  assetID := bondUuid
  initiatorID := some bondUuid
  amount := ⟨1000000⟩
  settlementDate := Chaincode.zeroTime
  regulatoryFlag := false
  justification := "sale"

theorem storable_iff_nil_earlierRow :
    Storable ([earlierRow] ++ ([] : List Recording).map Recording.transaction) := by
  have storable : Storable [earlierRow] := by
    refine ⟨by simp, ?_, by simp, ?_⟩
    · simp [earlierRow, txRef_length]
    · simp [earlierRow]
  exact (storable_iff_nil storable []).mpr rfl

/-- The freeze of the bond answers with the document of the frozen bond, and its row has no block number. -/
theorem bondFreeze_unstorable : ∃ recording : Recording,
    recording.task = .freeze bondFreeze none bondUuid ∧
      frozenLedger.find bondFreeze.assetID = some recording.asset ∧
      ¬ Storable [recording.transaction] := by
  obtain ⟨asset, found⟩ : ∃ asset, frozenLedger.find bondFreeze.assetID = some asset :=
    Option.isSome_iff_exists.mp (by decide +kernel)
  obtain ⟨json, _, decoded⟩ := (frozenLedger.find_eq_some _ _).mp found
  obtain ⟨document, marshalled⟩ := asset.exists_marshal (FinancialAsset.encodable_of_unmarshal json asset decoded)
  have read := readResponse_document (freezeChange bondFreeze).invalidResponse marshalled
  let recording : Recording := {
    identityLabel := "reg01"
    task := .freeze bondFreeze none bondUuid
    events := failedHold "reg01" (freezeChange bondFreeze) none bondUuid document unknownFabric (.success .null)
    outcome := .error .conversion
    executed := executes_failedHold "reg01" (freezeChange bondFreeze) none bondUuid _ read
    asset
    document
    marshalled
    answered := rfl
    work := .update bondRow ((freezeChange bondFreeze).update unknownFabric)
      ((freezeChange bondFreeze).transaction none bondUuid bondRow unknownFabric)
    reply := .failure .conversion false
    committed := by simp [failedHold]
    transaction := (freezeChange bondFreeze).transaction none bondUuid bondRow unknownFabric
    recorded := rfl }
  refine ⟨recording, rfl, found, ?_⟩
  intro stored
  exact stored.blockNumberPresent _ (List.mem_singleton_self _) rfl

section Trigger

/-- An amount above five millions sets the flag, which is kept otherwise. -/
def flagHighRiskTransactions (row : TransactionRow) : TransactionRow :=
  { row with regulatoryFlag := decide (5000000 * 10 ^ 4 < row.amount.units) || row.regulatoryFlag }

/-- An amount above one million counts. -/
def Suspicious (row : TransactionRow) : Prop := 1000000 * 10 ^ 4 < row.amount.units

instance : DecidablePred Suspicious := fun _ => inferInstanceAs (Decidable (_ < _))

variable {C : Type} [DecidableEq C]

/-- The records of compliance have a count each, and they belong to participants. -/
structure CountedTransactions (C : Type) where
  records : LockedRows Uuid Int C
  stored : List TransactionRow
  pending : C → List TransactionRow

/-- A record of compliance may also be filed elsewhere. -/
inductive RecordingLabel (C : Type) where
  | insert (caller : C) (row : TransactionRow)
  | file (record : Uuid) (count : Int)
  | commit (caller : C)
  | rollback (caller : C)

variable (participantOf : Uuid → Uuid)

/-- This is the update of all records of the participant who has initiated the transaction. -/
def countSar (row : TransactionRow) : LockedRows.Rewrite Uuid Int where
  matching record := row.initiatorID = some (participantOf record)
  change count := count + 1

/-- The trigger runs before the insertion of a row. -/
inductive RecordingStep : CountedTransactions C → RecordingLabel C → CountedTransactions C → Prop where
  | counted (tables : CountedTransactions C) (caller : C) (row : TransactionRow) (records : LockedRows Uuid Int C)
      (suspicious : Suspicious row)
      (updated : LockedRows.Step tables.records (.rewrite caller (countSar participantOf row)) records) :
      RecordingStep tables (.insert caller row)
        ⟨records, tables.stored,
          Function.update tables.pending caller (tables.pending caller ++ [flagHighRiskTransactions row])⟩
  | plain (tables : CountedTransactions C) (caller : C) (row : TransactionRow) (other : ¬ Suspicious row) :
      RecordingStep tables (.insert caller row)
        ⟨tables.records, tables.stored,
          Function.update tables.pending caller (tables.pending caller ++ [flagHighRiskTransactions row])⟩
  | file (tables : CountedTransactions C) (record : Uuid) (count : Int) (records : LockedRows Uuid Int C)
      (created : LockedRows.Step tables.records (.create record count) records) :
      RecordingStep tables (.file record count) ⟨records, tables.stored, tables.pending⟩
  | commit (tables : CountedTransactions C) (caller : C) (records : LockedRows Uuid Int C)
      (committed : LockedRows.Step tables.records (.commit caller) records) :
      RecordingStep tables (.commit caller)
        ⟨records, tables.stored ++ tables.pending caller, Function.update tables.pending caller []⟩
  | rollback (tables : CountedTransactions C) (caller : C) (records : LockedRows Uuid Int C)
      (undone : LockedRows.Step tables.records (.rollback caller) records) :
      RecordingStep tables (.rollback caller) ⟨records, tables.stored, Function.update tables.pending caller []⟩

/-- The trigger has issued these statements for these rows. -/
def statements (rows : List TransactionRow) : List (LockedRows.Rewrite Uuid Int) :=
  (rows.filter fun row => decide (Suspicious row)).map (countSar participantOf)

theorem statements_append (front back : List TransactionRow) :
    statements participantOf (front ++ back) = statements participantOf front ++ statements participantOf back := by
  rw [statements, List.filter_append, List.map_append]
  rfl

/-- The trigger changes neither the amount nor the initiator of a row. -/
theorem statements_flagged (row : TransactionRow) :
    statements participantOf [flagHighRiskTransactions row] =
      if Suspicious row then [countSar participantOf row] else [] := by
  by_cases suspicious : Suspicious row
  · have flagged : Suspicious (flagHighRiskTransactions row) := suspicious
    rw [if_pos suspicious, statements, List.filter_cons_of_pos (by simpa using flagged)]
    rfl
  · have flagged : ¬ Suspicious (flagHighRiskTransactions row) := suspicious
    rw [if_neg suspicious, statements, List.filter_cons_of_neg (by simpa using flagged)]
    rfl

/-- Each statement of the participant adds one to the count. -/
theorem effect_statements (record : Uuid) (rows : List TransactionRow) (count : Int) :
    LockedRows.effect record (statements participantOf rows) count =
      count + (rows.filter fun row => decide (Suspicious row ∧ row.initiatorID = some (participantOf record))).length := by
  induction rows generalizing count with
  | nil => exact (Int.add_zero count).symm
  | cons row rest inductionHypothesis =>
      rw [← List.singleton_append, statements_append, LockedRows.effect_append, inductionHypothesis, List.filter_append,
        List.length_append]
      by_cases suspicious : Suspicious row
      · by_cases same : row.initiatorID = some (participantOf record)
        · simp [statements, suspicious, same, LockedRows.effect, countSar]
          omega
        · simp [statements, suspicious, same, LockedRows.effect, countSar]
      · simp [statements, suspicious, LockedRows.effect]

/-- The statements of the rows that are stored since the start, and of those that are pending. -/
def CountedTransactions.book (tables : CountedTransactions C) (added : List TransactionRow) :
    LockedRows.Book Uuid Int C :=
  ⟨fun caller => statements participantOf (tables.pending caller), statements participantOf added⟩

/-- The rows of a run come from its insertions. -/
def Inserted (labels : List (RecordingLabel C)) (row : TransactionRow) : Prop :=
  ∃ caller given, .insert caller given ∈ labels ∧ row = flagHighRiskTransactions given

/-- These rows are stored since the start, and each record from the start counts them. -/
structure Tallied (first : CountedTransactions C) (labels : List (RecordingLabel C)) (tables : CountedTransactions C)
    (added : List TransactionRow) : Prop where
  stored : tables.stored = first.stored ++ added
  inserted : ∀ row ∈ added, Inserted labels row
  waiting : ∀ caller, ∀ row ∈ tables.pending caller, Inserted labels row
  counted : ∀ record count, first.records.rows record = some count →
    LockedRows.Kept record count (tables.book participantOf added) tables.records

variable {participantOf} {first tables next : CountedTransactions C} {labels : List (RecordingLabel C)}
  {label : RecordingLabel C} {added : List TransactionRow}

omit [DecidableEq C] in
theorem Inserted.later {row : TransactionRow} (inserted : Inserted labels row) (label : RecordingLabel C) :
    Inserted (labels ++ [label]) row := by
  obtain ⟨caller, given, member, same⟩ := inserted
  exact ⟨caller, given, List.mem_append_left _ member, same⟩

/-- Rows that are pending after a change of one transaction are its own or were pending before. -/
theorem inserted_update {pending : C → List TransactionRow} {caller : C} {rows : List TransactionRow}
    (waiting : ∀ other, ∀ row ∈ pending other, Inserted labels row) (own : ∀ row ∈ rows, Inserted labels row) :
    ∀ other, ∀ row ∈ Function.update pending caller rows other, Inserted labels row := by
  intro other row member
  by_cases same : other = caller
  · subst same
    rw [Function.update_self] at member
    exact own row member
  · rw [Function.update_of_ne same] at member
    exact waiting other row member

/-- A change of the pending rows of one transaction changes its statements. -/
theorem book_update (records : LockedRows Uuid Int C) (stored added : List TransactionRow)
    (pending : C → List TransactionRow) (caller : C) (rows : List TransactionRow) :
    CountedTransactions.book participantOf ⟨records, stored, Function.update pending caller rows⟩ added =
      ⟨Function.update (fun other => statements participantOf (pending other)) caller (statements participantOf rows),
        statements participantOf added⟩ := by
  rw [CountedTransactions.book]
  congr 1
  funext other
  exact Function.apply_update (fun _ => statements participantOf) pending caller rows other

theorem Tallied.insert (tallied : Tallied participantOf first labels tables added) (caller : C) (row : TransactionRow) :
    ∀ other, ∀ waits ∈ Function.update tables.pending caller
      (tables.pending caller ++ [flagHighRiskTransactions row]) other, Inserted (labels ++ [.insert caller row]) waits := by
  refine inserted_update (fun other waits member => (tallied.waiting other waits member).later _) fun waits member => ?_
  rw [List.mem_append, List.mem_singleton] at member
  rcases member with earlier | rfl
  · exact (tallied.waiting caller waits earlier).later _
  · exact ⟨caller, row, List.mem_append_right _ (List.mem_singleton_self _), rfl⟩

/-- One step stores at most the rows of the transaction that it commits. -/
theorem Tallied.step (tallied : Tallied participantOf first labels tables added)
    (taken : RecordingStep participantOf tables label next) :
    ∃ added, Tallied participantOf first (labels ++ [label]) next added := by
  have inserted : ∀ row ∈ added, Inserted (labels ++ [label]) row :=
    fun row member => (tallied.inserted row member).later label
  cases taken with
  | counted caller row records suspicious updated =>
      refine ⟨added, tallied.stored, inserted, tallied.insert caller row, fun record count present => ?_⟩
      have kept := (tallied.counted record count present).step updated
      rwa [book_update, statements_append, statements_flagged, if_pos suspicious]
  | plain caller row other =>
      refine ⟨added, tallied.stored, inserted, tallied.insert caller row, fun record count present => ?_⟩
      have kept := tallied.counted record count present
      rwa [book_update, statements_append, statements_flagged, if_neg other, List.append_nil, Function.update_eq_self]
  | file record count records created =>
      exact ⟨added, tallied.stored, inserted,
        fun caller row member => (tallied.waiting caller row member).later _,
        fun record count present => (tallied.counted record count present).step created⟩
  | commit caller records committed =>
      refine ⟨added ++ tables.pending caller, ?_, ?_, ?_, fun record count present => ?_⟩
      · rw [← List.append_assoc, ← tallied.stored]
      · intro row member
        rcases List.mem_append.mp member with earlier | own
        · exact inserted row earlier
        · exact (tallied.waiting caller row own).later _
      · exact inserted_update (fun other row member => (tallied.waiting other row member).later _)
          fun row member => absurd member List.not_mem_nil
      · have kept := (tallied.counted record count present).step committed
        rwa [book_update, statements_append]
  | rollback caller records undone =>
      refine ⟨added, tallied.stored, inserted,
        inserted_update (fun other row member => (tallied.waiting other row member).later _)
          fun row member => absurd member List.not_mem_nil,
        fun record count present => ?_⟩
      have kept := (tallied.counted record count present).step undone
      rwa [book_update]

/-- In every interleaving of transactions, the stored rows are flagged insertions, and the count of each record is greater by
the number of stored rows above one million that its participant has initiated. -/
theorem sar_counts {start final : CountedTransactions C}
    {moments : List (Moment (CountedTransactions C) (RecordingLabel C))}
    (run : Runs (RecordingStep participantOf) start moments final)
    (closed : ∀ caller, start.pending caller = [] ∧ ∀ record, start.records.own caller record = none) :
    ∃ added, final.stored = start.stored ++ added ∧
      (∀ row ∈ added, ∃ caller given, .insert caller given ∈ moments.map Moment.label ∧
        row = flagHighRiskTransactions given) ∧
      ∀ record count, start.records.rows record = some count →
        final.records.rows record = some (count +
          (added.filter fun row => decide (Suspicious row ∧ row.initiatorID = some (participantOf record))).length) := by
  have initial : ∃ added, Tallied participantOf start [] start added := by
    refine ⟨[], (List.append_nil _).symm, fun row member => absurd member List.not_mem_nil,
      fun caller row member => ?_, fun record count present => ?_⟩
    · rw [(closed caller).1] at member
      cases member
    · refine ⟨present, fun caller => ?_, fun caller other held => absurd ((closed caller).2 record) held⟩
      have idle : (start.book participantOf []).pending caller = [] :=
        congrArg (statements participantOf) (closed caller).1
      rw [(closed caller).2, idle]
      rfl
  obtain ⟨added, tallied⟩ := (run.keeps_history
    (fun labels tables => ∃ added, Tallied participantOf start labels tables added)
    (fun labels tables label next taken held => held.choose_spec.step taken) [] initial).1
  refine ⟨added, tallied.stored, tallied.inserted, fun record count present => ?_⟩
  rw [(tallied.counted record count present).row]
  exact congrArg some (effect_statements participantOf record added count)

/-- A transfer of six millions. -/
def largeRow : TransactionRow := { earlierRow with txRef := "large", amount := ⟨60000000000⟩ }

/-- One participant has a record without reports. -/
def countedStart : CountedTransactions Bool where
  records := ⟨fun record => if record = bondUuid then some 0 else none, fun _ _ => none⟩
  stored := [earlierRow]
  pending _ := []

/-- Of two insertions, one is undone, and the record counts the other one. -/
theorem sar_counts_largeRow :
    ∃ moments final, Runs (RecordingStep fun _ => bondUuid) countedStart moments final ∧
      moments.map Moment.label =
        [.insert false largeRow, .rollback false, .insert true largeRow, .commit true] ∧
      final.stored = [earlierRow, flagHighRiskTransactions largeRow] ∧ final.records.rows bondUuid = some 1 := by
  have suspicious : Suspicious largeRow := by decide
  have run : Runs (RecordingStep fun _ => bondUuid) countedStart _ _ := .step (.insert false largeRow)
    (RecordingStep.counted countedStart false largeRow _ suspicious
      (.rewrite _ _ _ fun _ _ _ _ => rfl))
    (.step (.rollback false) (.rollback _ false _ (.rollback _ _))
      (.step (.insert true largeRow)
        (.counted _ true largeRow _ suspicious (.rewrite _ _ _ fun _ _ other different => by simp_all))
        (.step (.commit true) (.commit _ true _ (.commit _ _)) .nil)))
  obtain ⟨added, stored, _, counts⟩ := sar_counts run fun _ => ⟨rfl, fun _ => rfl⟩
  obtain rfl : [flagHighRiskTransactions largeRow] = added := List.append_cancel_left stored
  exact ⟨_, _, run, rfl, stored, counts bondUuid 0 rfl⟩

end Trigger

end Pxtly.Assets
