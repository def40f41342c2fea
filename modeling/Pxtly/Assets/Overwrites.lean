/-
This file gives the runs in which valuations and synchronisations write the value of one asset, and when a valuation
stays.
-/

import Pxtly.Assets.Synchronisation
import Pxtly.Assets.Valuations
import Pxtly.Foundation.Interleavings

namespace Pxtly.Assets

open Foundation Fabric
open Chaincode (AssetStatus Call Ledger Proposal)
open Foundation.Program (Event Executes executes_bind executes_lift executes_pure lift raise)
open Foundation.Pool (Trace eventsOf traceOf)

section Columns

/-- What the driver and the database make of the values for the other two columns is left open. -/
structure ColumnTypes where
  status : Json → Option AssetStatus
  owner : Json → Option Uuid

/-- The task sends floats for the value, and the column rounds them. -/
def encodeNumeric : Json → Option Numeric
  | .number value => Numeric.ofFloat value
  | _ => none

/-- A column that the update does not name keeps its value. -/
structure SyncedColumns where
  currentValue : Option Numeric
  status : Option AssetStatus
  currentOwnerID : Option Uuid

def encodeNamed {A : Type} (encode : Json → Option A) : Option Json → Option (Option A)
  | none => some none
  | some value => (encode value).map some

def ColumnTypes.encode (types : ColumnTypes) (update : List (String × Json)) : Option SyncedColumns := do
  let currentValue ← encodeNamed encodeNumeric (update.lookup "current_value")
  let status ← encodeNamed types.status (update.lookup "status")
  let currentOwnerID ← encodeNamed types.owner (update.lookup "current_owner_id")
  return { currentValue, status, currentOwnerID }

def ValuedAsset.assign (assetID : String) (columns : SyncedColumns) (asset : ValuedAsset) : ValuedAsset :=
  if asset.assetID = assetID then
    { asset with
      currentValue := columns.currentValue.getD asset.currentValue
      status := columns.status.getD asset.status
      currentOwnerID := columns.currentOwnerID.or asset.currentOwnerID }
  else asset

@[simp] theorem ValuedAsset.assetID_assign (assetID : String) (columns : SyncedColumns) (asset : ValuedAsset) :
    (asset.assign assetID columns).assetID = asset.assetID := by
  unfold ValuedAsset.assign
  split <;> rfl

@[simp] theorem ValuedAsset.id_assign (assetID : String) (columns : SyncedColumns) (asset : ValuedAsset) :
    (asset.assign assetID columns).id = asset.id := by
  unfold ValuedAsset.assign
  split <;> rfl

/-- `UPDATE assets SET … WHERE asset_id = :aid` -/
def ValuationTables.assign (tables : ValuationTables) (assetID : String) (columns : SyncedColumns) : ValuationTables :=
  { tables with
    assets := tables.assets.map (ValuedAsset.assign assetID columns)
    assetKey := by
      rw [List.map_map]
      simpa only [Function.comp_def, ValuedAsset.assetID_assign] using tables.assetKey
    primaryKey := by
      rw [List.map_map]
      simpa only [Function.comp_def, ValuedAsset.id_assign] using tables.primaryKey }

/-- `SELECT current_value, status, current_owner_id FROM assets WHERE asset_id = :aid` -/
def ValuedAsset.selected (asset : ValuedAsset) : Row Cell
  | "current_value" => .numeric asset.currentValue
  | "status" => .text asset.status.text
  | "current_owner_id" => (asset.currentOwnerID.map fun owner => Cell.text owner.text).getD .null
  | _ => .null

end Columns

section Writers

/-- The last operation is a call of `record_valuation`, which takes effect at its commit. -/
inductive WriterStep where
  | invoke (call : Call)
  | getAsset (proposal : Proposal)
  | select
  | update (update : List (String × Json))
  | audit (result : SyncResult)
  | record (call : ValuationCall)

def WriterStep.Result : WriterStep → Type
  | .invoke _ => Unit
  | .getAsset _ => Except ClientError Json
  | .select => Except StatementError (Option (Row Cell))
  | .update _ => Except StatementError Unit
  | .audit _ => Option String
  | .record _ => Except ValuationError ValuationRow

abbrev writerSignature : Signature := ⟨WriterStep, WriterStep.Result⟩

abbrev WriterEvent := Event writerSignature

inductive WriterFault where
  | sync (fault : SyncFault)
  | valuation (error : ValuationError)

inductive WriterResult where
  | invoked
  | synchronised (outcome : SyncOutcome)
  | recorded (row : ValuationRow)

abbrev Writing := Program writerSignature WriterFault

def await (step : WriterStep) : Writing step.Result := .perform step .done

variable (readFloat : String → Except String Float) (assetID : String)

/-- The task commits the columns that differ from the row that it has read. -/
def commitPending (state : List (String × Json)) (row : Row Cell) : Writing SyncResult := do
  let update ← lift ((pendingUpdate readFloat state row).mapError fun message => .sync (.conversion message))
  let changes := update.map Prod.fst
  if changes = [] then return ⟨assetID, true, []⟩
  else
    let invalid := changes.filter (· ∉ syncableColumns)
    if invalid = [] then
      match ← await (.update update) with
      | .ok () => return ⟨assetID, true, changes⟩
      | .error fault => raise (.sync (.statement fault))
    else raise (.sync (.unknownColumns invalid))

/-- A result is audited behind its commit. -/
def synchroniseRow (state : List (String × Json)) (row : Row Cell) : Writing WriterResult := do
  let result ← commitPending readFloat assetID state row
  match ← await (.audit result) with
  | none => return .synchronised (.returned result)
  | some message => return .synchronised (.unaudited result message)

/-- This is `_do_sync_fabric_state`, with an operation for each time that it waits. -/
def synchronise (proposal : Proposal) : Writing WriterResult := do
  match ← await (.getAsset proposal) with
  | .error fault => raise (.sync (.client fault))
  | .ok (.object state) =>
      match ← await .select with
      | .error fault => raise (.sync (.statement fault))
      | .ok none => return .synchronised (.returned ⟨assetID, false, ["Not found in DB"]⟩)
      | .ok (some row) => synchroniseRow readFloat assetID state row
  | .ok _ => return .synchronised (.returned ⟨assetID, false, []⟩)

inductive Writer where
  | invoke (call : Call)
  | synchronise (proposal : Proposal)
  | record (call : ValuationCall)

def Writer.program : Writer → Writing WriterResult
  | .invoke invoked => do
      let () ← await (.invoke invoked)
      return .invoked
  | .synchronise proposal => Assets.synchronise readFloat assetID proposal
  | .record recorded => do
      match ← await (.record recorded) with
      | .ok row => return .recorded row
      | .error error => raise (.valuation error)

structure WriterWorld where
  ledger : Ledger
  tables : ValuationTables

variable (documentText : Json → String) (client : FabricClient) (types : ColumnTypes)

/-- Any query and any statement may also fail, and then it changes nothing. -/
def writerResponds : (step : WriterStep) → WriterWorld → step.Result → WriterWorld → Prop
  | .invoke call, world, _, later => later = { world with ledger := world.ledger.run [call] }
  | .getAsset proposal, world, answer, later => later = world ∧
      (answer = client.evaluateTransaction documentText world.ledger proposal ⟨"GetAsset", [assetID]⟩ "admin@bank01" ∨
        ∃ fault, answer = .error fault)
  | .select, world, answer, later => later = world ∧
      (answer = .ok ((world.tables.find assetID).map ValuedAsset.selected) ∨ ∃ fault, answer = .error fault)
  | .update update, world, answer, later =>
      (answer = .ok () ∧ ∃ columns, types.encode update = some columns ∧
        later = { world with tables := world.tables.assign assetID columns }) ∨
        (∃ fault, answer = .error fault) ∧ later = world
  | .audit _, world, _, later => later = world
  | .record call, world, answer, later =>
      (recordValuation world.tables assetID call = (answer, later.tables) ∧ later.ledger = world.ledger) ∨
        answer = .error .databaseError ∧ later = world

variable {C : Type} [DecidableEq C]

abbrev Writers (C : Type) := Pool writerSignature WriterFault WriterResult WriterWorld C

/-- All writers are still to begin. -/
def Writers.fresh (writer : C → Writer) (world : WriterWorld) : Writers C where
  world := world
  program call := (writer call).program readFloat assetID

end Writers

section Readings

variable {readFloat : String → Except String Float} {assetID : String}

/-- The update has a value exactly where the ledger and the row differ by more than the tolerance. -/
theorem lookup_of_pendingUpdate {state update : List (String × Json)} {row : Row Cell}
    (pending : pendingUpdate readFloat state row = .ok update) (value : Json) :
    update.lookup "current_value" = some value ↔ ∃ float number, ledgerValue readFloat state = .ok (some float) ∧
      row "current_value" = .numeric number ∧ (0.001 : Float) < (number.toFloat - float).abs ∧
      value = .number float := by
  have others (column : String) (other : column ≠ "current_value") (same : Json → Bool) (given : Option Json) :
      (fieldUpdate column same given).lookup "current_value" = none := by
    unfold fieldUpdate
    split
    · split
      · simp [Ne.symm other]
      · rfl
    · rfl
  obtain ⟨ledger, read, pending⟩ := (bind_eq_ok _ _ _).mp pending
  obtain ⟨change, compared, same⟩ := (bind_eq_ok _ _ _).mp pending
  obtain rfl := Except.ok.inj same
  rw [List.lookup_append, List.lookup_append, others "status" (by decide), others "current_owner_id" (by decide),
    Option.or_none, Option.or_none, read]
  cases ledger with
  | none =>
      obtain rfl := Except.ok.inj compared
      constructor
      · exact nofun
      · exact fun ⟨_, _, same, _⟩ => nomatch same
  | some float =>
      obtain ⟨stored, converted, same⟩ := (bind_eq_ok _ _ _).mp compared
      have kind : ∃ number, row "current_value" = .numeric number ∧ stored = number.toFloat := by
        unfold floatOfCell at converted
        split at converted
        next found => exact ⟨_, found, (Except.ok.inj converted).symm⟩
        next => cases converted
      obtain ⟨number, found, rfl⟩ := kind
      obtain rfl := Except.ok.inj same
      rw [found]
      by_cases exceeds : (0.001 : Float) < (number.toFloat - float).abs
      · rw [if_pos exceeds]
        constructor
        · intro sent
          exact ⟨float, number, rfl, rfl, exceeds, (Option.some.inj sent).symm⟩
        · rintro ⟨other, same, ledger, stored, _, rfl⟩
          obtain rfl := Option.some.inj (Except.ok.inj ledger)
          rfl
      · rw [if_neg exceeds]
        constructor
        · exact nofun
        · rintro ⟨other, same, ledger, stored, different, _⟩
          obtain rfl := Option.some.inj (Except.ok.inj ledger)
          obtain rfl := Cell.numeric.inj stored
          exact absurd different exceeds

/-- A synchronisation has read an answer of the ledger and a row. -/
def readings : List WriterEvent → Option (List (String × Json) × Row Cell)
  | ⟨.getAsset _, .ok (.object state)⟩ :: ⟨.select, .ok (some row)⟩ :: _ => some (state, row)
  | _ => none

/-- The only updates that are sent are those of a set. -/
def Sends (allowed : List (String × Json) → Prop) : WriterStep → Prop
  | .update update => allowed update
  | _ => True

/-- Behind its readings, a synchronisation sends nothing but the pending update. -/
theorem commitPending_within (state : List (String × Json)) (row : Row Cell) :
    (commitPending readFloat assetID state row).Within
      (Sends fun update => pendingUpdate readFloat state row = .ok update) := by
  unfold commitPending
  cases pending : pendingUpdate readFloat state row with
  | error message => trivial
  | ok update =>
      show (if update.map Prod.fst = [] then _ else _ : Writing SyncResult).Within _
      split
      · trivial
      · show (if _ = [] then _ else _ : Writing SyncResult).Within _
        split
        · refine ⟨rfl, fun answer => ?_⟩
          cases answer <;> trivial
        · trivial

theorem synchroniseRow_within (state : List (String × Json)) (row : Row Cell) :
    (synchroniseRow readFloat assetID state row).Within
      (Sends fun update => pendingUpdate readFloat state row = .ok update) := by
  refine (commitPending_within state row).bind fun result => ⟨trivial, fun message => ?_⟩
  cases message <;> trivial

/-- Only a synchronisation sends an update, after its two readings. -/
theorem readings_of_executes {writer : Writer} {events : List WriterEvent} {outcome : Except WriterFault WriterResult}
    (executed : Executes (writer.program readFloat assetID) events outcome) {update : List (String × Json)}
    {answer : Except StatementError Unit} (sent : (⟨.update update, answer⟩ : WriterEvent) ∈ events) :
    ∃ proposal state row rest, events = ⟨.getAsset proposal, .ok (.object state)⟩ :: ⟨.select, .ok (some row)⟩ :: rest ∧
      pendingUpdate readFloat state row = .ok update := by
  have silent {program : Writing WriterResult} (inside : program.Within (Sends fun _ => False))
      {events : List WriterEvent} (executed : Executes program events outcome) :
      (⟨.update update, answer⟩ : WriterEvent) ∉ events := fun member => inside.events executed _ member
  cases writer with
  | invoke invoked =>
      have inside : (Writer.program readFloat assetID (.invoke invoked)).Within (Sends fun _ => False) :=
        ⟨trivial, fun _ => trivial⟩
      exact absurd sent (silent inside executed)
  | record recorded =>
      have inside : (Writer.program readFloat assetID (.record recorded)).Within (Sends fun _ => False) := by
        refine ⟨trivial, fun answer => ?_⟩
        cases answer <;> trivial
      exact absurd sent (silent inside executed)
  | synchronise proposal =>
      obtain ⟨given, later, rfl, executed⟩ := executed
      have behind := (List.mem_cons.mp sent).resolve_left nofun
      have ended {fault : WriterFault} (failed : Executes (raise fault : Writing WriterResult) later outcome) : False :=
        absurd (failed.1 ▸ behind) List.not_mem_nil
      have returned {result : WriterResult} (done : Executes (pure result : Writing WriterResult) later outcome) :
          False := absurd (done.1 ▸ behind) List.not_mem_nil
      cases given with
      | error fault => exact (ended executed).elim
      | ok document =>
          cases document with
          | object state =>
              obtain ⟨selected, rest, rfl, executed⟩ := executed
              have last := (List.mem_cons.mp behind).resolve_left nofun
              cases selected with
              | error fault => exact absurd (executed.1 ▸ last) List.not_mem_nil
              | ok found =>
                  cases found with
                  | none => exact absurd (executed.1 ▸ last) List.not_mem_nil
                  | some row =>
                      exact ⟨proposal, state, row, rest, rfl, (synchroniseRow_within state row).events executed _ last⟩
          | _ => exact (returned executed).elim

end Readings

section Values

variable {readFloat : String → Except String Float} {assetID : String} {documentText : Json → String}
  {client : FabricClient} {types : ColumnTypes} {C : Type} [DecidableEq C]

/-- This is the number that an event stores as the current value, if it stores one. -/
def writtenValue : WriterEvent → Option Numeric
  | ⟨.update update, .ok ()⟩ => (update.lookup "current_value").bind encodeNumeric
  | ⟨.record _, .ok row⟩ => some row.value
  | _ => none

theorem encodeNamed_of_encode {update : List (String × Json)} {columns : SyncedColumns}
    (encoded : types.encode update = some columns) :
    encodeNamed encodeNumeric (update.lookup "current_value") = some columns.currentValue := by
  simp only [ColumnTypes.encode, Option.bind_eq_bind, Option.bind_eq_some_iff] at encoded
  obtain ⟨value, given, status, _, owner, _, same⟩ := encoded
  obtain rfl := Option.some.inj same
  exact given

theorem encodeNamed_eq_some {A : Type} {encode : Json → Option A} {given : Option Json} {column : Option A}
    (encoded : encodeNamed encode given = some column) :
    column = given.bind encode ∧ ∀ json, given = some json → ∃ value, encode json = some value := by
  cases given with
  | none => exact ⟨(Option.some.inj encoded).symm, nofun⟩
  | some json =>
      obtain ⟨value, stored, rfl⟩ := Option.map_eq_some_iff.mp encoded
      refine ⟨stored.symm, fun other same => ?_⟩
      obtain rfl := Option.some.inj same
      exact ⟨value, stored⟩

/-- A step sets the current value to the number that it writes, and leaves it otherwise. -/
theorem value_of_responds {step : WriterStep} {world later : WriterWorld} {answer : step.Result}
    (answered : writerResponds assetID documentText client types step world answer later) {asset : ValuedAsset}
    (found : world.tables.find assetID = some asset) :
    ∃ changed, later.tables.find assetID = some changed ∧
      changed.currentValue = (writtenValue ⟨step, answer⟩).getD asset.currentValue := by
  cases step with
  | invoke invoked =>
      obtain rfl : later = _ := answered
      exact ⟨asset, found, rfl⟩
  | getAsset proposal =>
      obtain ⟨rfl, _⟩ := answered
      exact ⟨asset, found, rfl⟩
  | select =>
      obtain ⟨rfl, _⟩ := answered
      exact ⟨asset, found, rfl⟩
  | audit result =>
      obtain rfl : later = world := answered
      exact ⟨asset, found, rfl⟩
  | update update =>
      rcases answered with ⟨rfl, columns, encoded, rfl⟩ | ⟨⟨fault, rfl⟩, rfl⟩
      · have named : asset.assetID = assetID := by simpa using List.find?_some found
        have changed : (world.tables.assign assetID columns).find assetID = some (asset.assign assetID columns) := by
          unfold ValuationTables.find ValuationTables.assign
          rw [List.find?_map]
          simp only [Function.comp_def, ValuedAsset.assetID_assign]
          exact congrArg (Option.map _) found
        refine ⟨_, changed, ?_⟩
        rw [ValuedAsset.assign, if_pos named]
        show columns.currentValue.getD _ = _
        rw [(encodeNamed_eq_some (encodeNamed_of_encode encoded)).1]
        rfl
      · exact ⟨asset, found, rfl⟩
  | record recorded =>
      rcases answered with ⟨same, _⟩ | ⟨rfl, rfl⟩
      · rw [recordValuation, found] at same
        cases committed : world.tables.commit asset recorded with
        | none =>
            simp only [committed] at same
            obtain ⟨rfl, kept⟩ := Prod.mk.inj same
            exact ⟨asset, kept ▸ found, rfl⟩
        | some both =>
            obtain ⟨row, tables⟩ := both
            simp only [committed] at same
            obtain ⟨rfl, kept⟩ := Prod.mk.inj same
            obtain ⟨changed, foundChanged, _, value⟩ := find_of_commit found committed
            exact ⟨changed, kept ▸ foundChanged, value⟩
      · exact ⟨asset, found, rfl⟩

/-- The row of the asset has this current value. -/
def HasValue (assetID : String) (value : Numeric) (pool : Writers C) : Prop :=
  (pool.world.tables.find assetID).map (fun asset => asset.currentValue) = some value

omit [DecidableEq C] in
theorem hasValue_iff {value : Numeric} {pool : Writers C} :
    HasValue assetID value pool ↔ ∃ asset, pool.world.tables.find assetID = some asset ∧ asset.currentValue = value :=
  Option.map_eq_some_iff

/-- A step keeps a current value exactly where it writes no other number. -/
theorem hasValue_step {value : Numeric} {pool next : Writers C} {label : C × WriterEvent}
    (taken : Pool.Step (writerResponds assetID documentText client types) pool label next)
    (held : HasValue assetID value pool) :
    HasValue assetID value next ↔ ∀ number, writtenValue label.2 = some number → number = value := by
  obtain ⟨asset, found, rfl⟩ := hasValue_iff.mp held
  obtain ⟨changed, foundChanged, stored⟩ := value_of_responds taken.answered found
  rw [HasValue, foundChanged, Option.map_some, Option.some.injEq, stored]
  cases writtenValue label.2 with
  | none => simp
  | some number => simp

/-- The task found the row near the ledger, or the value of the ledger is stored as the same number. -/
def Harmless (readFloat : String → Except String Float) (value : Numeric) (state : List (String × Json))
    (row : Row Cell) : Prop :=
  ∀ float number, ledgerValue readFloat state = .ok (some float) → row "current_value" = .numeric number →
    (0.001 : Float) < (number.toFloat - float).abs → Numeric.ofFloat float = some value

variable {writer : C → Writer} {world : WriterWorld} {final : Writers C}
  {moments : List (Moment (Writers C) (C × WriterEvent))}

/-- Every update of a run is the pending one of the two readings before it. -/
theorem readings_of_run
    (run : Runs (Pool.Step (writerResponds assetID documentText client types))
      (Writers.fresh readFloat assetID writer world) moments final) {caller : C} {update : List (String × Json)}
    {answer : Except StatementError Unit}
    (sent : (caller, (⟨.update update, answer⟩ : WriterEvent)) ∈ traceOf moments) :
    ∃ state row, readings (eventsOf (traceOf moments) caller) = some (state, row) ∧
      pendingUpdate readFloat state row = .ok update := by
  have inhabited (step : WriterStep) : Nonempty step.Result := by
    cases step with
    | invoke invoked => exact ⟨()⟩
    | getAsset proposal => exact ⟨.ok .null⟩
    | select => exact ⟨.ok none⟩
    | update update => exact ⟨.ok ()⟩
    | audit result => exact ⟨none⟩
    | record recorded => exact ⟨.error .databaseError⟩
  obtain ⟨later, outcome, ended⟩ := Pool.exists_executes (S := writerSignature) inhabited (final.program caller)
  have own := Pool.mem_eventsOf.mpr sent
  obtain ⟨proposal, state, row, rest, same, pending⟩ :=
    readings_of_executes (Pool.executes_of_runs run ended) (List.mem_append_left later own)
  refine ⟨state, row, ?_, pending⟩
  cases events : eventsOf (traceOf moments) caller with
  | nil =>
      rw [events] at own
      cases own
  | cons first others =>
      rw [events] at own same
      cases others with
      | nil =>
          obtain ⟨rfl, _⟩ := List.cons.inj same
          cases List.mem_singleton.mp own
      | cons second others =>
          simp only [List.cons_append, List.cons.injEq] at same
          obtain ⟨rfl, rfl, _⟩ := same
          rfl

/-- Every synchronisation that commits at one of the later moments is harmless to the value. -/
def LaterHarmless (readFloat : String → Except String Float) (value : Numeric)
    (moments later : List (Moment (Writers C) (C × WriterEvent))) : Prop :=
  ∀ caller update, (caller, (⟨.update update, .ok ()⟩ : WriterEvent)) ∈ traceOf later →
    ∀ state row, readings (eventsOf (traceOf moments) caller) = some (state, row) → Harmless readFloat value state row

/-- The last valuation stays exactly where no later synchronisation commits another value from the ledger. -/
theorem valuation_kept_iff {before after : List (Moment (Writers C) (C × WriterEvent))} {pool : Writers C}
    {recorder : C} {arguments : ValuationCall} {row : ValuationRow}
    (run : Runs (Pool.Step (writerResponds assetID documentText client types))
      (Writers.fresh readFloat assetID writer world)
      (before ++ ⟨pool, (recorder, ⟨.record arguments, .ok row⟩)⟩ :: after) final)
    (last : ∀ caller later other, (caller, (⟨.record later, .ok other⟩ : WriterEvent)) ∉ traceOf after) :
    (HasValue assetID row.value final ∧ ∀ moment ∈ after, HasValue assetID row.value moment.state) ↔
      LaterHarmless readFloat row.value (before ++ ⟨pool, (recorder, ⟨.record arguments, .ok row⟩)⟩ :: after)
        after := by
  obtain ⟨next, _, recorded, rest⟩ := run.split
  have initial : HasValue assetID row.value next := by
    cases found : pool.world.tables.find assetID with
    | none =>
        rcases recorded.answered with ⟨same, _⟩ | ⟨failed, _⟩
        · rw [recordValuation, found] at same
          cases (Prod.mk.inj same).1
        · cases failed
    | some asset =>
        obtain ⟨changed, foundChanged, value⟩ := value_of_responds recorded.answered found
        exact hasValue_iff.mpr ⟨changed, foundChanged, value⟩
  have sentBefore {label : C × WriterEvent} (member : label ∈ traceOf after) :
      label ∈ traceOf (before ++ ⟨pool, (recorder, ⟨.record arguments, .ok row⟩)⟩ :: after) := by
    rw [traceOf, List.map_append]
    exact List.mem_append_right _ (.tail _ member)
  rw [rest.holds_throughout_iff (fun _ _ _ taken held => hasValue_step taken held) initial]
  constructor
  · intro quiet caller update sent state read known float number ledger stored exceeds
    obtain ⟨_, _, same, pending⟩ := readings_of_run run (sentBefore sent)
    obtain ⟨rfl, rfl⟩ := Prod.mk.inj (Option.some.inj (known.symm.trans same))
    have named := (lookup_of_pendingUpdate pending (.number float)).mpr ⟨float, number, ledger, stored, exceeds, rfl⟩
    obtain ⟨moment, member, labelled⟩ := List.mem_map.mp sent
    obtain ⟨_, taken⟩ := rest.taken moment member
    have answered := taken.answered
    rw [labelled] at answered
    rcases answered with ⟨_, columns, encoded, _⟩ | ⟨⟨fault, failed⟩, _⟩
    · obtain ⟨written, kept⟩ := (encodeNamed_eq_some (encodeNamed_of_encode encoded)).2 _ named
      have value : writtenValue moment.label.2 = some written := by
        rw [labelled, writtenValue, named]
        exact kept
      rw [← quiet moment member written value]
      exact kept
    · cases failed
  · intro harmless moment member number written
    have listed := List.mem_map_of_mem (f := Moment.label) member
    obtain ⟨state, caller, event⟩ := moment
    unfold writtenValue at written
    split at written
    next update same =>
      obtain rfl : event = ⟨.update update, .ok ()⟩ := same
      obtain ⟨ledger, read, known, pending⟩ := readings_of_run run (sentBefore listed)
      obtain ⟨json, named, stored⟩ := Option.bind_eq_some_iff.mp written
      obtain ⟨float, place, value, cell, exceeds, rfl⟩ := (lookup_of_pendingUpdate pending json).mp named
      have same := harmless caller update listed ledger read known float place value cell exceeds
      exact Option.some.inj (stored.symm.trans same)
    next later other same =>
      obtain rfl : event = ⟨.record later, .ok other⟩ := same
      exact absurd listed (last caller later other)
    next => cases written

end Values

section Samples

/-- The world answers without a failure. -/
def steadyAnswer (assetID : String) (types : ColumnTypes) :
    (step : WriterStep) → WriterWorld → step.Result × WriterWorld
  | .invoke call, world => ((), { world with ledger := world.ledger.run [call] })
  | .getAsset proposal, world =>
      (defaultClient.evaluateTransaction (dumps toString) world.ledger proposal ⟨"GetAsset", [assetID]⟩ "admin@bank01",
        world)
  | .select, world => (.ok ((world.tables.find assetID).map ValuedAsset.selected), world)
  | .update update, world =>
      match types.encode update with
      | some columns => (.ok (), { world with tables := world.tables.assign assetID columns })
      | none => (.error (.dataError "invalid input for query argument"), world)
  | .audit _, world => (none, world)
  | .record call, world =>
      ((recordValuation world.tables assetID call).1,
        { world with tables := (recordValuation world.tables assetID call).2 })

theorem steadyAnswer_possible (assetID : String) (types : ColumnTypes) (step : WriterStep) (world : WriterWorld) :
    writerResponds assetID (dumps toString) defaultClient types step world (steadyAnswer assetID types step world).1
      (steadyAnswer assetID types step world).2 := by
  cases step with
  | invoke invoked => rfl
  | getAsset proposal => exact ⟨rfl, .inl rfl⟩
  | select => exact ⟨rfl, .inl rfl⟩
  | audit result => rfl
  | record recorded => exact .inl ⟨rfl, rfl⟩
  | update update =>
      cases encoded : types.encode update with
      | none =>
          simp only [steadyAnswer, encoded]
          exact .inr ⟨⟨_, rfl⟩, rfl⟩
      | some columns =>
          simp only [steadyAnswer, encoded]
          exact .inl ⟨rfl, columns, encoded, rfl⟩

def soldID : String := "RWA-BANK-BOND-2026-001"

/-- The enumeration is checked, and no owner is sent. -/
def sampleTypes : ColumnTypes where
  status
    | .string text => if text ∈ ["ACTIF", "GELE", "EN_EMISSION", "REMBOURSE"] then some ⟨text⟩ else none
    | _ => none
  owner := fun _ => none

/-- The ledger knows the bond with the value 120 of its sale. -/
def soldWorld : WriterWorld where
  ledger := agreeingLedger
  tables := { bondTables with
    assets := [{ bond with assetID := soldID }]
    assetKey := List.nodup_singleton _
    primaryKey := List.nodup_singleton _ }

def soldDay : Date := ⟨2026, 1, 3, january, thirdDay⟩

def soldWriter (value : Int) : Bool → Writer
  | true => .record (bondCall value soldDay)
  | false => .synchronise (.healthy Chaincode.bank "t9")

def soldStart (value : Int) : Writers Bool := Writers.fresh noText soldID (soldWriter value) soldWorld

/-- The valuation is recorded first. -/
def soldRecorded (value : Int) : Moment (Writers Bool) (Bool × WriterEvent) :=
  ⟨soldStart value, (true, ⟨.record (bondCall value soldDay), .ok (bondValuation value soldDay)⟩)⟩

/-- The synchronisation runs behind it, while nobody else does. -/
def soldMoments (value : Int) : List (Moment (Writers Bool) (Bool × WriterEvent)) × Writers Bool :=
  Pool.record (steadyAnswer soldID sampleTypes)
    ⟨(steadyAnswer soldID sampleTypes (.record (bondCall value soldDay)) soldWorld).2,
      Function.update (soldStart value).program true (.done (.recorded (bondValuation value soldDay)))⟩
    [false, false, false, false]

theorem soldMoments_run {value : Int} (accepted :
      (recordValuation soldWorld.tables soldID (bondCall value soldDay)).1 = .ok (bondValuation value soldDay)) :
    Runs (Pool.Step (writerResponds soldID (dumps toString) defaultClient sampleTypes)) (soldStart value)
      ([] ++ soldRecorded value :: (soldMoments value).1) (soldMoments value).2 := by
  have awaits : (soldStart value).program true = .perform (WriterStep.record (bondCall value soldDay)) _ := rfl
  have first : Pool.Step (writerResponds soldID (dumps toString) defaultClient sampleTypes) (soldStart value)
      (soldRecorded value).label _ :=
    .perform true _ _ _ (steadyAnswer soldID sampleTypes (.record (bondCall value soldDay)) soldWorld).2 awaits
      (.inl ⟨Prod.ext accepted rfl, rfl⟩)
  exact .step _ first (Pool.runs_record _ (steadyAnswer_possible soldID sampleTypes) _ _)

/-- The synchronisation neither calls the ledger nor records a valuation. -/
theorem soldMoments_quiet (value : Int)
    (plain : ((traceOf (soldMoments value).1).all fun entry =>
      match entry.2.operation with
      | .invoke _ => false
      | .record _ => false
      | _ => true) = true) :
    (∀ caller invoked, (caller, (⟨.invoke invoked, ()⟩ : WriterEvent)) ∉ traceOf (soldMoments value).1) ∧
      ∀ caller later other, (caller, (⟨.record later, .ok other⟩ : WriterEvent)) ∉ traceOf (soldMoments value).1 := by
  have each := List.all_eq_true.mp plain
  constructor
  · intro caller invoked member
    cases each _ member
  · intro caller later other member
    cases each _ member

theorem sold_accepted :
    (recordValuation soldWorld.tables soldID (bondCall 130 soldDay)).1 = .ok (bondValuation 130 soldDay) := by
  decide +kernel

theorem soldValuation_kept_iff :
    (HasValue soldID (bondValuation 130 soldDay).value (soldMoments 130).2 ∧
        ∀ moment ∈ (soldMoments 130).1, HasValue soldID (bondValuation 130 soldDay).value moment.state) ↔
      LaterHarmless noText (bondValuation 130 soldDay).value ([] ++ soldRecorded 130 :: (soldMoments 130).1)
        (soldMoments 130).1 :=
  valuation_kept_iff (soldMoments_run sold_accepted) (soldMoments_quiet 130 (by decide +kernel)).2

/-- The ledger does not move, and the synchronisation brings the value of the last sale back. -/
theorem sold_valuation_undone :
    Runs (Pool.Step (writerResponds soldID (dumps toString) defaultClient sampleTypes)) (soldStart 130)
        ([] ++ soldRecorded 130 :: (soldMoments 130).1) (soldMoments 130).2 ∧
      (∀ caller invoked, (caller, (⟨.invoke invoked, ()⟩ : WriterEvent)) ∉ traceOf (soldMoments 130).1) ∧
      (∀ caller later other, (caller, (⟨.record later, .ok other⟩ : WriterEvent)) ∉ traceOf (soldMoments 130).1) ∧
      (bondValuation 130 soldDay).value = ⟨1300000⟩ ∧ HasValue soldID ⟨1200000⟩ (soldMoments 130).2 := by
  obtain ⟨unmoved, last⟩ := soldMoments_quiet 130 (by decide +kernel)
  have undone : HasValue soldID ⟨1200000⟩ (soldMoments 130).2 := by
    unfold HasValue
    decide +kernel
  exact ⟨soldMoments_run sold_accepted, unmoved, last, rfl, undone⟩

end Samples

end Pxtly.Assets
