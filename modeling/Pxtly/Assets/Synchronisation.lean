/-
This file gives the task that copies an asset of the ledger into its row, and when it repairs the row.
-/

import Pxtly.Assets.EventProcessing
import Pxtly.Assets.Reading
import Pxtly.Foundation.Binary64

namespace Pxtly.Assets

open Foundation Fabric
open Chaincode (Call FinancialAsset Ledger Proposal)
open Float.Model UnpackedFloat

section Rounding

/-- These are the ten-thousandths nearest to a number, where a half is rounded away from zero. -/
def tenThousandths (mantissa : Nat) (exponent : Int) : Nat :=
  if 0 ≤ exponent then mantissa * 2 ^ exponent.toNat * 10 ^ 4
  else (2 * (mantissa * 10 ^ 4) + 2 ^ (-exponent).toNat) / (2 * 2 ^ (-exponent).toNat)

/-- The column keeps four places and at most sixteen digits before them. -/
def Numeric.ofFloat (value : Float) : Option Numeric :=
  match value.toModel.unpack with
  | .zero _ => some ⟨0⟩
  | .finite sign mantissa exponent _ =>
      if tenThousandths mantissa exponent < 10 ^ 20 then some ⟨sign.apply (tenThousandths mantissa exponent)⟩ else none
  | _ => none

/-- A quotient is at most a half away from the integer that it is rounded to. -/
theorem rounded_quotient (numerator : Nat) {denominator : Nat} (positive : 0 < denominator) :
    |(((2 * numerator + denominator) / (2 * denominator) : Nat) : Rat) - numerator / denominator| ≤ 1 / 2 := by
  have above : (0 : Rat) < denominator := by exact_mod_cast positive
  have split := Nat.div_add_mod (2 * numerator + denominator) (2 * denominator)
  have less := Nat.mod_lt (2 * numerator + denominator) (Nat.mul_pos two_pos positive)
  generalize (2 * numerator + denominator) / (2 * denominator) = quotient at split ⊢
  generalize (2 * numerator + denominator) % (2 * denominator) = remainder at split less
  have whole : 2 * (denominator : Rat) * quotient + remainder = 2 * numerator + denominator := by exact_mod_cast split
  have bound : (remainder : Rat) < 2 * denominator := by exact_mod_cast less
  have nonnegative : (0 : Rat) ≤ remainder := by exact_mod_cast Nat.zero_le remainder
  have difference : (quotient : Rat) - numerator / denominator = (denominator - remainder) / (2 * denominator) := by
    field_simp
    linarith
  rw [difference, abs_le, le_div_iff₀ (by positivity), div_le_iff₀ (by positivity)]
  constructor <;> linarith

theorem tenThousandths_near (mantissa : Nat) (exponent : Int) :
    |(tenThousandths mantissa exponent : Rat) / 10 ^ 4 - scaled mantissa exponent| ≤ 1 / 20000 := by
  unfold tenThousandths
  split
  next whole =>
    obtain ⟨amount, rfl⟩ := Int.eq_ofNat_of_zero_le whole
    have same : ((mantissa * 2 ^ (amount : Int).toNat * 10 ^ 4 : Nat) : Rat) / 10 ^ 4 = scaled mantissa amount := by
      rw [scaled, Int.toNat_natCast, zpow_natCast]
      push_cast
      ring
    rw [same, sub_self, abs_zero]
    norm_num
  next fraction =>
    obtain ⟨amount, rfl⟩ : ∃ amount : Nat, exponent = -amount := ⟨(-exponent).toNat, by omega⟩
    rw [neg_neg, Int.toNat_natCast]
    have near := rounded_quotient (mantissa * 10 ^ 4) (Nat.two_pow_pos amount)
    generalize ((2 * (mantissa * 10 ^ 4) + 2 ^ amount) / (2 * 2 ^ amount) : Nat) = units at near ⊢
    have value : ((mantissa * 10 ^ 4 : Nat) : Rat) / (2 ^ amount : Nat) = scaled mantissa (-amount) * 10 ^ 4 := by
      rw [scaled, zpow_neg, zpow_natCast]
      push_cast
      ring
    rw [value] at near
    have scale : (units : Rat) / 10 ^ 4 - scaled mantissa (-amount) =
        (units - scaled mantissa (-amount) * 10 ^ 4) / 10 ^ 4 := by ring
    rw [scale, abs_div, abs_of_pos (by norm_num : (0 : Rat) < 10 ^ 4), div_le_iff₀ (by norm_num)]
    linarith

theorem tenThousandths_zero (exponent : Int) : tenThousandths 0 exponent = 0 := by
  unfold tenThousandths
  split
  · simp
  · have positive := Nat.two_pow_pos (-exponent).toNat
    exact Nat.div_eq_of_lt (by omega)

theorem Numeric.components_of_ofFloat {value : Float} {number : Numeric}
    (rounded : Numeric.ofFloat value = some number) :
    ∃ sign mantissa exponent, value.toModel.unpack = ofComponents sign mantissa exponent ∧
      Canonical .binary64 mantissa exponent ∧ number.units = sign.apply (tenThousandths mantissa exponent) ∧
      tenThousandths mantissa exponent < 10 ^ 20 := by
  have finite : value.isFinite = true := by
    change value.toModel.unpack.isFinite = true
    unfold Numeric.ofFloat at rounded
    split at rounded
    next unpacked => rw [unpacked]; rfl
    next unpacked => rw [unpacked]; rfl
    next => cases rounded
  obtain ⟨sign, mantissa, exponent, unpacked, canonical, _⟩ := unpack_canonical finite
  refine ⟨sign, mantissa, exponent, unpacked, canonical, ?_⟩
  rw [Numeric.ofFloat, unpacked, ofComponents] at rounded
  by_cases zero : mantissa = 0
  · rw [dif_pos zero] at rounded
    obtain rfl := Option.some.inj rounded
    rw [zero, tenThousandths_zero]
    refine ⟨?_, by decide⟩
    cases sign <;> rfl
  · rw [dif_neg zero] at rounded
    dsimp only at rounded
    split at rounded
    next fits =>
      obtain rfl := Option.some.inj rounded
      exact ⟨rfl, fits⟩
    next => cases rounded

/-- What is stored of a float is read as a float that is at most a ten-thousandth away. -/
theorem Numeric.toFloat_near {value : Float} {number : Numeric} (rounded : Numeric.ofFloat value = some number) :
    number.toFloat.isFinite = true ∧ |exactValue number.toFloat - exactValue value| ≤ 1 / 10000 := by
  obtain ⟨sign, mantissa, exponent, unpacked, canonical, units, fits⟩ := Numeric.components_of_ofFloat rounded
  obtain ⟨signedUnits⟩ := number
  change signedUnits = _ at units
  have near := tenThousandths_near mantissa exponent
  have valueIs : exactValue value = signed sign (scaled mantissa exponent) := by
    rw [exactValue, unpacked, exactly_ofComponents]
  rw [valueIs]
  rcases Nat.eq_zero_or_pos (tenThousandths mantissa exponent) with none | positive
  · have zero : signedUnits = 0 := by
      rw [units, none]
      cases sign <;> rfl
    rw [zero]
    refine ⟨by decide +kernel, ?_⟩
    have nothing : exactValue (Numeric.toFloat ⟨0⟩) = 0 := rfl
    rw [nothing, zero_sub, abs_neg, abs_signed]
    rw [none, Nat.cast_zero, zero_div, zero_sub, abs_neg] at near
    linarith
  · have cast : (tenThousandths mantissa exponent : Rat) < 10 ^ 20 := by exact_mod_cast fits
    have small : (tenThousandths mantissa exponent : Rat) / 10 ^ 4 < 2 ^ (64 : Int) := by
      norm_num
      linarith
    obtain ⟨result, power, read, readCanonical, inRange, close⟩ :=
      ofScientific_near positive canonical small (by decide) near
    have kept : (Numeric.toFloat ⟨signedUnits⟩).toModel.unpack = ofComponents sign result power := by
      have natural : signedUnits.natAbs = tenThousandths mantissa exponent := by
        rw [units]
        cases sign
        · exact Int.natAbs_neg _
        · rfl
      unfold Numeric.toFloat
      dsimp only
      rw [natural]
      cases sign with
      | negative =>
          change signedUnits = -((tenThousandths mantissa exponent : Nat) : Int) at units
          rw [if_pos (by omega)]
          exact unpack_neg read readCanonical inRange
      | positive =>
          change signedUnits = ((tenThousandths mantissa exponent : Nat) : Int) at units
          rw [if_neg (by omega)]
          exact read
    refine ⟨isFinite_of_unpack kept, ?_⟩
    rw [exactValue, kept, exactly_ofComponents]
    cases sign with
    | negative =>
        change |-scaled result power - -scaled mantissa exponent| ≤ 1 / 10000
        rw [neg_sub_neg, abs_sub_comm]
        exact close
    | positive => exact close

theorem tolerance_unpack : (0.001 : Float).toModel.unpack = .finite .positive 4611686018427388 (-62) (by decide) := rfl

/-- A value that has been stored is within the tolerance of the float that it was rounded from. -/
theorem Numeric.settled {value : Float} {number : Numeric} (rounded : Numeric.ofFloat value = some number) :
    ¬ (0.001 : Float) < (number.toFloat - value).abs := by
  obtain ⟨finite, near⟩ := Numeric.toFloat_near rounded
  obtain ⟨sign, mantissa, exponent, unpacked, _⟩ := Numeric.components_of_ofFloat rounded
  have tiny : |exactValue number.toFloat - exactValue value| < 2 ^ (-13 : Int) := by
    refine near.trans_lt ?_
    norm_num
  have within := unpack_distance finite (isFinite_of_unpack unpacked) tiny (by decide)
  exact not_lt_of_within tolerance_unpack within (by decide)

end Rounding

section Task

inductive SyncFault where
  | client (fault : ClientError)
  | conversion (message : String)
  | unknownColumns (names : List String)
  | statement (fault : StatementError)

structure SyncResult where
  assetID : String
  synced : Bool
  changes : List String
  deriving DecidableEq

/-- A result is returned after its audit record is written, which is after the commit. -/
inductive SyncOutcome where
  | returned (result : SyncResult)
  | unaudited (result : SyncResult) (message : String)
  | failed (fault : SyncFault)

def syncableColumns : List String := ["current_value", "status", "current_owner_id"]

variable (readFloat : String → Except String Float)

/-- This is `float` on a decoded value; what it reads from a text is left open. -/
def pyFloat : Json → Except String Float
  | .number value => .ok value
  | .integer value =>
      if (Float.ofInt value).isFinite then .ok (Float.ofInt value) else .error "int too large to convert to float"
  | .bool value => .ok (if value then 1 else 0)
  | .string text => readFloat text
  | _ => .error "float() argument must be a string or a real number"

/-- A column of type `NUMERIC` holds a number or nothing. -/
def floatOfCell : Cell → Except String Float
  | .numeric number => .ok number.toFloat
  | _ => .error "float() argument must be a string or a real number, not 'NoneType'"

/-- The column `status` holds a text or nothing. -/
def sameStatus : Cell → Json → Bool
  | .null, .null => true
  | .text stored, .string status => stored == status
  | _, _ => false

/-- An owner is compared with `str` of the identifier. -/
def sameOwner : Cell → Json → Bool
  | .null, .string owner => owner == "None"
  | .text stored, .string owner => stored == owner
  | _, _ => false

/-- The nominal value stands in for a current value that is missing. -/
def ledgerValue (state : List (String × Json)) : Except String (Option Float) := do
  let nominal ← (dictGet state "nominal_value").mapM (pyFloat readFloat)
  match dictGet state "current_value" with
  | some value => return some (← pyFloat readFloat value)
  | none => return nominal

def valueUpdate (stored : Cell) : Option Float → Except String (List (String × Json))
  | some value => do
      let number ← floatOfCell stored
      return if (0.001 : Float) < (number - value).abs then [("current_value", .number value)] else []
  | none => .ok []

/-- A value of the ledger replaces a different one when it is there and not empty. -/
def fieldUpdate (column : String) (same : Json → Bool) : Option Json → List (String × Json)
  | some value => if truthy value && !same value then [(column, value)] else []
  | none => []

/-- This is the dictionary `upd`, whose keys are the reported changes. -/
def pendingUpdate (state : List (String × Json)) (row : Row Cell) : Except String (List (String × Json)) := do
  let value ← ledgerValue readFloat state
  let valueChange ← valueUpdate (row "current_value") value
  return valueChange ++ fieldUpdate "status" (sameStatus (row "status")) (dictGet state "status") ++
    fieldUpdate "current_owner_id" (sameOwner (row "current_owner_id")) (dictGet state "current_owner_id")

variable (server : Server Cell)

def updateAsset (assetID : String) (update : List (String × Json)) : Statement :=
  .update "assets" (update.map fun (name, value) => (name, .bound value)) ("asset_id", .bound (.string assetID))

/-- The session reads the row and commits the columns that differ. -/
def syncSession (state : List (String × Json)) (assetID : String) (tables : Tables Cell) :
    Except SyncFault (Tables Cell × SyncResult) :=
  match findRow tables assetID with
  | none => .ok (tables, ⟨assetID, false, ["Not found in DB"]⟩)
  | some row => do
      let update ← (pendingUpdate readFloat state row).mapError SyncFault.conversion
      let changes := update.map Prod.fst
      if changes = [] then return (tables, ⟨assetID, true, []⟩)
      else
        let invalid := changes.filter (· ∉ syncableColumns)
        if invalid = [] then
          let after ← (server.execute schema tables (updateAsset assetID update)).mapError SyncFault.statement
          return (after, ⟨assetID, true, changes⟩)
        else .error (.unknownColumns invalid)

variable (documentText : Json → String) (client : FabricClient) (audit : SyncResult → Option String)

/-- This is `_do_sync_fabric_state`; a result that found no asset or no row is not audited. -/
def syncFabricState (ledger : Ledger) (proposal : Proposal) (assetID : String) (tables : Tables Cell) :
    Tables Cell × SyncOutcome :=
  match client.evaluateTransaction documentText ledger proposal ⟨"GetAsset", [assetID]⟩ "admin@bank01" with
  | .error fault => (tables, .failed (.client fault))
  | .ok (.object state) =>
      match syncSession readFloat server state assetID tables with
      | .error fault => (tables, .failed fault)
      | .ok (after, result) =>
          if result.synced then
            (after, match audit result with
              | none => .returned result
              | some message => .unaudited result message)
          else (after, .returned result)
  | .ok _ => (tables, .returned ⟨assetID, false, []⟩)

/-- These are the changes of a run that synchronises its row, audited or not. -/
def SyncOutcome.changes : SyncOutcome → Option (List String)
  | .returned result => if result.synced then some result.changes else none
  | .unaudited result _ => if result.synced then some result.changes else none
  | .failed _ => none

end Task

section Repair

/-- The row has the value of the asset within the tolerance, its status and its owner. -/
structure RowMatches (emailOf : String → Option String) (asset : FinancialAsset) (row : Row Cell) : Prop where
  value : ∃ number, row "current_value" = .numeric number ∧
    ¬ (0.001 : Float) < (number.toFloat - asset.currentValue).abs
  status : row "status" = .text asset.status.text
  owner : ∃ id, row "current_owner_id" = .text id ∧ emailOf id = some asset.currentOwner

/-- This is what PostgreSQL and its driver make of the values that the task sends. -/
structure Postgres (server : Server Cell) : Prop where
  null : server.null = .null
  text : ∀ sqlType text cell, sqlType = "VARCHAR(50)" ∨ sqlType = "asset_status_enum" →
    server.encode sqlType (.string text) = .ok cell → cell = .text text
  numeric : ∀ value cell, value.isFinite = true → server.encode "NUMERIC(20,4)" (.number value) = .ok cell →
    ∃ number, Numeric.ofFloat value = some number ∧ cell = .numeric number

variable (readFloat : String → Except String Float) (server : Server Cell) (documentText : Json → String)
  (client : FabricClient) (emailOf : String → Option String) (ledger : Ledger) (assetID : String)

/-- A run brings the row of an asset up to date, and a second run of the same ledger reports no change. -/
def Repairs (audit : SyncResult → Option String) (proposal : Proposal) (asset : FinancialAsset)
    (tables : Tables Cell) : Prop :=
  let after := (syncFabricState readFloat server documentText client audit ledger proposal assetID tables).1
  (∃ row, findRow after assetID = some row ∧ RowMatches emailOf asset row) ∧
    ∀ laterAudit laterProposal changes,
      (syncFabricState readFloat server documentText client laterAudit ledger laterProposal assetID after).2.changes =
        some changes → changes = []

end Repair

section Reading

/-- The converted document of an asset has its values and its status, and no identifier of an owner. -/
structure HoldsAsset (asset : FinancialAsset) (state : List (String × Json)) : Prop where
  nominalValue : dictGet state "nominal_value" = some (.number asset.nominalValue)
  currentValue : dictGet state "current_value" = some (.number asset.currentValue)
  finite : asset.currentValue.isFinite = true
  status : dictGet state "status" = some (.string asset.status.text)
  owner : dictGet state "current_owner_id" = none

theorem holds_of_marshal {asset : FinancialAsset} {document : Json} (marshalled : asset.marshal = .ok document) :
    ∃ members, document = .object members ∧ HoldsAsset asset (convertMembers members) := by
  simp only [FinancialAsset.marshal, bind_eq_ok, Json.encodeFloat_eq_ok] at marshalled
  obtain ⟨nominalValue, ⟨_, rfl⟩, currentValue, ⟨finite, rfl⟩, couponRate, _, provenance, _, same⟩ := marshalled
  obtain rfl := Except.ok.inj same
  exact ⟨_, rfl, ⟨by rfl, by rfl, finite, by rfl, by rfl⟩⟩

/-- A run that evaluates the query reads the fields of the stored asset. -/
theorem holds_of_evaluate {documentText : Json → String} {client : FabricClient} {ledger : Ledger}
    {proposal : Proposal} {assetID identityLabel : String} {asset : FinancialAsset} {answer : Json}
    (found : ledger.find assetID = some asset)
    (evaluated : client.evaluateTransaction documentText ledger proposal ⟨"GetAsset", [assetID]⟩ identityLabel =
      .ok answer) : ∃ state, answer = .object state ∧ HoldsAsset asset state := by
  obtain ⟨creator, response, document, delivered, marshalled, rfl⟩ := evaluateTransaction_eq_ok evaluated
  obtain ⟨same, stored, rfl⟩ := Ledger.response_of_getAsset delivered
  obtain rfl := Option.some.inj (found.symm.trans stored)
  obtain ⟨members, rfl, holds⟩ := holds_of_marshal marshalled
  exact ⟨convertMembers members, rfl, holds⟩

end Reading

section Session

variable {readFloat : String → Except String Float} {server : Server Cell} {asset : FinancialAsset}
  {state : List (String × Json)} {row : Row Cell}

/-- The pending update has the value and the status when they differ, and never an owner. -/
theorem pendingUpdate_eq_ok {update : List (String × Json)} (holds : HoldsAsset asset state)
    (nonempty : asset.status.text ≠ "") (pending : pendingUpdate readFloat state row = .ok update) :
    ∃ number, row "current_value" = .numeric number ∧ update =
      (if (0.001 : Float) < (number.toFloat - asset.currentValue).abs then
          [("current_value", .number asset.currentValue)] else []) ++
        (if row "status" = .text asset.status.text then [] else [("status", .string asset.status.text)]) := by
  have value : ledgerValue readFloat state = .ok (some asset.currentValue) := by
    rw [ledgerValue, holds.nominalValue, holds.currentValue]
    rfl
  have statusChange : fieldUpdate "status" (sameStatus (row "status")) (dictGet state "status") =
      if row "status" = .text asset.status.text then [] else [("status", .string asset.status.text)] := by
    have given : truthy (.string asset.status.text) = true := bne_iff_ne.mpr nonempty
    rw [holds.status, fieldUpdate, given, Bool.true_and]
    cases row "status" with
    | text stored =>
        by_cases same : stored = asset.status.text
        · rw [same, if_pos rfl]
          simp [sameStatus]
        · rw [if_neg fun equal => same (Cell.text.inj equal)]
          simp [sameStatus, same]
    | null => rfl
    | boolean _ => rfl
    | integer _ => rfl
    | numeric _ => rfl
  rw [pendingUpdate, value, ok_bind, bind_eq_ok] at pending
  obtain ⟨valueChange, compared, same⟩ := pending
  obtain rfl := Except.ok.inj same
  rw [statusChange, holds.owner, fieldUpdate, List.append_nil]
  cases stored : row "current_value" with
  | numeric number =>
      rw [stored] at compared
      obtain rfl := Except.ok.inj compared
      exact ⟨number, rfl, rfl⟩
  | null =>
      rw [stored] at compared
      cases compared
  | boolean _ =>
      rw [stored] at compared
      cases compared
  | integer _ =>
      rw [stored] at compared
      cases compared
  | text _ =>
      rw [stored] at compared
      cases compared

/-- The row has the value within the tolerance and the status. -/
structure Settled (asset : FinancialAsset) (row : Row Cell) : Prop where
  value : ∃ number, row "current_value" = .numeric number ∧
    ¬ (0.001 : Float) < (number.toFloat - asset.currentValue).abs
  status : row "status" = .text asset.status.text

/-- Nothing is pending exactly for a settled row. -/
theorem settled_of_pendingUpdate (holds : HoldsAsset asset state) (nonempty : asset.status.text ≠ "")
    (pending : pendingUpdate readFloat state row = .ok []) : Settled asset row := by
  obtain ⟨number, stored, parts⟩ := pendingUpdate_eq_ok holds nonempty pending
  obtain ⟨noValue, noStatus⟩ := List.append_eq_nil_iff.mp parts.symm
  refine ⟨⟨number, stored, ?_⟩, ?_⟩
  · intro exceeds
    rw [if_pos exceeds] at noValue
    cases noValue
  · by_contra different
    rw [if_neg different] at noStatus
    cases noStatus

theorem nothing_pending {update : List (String × Json)} (holds : HoldsAsset asset state)
    (nonempty : asset.status.text ≠ "") (settled : Settled asset row)
    (pending : pendingUpdate readFloat state row = .ok update) : update = [] := by
  obtain ⟨number, stored, parts⟩ := pendingUpdate_eq_ok holds nonempty pending
  obtain ⟨kept, same, near⟩ := settled.value
  obtain rfl := Cell.numeric.inj (stored.symm.trans same)
  rw [parts, if_neg near, if_pos settled.status]
  rfl

theorem lookup_bound (update : List (String × Json)) (name : String) :
    (update.map fun pair => (pair.1, SqlValue.bound pair.2)).lookup name = (update.lookup name).map SqlValue.bound := by
  induction update with
  | nil => rfl
  | cons pair rest inductionHypothesis =>
      rw [List.map_cons, List.lookup_cons, List.lookup_cons, inductionHypothesis]
      cases name == pair.1 <;> rfl

def assetIDColumn : Column := { name := "asset_id", sqlType := "VARCHAR(50)", notNull := true }

/-- The key of an update selects the rows with the identifier. -/
theorem selects_of_assign {assetID : String} {sought : List (String × Cell)} (postgres : Postgres server)
    (assigned : server.assign [(assetIDColumn, .bound (.string assetID))] = .ok sought) (row : Row Cell) :
    server.selects sought row = (row "asset_id" == .text assetID) := by
  obtain ⟨cell, cells, sent, none, rfl⟩ := Server.assign_cons assigned
  obtain rfl := Except.ok.inj none
  rw [Server.value, mapError_eq_ok] at sent
  obtain rfl := postgres.text _ _ _ (.inl rfl) sent
  rw [Server.selects, postgres.null]
  exact Bool.and_true _

/-- An update of the columns leaves the row of the asset with what was sent. -/
theorem findRow_of_update {tables after : Tables Cell} {assetID : String} {update : List (String × Json)}
    (postgres : Postgres server) (found : findRow tables assetID = some row) (unkeyed : update.lookup "asset_id" = none)
    (executed : server.execute schema tables (updateAsset assetID update) = .ok after) :
    ∃ changed, findRow after assetID = some changed ∧
      (∀ name, update.lookup name = none → changed name = row name) ∧
      ∀ name value, update.lookup name = some value → ∃ column, assetsTable.column name = some column ∧
        server.encode column.sqlType value = .ok (changed name) := by
  obtain ⟨table, resolved, keys, given, sought, known, values, key, assigned, keyAssigned, finds⟩ :=
    Server.find_of_update executed
  obtain rfl : assetsTable = table := Except.ok.inj known
  have selects : ∀ row : Row Cell, (row "asset_id" == .text assetID) = true → server.selects sought row = true := by
    intro row chosen
    obtain rfl : [(assetIDColumn, SqlValue.bound (.string assetID))] = keys := Except.ok.inj key
    rw [selects_of_assign postgres keyAssigned]
    exact chosen
  have kept : ∀ row : Row Cell,
      (Foundation.overwrite row given "asset_id" == .text assetID) = (row "asset_id" == .text assetID) := by
    intro row
    rw [overwrite_of_unnamed values assigned (by rw [lookup_bound, unkeyed]; rfl)]
  refine ⟨Foundation.overwrite row given, ?_, ?_, ?_⟩
  · have changed := finds _ selects kept
    change findRow after assetID = (findRow tables assetID).map _ at changed
    rw [changed, found]
    rfl
  · intro name unnamed
    exact overwrite_of_unnamed values assigned (by rw [lookup_bound, unnamed]; rfl) row
  · intro name value named
    exact overwrite_of_bound values assigned (by rw [lookup_bound, named]; rfl) row

theorem lookup_of_parts {update : List (String × Json)} {value : Float} {status : String} {exceeds different : Prop}
    [Decidable exceeds] [Decidable different] (parts : update =
      (if exceeds then [("current_value", .number value)] else []) ++
        (if different then [] else [("status", .string status)])) :
    update.lookup "current_value" = (if exceeds then some (.number value) else none) ∧
      update.lookup "status" = (if different then none else some (.string status)) ∧
      update.lookup "current_owner_id" = none ∧ update.lookup "asset_id" = none := by
  rw [parts]
  by_cases first : exceeds <;> by_cases second : different <;> simp only [first, second, if_true, if_false] <;>
    exact ⟨rfl, rfl, rfl, rfl⟩

/-- A session that ends leaves a settled row with the owner that it had. -/
theorem settled_of_syncSession {tables after : Tables Cell} {assetID : String} {result : SyncResult}
    (postgres : Postgres server) (holds : HoldsAsset asset state) (nonempty : asset.status.text ≠ "")
    (found : findRow tables assetID = some row)
    (synchronised : syncSession readFloat server state assetID tables = .ok (after, result)) :
    ∃ changed, findRow after assetID = some changed ∧ changed "current_owner_id" = row "current_owner_id" ∧
      Settled asset changed := by
  rw [syncSession, found] at synchronised
  simp only [bind_eq_ok, mapError_eq_ok] at synchronised
  obtain ⟨update, pending, committed⟩ := synchronised
  split at committed
  next none =>
    obtain ⟨rfl, _⟩ := Prod.mk.inj (Except.ok.inj committed)
    rw [List.map_eq_nil_iff.mp none] at pending
    exact ⟨row, found, rfl, settled_of_pendingUpdate holds nonempty pending⟩
  next =>
    split at committed
    next =>
      simp only [bind_eq_ok, mapError_eq_ok] at committed
      obtain ⟨committedTables, executed, same⟩ := committed
      obtain ⟨rfl, _⟩ := Prod.mk.inj (Except.ok.inj same)
      obtain ⟨number, stored, parts⟩ := pendingUpdate_eq_ok holds nonempty pending
      obtain ⟨value, status, owner, key⟩ := lookup_of_parts parts
      obtain ⟨changed, foundAgain, kept, sent⟩ := findRow_of_update postgres found key executed
      refine ⟨changed, foundAgain, kept _ owner, ⟨?_, ?_⟩⟩
      · by_cases exceeds : (0.001 : Float) < (number.toFloat - asset.currentValue).abs
        · rw [if_pos exceeds] at value
          obtain ⟨column, declared, encoded⟩ := sent _ _ value
          obtain rfl := Option.some.inj declared
          obtain ⟨written, rounded, cell⟩ := postgres.numeric _ _ holds.finite encoded
          exact ⟨written, cell, Numeric.settled rounded⟩
        · rw [if_neg exceeds] at value
          exact ⟨number, (kept _ value).trans stored, exceeds⟩
      · by_cases same : row "status" = .text asset.status.text
        · rw [if_pos same] at status
          exact (kept _ status).trans same
        · rw [if_neg same] at status
          obtain ⟨column, declared, encoded⟩ := sent _ _ status
          obtain rfl := Option.some.inj declared
          exact postgres.text _ _ _ (.inr rfl) encoded
    next => cases committed

/-- A session on a settled row reports no change. -/
theorem changes_of_settled {tables after : Tables Cell} {assetID : String} {result : SyncResult}
    (holds : HoldsAsset asset state) (nonempty : asset.status.text ≠ "") (found : findRow tables assetID = some row)
    (settled : Settled asset row)
    (synchronised : syncSession readFloat server state assetID tables = .ok (after, result)) : result.changes = [] := by
  rw [syncSession, found] at synchronised
  simp only [bind_eq_ok, mapError_eq_ok] at synchronised
  obtain ⟨update, pending, committed⟩ := synchronised
  obtain rfl := nothing_pending holds nonempty settled pending
  obtain ⟨_, rfl⟩ := Prod.mk.inj (Except.ok.inj committed)
  rfl

end Session

section Runs

variable {readFloat : String → Except String Float} {server : Server Cell} {documentText : Json → String}
  {client : FabricClient} {emailOf : String → Option String} {audit : SyncResult → Option String}
  {proposal : Proposal} {assetID : String} {asset : FinancialAsset} {tables : Tables Cell} {changes : List String}

/-- A run that synchronises has evaluated the query and ended its session. -/
theorem session_of_syncFabricState {ledger : Ledger} (found : ledger.find assetID = some asset)
    (synchronised :
      (syncFabricState readFloat server documentText client audit ledger proposal assetID tables).2.changes =
        some changes) :
    ∃ state result, HoldsAsset asset state ∧ result.changes = changes ∧
      syncSession readFloat server state assetID tables = .ok
        ((syncFabricState readFloat server documentText client audit ledger proposal assetID tables).1, result) := by
  cases evaluated : client.evaluateTransaction documentText ledger proposal ⟨"GetAsset", [assetID]⟩ "admin@bank01" with
  | error fault =>
      rw [syncFabricState, evaluated] at synchronised
      cases synchronised
  | ok answer =>
      obtain ⟨state, rfl, holds⟩ := holds_of_evaluate found evaluated
      refine ⟨state, ?_⟩
      unfold syncFabricState at synchronised ⊢
      rw [evaluated] at synchronised ⊢
      dsimp only at synchronised ⊢
      cases ended : syncSession readFloat server state assetID tables with
      | error fault =>
          rw [ended] at synchronised
          cases synchronised
      | ok both =>
          obtain ⟨after, result⟩ := both
          rw [ended] at synchronised
          cases synced : result.synced with
          | false =>
              simp only [synced, Bool.false_eq_true, if_false, SyncOutcome.changes] at synchronised
              cases synchronised
          | true =>
              simp only [synced, if_true] at synchronised ⊢
              refine ⟨result, holds, ?_, rfl⟩
              cases written : audit result with
              | none =>
                  simp only [written, SyncOutcome.changes, synced, if_true] at synchronised
                  exact Option.some.inj synchronised
              | some message =>
                  simp only [written, SyncOutcome.changes, synced, if_true] at synchronised
                  exact Option.some.inj synchronised

/-- Whether the audit record is written matters neither to the tables nor to the changes. -/
theorem changes_of_audit (ledger : Ledger) (otherAudit : SyncResult → Option String) :
    (syncFabricState readFloat server documentText client audit ledger proposal assetID tables).2.changes =
      (syncFabricState readFloat server documentText client otherAudit ledger proposal assetID tables).2.changes := by
  unfold syncFabricState
  split
  next => rfl
  next =>
    split
    next => rfl
    next result _ =>
      split
      next synced =>
        cases audit result <;> cases otherAudit result <;> simp only [SyncOutcome.changes]
      next => rfl
  next => rfl

theorem status_nonempty (calls : List Call) (found : (Ledger.empty.run calls).find assetID = some asset) :
    asset.status.text ≠ "" := by
  have sourced := ((Ledger.run_sound Ledger.empty_sound calls).of_find found).eventSourced
  by_cases frozen : asset.status = Chaincode.statusGele
  · rw [frozen]
    decide
  · rw [sourced.otherwise frozen]
    decide

/-- A run repairs the row exactly when the row already had the owner of the asset. -/
theorem repairs_iff (calls : List Call) (found : (Ledger.empty.run calls).find assetID = some asset)
    (postgres : Postgres server) {row : Row Cell} (stored : findRow tables assetID = some row)
    (synchronised : (syncFabricState readFloat server documentText client audit (Ledger.empty.run calls) proposal
      assetID tables).2.changes = some changes) :
    Repairs readFloat server documentText client emailOf (Ledger.empty.run calls) assetID audit proposal asset
        tables ↔
      ∃ id, row "current_owner_id" = .text id ∧ emailOf id = some asset.currentOwner := by
  have nonempty := status_nonempty calls found
  obtain ⟨state, result, holds, _, ended⟩ := session_of_syncFabricState found synchronised
  obtain ⟨changed, foundAgain, owner, settled⟩ := settled_of_syncSession postgres holds nonempty stored ended
  constructor
  · rintro ⟨⟨same, foundSame, agrees⟩, _⟩
    obtain rfl := Option.some.inj (foundAgain.symm.trans foundSame)
    rw [← owner]
    exact agrees.owner
  · intro known
    refine ⟨⟨changed, foundAgain, ⟨settled.value, settled.status, by rwa [owner]⟩⟩, ?_⟩
    intro laterAudit laterProposal later again
    obtain ⟨_, second, holdsAgain, rfl, endedAgain⟩ := session_of_syncFabricState found again
    exact changes_of_settled holdsAgain nonempty foundAgain settled endedAgain

end Runs

section Samples

/-- The enumeration and the lengths of the columns are checked, and a number is rounded. -/
def postgresServer : Server Cell where
  null := .null
  encode
    | "NUMERIC(20,4)", .number value =>
        match Numeric.ofFloat value with
        | some number => .ok (.numeric number)
        | none => .error "numeric field overflow"
    | "VARCHAR(50)", .string text =>
        if text.length ≤ 50 then .ok (.text text) else .error "value too long for type character varying(50)"
    | "asset_status_enum", .string text =>
        if text ∈ ["ACTIF", "GELE", "EN_EMISSION", "REMBOURSE"] then .ok (.text text)
        else .error "invalid input value for enum asset_status_enum"
    | _, _ => .error "invalid input for query argument"
  evaluate := sampleServer.evaluate

theorem postgresServer_postgres : Postgres postgresServer where
  null := rfl
  text := by
    rintro sqlType text cell (rfl | rfl) encoded
    · change (if text.length ≤ 50 then _ else _) = _ at encoded
      split at encoded
      next => exact (Except.ok.inj encoded).symm
      next => cases encoded
    · change (if text ∈ ["ACTIF", "GELE", "EN_EMISSION", "REMBOURSE"] then _ else _) = _ at encoded
      split at encoded
      next => exact (Except.ok.inj encoded).symm
      next => cases encoded
  numeric := by
    intro value cell _ encoded
    change (match Numeric.ofFloat value with | some number => _ | none => _) = _ at encoded
    split at encoded
    next number rounded => exact ⟨number, rounded, (Except.ok.inj encoded).symm⟩
    next => cases encoded

def bobID : String := "22222222-2222-4222-8222-222222222222"

/-- The row has the value from before the sale and another owner. -/
def staleRow : Row Cell
  | "id" => .text "33333333-3333-4333-8333-333333333333"
  | "asset_id" => .text "RWA-BANK-BOND-2026-001"
  | "asset_type" => .text "OBLIGATION"
  | "asset_name" => .text "Bond"
  | "issuer_org_id" => .text "44444444-4444-4444-8444-444444444444"
  | "current_owner_id" => .text bobID
  | "nominal_value" => .numeric ⟨1000000⟩
  | "current_value" => .numeric ⟨1000000⟩
  | "currency" => .text "EUR"
  | "status" => .text "ACTIF"
  | "issuance_date" => .text "2026-01-01"
  | _ => .null

def staleTables : Tables Cell
  | "assets" => [staleRow]
  | _ => []

def noText (text : String) : Except String Float := .error s!"could not convert string to float: {text}"

def emailOfUser (id : String) : Option String :=
  if id = ownerID then some "alice@bank01.com" else if id = bobID then some "bob@bank01.com" else none

theorem stale_changes (audit : SyncResult → Option String) :
    (syncFabricState noText postgresServer (dumps toString) defaultClient audit agreeingLedger
      (.healthy Chaincode.bank "t9") "RWA-BANK-BOND-2026-001" staleTables).2.changes = some ["current_value"] := by
  rw [changes_of_audit agreeingLedger fun _ => none]
  decide +kernel

theorem agreeingLedger_owner :
    (agreeingLedger.find "RWA-BANK-BOND-2026-001").map (·.currentOwner) = some "alice@bank01.com" := by
  decide +kernel

theorem stale_repairs_iff : ∃ asset, agreeingLedger.find "RWA-BANK-BOND-2026-001" = some asset ∧
    (Repairs noText postgresServer (dumps toString) defaultClient emailOfUser agreeingLedger "RWA-BANK-BOND-2026-001"
        (fun _ => none) (.healthy Chaincode.bank "t9") asset staleTables ↔
      ∃ id, staleRow "current_owner_id" = .text id ∧ emailOfUser id = some asset.currentOwner) := by
  obtain ⟨asset, found, _⟩ := Option.map_eq_some_iff.mp agreeingLedger_owner
  exact ⟨asset, found, repairs_iff _ found postgresServer_postgres rfl (stale_changes _)⟩

/-- A run brings the value of the sold bond into the row but not its owner, audited or not. -/
theorem owner_unrepaired : ∃ asset, agreeingLedger.find "RWA-BANK-BOND-2026-001" = some asset ∧
    ∀ audit : SyncResult → Option String,
      (syncFabricState noText postgresServer (dumps toString) defaultClient audit agreeingLedger
        (.healthy Chaincode.bank "t9") "RWA-BANK-BOND-2026-001" staleTables).2.changes = some ["current_value"] ∧
      ¬ Repairs noText postgresServer (dumps toString) defaultClient emailOfUser agreeingLedger "RWA-BANK-BOND-2026-001"
        audit (.healthy Chaincode.bank "t9") asset staleTables := by
  obtain ⟨asset, found, owner⟩ := Option.map_eq_some_iff.mp agreeingLedger_owner
  refine ⟨asset, found, ?_⟩
  intro audit
  refine ⟨stale_changes audit, ?_⟩
  rintro ⟨⟨row, foundAgain, agrees⟩, _⟩
  obtain ⟨state, result, holds, _, ended⟩ := session_of_syncFabricState found (stale_changes audit)
  obtain ⟨changed, foundChanged, kept, _⟩ := settled_of_syncSession postgresServer_postgres holds
    (status_nonempty _ found) (rfl : findRow staleTables "RWA-BANK-BOND-2026-001" = some staleRow) ended
  obtain rfl := Option.some.inj (foundChanged.symm.trans foundAgain)
  obtain ⟨id, stored, email⟩ := agrees.owner
  obtain rfl : bobID = id := Cell.text.inj ((kept.symm.trans stored : Cell.text bobID = .text id))
  rw [owner] at email
  exact absurd email (by decide)

end Samples

end Pxtly.Assets
