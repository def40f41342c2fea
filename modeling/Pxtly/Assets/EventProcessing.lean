/-
This file gives the task that applies the events of the ledger to the database, and when it keeps the two in step.
-/

import Pxtly.Assets.Models
import Pxtly.Chaincode.Events
import Pxtly.Chaincode.Provenance
import Pxtly.Foundation.Floats
import Pxtly.Foundation.Tables

namespace Pxtly.Assets

open Foundation
open Chaincode (Call EventPayload FinancialAsset Ledger)

section Schema

/-- This is the table `assets`. -/
def assetsTable : Table where
  name := "assets"
  columns := [
    { name := "id", sqlType := "UUID", notNull := true, default := some "uuid_generate_v4()" },
    { name := "asset_id", sqlType := "VARCHAR(50)", notNull := true },
    { name := "isin", sqlType := "VARCHAR(12)" },
    { name := "figi", sqlType := "VARCHAR(12)" },
    { name := "cusip", sqlType := "VARCHAR(9)" },
    { name := "sedol", sqlType := "VARCHAR(7)" },
    { name := "asset_type", sqlType := "asset_type_enum", notNull := true },
    { name := "asset_name", sqlType := "VARCHAR(255)", notNull := true },
    { name := "issuer_org_id", sqlType := "UUID", notNull := true },
    { name := "current_owner_id", sqlType := "UUID" },
    { name := "nominal_value", sqlType := "NUMERIC(20,4)", notNull := true },
    { name := "current_value", sqlType := "NUMERIC(20,4)" },
    { name := "currency", sqlType := "CHAR(3)", notNull := true, default := some "'EUR'" },
    { name := "status", sqlType := "asset_status_enum", default := some "'EN_EMISSION'" },
    { name := "issuance_date", sqlType := "DATE", notNull := true },
    { name := "maturity_date", sqlType := "DATE" },
    { name := "coupon_rate", sqlType := "NUMERIC(6,4)" },
    { name := "coupon_frequency", sqlType := "VARCHAR(20)" },
    { name := "rating_moodys", sqlType := "VARCHAR(10)" },
    { name := "rating_sp", sqlType := "VARCHAR(10)" },
    { name := "rating_fitch", sqlType := "VARCHAR(10)" },
    { name := "underlying_asset", sqlType := "TEXT" },
    { name := "prospectus_hash", sqlType := "VARCHAR(128)" },
    { name := "fabric_tx_id", sqlType := "VARCHAR(128)" },
    { name := "fabric_block_number", sqlType := "BIGINT" },
    { name := "last_valuation_date", sqlType := "DATE" },
    { name := "total_transfers", sqlType := "INT", default := some "0" },
    { name := "is_fractionalized", sqlType := "BOOLEAN", default := some "FALSE" },
    { name := "fraction_count", sqlType := "INT" },
    { name := "metadata", sqlType := "JSONB", default := some "'\x7b\x7d'" },
    { name := "created_at", sqlType := "TIMESTAMPTZ", default := some "NOW()" },
    { name := "updated_at", sqlType := "TIMESTAMPTZ", default := some "NOW()" }]

/-- This is the table `network_events`. -/
def networkEventsTable : Table where
  name := "network_events"
  columns := [
    { name := "id", sqlType := "UUID", notNull := true, default := some "uuid_generate_v4()" },
    { name := "event_name", sqlType := "VARCHAR(100)", notNull := true },
    { name := "chaincode_name", sqlType := "VARCHAR(100)", notNull := true },
    { name := "fabric_tx_id", sqlType := "VARCHAR(128)", notNull := true },
    { name := "fabric_block_number", sqlType := "BIGINT", notNull := true },
    { name := "payload", sqlType := "JSONB", notNull := true },
    { name := "processed", sqlType := "BOOLEAN", default := some "FALSE" },
    { name := "processed_at", sqlType := "TIMESTAMPTZ" },
    { name := "error_count", sqlType := "INT", default := some "0" },
    { name := "created_at", sqlType := "TIMESTAMPTZ", default := some "NOW()" }]

def schema : List Table := [assetsTable, networkEventsTable]

/-- Enumerations, identifiers, times and documents are kept as their texts. -/
inductive Cell where
  | null
  | boolean (value : Bool)
  | integer (value : Int)
  | numeric (value : Numeric)
  | text (value : String)
  deriving DecidableEq

end Schema

section Handler

variable (server : Server Cell) (documentText : Json → String)

def insertNetworkEvent (eventType : String) (payload : List (String × Json)) : Statement :=
  .insert "network_events" [
    ("event_type", .bound (.string eventType)),
    ("payload", .bound (.string (documentText (.object payload)))),
    ("created_at", .expression "now()")]

/-- An event names its asset by a key that is not empty. -/
def assetStatement (eventType : String) (payload : List (String × Json)) : Option Statement :=
  (dictGet payload "asset_id").bind fun assetID =>
    let key := ("asset_id", SqlValue.bound assetID)
    if !truthy assetID then none
    else if eventType = "AssetTransferred" then
      let value := ((dictGet payload "price").or (dictGet payload "amount")).getD (.integer 0)
      match dictGet payload "to_owner" with
      | some owner =>
          if truthy owner then
            some (.update "assets" [("current_value", .bound value), ("current_owner_id", .bound owner)] key)
          else none
      | none => none
    else if eventType = "AssetFrozen" then
      some (.update "assets" [("status", .expression "'GELE'"), ("regulatory_flag", .expression "True")] key)
    else if eventType = "AssetUnfrozen" then some (.update "assets" [("status", .expression "'ACTIF'")] key)
    else none

/-- This is `_do_process_event`: an error leaves the session without a commit. -/
def processEvent (eventType : String) (payload : List (String × Json)) (tables : Tables Cell) :
    Except StatementError (Tables Cell) := do
  let tables ← server.execute schema tables (insertNetworkEvent documentText eventType payload)
  match assetStatement eventType payload with
  | some statement => server.execute schema tables statement
  | none => return tables

/-- The last event of a call is a document, whose members are the payload. -/
def payloadMembers : EventPayload → List (String × Json)
  | .document (.object members) => members
  | _ => []

def processEvents (events : List (String × EventPayload)) (tables : Tables Cell) :
    Except StatementError (Tables Cell) :=
  events.foldlM (fun tables event => processEvent server documentText event.1 (payloadMembers event.2) tables) tables

end Handler

section Simulation

/-- The row has the status, the value and the owner of the asset. -/
structure RowAgrees (emailOf : String → Option String) (row : Row Cell) (asset : FinancialAsset) : Prop where
  status : row "status" = .text asset.status.text
  value : ∃ number : Numeric, row "current_value" = .numeric number ∧ number.toFloat = asset.currentValue
  owner : ∃ id, row "current_owner_id" = .text id ∧ emailOf id = some asset.currentOwner

def findRow (tables : Tables Cell) (assetID : String) : Option (Row Cell) :=
  (tables "assets").find? fun row => row "asset_id" == .text assetID

/-- Both stores hold the asset and agree on it, or neither holds it. -/
def InStep (emailOf : String → Option String) (assetID : String) (ledger : Ledger) (tables : Tables Cell) : Prop :=
  Option.Rel (RowAgrees emailOf) (findRow tables assetID) (ledger.find assetID)

variable (server : Server Cell) (documentText : Json → String) (emailOf : String → Option String) (assetID : String)

/-- Every event of the calls is processed, leaves one row and brings the asset's row up to date. -/
def KeepsInStep (ledger : Ledger) (calls : List Call) (tables : Tables Cell) : Prop :=
  ∃ after, processEvents server documentText (ledger.emitted calls) tables = .ok after ∧
    (after "network_events").length = (tables "network_events").length + (ledger.emitted calls).length ∧
    InStep emailOf assetID (ledger.run calls) after

variable {server documentText emailOf assetID}

/-- The table of the events has no column `event_type`. -/
theorem processEvent_fails (eventType : String) (payload : List (String × Json)) (tables after : Tables Cell) :
    processEvent server documentText eventType payload tables ≠ .ok after := by
  intro processed
  simp only [processEvent, bind_eq_ok] at processed
  obtain ⟨inserted, executed, _⟩ := processed
  obtain ⟨table, found, declared⟩ := Server.declared_of_execute executed
  obtain rfl : networkEventsTable = table := Except.ok.inj found
  have column := declared "event_type" List.mem_cons_self
  revert column
  decide +kernel

theorem processEvents_fails (event : String × EventPayload) (later : List (String × EventPayload))
    (tables after : Tables Cell) : processEvents server documentText (event :: later) tables ≠ .ok after := by
  intro processed
  rw [processEvents, List.foldlM_cons, bind_eq_ok] at processed
  obtain ⟨middle, first, _⟩ := processed
  exact processEvent_fails _ _ _ _ first

/-- Whatever the stores hold, they stay in step exactly when the calls emit nothing. -/
theorem keepsInStep_iff (ledger : Ledger) (calls : List Call) (tables : Tables Cell)
    (inStep : InStep emailOf assetID ledger tables) :
    KeepsInStep server documentText emailOf assetID ledger calls tables ↔ ledger.emitted calls = [] := by
  constructor
  · rintro ⟨after, processed, _⟩
    cases events : ledger.emitted calls with
    | nil => rfl
    | cons event later =>
        rw [events] at processed
        exact absurd processed (processEvents_fails event later tables after)
  · intro silent
    refine ⟨tables, ?_, ?_, ?_⟩
    · rw [silent]
      rfl
    · rw [silent]
      rfl
    · rwa [Ledger.run_of_silent silent]

end Simulation

section Samples

def ownerID : String := "11111111-1111-4111-8111-111111111111"

/-- Texts, numbers and counters are converted as their columns ask, and no other value is sent. -/
def sampleServer : Server Cell where
  null := .null
  encode
    | "BIGINT", .integer value => .ok (.integer value)
    | "NUMERIC(20,4)", .number value => .ok (.numeric ⟨decimalUnits value 4⟩)
    | "NUMERIC(20,4)", .integer value => .ok (.numeric ⟨value * 10000⟩)
    | "BIGINT", _ => .error "an integer is required"
    | "NUMERIC(20,4)", _ => .error "a decimal is required"
    | _, .string text => .ok (.text text)
    | _, _ => .error "expected str"
  evaluate
    | "FALSE" => .boolean false
    | "0" => .integer 0
    | "'GELE'" => .text "GELE"
    | "'ACTIF'" => .text "ACTIF"
    | expression => .text expression

def agreeingRow : Row Cell
  | "asset_id" => .text "RWA-BANK-BOND-2026-001"
  | "status" => .text "ACTIF"
  | "current_value" => .numeric ⟨1200000⟩
  | "current_owner_id" => .text ownerID
  | _ => .null

def agreeingTables : Tables Cell
  | "assets" => [agreeingRow]
  | _ => []

/-- The insertion of the compliance task names the columns of the table. -/
example : ((sampleServer.execute schema agreeingTables (.insert "network_events" [
    ("event_name", .bound (.string "KYC_EXPIRY_WARNING")), ("chaincode_name", .bound (.string "rwa-token")),
    ("fabric_tx_id", .bound (.string "N/A")), ("fabric_block_number", .bound (.integer 0)),
    ("payload", .bound (.string "null"))])).map fun tables => (tables "network_events").length) = .ok 1 := by
  decide +kernel

def emailOfOwner (id : String) : Option String := if id = ownerID then some "alice@bank01.com" else none

def agreeingLedger : Ledger := Ledger.empty.run (Chaincode.frozenSale.take 2)

theorem agreeingTables_inStep : InStep emailOfOwner "RWA-BANK-BOND-2026-001" agreeingLedger agreeingTables := by
  have seen : (agreeingLedger.find "RWA-BANK-BOND-2026-001").map
      (fun asset => (asset.status.text, asset.currentValue, asset.currentOwner)) =
        some ("ACTIF", 120.0, "alice@bank01.com") := by decide +kernel
  obtain ⟨asset, found, fields⟩ := Option.map_eq_some_iff.mp seen
  obtain ⟨status, rest⟩ := Prod.mk.inj fields
  obtain ⟨value, owner⟩ := Prod.mk.inj rest
  have row : findRow agreeingTables "RWA-BANK-BOND-2026-001" = some agreeingRow := rfl
  rw [InStep, row, found]
  refine .some ⟨by rw [status]; rfl, ⟨⟨1200000⟩, rfl, ?_⟩, ⟨ownerID, rfl, ?_⟩⟩
  · rw [value]
    decide +kernel
  · rw [owner]
    decide

theorem freeze_keepsInStep_iff :
    KeepsInStep sampleServer (dumps toString) emailOfOwner "RWA-BANK-BOND-2026-001" agreeingLedger
        (Chaincode.frozenSale.drop 2) agreeingTables ↔
      agreeingLedger.emitted (Chaincode.frozenSale.drop 2) = [] :=
  keepsInStep_iff agreeingLedger _ agreeingTables agreeingTables_inStep

/-- The regulator freezes a bond that both stores hold, and the event of the freeze cannot be stored. -/
theorem freeze_out_of_step :
    InStep emailOfOwner "RWA-BANK-BOND-2026-001" agreeingLedger agreeingTables ∧
    (agreeingLedger.emitted (Chaincode.frozenSale.drop 2)).map Prod.fst = ["AssetFrozen"] ∧
    ¬ KeepsInStep sampleServer (dumps toString) emailOfOwner "RWA-BANK-BOND-2026-001" agreeingLedger
      (Chaincode.frozenSale.drop 2) agreeingTables := by
  have names : (agreeingLedger.emitted (Chaincode.frozenSale.drop 2)).map Prod.fst = ["AssetFrozen"] := by
    decide +kernel
  refine ⟨agreeingTables_inStep, names, ?_⟩
  rintro ⟨after, processed, _⟩
  cases events : agreeingLedger.emitted (Chaincode.frozenSale.drop 2) with
  | nil =>
      rw [events] at names
      cases names
  | cons event later =>
      rw [events] at processed
      exact processEvents_fails _ _ _ _ processed

end Samples

end Pxtly.Assets
