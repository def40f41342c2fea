/-
This file gives the rows of the database, what a commit does to them, and the reading of UUIDs.
-/

import Pxtly.Assets.Schemas
import Pxtly.Chaincode.Models
import Pxtly.Foundation.Python

namespace Pxtly.Assets

open Foundation
open Chaincode (AssetStatus statusActif statusGele zeroTime)

/-- A canonical UUID has 36 characters. -/
structure Uuid where
  text : String
  canonical : text.length = 36
  deriving DecidableEq

/-- A column of type `NUMERIC(20,4)` counts ten-thousandths. -/
structure Numeric where
  units : Int
  deriving DecidableEq, Repr

/-- The database rounds a half away from zero. -/
def Numeric.round (decimal : PositiveDecimal) : Numeric :=
  let shift := decimal.exponent + 4
  if 0 ≤ shift then ⟨decimal.coefficient * 10 ^ shift.toNat⟩
  else ⟨(2 * decimal.coefficient + 10 ^ (-shift).toNat) / (2 * 10 ^ (-shift).toNat)⟩

/-- Python compares decimals as numbers. -/
def Numeric.equals (number : Numeric) (decimal : PositiveDecimal) : Bool :=
  let shift := decimal.exponent + 4
  if 0 ≤ shift then number.units == decimal.coefficient * 10 ^ shift.toNat
  else number.units * 10 ^ (-shift).toNat == decimal.coefficient

def Numeric.toFloat (number : Numeric) : Float :=
  let magnitude := Float.ofScientific number.units.natAbs true 4
  if number.units < 0 then -magnitude else magnitude

structure Organization where
  id : Uuid
  lei : String

structure User where
  id : Uuid
  orgID : Uuid
  email : String
  firstName : Option String
  lastName : Option String

structure AssetRow where
  id : Uuid
  assetID : String
  isin : Option String
  assetType : String
  assetName : String
  issuerOrgID : Uuid
  currentOwnerID : Option Uuid
  nominalValue : Numeric
  currentValue : Numeric
  currency : String
  status : AssetStatus
  issuanceDate : Date
  fabricTxID : Option PyText
  fabricBlockNumber : Option PyInt
  updatedAt : Time

structure NewAsset where
  assetID : String
  isin : String
  assetType : String
  assetName : String
  issuerOrgID : Uuid
  currentOwnerID : Uuid
  nominalValue : PositiveDecimal
  currentValue : PositiveDecimal
  currency : String
  status : AssetStatus
  issuanceDate : Date
  fabricTxID : PyText
  fabricBlockNumber : Option PyInt

structure TransactionRow where
  txRef : String
  fabricTxID : PyText
  fabricBlockNumber : Option PyInt
  txType : String
  assetID : Uuid
  initiatorID : Option Uuid
  fromOwnerID : Option Uuid := none
  toOwnerID : Option Uuid := none
  amount : Numeric
  settlementDate : Time
  regulatoryFlag : Bool
  justification : String

/-- An operation assigns some columns of a loaded row. -/
structure AssetUpdate where
  currentOwnerID : Option Uuid := none
  currentValue : Option PositiveDecimal := none
  status : Option AssetStatus := none
  fabricTxID : PyText
  fabricBlockNumber : Option PyInt

/-- A commit inserts a new asset, or updates a loaded one and inserts a transaction. -/
inductive UnitOfWork where
  | insert (asset : NewAsset)
  | update (loaded : AssetRow) (update : AssetUpdate) (transaction : TransactionRow)

/-- The session leaves a column out of the statement when its new value equals the loaded one. -/
def AssetUpdate.writesOwner (update : AssetUpdate) (loaded : AssetRow) : Option Uuid :=
  update.currentOwnerID.filter fun owner => loaded.currentOwnerID ≠ some owner

def AssetUpdate.writesValue (update : AssetUpdate) (loaded : AssetRow) : Option PositiveDecimal :=
  update.currentValue.filter fun value => !loaded.currentValue.equals value

def AssetUpdate.writesStatus (update : AssetUpdate) (loaded : AssetRow) : Option AssetStatus :=
  update.status.filter fun status => loaded.status ≠ status

/-- The statement changes the current row, which may differ from the loaded one. -/
-- The texts of the two Fabric columns have no comparison here, so both count as written.
def AssetUpdate.apply (update : AssetUpdate) (loaded current : AssetRow) : AssetRow :=
  { current with
    currentOwnerID := ((update.writesOwner loaded).map some).getD current.currentOwnerID
    currentValue := ((update.writesValue loaded).map Numeric.round).getD current.currentValue
    status := (update.writesStatus loaded).getD current.status
    fabricTxID := some update.fabricTxID
    fabricBlockNumber := update.fabricBlockNumber }

/-- A column that had its new value when the row was loaded has it still. -/
structure AssetUpdate.Current (update : AssetUpdate) (loaded current : AssetRow) : Prop where
  owner : ∀ owner, update.currentOwnerID = some owner → loaded.currentOwnerID = some owner →
    current.currentOwnerID = some owner
  value : ∀ value, update.currentValue = some value → loaded.currentValue.equals value = true →
    current.currentValue = .round value
  status : ∀ status, update.status = some status → loaded.status = status → current.status = status

/-- A value that is left out may as well be written when the current one equals it. -/
theorem getD_map_filter {A B : Type} (given : Option A) (written : A → Bool) (column : A → B) (current : B)
    (stays : ∀ value, given = some value → written value = false → current = column value) :
    ((given.filter written).map column).getD current = (given.map column).getD current := by
  cases given with
  | none => rfl
  | some value =>
      cases kept : written value with
      | true => simp [Option.filter, kept]
      | false => simp [Option.filter, kept, stays value rfl kept]

/-- An update that stays current writes its columns, whatever its statement leaves out. -/
theorem AssetUpdate.apply_owner {update : AssetUpdate} {loaded current : AssetRow}
    (stays : update.Current loaded current) :
    (update.apply loaded current).currentOwnerID =
      (update.currentOwnerID.map some).getD current.currentOwnerID := by
  apply getD_map_filter
  intro owner given same
  exact stays.owner owner given (by simpa using same)

theorem AssetUpdate.apply_value {update : AssetUpdate} {loaded current : AssetRow}
    (stays : update.Current loaded current) :
    (update.apply loaded current).currentValue =
      (update.currentValue.map Numeric.round).getD current.currentValue := by
  apply getD_map_filter
  intro value given same
  exact stays.value value given (by simpa using same)

theorem AssetUpdate.apply_status {update : AssetUpdate} {loaded current : AssetRow}
    (stays : update.Current loaded current) :
    (update.apply loaded current).status = update.status.getD current.status := by
  have column := getD_map_filter update.status (fun status => decide (loaded.status ≠ status)) id
    current.status fun status given same => stays.status status given (by simpa using same)
  simpa [apply, writesStatus] using column

structure AssetResponse where
  assetID : String
  isin : Option String
  assetType : String
  assetName : String
  issuerOrgID : String
  currentOwnerID : String
  nominalValue : Numeric
  currentValue : Numeric
  currency : String
  status : AssetStatus
  issuanceDate : Date
  fabricTxID : Option PyText
  fabricBlockNumber : Option PyInt

/-- This is `AssetResponse.model_validate`; a missing owner becomes the text of `None`. -/
def AssetRow.response (row : AssetRow) : AssetResponse where
  assetID := row.assetID
  isin := row.isin
  assetType := row.assetType
  assetName := row.assetName
  issuerOrgID := row.issuerOrgID.text
  currentOwnerID := (row.currentOwnerID.map Uuid.text).getD "None"
  nominalValue := row.nominalValue
  currentValue := row.currentValue
  currency := row.currency
  status := row.status
  issuanceDate := row.issuanceDate
  fabricTxID := row.fabricTxID
  fabricBlockNumber := row.fabricBlockNumber

def bondUuid : Uuid := ⟨"11111111-1111-4111-8111-111111111111", by decide⟩

def bondRow : AssetRow where
  id := bondUuid
  assetID := "RWA-BANK-BOND-2026-001"
  isin := some "FR0000000001"
  assetType := "OBLIGATION"
  assetName := "Bond 2026"
  issuerOrgID := bondUuid
  currentOwnerID := some bondUuid
  nominalValue := ⟨1000000⟩
  currentValue := ⟨1000000⟩
  currency := "EUR"
  status := statusActif
  issuanceDate := ⟨2026, 1, 1, zeroTime.monthRange, by decide⟩
  fabricTxID := none
  fabricBlockNumber := none
  updatedAt := zeroTime

def bondUser : User where
  id := bondUuid
  orgID := bondUuid
  email := "alice@bank01.com"
  firstName := none
  lastName := none

section Uuids

theorem length_hexDigits (bytes : Bytes) : (hexDigits bytes).length = 2 * bytes.length := by
  induction bytes with
  | nil => rfl
  | cons byte bytes inductionHypothesis =>
      simp only [hexDigits, List.length_cons, inductionHypothesis]
      omega

/-- The groups of a canonical text have 8, 4, 4, 4 and 12 digits. -/
def dashed (digits : List Char) : List Char :=
  digits.take 8 ++ '-' :: (digits.drop 8).take 4 ++ '-' :: (digits.drop 12).take 4 ++
    '-' :: (digits.drop 16).take 4 ++ '-' :: digits.drop 20

theorem length_dashed {digits : List Char} (full : digits.length = 32) : (dashed digits).length = 36 := by
  simp [dashed, full]

def Uuid.ofNat (value : Nat) : Uuid where
  text := String.ofList (dashed (hexDigits (bigEndian 16 value)))
  canonical := by
    rw [String.length_ofList]
    exact length_dashed (by rw [length_hexDigits, length_bigEndian])

/-- This is `text.replace(pattern, "")`; the number counts the characters of a match that are still to be left out. -/
def removeText (pattern : List Char) : Nat → List Char → List Char
  | _, [] => []
  | skip + 1, _ :: rest => removeText pattern skip rest
  | 0, c :: rest =>
      if pattern.isPrefixOf (c :: rest) then removeText pattern (pattern.length - 1) rest
      else c :: removeText pattern 0 rest

def isBrace (c : Char) : Bool := c.toNat = 123 || c.toNat = 125

/-- This is `uuid.UUID(text)`; it raises an error where the result is missing. -/
def Uuid.read (text : String) : Option Uuid := do
  let plain := removeText "uuid:".toList 0 (removeText "urn:".toList 0 text.toList)
  let stripped := ((plain.dropWhile isBrace).reverse.dropWhile isBrace).reverse
  let digits := removeText ['-'] 0 stripped
  if digits.length ≠ 32 then none
  else
    let value ← int16 (String.ofList digits)
    if 0 ≤ value then some (.ofNat value.toNat) else none

example : Uuid.read bondUuid.text = some bondUuid := by decide +kernel

end Uuids

end Pxtly.Assets
