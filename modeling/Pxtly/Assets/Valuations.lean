/-
This file gives the valuations of an asset, and when its current value is the one of the latest valuation.
-/

import Mathlib.Data.Prod.Lex
import Pxtly.Assets.Models
import Pxtly.Assets.Validation
import Pxtly.Foundation.StampedLogs

namespace Pxtly.Assets

open Foundation

section Columns

/-- A decimal is counted in units of a last place, and a half is rounded away from zero. -/
def roundAway (coefficient : Nat) (shift : Int) : Nat :=
  if 0 ≤ shift then coefficient * 10 ^ shift.toNat
  else (2 * coefficient + 10 ^ (-shift).toNat) / (2 * 10 ^ (-shift).toNat)

/-- A column of type `NUMERIC(precision,scale)` counts units, and it refuses a number with too many digits. -/
def SignedDecimal.column (precision scale : Nat) (decimal : SignedDecimal) : Option Int :=
  let units := roundAway decimal.coefficient.natAbs (decimal.exponent + scale)
  if units < 10 ^ precision then some (decimal.coefficient.sign * units) else none

/-- A missing value is stored as it is. -/
def optionalColumn (precision scale : Nat) : Option SignedDecimal → Option (Option Int)
  | none => some none
  | some decimal => (decimal.column precision scale).map some

/-- A column of type `VARCHAR(size)` refuses a longer text. -/
def textColumn (size : Nat) : Option String → Option (Option String)
  | none => some none
  | some text => if text.length ≤ size then some (some text) else none

/-- Dates are compared by their years, months and days. -/
def dateStamp (date : Date) : Int := date.year * 372 + date.month * 31 + date.day

theorem dateStamp_injective : Function.Injective dateStamp := by
  intro first second same
  obtain ⟨year, month, day, monthRange, dayRange⟩ := first
  obtain ⟨otherYear, otherMonth, otherDay, otherMonthRange, otherDayRange⟩ := second
  have short := daysIn_le month year
  have otherShort := daysIn_le otherMonth otherYear
  simp only [dateStamp] at same
  obtain rfl : year = otherYear := by omega
  obtain rfl : month = otherMonth := by omega
  obtain rfl : day = otherDay := by omega
  rfl

/-- Times are compared by their dates and clocks. -/
def timeStamp (time : Time) : Int :=
  ((dateStamp time.toDate * 24 + time.hour) * 60 + time.minute) * 60000000000 +
    (time.second * 1000000000 + time.nanosecond)

end Columns

section Schema

/-- The net asset value counts millionths, and the other figures count units of their own columns. -/
structure ValuationRow where
  assetID : Uuid
  valuationDate : Date
  nav : Int
  navCurrency : String
  yieldToMaturity : Option Int
  duration : Option Int
  convexity : Option Int
  creditSpreadBps : Option Int
  valuationMethod : Option String
  pricingSource : Option String
  validatedBy : Option Uuid
  createdAt : Time
  deriving DecidableEq

structure ValuedAsset extends AssetRow where
  lastValuationDate : Option Date

/-- An asset has one row, and one valuation for each date. -/
structure ValuationTables where
  assets : List ValuedAsset
  valuations : List ValuationRow
  users : List User
  assetKey : (assets.map fun asset => asset.assetID).Nodup
  primaryKey : (assets.map fun asset => asset.id).Nodup
  dated : (valuations.map fun row => (row.assetID, row.valuationDate)).Nodup

def ValuationTables.find (tables : ValuationTables) (assetID : String) : Option ValuedAsset :=
  tables.assets.find? fun asset => asset.assetID = assetID

def ValuationTables.ofAsset (tables : ValuationTables) (id : Uuid) : List ValuationRow :=
  tables.valuations.filter fun row => row.assetID = id

end Schema

section Service

/-- These are the arguments of a call, with the day and the time that its clock shows. -/
structure ValuationCall where
  currentValue : SignedDecimal
  yieldToMaturity : Option SignedDecimal := none
  duration : Option SignedDecimal := none
  convexity : Option SignedDecimal := none
  creditSpreadBps : Option SignedDecimal := none
  pricingSource : Option String := none
  valuationDate : Option Date := none
  today : Date
  now : Time

/-- `valuation_date or date.today()` -/
def ValuationCall.date (call : ValuationCall) : Date := call.valuationDate.getD call.today

/-- The row is missing where a column refuses its value. -/
def ValuationCall.row (call : ValuationCall) (assetID : Uuid) : Option ValuationRow := do
  let nav ← call.currentValue.column 20 6
  let yieldToMaturity ← optionalColumn 8 6 call.yieldToMaturity
  let duration ← optionalColumn 8 4 call.duration
  let convexity ← optionalColumn 10 6 call.convexity
  let creditSpreadBps ← optionalColumn 8 2 call.creditSpreadBps
  let pricingSource ← textColumn 100 call.pricingSource
  return {
    assetID, valuationDate := call.date, nav, navCurrency := "EUR", yieldToMaturity, duration, convexity
    creditSpreadBps, valuationMethod := none, pricingSource, validatedBy := none, createdAt := call.now }

inductive ValuationError where
  | valueError (message : String)
  | databaseError
  deriving DecidableEq

/-- A statement sets the value of one asset and the time of its last change, and the trigger sets the date as well. -/
def ValuedAsset.revalued (id : Uuid) (value : Numeric) (dated : Option Date) (now : Time) (asset : ValuedAsset) :
    ValuedAsset :=
  if asset.id = id then
    { asset with currentValue := value, lastValuationDate := dated.or asset.lastValuationDate, updatedAt := now }
  else asset

@[simp] theorem ValuedAsset.assetID_revalued (id : Uuid) (value : Numeric) (dated : Option Date) (now : Time)
    (asset : ValuedAsset) : (asset.revalued id value dated now).assetID = asset.assetID := by
  unfold ValuedAsset.revalued
  split <;> rfl

@[simp] theorem ValuedAsset.id_revalued (id : Uuid) (value : Numeric) (dated : Option Date) (now : Time)
    (asset : ValuedAsset) : (asset.revalued id value dated now).id = asset.id := by
  unfold ValuedAsset.revalued
  split <;> rfl

def ValuationTables.revalue (tables : ValuationTables) (id : Uuid) (value : Numeric) (dated : Option Date)
    (now : Time) : ValuationTables :=
  { tables with
    assets := tables.assets.map (ValuedAsset.revalued id value dated now)
    assetKey := by
      rw [List.map_map]
      simpa only [Function.comp_def, ValuedAsset.assetID_revalued] using tables.assetKey
    primaryKey := by
      rw [List.map_map]
      simpa only [Function.comp_def, ValuedAsset.id_revalued] using tables.primaryKey }

/-- A valuation is new where the asset has none for its date. -/
def ValuationTables.Fresh (tables : ValuationTables) (row : ValuationRow) : Prop :=
  (row.assetID, row.valuationDate) ∉ tables.valuations.map fun row => (row.assetID, row.valuationDate)

instance (tables : ValuationTables) (row : ValuationRow) : Decidable (tables.Fresh row) :=
  inferInstanceAs (Decidable (_ ∉ _))

def ValuationTables.append (tables : ValuationTables) (row : ValuationRow) (fresh : tables.Fresh row) :
    ValuationTables :=
  { tables with
    valuations := tables.valuations ++ [row]
    dated := by
      rw [List.map_append, List.map_singleton, List.nodup_append]
      refine ⟨tables.dated, List.nodup_singleton _, fun key member last one => ?_⟩
      rw [List.mem_singleton.mp one]
      exact fun same => fresh (same ▸ member) }

/-- The table holds one valuation of an asset for each date. -/
def ValuationTables.insert (tables : ValuationTables) (row : ValuationRow) : Option ValuationTables :=
  if fresh : tables.Fresh row then some (tables.append row fresh) else none

/-- The commit writes the asset first; the trigger behind the new valuation writes it once more. -/
def ValuationTables.commit (tables : ValuationTables) (asset : ValuedAsset) (call : ValuationCall) :
    Option (ValuationRow × ValuationTables) := do
  let assigned ← call.currentValue.column 20 4
  let updated := tables.revalue asset.id ⟨assigned⟩ none call.now
  let row ← call.row asset.id
  let inserted ← updated.insert row
  let refreshed ← SignedDecimal.column 20 4 ⟨row.nav, -6⟩
  return (row, inserted.revalue asset.id ⟨refreshed⟩ (some row.valuationDate) call.now)

/-- This is `record_valuation`; a commit that is refused leaves the tables as they were. -/
def recordValuation (tables : ValuationTables) (assetID : String) (call : ValuationCall) :
    Except ValuationError ValuationRow × ValuationTables :=
  match tables.find assetID with
  | none => (.error (.valueError s!"Actif {assetID} introuvable pour la valorisation."), tables)
  | some asset =>
      match tables.commit asset call with
      | none => (.error .databaseError, tables)
      | some (row, later) => (.ok row, later)

def historyStamp (row : ValuationRow) : Int ×ₗ Int := toLex (dateStamp row.valuationDate, timeStamp row.createdAt)

/-- This is `get_history`. -/
def getHistory (tables : ValuationTables) (assetID : String) : List ValuationRow :=
  match tables.find assetID with
  | none => []
  | some asset => newestFirst historyStamp (tables.ofAsset asset.id)

/-- This is a row of the view `v_valuation_latest`. -/
structure LatestValuation where
  assetID : String
  assetName : String
  isin : Option String
  assetType : String
  currency : String
  valuationDate : Date
  nav : Int
  yieldToMaturity : Option Int
  duration : Option Int
  convexity : Option Int
  creditSpreadBps : Option Int
  valuationMethod : Option String
  pricingSource : Option String
  validatedByName : String

/-- `CONCAT(u.first_name, ' ', u.last_name)` of a user who may be missing -/
def validatedByName (users : List User) (validatedBy : Option Uuid) : String :=
  let user := validatedBy.bind fun id => users.find? fun user => user.id = id
  ((user.bind User.firstName).getD "") ++ " " ++ ((user.bind User.lastName).getD "")

def rowDate (row : ValuationRow) : Int := dateStamp row.valuationDate

def ValuationTables.latest (tables : ValuationTables) (asset : ValuedAsset) : Option LatestValuation :=
  (newestFirst rowDate (tables.ofAsset asset.id)).head?.map fun row => {
    assetID := asset.assetID, assetName := asset.assetName, isin := asset.isin, assetType := asset.assetType
    currency := asset.currency, valuationDate := row.valuationDate, nav := row.nav
    yieldToMaturity := row.yieldToMaturity, duration := row.duration, convexity := row.convexity
    creditSpreadBps := row.creditSpreadBps, valuationMethod := row.valuationMethod, pricingSource := row.pricingSource
    validatedByName := validatedByName tables.users row.validatedBy }

/-- This is the view `v_valuation_latest`, but for the order of its rows. -/
def valuationLatest (tables : ValuationTables) : List LatestValuation := tables.assets.filterMap tables.latest

end Service

section Rounding

/-- More places hold at least as many units. -/
theorem roundAway_le (coefficient : Nat) (shift : Int) :
    roundAway coefficient shift ≤ roundAway coefficient (shift + 2) := by
  unfold roundAway
  by_cases whole : 0 ≤ shift
  · obtain ⟨amount, rfl⟩ := Int.eq_ofNat_of_zero_le whole
    rw [if_pos whole, if_pos (by omega), show ((amount : Int) + 2).toNat = amount + 2 by omega, Int.toNat_natCast]
    exact Nat.mul_le_mul_left _ (Nat.pow_le_pow_right (by decide) (by omega))
  · rw [if_neg whole]
    by_cases last : shift = -1
    · subst last
      show (2 * coefficient + 10 ^ 1) / (2 * 10 ^ 1) ≤ coefficient * 10 ^ 1
      omega
    · by_cases two : shift = -2
      · subst two
        show (2 * coefficient + 10 ^ 2) / (2 * 10 ^ 2) ≤ coefficient * 10 ^ 0
        omega
      · obtain ⟨amount, rfl⟩ : ∃ amount : Nat, shift = -(amount + 2 : Nat) := ⟨(-shift - 2).toNat, by omega⟩
        rw [if_neg (by omega), show (-(-((amount + 2 : Nat) : Int))).toNat = amount + 2 by omega,
          show (-(-((amount + 2 : Nat) : Int) + 2)).toNat = amount by omega, Nat.pow_add]
        have positive : 0 < 10 ^ amount := Nat.pow_pos (by decide)
        generalize 10 ^ amount = scale at positive ⊢
        have below := Nat.lt_mul_div_succ (2 * coefficient + scale) (show 0 < 2 * scale by omega)
        generalize (2 * coefficient + scale) / (2 * scale) = quotient at below ⊢
        refine Nat.le_of_lt_succ ((Nat.div_lt_iff_lt_mul (by omega)).mpr ?_)
        have grown : 2 * scale * (quotient + 1) ≤ 200 * scale * quotient + 2 * scale := by
          have product : scale * quotient ≤ 100 * (scale * quotient) := by omega
          calc 2 * scale * (quotient + 1) = 2 * (scale * quotient) + 2 * scale := by ring
            _ ≤ 200 * (scale * quotient) + 2 * scale := by omega
            _ = 200 * scale * quotient + 2 * scale := by ring
        calc 2 * coefficient + scale * 10 ^ 2 < 200 * scale * quotient + 200 * scale := by omega
          _ = (quotient + 1) * (2 * (scale * 10 ^ 2)) := by ring

theorem natAbs_of_column {precision scale : Nat} {decimal : SignedDecimal} {units : Int}
    (fits : decimal.column precision scale = some units) : units.natAbs < 10 ^ precision := by
  unfold SignedDecimal.column at fits
  simp only at fits
  split at fits
  next small =>
    obtain rfl := Option.some.inj fits
    rw [Int.natAbs_mul, Int.natAbs_natCast]
    rcases Int.sign_trichotomy decimal.coefficient with sign | sign | sign
    · rw [sign]
      simpa using small
    · rw [sign]
      simp
    · rw [sign]
      simpa using small
  next => cases fits

/-- What fits the column of the net asset value also fits the one of the current value. -/
theorem column_of_nav {decimal : SignedDecimal} {nav : Int} (fits : decimal.column 20 6 = some nav) :
    ∃ units, decimal.column 20 4 = some units := by
  unfold SignedDecimal.column at fits ⊢
  simp only at fits ⊢
  have fewer := roundAway_le decimal.coefficient.natAbs (decimal.exponent + (4 : Nat))
  rw [show decimal.exponent + ((4 : Nat) : Int) + 2 = decimal.exponent + ((6 : Nat) : Int) by omega] at fewer
  split at fits
  next small =>
    rw [if_pos (fewer.trans_lt small)]
    exact ⟨_, rfl⟩
  next => cases fits

/-- This is the current value that the trigger sets: the net asset value with four places. -/
def ValuationRow.value (row : ValuationRow) : Numeric := ⟨row.nav.sign * roundAway row.nav.natAbs (-2)⟩

theorem column_refreshed {nav : Int} (small : nav.natAbs < 10 ^ 20) :
    SignedDecimal.column 20 4 ⟨nav, -6⟩ = some (nav.sign * roundAway nav.natAbs (-2)) := by
  have fits : roundAway nav.natAbs (-2) < 10 ^ 20 :=
    (roundAway_le nav.natAbs (-2)).trans_lt (by
      show nav.natAbs * 1 < 10 ^ 20
      rwa [Nat.mul_one])
  exact if_pos fits

end Rounding

section Calls

variable {tables : ValuationTables} {assetID : String} {asset : ValuedAsset}

theorem nav_of_row {call : ValuationCall} {id : Uuid} {row : ValuationRow} (given : call.row id = some row) :
    call.currentValue.column 20 6 = some row.nav ∧ row.assetID = id ∧ row.valuationDate = call.date := by
  unfold ValuationCall.row at given
  simp only [Option.bind_eq_bind, Option.bind_eq_some_iff] at given
  obtain ⟨nav, fits, _, _, _, _, _, _, _, _, _, _, same⟩ := given
  obtain rfl := Option.some.inj same
  exact ⟨fits, rfl, rfl⟩

theorem find_revalue (tables : ValuationTables) (id : Uuid) (value : Numeric) (dated : Option Date) (now : Time) :
    (tables.revalue id value dated now).find assetID = (tables.find assetID).map
      (ValuedAsset.revalued id value dated now) := by
  unfold ValuationTables.find ValuationTables.revalue
  rw [List.find?_map]
  simp only [Function.comp_def, ValuedAsset.assetID_revalued]

/-- What is committed sets the current value. -/
theorem find_of_commit (found : tables.find assetID = some asset) {call : ValuationCall} {row : ValuationRow}
    {later : ValuationTables} (committed : tables.commit asset call = some (row, later)) :
    ∃ changed, later.find assetID = some changed ∧ changed.id = asset.id ∧ changed.currentValue = row.value := by
  unfold ValuationTables.commit at committed
  simp only [Option.bind_eq_bind, Option.bind_eq_some_iff] at committed
  obtain ⟨assigned, _, other, given, inserted, placed, refreshed, rounded, same⟩ := committed
  obtain ⟨rfl, rfl⟩ := Prod.mk.inj (Option.some.inj same)
  rw [column_refreshed (natAbs_of_column (nav_of_row given).1)] at rounded
  obtain rfl := Option.some.inj rounded
  unfold ValuationTables.insert at placed
  split at placed
  next fresh =>
    obtain rfl := Option.some.inj placed
    have kept : ((tables.revalue asset.id ⟨assigned⟩ none call.now).append other fresh).find assetID =
        (tables.revalue asset.id ⟨assigned⟩ none call.now).find assetID := rfl
    rw [find_revalue, kept, find_revalue, found]
    refine ⟨_, rfl, by simp, ?_⟩
    simp [ValuedAsset.revalued, ValuationRow.value]
  next => cases placed

/-- A call records its valuation and sets the current value, unless a column refuses one of its figures. -/
theorem recordValuation_eq (found : tables.find assetID = some asset) {call : ValuationCall}
    (fresh : call.date ∉ (tables.ofAsset asset.id).map ValuationRow.valuationDate) :
    ∃ later, (recordValuation tables assetID call).2.find assetID = some later ∧ later.id = asset.id ∧
      later.currentValue = ((call.row asset.id).map ValuationRow.value).getD asset.currentValue ∧
      (recordValuation tables assetID call).2.ofAsset asset.id =
        tables.ofAsset asset.id ++ (call.row asset.id).toList := by
  unfold recordValuation
  rw [found]
  cases given : call.row asset.id with
  | none =>
      have refused : tables.commit asset call = none := by
        unfold ValuationTables.commit
        rw [given]
        cases call.currentValue.column 20 4 <;> rfl
      simp only [refused]
      exact ⟨asset, found, rfl, rfl, by simp⟩
  | some row =>
      obtain ⟨fits, owner, dated⟩ := nav_of_row given
      obtain ⟨assigned, written⟩ := column_of_nav fits
      have absent : (tables.revalue asset.id ⟨assigned⟩ none call.now).Fresh row := by
        unfold ValuationTables.Fresh
        rw [owner, dated]
        intro member
        obtain ⟨other, listed, same⟩ := List.mem_map.mp member
        obtain ⟨sameAsset, sameDate⟩ := Prod.mk.inj same
        exact fresh (List.mem_map.mpr ⟨other, List.mem_filter.mpr ⟨listed, by simpa using sameAsset⟩, sameDate⟩)
      have committed : tables.commit asset call = some (row, ((tables.revalue asset.id ⟨assigned⟩ none call.now).append
          row absent).revalue asset.id row.value (some row.valuationDate) call.now) := by
        unfold ValuationTables.commit
        rw [written, given]
        simp only [Option.bind_eq_bind, Option.bind_some]
        rw [ValuationTables.insert, dif_pos absent, Option.bind_some, column_refreshed (natAbs_of_column fits)]
        rfl
      have rows : (tables.valuations ++ [row]).filter (fun row => row.assetID = asset.id) =
          tables.ofAsset asset.id ++ [row] := by
        rw [List.filter_append, List.filter_singleton, owner]
        simp [ValuationTables.ofAsset]
      obtain ⟨changed, foundChanged, sameId, value⟩ := find_of_commit found committed
      simp only [committed]
      exact ⟨changed, foundChanged, sameId, value, rows⟩

/-- The calls run one after the other. -/
def runValuations (tables : ValuationTables) (assetID : String) (calls : List ValuationCall) : ValuationTables :=
  calls.foldl (fun tables call => (recordValuation tables assetID call).2) tables

/-- The calls have dates of their own, which no valuation has before. -/
def DatesDiffer (tables : ValuationTables) (asset : ValuedAsset) (calls : List ValuationCall) : Prop :=
  (calls.map ValuationCall.date ++ (tables.ofAsset asset.id).map ValuationRow.valuationDate).Nodup

def ValuationCall.value (asset : ValuedAsset) (call : ValuationCall) : Option Numeric :=
  (call.row asset.id).map ValuationRow.value

/-- The asset keeps every valuation in the order of the calls, and the value of the last one. -/
theorem runValuations_eq (found : tables.find assetID = some asset) {calls : List ValuationCall}
    (distinct : DatesDiffer tables asset calls) :
    ∃ later, (runValuations tables assetID calls).find assetID = some later ∧ later.id = asset.id ∧
      later.currentValue = lastValue (ValuationCall.value asset) asset.currentValue calls ∧
      (runValuations tables assetID calls).ofAsset asset.id =
        tables.ofAsset asset.id ++ calls.filterMap fun call => call.row asset.id := by
  induction calls generalizing tables asset with
  | nil => exact ⟨asset, found, rfl, rfl, by simp [runValuations]⟩
  | cons call calls inductionHypothesis =>
      unfold DatesDiffer at distinct
      rw [List.map_cons, List.cons_append, List.nodup_cons, List.mem_append, not_or] at distinct
      obtain ⟨⟨others, fresh⟩, rest⟩ := distinct
      obtain ⟨middle, foundNext, sameId, value, rows⟩ := recordValuation_eq found fresh
      have next : DatesDiffer (recordValuation tables assetID call).2 middle calls := by
        unfold DatesDiffer
        rw [sameId, rows]
        cases given : call.row asset.id with
        | none => simpa using rest
        | some row =>
            have dated := (nav_of_row given).2.2
            rw [Option.toList_some, List.map_append, List.map_singleton, dated, ← List.append_assoc, List.nodup_append]
            refine ⟨rest, List.nodup_singleton _, fun date member last one => ?_⟩
            rw [List.mem_singleton.mp one]
            rintro rfl
            rcases List.mem_append.mp member with other | old
            · exact others other
            · exact fresh old
      obtain ⟨later, foundLast, laterId, laterValue, laterRows⟩ := inductionHypothesis foundNext next
      refine ⟨later, foundLast, laterId.trans sameId, ?_, ?_⟩
      · rw [laterValue, value]
        have same : ValuationCall.value middle = ValuationCall.value asset := by
          funext call
          rw [ValuationCall.value, ValuationCall.value, sameId]
        rw [same]
        rfl
      · show (runValuations (recordValuation tables assetID call).2 assetID calls).ofAsset asset.id = _
        rw [← sameId, laterRows, sameId, rows, List.append_assoc]
        congr 1
        cases given : call.row asset.id with
        | none => simp only [List.filterMap_cons, given, Option.toList_none, List.nil_append]
        | some row => simp only [List.filterMap_cons, given, Option.toList_some, List.singleton_append]

end Calls

section Latest

variable {tables : ValuationTables} {assetID : String} {asset : ValuedAsset}

theorem rowDates_nodup (tables : ValuationTables) (id : Uuid) : ((tables.ofAsset id).map rowDate).Nodup := by
  have keys : ((tables.ofAsset id).map fun row => (row.assetID, row.valuationDate)).Nodup :=
    tables.dated.sublist (List.filter_sublist.map _)
  refine (List.nodup_map_iff_inj_on keys.of_map).mpr fun first one second two same => ?_
  have owner {row : ValuationRow} (member : row ∈ tables.ofAsset id) : row.assetID = id := by
    simpa using (List.mem_filter.mp member).2
  refine List.inj_on_of_nodup_map keys one two ?_
  rw [owner one, owner two, dateStamp_injective same]

/-- The history begins with the valuation of the greatest date. -/
theorem head_getHistory_iff (found : tables.find assetID = some asset) (row : ValuationRow) :
    (getHistory tables assetID).head? = some row ↔ Latest rowDate (tables.ofAsset asset.id) row := by
  have dated {row : ValuationRow} (head : (newestFirst historyStamp (tables.ofAsset asset.id)).head? = some row) :
      Latest rowDate (tables.ofAsset asset.id) row := by
    obtain ⟨member, latest⟩ := latest_of_head head
    exact ⟨member, fun other listed => Prod.Lex.monotone_fst _ _ (latest other listed)⟩
  unfold getHistory
  rw [found]
  constructor
  · exact dated
  · intro latest
    obtain ⟨first, head⟩ := exists_head_of_mem historyStamp latest.1
    obtain rfl := latest.unique (rowDates_nodup tables asset.id) (dated head)
    exact head

theorem latest_eq (tables : ValuationTables) (asset : ValuedAsset) (row : ValuationRow) :
    (newestFirst rowDate (tables.ofAsset asset.id)).head? = some row ↔
      Latest rowDate (tables.ofAsset asset.id) row := by
  constructor
  · exact latest_of_head
  · intro latest
    obtain ⟨first, head⟩ := exists_head_of_mem rowDate latest.1
    obtain rfl := latest.unique (rowDates_nodup tables asset.id) (latest_of_head head)
    exact head

theorem find_eq_some (member : asset ∈ tables.assets) (named : asset.assetID = assetID) :
    tables.find assetID = some asset := by
  cases found : tables.find assetID with
  | none => exact absurd (by simpa using named) (List.find?_eq_none.mp found asset member)
  | some other =>
      have same : other.assetID = assetID := by simpa using List.find?_some found
      rw [List.inj_on_of_nodup_map tables.assetKey (List.mem_of_find?_eq_some found) member (same.trans named.symm)]

/-- The history and the view name the entry of a log with the greatest date. -/
structure LatestAgree (tables : ValuationTables) (assetID : String) (log : List ValuationRow) : Prop where
  history : ∀ row, (getHistory tables assetID).head? = some row ↔ Latest rowDate log row
  viewed : ∀ view ∈ valuationLatest tables, view.assetID = assetID →
    ∃ row, Latest rowDate log row ∧ view.valuationDate = row.valuationDate ∧ view.nav = row.nav
  shown : ∀ row, Latest rowDate log row → ∃ view ∈ valuationLatest tables,
    view.assetID = assetID ∧ view.valuationDate = row.valuationDate ∧ view.nav = row.nav

theorem latestAgree_of_find (found : tables.find assetID = some asset) :
    LatestAgree tables assetID (tables.ofAsset asset.id) where
  history := head_getHistory_iff found
  viewed := by
    intro view member named
    obtain ⟨owner, listed, same⟩ := List.mem_filterMap.mp member
    obtain ⟨row, head, rfl⟩ := Option.map_eq_some_iff.mp same
    obtain rfl := Option.some.inj (found.symm.trans (find_eq_some listed named))
    exact ⟨row, (latest_eq tables asset row).mp head, rfl, rfl⟩
  shown := by
    intro row latest
    refine ⟨_, List.mem_filterMap.mpr ⟨asset, List.mem_of_find?_eq_some found,
      Option.map_eq_some_iff.mpr ⟨row, (latest_eq tables asset row).mpr latest, rfl⟩⟩, ?_, rfl, rfl⟩
    simpa using List.find?_some found

/-- The current value, which has four places, is the net asset value of the first valuation of the history. -/
def CurrentIsLatest (tables : ValuationTables) (assetID : String) : Prop :=
  ∀ asset row, tables.find assetID = some asset → (getHistory tables assetID).head? = some row →
    asset.currentValue.units * 100 = row.nav

/-- The current value does not depend on the order of the calls. -/
def OrderFree (tables : ValuationTables) (assetID : String) (calls : List ValuationCall) : Prop :=
  ∀ other, other.Perm calls → ∀ first second, (runValuations tables assetID other).find assetID = some first →
    (runValuations tables assetID calls).find assetID = some second → first.currentValue = second.currentValue

theorem orderFree_iff (found : tables.find assetID = some asset) {calls : List ValuationCall}
    (distinct : DatesDiffer tables asset calls) :
    OrderFree tables assetID calls ↔ ∀ other, other.Perm calls →
      lastValue (ValuationCall.value asset) asset.currentValue other =
        lastValue (ValuationCall.value asset) asset.currentValue calls := by
  have value {other : List ValuationCall} (order : other.Perm calls) :
      ∃ later, (runValuations tables assetID other).find assetID = some later ∧
        later.currentValue = lastValue (ValuationCall.value asset) asset.currentValue other := by
    have differ : DatesDiffer tables asset other := ((order.map _).append_right _).nodup_iff.mpr distinct
    obtain ⟨later, foundLast, _, same, _⟩ := runValuations_eq found differ
    exact ⟨later, foundLast, same⟩
  obtain ⟨final, foundFinal, finalValue⟩ := value (List.Perm.refl calls)
  constructor
  · intro free other order
    obtain ⟨later, foundLast, laterValue⟩ := value order
    rw [← laterValue, ← finalValue, free other order later final foundLast foundFinal]
  · intro same other order first second foundFirst foundSecond
    obtain ⟨later, foundLast, laterValue⟩ := value order
    obtain rfl := Option.some.inj (foundLast.symm.trans foundFirst)
    obtain rfl := Option.some.inj (foundFinal.symm.trans foundSecond)
    rw [laterValue, finalValue, same other order]

theorem runValuations_agree (found : tables.find assetID = some asset) {calls : List ValuationCall}
    (distinct : DatesDiffer tables asset calls) :
    LatestAgree (runValuations tables assetID calls) assetID
      (tables.ofAsset asset.id ++ calls.filterMap fun call => call.row asset.id) := by
  obtain ⟨later, foundLast, sameId, _, rows⟩ := runValuations_eq found distinct
  have given := latestAgree_of_find foundLast
  rwa [sameId, rows] at given

/-- The current value is the one of the last call that was accepted. -/
theorem currentIsLatest_iff (found : tables.find assetID = some asset) {calls : List ValuationCall}
    (distinct : DatesDiffer tables asset calls) :
    CurrentIsLatest (runValuations tables assetID calls) assetID ↔
      ∀ row, Latest rowDate (tables.ofAsset asset.id ++ calls.filterMap fun call => call.row asset.id) row →
        (lastValue (ValuationCall.value asset) asset.currentValue calls).units * 100 = row.nav := by
  obtain ⟨later, foundLast, _, value, _⟩ := runValuations_eq found distinct
  have agree := runValuations_agree found distinct
  rw [← value]
  constructor
  · intro current row latest
    exact current later row foundLast ((agree.history row).mpr latest)
  · intro same other row foundOther head
    obtain rfl := Option.some.inj (foundLast.symm.trans foundOther)
    exact same row ((agree.history row).mp head)

/-- The history and the view agree after the calls, whereas the current value is the one of the last accepted call. -/
theorem currentValue_laws (found : tables.find assetID = some asset) {calls : List ValuationCall}
    (distinct : DatesDiffer tables asset calls) :
    let final := runValuations tables assetID calls
    let log := tables.ofAsset asset.id ++ calls.filterMap fun call => call.row asset.id
    LatestAgree final assetID log ∧
      (CurrentIsLatest final assetID ↔ ∀ row, Latest rowDate log row →
        (lastValue (ValuationCall.value asset) asset.currentValue calls).units * 100 = row.nav) ∧
      (OrderFree tables assetID calls ↔ ∀ first ∈ calls, ∀ second ∈ calls, ∀ one two,
        first.value asset = some one → second.value asset = some two → one = two) := by
  intro final log
  have free := (orderFree_iff found distinct).trans (lastValue_perm_iff asset.currentValue calls)
  exact ⟨runValuations_agree found distinct, currentIsLatest_iff found distinct, free⟩

end Latest

section Samples

def sampleUuid : Uuid := ⟨"00000000-0000-4000-8000-000000000001", by decide⟩

theorem newYear : 1 ≤ 1 ∧ 1 ≤ daysIn 1 2026 := by decide
theorem secondDay : 1 ≤ 2 ∧ 2 ≤ daysIn 1 2026 := by decide
theorem thirdDay : 1 ≤ 3 ∧ 3 ≤ daysIn 1 2026 := by decide

def sampleTime : Time :=
  ⟨⟨2026, 1, 1, january, newYear⟩, 0, 0, 0, 0, zeroHour, zeroMinute, zeroMinute, zeroNanosecond⟩

def bond : ValuedAsset where
  id := sampleUuid
  assetID := "BOND-1"
  isin := none
  assetType := "OBLIGATION"
  assetName := "Bond"
  issuerOrgID := sampleUuid
  currentOwnerID := none
  nominalValue := ⟨1000000⟩
  currentValue := ⟨1000000⟩
  currency := "EUR"
  status := Chaincode.statusActif
  issuanceDate := ⟨2026, 1, 1, january, newYear⟩
  fabricTxID := none
  fabricBlockNumber := none
  updatedAt := sampleTime
  lastValuationDate := none

def bondTables : ValuationTables where
  assets := [bond]
  valuations := []
  users := []
  assetKey := List.nodup_singleton _
  primaryKey := List.nodup_singleton _
  dated := List.nodup_nil

def bondCall (value : Int) (date : Date) : ValuationCall where
  currentValue := ⟨value, 0⟩
  valuationDate := some date
  today := ⟨2026, 1, 3, january, thirdDay⟩
  now := sampleTime

def bondValuation (value : Int) (date : Date) : ValuationRow where
  assetID := sampleUuid
  valuationDate := date
  nav := value * 1000000
  navCurrency := "EUR"
  yieldToMaturity := none
  duration := none
  convexity := none
  creditSpreadBps := none
  valuationMethod := none
  pricingSource := none
  validatedBy := none
  createdAt := sampleTime

/-- The value of the third day comes first, and the one of the second day after it. -/
def backdatedCalls : List ValuationCall :=
  [bondCall 103 ⟨2026, 1, 3, january, thirdDay⟩, bondCall 102 ⟨2026, 1, 2, january, secondDay⟩]

theorem backdated_differ : DatesDiffer bondTables bond backdatedCalls := by
  unfold DatesDiffer
  decide

theorem currentValue_backdated :
    let final := runValuations bondTables "BOND-1" backdatedCalls
    let log := bondTables.ofAsset bond.id ++ backdatedCalls.filterMap fun call => call.row bond.id
    LatestAgree final "BOND-1" log ∧
      (CurrentIsLatest final "BOND-1" ↔ ∀ row, Latest rowDate log row →
        (lastValue (ValuationCall.value bond) bond.currentValue backdatedCalls).units * 100 = row.nav) ∧
      (OrderFree bondTables "BOND-1" backdatedCalls ↔ ∀ first ∈ backdatedCalls, ∀ second ∈ backdatedCalls, ∀ one two,
        first.value bond = some one → second.value bond = some two → one = two) :=
  currentValue_laws rfl backdated_differ

/-- The back-dated value replaces the latest one, and the other order keeps it. -/
theorem backdated_shown :
    DatesDiffer bondTables bond backdatedCalls ∧
      ¬ CurrentIsLatest (runValuations bondTables "BOND-1" backdatedCalls) "BOND-1" ∧
      ¬ OrderFree bondTables "BOND-1" backdatedCalls := by
  refine ⟨backdated_differ, fun current => ?_, fun free => ?_⟩
  · have log : bondTables.ofAsset bond.id ++ backdatedCalls.filterMap (fun call => call.row bond.id) =
        [bondValuation 103 ⟨2026, 1, 3, by decide, by decide⟩,
          bondValuation 102 ⟨2026, 1, 2, by decide, by decide⟩] := by
      decide +kernel
    have latest := (currentIsLatest_iff rfl backdated_differ).mp current
    rw [log] at latest
    have same := latest (bondValuation 103 ⟨2026, 1, 3, by decide, by decide⟩) (by unfold Latest; decide)
    revert same
    decide +kernel
  · have found : bondTables.find "BOND-1" = some bond := rfl
    have same := (orderFree_iff found backdated_differ).mp free _ (List.Perm.swap _ _ [])
    revert same
    decide +kernel

end Samples

end Pxtly.Assets
