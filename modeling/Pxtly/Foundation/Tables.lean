/-
This file gives tables with declared columns and the statements that insert and update their rows.
-/

import Mathlib.Logic.Function.Basic
import Pxtly.Foundation.Json

namespace Pxtly.Foundation

structure Column where
  name : String
  sqlType : String
  notNull : Bool := false
  default : Option String := none

structure Table where
  name : String
  columns : List Column

def Table.column (table : Table) (name : String) : Option Column :=
  table.columns.find? fun column => column.name == name

/-- A statement sends a value with its parameter or has the server evaluate an expression. -/
inductive SqlValue where
  | bound (value : Json)
  | expression (text : String)

/-- An update changes the rows that have one value in the column of its key. -/
inductive Statement where
  | insert (table : String) (values : List (String × SqlValue))
  | update (table : String) (values : List (String × SqlValue)) (key : String × SqlValue)

def Statement.table : Statement → String
  | .insert table _ => table
  | .update table _ _ => table

def Statement.columnNames : Statement → List String
  | .insert _ values => values.map Prod.fst
  | .update _ values key => values.map Prod.fst ++ [key.1]

inductive StatementError where
  | undefinedTable (table : String)
  | undefinedColumn (column table : String)
  | notNullViolation (column table : String)
  | dataError (message : String)
  deriving DecidableEq

def findTable (schema : List Table) (name : String) : Except StatementError Table :=
  match schema.find? fun table => table.name == name with
  | some table => .ok table
  | none => .error (.undefinedTable name)

/-- The names of a statement are looked up before its parameters are sent. -/
def Table.resolve (table : Table) (values : List (String × SqlValue)) :
    Except StatementError (List (Column × SqlValue)) :=
  values.mapM fun (name, value) =>
    match table.column name with
    | some column => .ok (column, value)
    | none => .error (.undefinedColumn name table.name)

section Execution

variable {C : Type}

abbrev Row (C : Type) := String → C

abbrev Tables (C : Type) := String → List (Row C)

/-- The driver converts a parameter to the type of its column, and the server evaluates the expressions. -/
structure Server (C : Type) where
  null : C
  encode : String → Json → Except String C
  evaluate : String → C

def Server.value (server : Server C) (column : Column) : SqlValue → Except StatementError C
  | .bound value => (server.encode column.sqlType value).mapError .dataError
  | .expression text => .ok (server.evaluate text)

def Server.assign (server : Server C) (resolved : List (Column × SqlValue)) :
    Except StatementError (List (String × C)) :=
  resolved.mapM fun (column, value) => (server.value column value).map fun cell => (column.name, cell)

def Server.newRow (server : Server C) (table : Table) (given : List (String × C)) : Row C := fun name =>
  (given.lookup name).getD
    ((((table.column name).bind Column.default).map server.evaluate).getD server.null)

def overwrite (row : Row C) (given : List (String × C)) : Row C := fun name => (given.lookup name).getD (row name)

variable [DecidableEq C]

def Server.checkNotNull (server : Server C) (table : Table) (row : Row C) : Except StatementError (Row C) :=
  match table.columns.find? fun column => column.notNull && row column.name == server.null with
  | some column => .error (.notNullViolation column.name table.name)
  | none => .ok row

/-- A comparison with `null` holds of no row. -/
def Server.selects (server : Server C) (sought : List (String × C)) (row : Row C) : Bool :=
  sought.all fun (name, cell) => cell != server.null && row name == cell

def Server.execute (server : Server C) (schema : List Table) (tables : Tables C) :
    Statement → Except StatementError (Tables C)
  | .insert name values => do
      let table ← findTable schema name
      let resolved ← table.resolve values
      let given ← server.assign resolved
      let row ← server.checkNotNull table (server.newRow table given)
      return Function.update tables name (tables name ++ [row])
  | .update name values key => do
      let table ← findTable schema name
      let resolved ← table.resolve values
      let keys ← table.resolve [key]
      let given ← server.assign resolved
      let sought ← server.assign keys
      let rows ← (tables name).mapM fun row =>
        if server.selects sought row then server.checkNotNull table (overwrite row given) else .ok row
      return Function.update tables name rows

end Execution

section Declared

variable {C : Type} [DecidableEq C] {server : Server C} {schema : List Table} {tables : Tables C}

theorem Table.declared_of_resolve {table : Table} {values : List (String × SqlValue)}
    {resolved : List (Column × SqlValue)} (found : table.resolve values = .ok resolved) :
    ∀ name ∈ values.map Prod.fst, (table.column name).isSome = true := by
  induction values generalizing resolved with
  | nil => simp
  | cons value rest inductionHypothesis =>
      obtain ⟨name, given⟩ := value
      obtain ⟨first, others, known, later, _⟩ := mapM_cons_eq_ok.mp found
      dsimp only at known
      intro other member
      rcases List.mem_cons.mp member with rfl | behind
      · cases declared : table.column other with
        | some column => rfl
        | none =>
            rw [declared] at known
            cases known
      · exact inductionHypothesis later other behind

/-- A statement that succeeds names a table and columns that the schema declares. -/
theorem Server.declared_of_execute {statement : Statement} {after : Tables C}
    (executed : server.execute schema tables statement = .ok after) :
    ∃ table, findTable schema statement.table = .ok table ∧
      ∀ name ∈ statement.columnNames, (table.column name).isSome = true := by
  cases statement with
  | insert name values =>
      simp only [Server.execute, bind_eq_ok] at executed
      obtain ⟨table, found, resolved, known, _⟩ := executed
      exact ⟨table, found, Table.declared_of_resolve known⟩
  | update name values key =>
      simp only [Server.execute, bind_eq_ok] at executed
      obtain ⟨table, found, resolved, known, keys, keyKnown, _⟩ := executed
      refine ⟨table, found, ?_⟩
      intro column member
      rcases List.mem_append.mp member with set | isKey
      · exact Table.declared_of_resolve known column set
      · exact Table.declared_of_resolve keyKnown column isKey

end Declared

section Updates

variable {C : Type} {server : Server C} {schema : List Table} {tables : Tables C}

theorem Server.assign_cons {column : Column} {value : SqlValue} {rest : List (Column × SqlValue)}
    {given : List (String × C)} (assigned : server.assign ((column, value) :: rest) = .ok given) :
    ∃ cell cells, server.value column value = .ok cell ∧ server.assign rest = .ok cells ∧
      given = (column.name, cell) :: cells := by
  obtain ⟨pair, cells, sent, remaining, rfl⟩ := mapM_cons_eq_ok.mp assigned
  dsimp only at sent
  cases encoded : server.value column value with
  | error fault =>
      rw [encoded] at sent
      cases sent
  | ok cell =>
      rw [encoded] at sent
      obtain rfl := Except.ok.inj sent
      exact ⟨cell, cells, rfl, remaining, rfl⟩

/-- A statement gives a cell to every column that it names, and to no other. -/
theorem Server.lookup_of_assign {table : Table} {values : List (String × SqlValue)}
    {resolved : List (Column × SqlValue)} {given : List (String × C)} (found : table.resolve values = .ok resolved)
    (assigned : server.assign resolved = .ok given) (name : String) :
    Option.Rel (fun value cell => ∃ column, table.column name = some column ∧ server.value column value = .ok cell)
      (values.lookup name) (given.lookup name) := by
  induction values generalizing resolved given with
  | nil =>
      obtain rfl := Except.ok.inj found
      obtain rfl := Except.ok.inj assigned
      exact .none
  | cons pair rest inductionHypothesis =>
      obtain ⟨key, value⟩ := pair
      obtain ⟨first, others, known, later, rfl⟩ := mapM_cons_eq_ok.mp found
      dsimp only at known
      cases declared : table.column key with
      | none =>
          rw [declared] at known
          cases known
      | some column =>
          rw [declared] at known
          obtain rfl := Except.ok.inj known
          have columnName : column.name = key := by
            have chosen := List.find?_some declared
            exact beq_iff_eq.mp chosen
          obtain ⟨cell, cells, encoded, remaining, rfl⟩ := Server.assign_cons assigned
          rw [columnName, List.lookup_cons, List.lookup_cons]
          by_cases equal : name = key
          · rw [beq_iff_eq.mpr equal]
            exact .some ⟨column, equal ▸ declared, encoded⟩
          · rw [beq_eq_false_iff_ne.mpr equal]
            exact inductionHypothesis later remaining

theorem overwrite_of_unnamed {table : Table} {values : List (String × SqlValue)} {resolved : List (Column × SqlValue)}
    {given : List (String × C)} (found : table.resolve values = .ok resolved)
    (assigned : server.assign resolved = .ok given) {name : String} (unnamed : values.lookup name = none)
    (row : Row C) :
    overwrite row given name = row name := by
  have related := Server.lookup_of_assign found assigned name
  rw [unnamed] at related
  unfold overwrite
  generalize given.lookup name = cells at related ⊢
  cases related
  rfl

theorem overwrite_of_bound {table : Table} {values : List (String × SqlValue)} {resolved : List (Column × SqlValue)}
    {given : List (String × C)} (found : table.resolve values = .ok resolved)
    (assigned : server.assign resolved = .ok given) {name : String} {value : Json}
    (named : values.lookup name = some (.bound value)) (row : Row C) :
    ∃ column, table.column name = some column ∧
      server.encode column.sqlType value = .ok (overwrite row given name) := by
  have related := Server.lookup_of_assign found assigned name
  rw [named] at related
  unfold overwrite
  generalize given.lookup name = cells at related ⊢
  obtain ⟨column, declared, sent⟩ := related
  rw [Server.value, mapError_eq_ok] at sent
  exact ⟨column, declared, sent⟩

variable [DecidableEq C]

theorem find_of_mapM {table : Table} {given sought : List (String × C)} {wanted : Row C → Bool}
    {rows after : List (Row C)}
    (selected : ∀ row, wanted row = true → server.selects sought row = true)
    (kept : ∀ row, wanted (overwrite row given) = wanted row)
    (updated : (rows.mapM fun row =>
      if server.selects sought row then server.checkNotNull table (overwrite row given) else .ok row) = .ok after) :
    after.find? wanted = (rows.find? wanted).map fun row => overwrite row given := by
  induction rows generalizing after with
  | nil =>
      obtain rfl := Except.ok.inj updated
      rfl
  | cons row rest inductionHypothesis =>
      obtain ⟨first, others, changed, later, rfl⟩ := mapM_cons_eq_ok.mp updated
      have behind := inductionHypothesis later
      cases chosen : wanted row with
      | true =>
          rw [if_pos (selected row chosen), Server.checkNotNull] at changed
          split at changed
          next => cases changed
          next =>
            obtain rfl := Except.ok.inj changed
            rw [List.find?_cons_of_pos ((kept row).trans chosen), List.find?_cons_of_pos chosen]
            rfl
      | false =>
          have stays : wanted first = false := by
            split at changed
            next =>
              rw [Server.checkNotNull] at changed
              split at changed
              next => cases changed
              next =>
                obtain rfl := Except.ok.inj changed
                exact (kept row).trans chosen
            next =>
              obtain rfl := Except.ok.inj changed
              exact chosen
          rw [List.find?_cons_of_neg (by rw [stays]; decide), List.find?_cons_of_neg (by rw [chosen]; decide)]
          exact behind

/-- An update overwrites the row that a search finds, when the search looks at the key and the key stays. -/
theorem Server.find_of_update {name : String} {values : List (String × SqlValue)} {key : String × SqlValue}
    {after : Tables C} (executed : server.execute schema tables (.update name values key) = .ok after) :
    ∃ table resolved keys given sought, findTable schema name = .ok table ∧ table.resolve values = .ok resolved ∧
      table.resolve [key] = .ok keys ∧ server.assign resolved = .ok given ∧ server.assign keys = .ok sought ∧
      ∀ wanted : Row C → Bool, (∀ row, wanted row = true → server.selects sought row = true) →
        (∀ row, wanted (overwrite row given) = wanted row) →
        (after name).find? wanted = ((tables name).find? wanted).map fun row => overwrite row given := by
  simp only [Server.execute, bind_eq_ok] at executed
  obtain ⟨table, found, resolved, known, keys, keyKnown, given, assigned, sought, keyAssigned, rows, updated, same⟩ :=
    executed
  obtain rfl := Except.ok.inj same
  refine ⟨table, resolved, keys, given, sought, found, known, keyKnown, assigned, keyAssigned, ?_⟩
  intro wanted selected kept
  rw [Function.update_self]
  exact find_of_mapM selected kept updated

end Updates

end Pxtly.Foundation
