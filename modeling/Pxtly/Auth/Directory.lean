/-
This file gives the organisations and the query that lists their users.
-/

import Pxtly.Auth.Dependencies

namespace Pxtly.Auth

open Foundation
open Assets (Uuid)

structure Organization where
  id : Uuid
  legalName : String
  countryCode : Option String

/-- These columns of a user are only listed. -/
structure Employment where
  department : Option String
  employeeID : Option String

structure Directory where
  organizations : List Organization
  employment : Uuid → Employment

namespace Directory

variable (directory : Directory)

/-- The join keeps the order in which the database scans the users. -/
def join (users : List User) : List (User × Organization) :=
  users.flatMap fun user =>
    (directory.organizations.filter (·.id = user.orgID)).map fun organization => (user, organization)

/-- A missing role or country leaves nobody out. -/
structure Selection where
  role : Option String
  country : Option String
  limit : Int
  offset : Int

/-- The database refuses a negative limit and a negative offset. -/
def select (users : List User) (selection : Selection) : Option (List (User × Organization)) :=
  if 0 ≤ selection.limit ∧ 0 ≤ selection.offset then
    let chosen := (directory.join users).filter fun (user, organization) =>
      selection.role.all (user.role = ·) && selection.country.all (organization.countryCode = some ·)
    some ((chosen.drop selection.offset.toNat).take selection.limit.toNat)
  else none

end Directory

/-- Every row of a result is loaded, or the first one that cannot be loaded raises its error. -/
def loadRows (rows : List (User × Organization)) : Except AccessFault (List (User × Organization)) :=
  rows.mapM fun (row, organization) => do return (← load row, organization)

/-- Rows are loaded unchanged, and each of them has a role of the mapped class. -/
theorem loadRows_eq_ok {rows loaded : List (User × Organization)} :
    loadRows rows = .ok loaded ↔ rows = loaded ∧ ∀ row ∈ rows, row.1.role ∈ ormUsers.roles := by
  induction rows generalizing loaded with
  | nil =>
      rw [loadRows, List.mapM_nil]
      constructor
      · intro same
        exact ⟨Except.ok.inj same, List.forall_mem_nil _⟩
      · rintro ⟨same, _⟩
        exact congrArg _ same
  | cons row rows inductionHypothesis =>
      rw [loadRows, List.mapM_cons]
      simp only [bind_eq_ok]
      constructor
      · rintro ⟨first, ⟨user, read, same⟩, rest, later, joined⟩
        obtain ⟨rfl, mapped⟩ := load_eq_ok.mp read
        obtain ⟨rfl, others⟩ := inductionHypothesis.mp later
        cases same
        cases joined
        exact ⟨rfl, List.forall_mem_cons.mpr ⟨mapped, others⟩⟩
      · rintro ⟨same, mapped⟩
        obtain ⟨own, others⟩ := List.forall_mem_cons.mp mapped
        have read : load row.1 = .ok row.1 := load_eq_ok.mpr ⟨rfl, own⟩
        have rest : loadRows rows = .ok rows := inductionHypothesis.mpr ⟨rfl, others⟩
        exact ⟨row, ⟨row.1, read, rfl⟩, rows, rest, congrArg Except.ok same⟩

end Pxtly.Auth
