/-
This file gives the users with the rows that belong to them, and the constraints of two schemas on their columns.
-/

import Mathlib.Data.List.Nodup
import Mathlib.Data.List.Pairwise
import Pxtly.Zkp.Models

namespace Pxtly.Auth

open Foundation
open Assets (Uuid)
open Zkp (Instant ZKPCredential)

structure User where
  id : Uuid
  orgID : Uuid
  keycloakSub : Option String
  email : String
  firstName : Option String
  lastName : Option String
  role : String
  mspID : Option String
  phone : Option String
  isActive : Option Bool
  lastLogin : Option Instant
  deriving DecidableEq

structure KYCDocument where
  id : Uuid
  userID : Uuid
  deriving DecidableEq

section Columns

structure TextColumn where
  nullable : Bool
  limit : Option Nat

def TextColumn.admits (column : TextColumn) : Option String → Bool
  | none => column.nullable
  | some text => column.limit.all (text.length ≤ ·)

structure UserColumns where
  keycloakSub : TextColumn
  email : TextColumn
  firstName : TextColumn
  lastName : TextColumn
  mspID : TextColumn
  phone : TextColumn
  isActiveNullable : Bool
  roles : List String

/-- These columns stand in the script that creates the tables. -/
def sqlUsers : UserColumns where
  keycloakSub := ⟨true, some 255⟩
  email := ⟨false, some 255⟩
  firstName := ⟨false, some 100⟩
  lastName := ⟨false, some 100⟩
  mspID := ⟨false, some 100⟩
  phone := ⟨true, some 20⟩
  isActiveNullable := true
  roles := ["SUPER_ADMIN", "ADMIN_ORG", "EMETTEUR", "CUSTODIAN", "TRADER", "REGULATEUR", "AUDITEUR",
    "COMPLIANCE_OFFICER", "READONLY"]

/-- These columns stand in the mapped class, which never creates the tables. -/
def ormUsers : UserColumns where
  keycloakSub := ⟨true, some 255⟩
  email := ⟨false, some 254⟩
  firstName := ⟨true, none⟩
  lastName := ⟨true, none⟩
  mspID := ⟨true, none⟩
  phone := ⟨true, none⟩
  isActiveNullable := false
  roles := ["EMETTEUR", "TRADER", "CUSTODIAN", "REGULATEUR", "AUDITEUR", "COMPLIANCE_OFFICER", "SUPER_ADMIN"]

def UserColumns.admits (columns : UserColumns) (row : User) : Bool :=
  columns.keycloakSub.admits row.keycloakSub && columns.email.admits row.email &&
    columns.firstName.admits row.firstName && columns.lastName.admits row.lastName &&
    columns.mspID.admits row.mspID && columns.phone.admits row.phone &&
    (columns.isActiveNullable || row.isActive.isSome) && columns.roles.contains row.role

/-- The columns admit each row, and no two rows share a primary key, an e-mail or a subject. -/
structure Legal (columns : UserColumns) (users : List User) : Prop where
  admitted : ∀ row ∈ users, columns.admits row
  primaryKey : (users.map User.id).Nodup
  emailKey : (users.map User.email).Nodup
  subjectKey : (users.filterMap User.keycloakSub).Nodup

instance (columns : UserColumns) (users : List User) : Decidable (Legal columns users) :=
  decidable_of_iff ((∀ row ∈ users, columns.admits row) ∧ (users.map User.id).Nodup ∧ (users.map User.email).Nodup ∧
      (users.filterMap User.keycloakSub).Nodup)
    ⟨fun ⟨admitted, primaryKey, emailKey, subjectKey⟩ => ⟨admitted, primaryKey, emailKey, subjectKey⟩,
      fun legal => ⟨legal.admitted, legal.primaryKey, legal.emailKey, legal.subjectKey⟩⟩

section Keys

variable {columns : UserColumns} {users : List User}

/-- Two rows with one subject are one row. -/
theorem Legal.eq_of_subject (legal : Legal columns users) {first second : User} {keycloakSub : String}
    (firstMember : first ∈ users) (secondMember : second ∈ users) (firstLinked : first.keycloakSub = some keycloakSub)
    (secondLinked : second.keycloakSub = some keycloakSub) : first = second := by
  by_contra different
  have apart := List.pairwise_filterMap.mp legal.subjectKey
  have : Std.Symm fun one other : User =>
      ∀ text, one.keycloakSub = some text → ∀ same, other.keycloakSub = some same → text ≠ same :=
    ⟨fun one other separate text linked same link => (separate same link text linked).symm⟩
  exact apart.forall firstMember secondMember different keycloakSub firstLinked keycloakSub secondLinked rfl

/-- Subjects are unique where two rows with one subject have one primary key. -/
theorem subjectKey_of_primaryKey (primaryKey : (users.map User.id).Nodup)
    (same : ∀ first ∈ users, ∀ second ∈ users, ∀ keycloakSub, first.keycloakSub = some keycloakSub →
      second.keycloakSub = some keycloakSub → first.id = second.id) : (users.filterMap User.keycloakSub).Nodup := by
  refine List.pairwise_filterMap.mpr ((List.pairwise_map.mp primaryKey).imp_of_mem ?_)
  rintro first second firstMember secondMember different text linked _ link rfl
  exact different (same first firstMember second secondMember text linked link)

end Keys

end Columns

/-- Documents and credentials name the user whom they belong to. -/
structure Tables (columns : UserColumns) where
  clock : Instant
  users : List User
  documents : List KYCDocument
  credentials : List ZKPCredential
  legal : Legal columns users
  documentsOwned : ∀ row ∈ documents, row.userID ∈ users.map User.id
  credentialsOwned : ∀ row ∈ credentials, row.userID ∈ users.map User.id

section Queries

variable {columns : UserColumns}

inductive Query where
  | now
  | userBySubject (keycloakSub : String)
  | activeUserBySubject (keycloakSub : String)
  | activeUserByEmail (email : String)

abbrev Query.Result : Query → Type
  | .now => Instant
  | .userBySubject _ => Option User
  | .activeUserBySubject _ => Option User
  | .activeUserByEmail _ => Option User

/-- At most one row has the subject or the e-mail. -/
def Tables.answer : (query : Query) → Tables columns → query.Result
  | .now, tables => tables.clock
  | .userBySubject keycloakSub, tables => tables.users.find? fun row => row.keycloakSub = some keycloakSub
  | .activeUserBySubject keycloakSub, tables =>
      tables.users.find? fun row => row.keycloakSub = some keycloakSub ∧ row.isActive = some true
  | .activeUserByEmail email, tables =>
      tables.users.find? fun row => row.email = email ∧ row.isActive = some true

end Queries

section Writes

def anonymisedEmail (userID : Uuid) : String := "deleted-" ++ userID.text ++ "@anonymised.invalid"

/-- Two functions update a user; a login assigns a subject or a role only where it differs from the row that was read. -/
inductive Assignment where
  | anonymise
  | signIn (keycloakSub : Option String) (role : Option String) (lastLogin : Instant)

def Assignment.apply : Assignment → User → User
  | .anonymise, row =>
      { row with
        email := anonymisedEmail row.id
        firstName := none
        lastName := none
        phone := none
        keycloakSub := none
        isActive := some false }
  | .signIn keycloakSub role lastLogin, row =>
      { row with keycloakSub := keycloakSub.or row.keycloakSub, role := role.getD row.role, lastLogin }

def Assignment.subject : Assignment → Option String
  | .anonymise => none
  | .signIn keycloakSub _ _ => keycloakSub

def assign (id : Uuid) (assignment : Assignment) (row : User) : User :=
  if row.id = id then assignment.apply row else row

def revokeAll (userID : Uuid) (revokedAt : Instant) (reason : String) (row : ZKPCredential) : ZKPCredential :=
  if row.userID = userID ∧ ¬ row.revoked then { row with revoked := true, revokedAt, revokedReason := reason }
  else row

@[simp] theorem assign_id (id : Uuid) (assignment : Assignment) (row : User) : (assign id assignment row).id = row.id := by
  unfold assign
  split
  · cases assignment <;> rfl
  · rfl

@[simp] theorem revokeAll_userID (userID : Uuid) (revokedAt : Instant) (reason : String) (row : ZKPCredential) :
    (revokeAll userID revokedAt reason row).userID = row.userID := by
  unfold revokeAll
  split <;> rfl

inductive Write where
  | updateUser (id : Uuid) (assignment : Assignment)
  | deleteDocuments (userID : Uuid)
  | revokeCredentials (userID : Uuid) (revokedAt : Instant) (reason : String)

variable {columns : UserColumns}

def Tables.apply (tables : Tables columns) : Write → Tables columns
  | .updateUser id assignment =>
      if legal : Legal columns (tables.users.map (assign id assignment)) then
        { tables with
          users := tables.users.map (assign id assignment)
          legal
          documentsOwned := by simpa [Function.comp_def] using tables.documentsOwned
          credentialsOwned := by simpa [Function.comp_def] using tables.credentialsOwned }
      else tables
  | .deleteDocuments userID =>
      { tables with
        documents := tables.documents.filter fun row => row.userID ≠ userID
        documentsOwned := fun row member => tables.documentsOwned row (List.mem_of_mem_filter member) }
  | .revokeCredentials userID revokedAt reason =>
      { tables with
        credentials := tables.credentials.map (revokeAll userID revokedAt reason)
        credentialsOwned := by simpa using tables.credentialsOwned }

/-- The session refuses an update that matches no row. -/
def Tables.admits (tables : Tables columns) : Write → Bool
  | .updateUser id assignment =>
      (tables.users.map User.id).contains id && Legal columns (tables.users.map (assign id assignment))
  | .deleteDocuments _ => true
  | .revokeCredentials .. => true

/-- Updates of one row wait for each other, and so do updates that assign one subject. -/
def Write.clashes : Write → Write → Bool
  | .updateUser first firstAssignment, .updateUser second secondAssignment =>
      first = second || firstAssignment.subject.any fun keycloakSub => secondAssignment.subject = some keycloakSub
  | .deleteDocuments first, .deleteDocuments second => first = second
  | .revokeCredentials first _ _, .revokeCredentials second _ _ => first = second
  | _, _ => false

abbrev database (columns : UserColumns) : Database where
  Tables := Tables columns
  Query := Query
  Result := Query.Result
  Write := Write
  answer := Tables.answer
  apply := Tables.apply
  admits := Tables.admits
  clashes := Write.clashes

end Writes

section Samples

def aliceID : Uuid := ⟨"00000000-0000-4000-8000-00000000a11c", by decide⟩

theorem canonical_bankID : "00000000-0000-4000-8000-000000000001".length = 36 := by decide

def aliceRow : User where
  id := aliceID
  orgID := ⟨"00000000-0000-4000-8000-000000000001", canonical_bankID⟩
  keycloakSub := some "alice"
  email := "alice@bank01.example"
  firstName := some "Alice"
  lastName := some "Martin"
  role := "TRADER"
  mspID := some "BANK01MSP"
  phone := none
  isActive := some true
  lastLogin := none

theorem aliceRow_legal : Legal sqlUsers [aliceRow] := by decide +kernel

/-- Alice is the only user. -/
def aliceTables (columns : UserColumns) (legal : Legal columns [aliceRow]) : Tables columns where
  clock := 700000000
  users := [aliceRow]
  documents := [⟨⟨"00000000-0000-4000-8000-000000000002", by decide⟩, aliceID⟩]
  credentials := []
  legal
  documentsOwned := by decide +kernel
  credentialsOwned _ member := absurd member List.not_mem_nil

end Samples

end Pxtly.Auth
