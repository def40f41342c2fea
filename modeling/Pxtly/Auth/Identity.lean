/-
This file gives the callback of a login and the user that it finds, links and updates.
-/

import Pxtly.Auth.Dependencies
import Pxtly.Auth.Tokens

namespace Pxtly.Auth

open Foundation Program
open Zkp (Instant)

section Roles

/-- This is `role in VALID_APP_ROLES`; lists and objects have no hash. -/
def validRole : Json → Except TokenFault (Option String)
  | .string role => .ok (if validAppRoles.contains role then some role else none)
  | .array _ => .error .typeError
  | .object _ => .error .typeError
  | _ => .ok none

def firstValidRole : List Json → Except TokenFault (Option String)
  | [] => .ok none
  | item :: later => do
      match ← validRole item with
      | some role => return some role
      | none => firstValidRole later

/-- A text is a sequence of its characters, and an object of its names. -/
def rolesOf : Json → Except TokenFault (List Json)
  | .array items => .ok items
  | .string text => .ok (text.toList.map fun letter => .string (String.singleton letter))
  | .object members => .ok (members.map fun member => .string member.1)
  | _ => .error .typeError

def realmRoles (claims : List (String × Json)) : Except TokenFault (List Json) :=
  match (dictGet claims "realm_access").getD (.object []) with
  | .object members => rolesOf ((dictGet members "roles").getD (.array []))
  | _ => .error .typeError

def extractRole (claims : List (String × Json)) : Except TokenFault (Option String) := do
  let role := (dictGet claims "pxtly_role").getD .null
  match ← (if truthy role then validRole role else return none) with
  | some role => return some role
  | none => firstValidRole (← realmRoles claims)

end Roles

/-- The e-mail may be any claim, but the database only compares it as a text. -/
structure Login where
  keycloakSub : String
  email : Json
  role : Option String

inductive LoginFault where
  | access (fault : AccessFault)
  | databaseError
  | keyError (key : String)
  | token (fault : TokenFault)
  deriving Repr

def noAccount : AccessFault :=
  .http 403 ("No active account found for this Keycloak identity. " ++
    "Contact your administrator to provision an account.")

def inactiveAccount : AccessFault := .http 403 "Account is inactive."

section Upsert

variable (columns : UserColumns)

abbrev LoginProgram (A : Type) := Program (database columns).signature LoginFault A

variable {columns}

def askLogin (operation : (database columns).Operation) : LoginProgram columns operation.Result :=
  Database.ask .databaseError operation

def loadRow : Option User → LoginProgram columns (Option User)
  | none => return none
  | some row => lift ((load row).map some |>.mapError .access)

def findByEmail (email : Json) : LoginProgram columns (Option User) :=
  if truthy email then
    match email with
    | .string text => do loadRow (← askLogin (.read (.activeUserByEmail text)))
    | _ => .raise .databaseError
  else return none

def findUser (login : Login) : LoginProgram columns (Option User) := do
  match ← loadRow (← askLogin (.read (.userBySubject login.keycloakSub))) with
  | some user => return some user
  | none => findByEmail login.email

/-- Only what differs from the row is assigned, apart from the time of the login. -/
def Login.assignment (login : Login) (user : User) (now : Instant) : Assignment :=
  .signIn (if user.keycloakSub = some login.keycloakSub then none else some login.keycloakSub)
    (login.role.filter fun role => role ≠ "" ∧ user.role ≠ role) now

def signIn (login : Login) (user : User) : LoginProgram columns User := do
  let now ← askLogin (.read .now)
  askLogin (.write (.updateUser user.id (login.assignment user now)))
  askLogin .commit
  return (login.assignment user now).apply user

def upsertUser (login : Login) : LoginProgram columns User := do
  match ← findUser login with
  | none => .raise (.access noAccount)
  | some user =>
      if user.isActive = some true then signIn login user else .raise (.access inactiveAccount)

end Upsert

section Events

variable {columns : UserColumns} {login : Login} {user row : User} {events : List (database columns).Event}

theorem loadRow_within (found : Option User) (allowed : (database columns).Operation → Prop) :
    (loadRow found : LoginProgram columns _).Within allowed := by
  cases found with
  | none => trivial
  | some row => exact within_lift _ _

theorem askLogin_reads (query : Query) : (askLogin (.read query) : LoginProgram columns _).Within Database.Reads :=
  Database.within_ask ⟨query, rfl⟩ _

theorem findByEmail_reads (email : Json) : (findByEmail email : LoginProgram columns _).Within Database.Reads := by
  unfold findByEmail
  split
  · split
    · exact (askLogin_reads _).bind fun found => loadRow_within found _
    · trivial
  · trivial

theorem findUser_reads (login : Login) : (findUser login : LoginProgram columns _).Within Database.Reads := by
  refine (askLogin_reads _).bind fun linked => (loadRow_within linked _).bind fun found => ?_
  cases found with
  | none => exact findByEmail_reads login.email
  | some user => trivial

theorem executes_loadRow {found : Option User}
    (executed : Executes (loadRow found : LoginProgram columns _) events (.ok (some row))) :
    events = [] ∧ found = some row := by
  cases found with
  | none =>
      obtain ⟨_, contrary⟩ := executed
      cases contrary
  | some stored =>
      obtain ⟨rfl, same⟩ := (executes_lift _ _ _).mp executed
      refine ⟨rfl, ?_⟩
      unfold load at same
      split at same
      · cases same
        rfl
      · cases same

/-- The user that a call finds was in the answer to one of its queries. -/
theorem read_of_findByEmail {email : Json}
    (executed : Executes (findByEmail email : LoginProgram columns _) events (.ok (some row))) :
    ∃ text, ⟨.read (Query.activeUserByEmail text), some (some row)⟩ ∈ events := by
  unfold findByEmail at executed
  split at executed
  · split at executed
    · next text _ =>
        obtain ⟨found, later, rfl, rest⟩ := Database.executes_ask_ok executed
        obtain ⟨rfl, rfl⟩ := executes_loadRow rest
        exact ⟨text, List.mem_cons_self⟩
    · obtain ⟨_, contrary⟩ := executed
      cases contrary
  · obtain ⟨_, contrary⟩ := executed
    cases contrary

theorem read_of_findUser (executed : Executes (findUser login : LoginProgram columns _) events (.ok (some row))) :
    ⟨.read (Query.userBySubject login.keycloakSub), some (some row)⟩ ∈ events ∨
      ∃ text, ⟨.read (Query.activeUserByEmail text), some (some row)⟩ ∈ events := by
  obtain ⟨linked, later, rfl, rest⟩ := Database.executes_ask_ok executed
  obtain ⟨first, second, found, rfl, loaded, continued⟩ := executes_bind_ok rest
  cases found with
  | some user =>
      obtain ⟨rfl, rfl⟩ := executes_loadRow loaded
      obtain ⟨_, same⟩ := continued
      cases same
      exact .inl List.mem_cons_self
  | none =>
      obtain ⟨text, member⟩ := read_of_findByEmail continued
      exact .inr ⟨text, by simp [member]⟩

/-- With these events a call updates its row, before it commits. -/
def updateEvents (login : Login) (row : User) (now : Instant) : List (database columns).Event :=
  [⟨.read Query.now, some now⟩, ⟨.write (Write.updateUser row.id (login.assignment row now)), some ()⟩]

theorem executes_signIn {value : User}
    (executed : Executes (signIn login row : LoginProgram columns _) events (.ok value)) :
    ∃ now, events = updateEvents login row now ++ [Database.committed] ∧
      value = (login.assignment row now).apply row := by
  obtain ⟨now, afterRead, rfl, writes⟩ := Database.executes_ask_ok executed
  obtain ⟨_, afterWrite, rfl, commits⟩ := Database.executes_ask_ok writes
  obtain ⟨_, afterCommit, rfl, ended⟩ := Database.executes_ask_ok commits
  obtain ⟨rfl, same⟩ := ended
  cases same
  exact ⟨now, rfl, rfl⟩

/-- A call that returns has found a user, and it ends with the update of the row. -/
theorem executes_upsertUser (executed : Executes (upsertUser login : LoginProgram columns _) events (.ok user)) :
    ∃ reads row now, Executes (findUser login) reads (.ok (some row)) ∧ user = (login.assignment row now).apply row ∧
      events = reads ++ updateEvents login row now ++ [Database.committed] := by
  obtain ⟨reads, second, found, rfl, ended, rest⟩ := executes_bind_ok executed
  cases found with
  | none =>
      obtain ⟨_, contrary⟩ := rest
      cases contrary
  | some row =>
      dsimp only at rest
      split at rest
      · obtain ⟨now, rfl, rfl⟩ := executes_signIn rest
        exact ⟨reads, row, now, ended, rfl, (List.append_assoc _ _ _).symm⟩
      · obtain ⟨_, contrary⟩ := rest
        cases contrary

end Events

section Callback

variable {columns : UserColumns}

def Payload.login (payload : Payload) : Except LoginFault Login :=
  match payload.sub with
  | none => .error (.keyError "sub")
  | some keycloakSub => do
      let role ← (extractRole payload.claims).mapError .token
      return { keycloakSub, email := (dictGet payload.claims "email").getD (.string ""), role }

/-- The session cookies follow where this program returns. -/
def oidcCallback (payload : Payload) : LoginProgram columns User := do
  upsertUser (← lift payload.login)

/-- A callback is a call for the subject of its token, or it fails before it meets the database. -/
theorem oidcCallback_cases (payload : Payload) :
    (∃ login, payload.sub = some login.keycloakSub ∧ oidcCallback payload = @upsertUser columns login) ∨
      ∃ fault, oidcCallback payload = (.raise fault : LoginProgram columns User) := by
  unfold oidcCallback Payload.login
  cases same : payload.sub with
  | none => exact .inr ⟨_, rfl⟩
  | some sub =>
      cases (extractRole payload.claims).mapError LoginFault.token with
      | error fault => exact .inr ⟨_, rfl⟩
      | ok role => exact .inl ⟨⟨sub, _, role⟩, rfl, rfl⟩

end Callback

end Pxtly.Auth
