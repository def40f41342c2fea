/-
This file gives the dependencies that find the user of a request and check the role.
-/

import Pxtly.Auth.Models

namespace Pxtly.Auth

open Foundation

/-- A row with a role that the mapped class does not list cannot be loaded. -/
inductive AccessFault where
  | http (status : Nat) (detail : String)
  | lookupError (role : String)
  deriving DecidableEq, Repr

def notAuthenticated : AccessFault := .http 401 "Not authenticated."
def userNotFound : AccessFault := .http 401 "User not found or inactive."

def insufficientPermissions (requiredRole : String) : AccessFault :=
  .http 403 ("Privilèges insuffisants. Rôle minimum requis: " ++ requiredRole)

def load (row : User) : Except AccessFault User :=
  if ormUsers.roles.contains row.role then .ok row else .error (.lookupError row.role)

section Lookups

variable {columns : UserColumns}

def getCurrentUser (tables : Tables columns) (keycloakSub : String) : Except AccessFault User :=
  if keycloakSub = "" then .error notAuthenticated
  else match tables.answer (.activeUserBySubject keycloakSub) with
    | none => .error userNotFound
    | some row => load row

def checkRole (roles : List String) (currentUser : User) : Except AccessFault User :=
  if roles.contains currentUser.role then .ok currentUser
  else .error (insufficientPermissions (" | ".intercalate roles))

def requireRole (roles : List String) (tables : Tables columns) (keycloakSub : String) : Except AccessFault User := do
  checkRole roles (← getCurrentUser tables keycloakSub)

variable {tables : Tables columns} {keycloakSub : String} {user : User}

theorem load_eq_ok {row : User} : load row = .ok user ↔ row = user ∧ user.role ∈ ormUsers.roles := by
  unfold load
  by_cases listed : ormUsers.roles.contains row.role
  · rw [if_pos listed]
    constructor
    · intro same
      cases same
      exact ⟨rfl, List.contains_iff_mem.mp listed⟩
    · rintro ⟨rfl, _⟩
      rfl
  · rw [if_neg listed]
    constructor
    · exact nofun
    · rintro ⟨rfl, member⟩
      exact absurd (List.contains_iff_mem.mpr member) listed

/-- The current user is the active user that is linked to the subject. -/
theorem getCurrentUser_eq_ok : getCurrentUser tables keycloakSub = .ok user ↔
    keycloakSub ≠ "" ∧ user ∈ tables.users ∧ user.keycloakSub = some keycloakSub ∧ user.isActive = some true ∧
      user.role ∈ ormUsers.roles := by
  unfold getCurrentUser
  by_cases empty : keycloakSub = ""
  · simp [empty]
  · rw [if_neg empty]
    cases found : tables.answer (.activeUserBySubject keycloakSub) with
    | none =>
        have unlinked := List.find?_eq_none.mp found
        constructor
        · exact nofun
        · intro ⟨_, member, linked, active, _⟩
          simpa [linked, active] using unlinked user member
    | some row =>
        have member := List.mem_of_find?_eq_some found
        have conditions := List.find?_some found
        simp only [decide_eq_true_eq] at conditions
        rw [load_eq_ok]
        constructor
        · rintro ⟨rfl, listed⟩
          exact ⟨empty, member, conditions.1, conditions.2, listed⟩
        · intro ⟨_, other, linked, _, listed⟩
          exact ⟨tables.legal.eq_of_subject member other conditions.1 linked, listed⟩

theorem requireRole_eq_ok {roles : List String} : requireRole roles tables keycloakSub = .ok user ↔
    getCurrentUser tables keycloakSub = .ok user ∧ user.role ∈ roles := by
  unfold requireRole
  cases getCurrentUser tables keycloakSub with
  | error fault => simp [error_bind]
  | ok row =>
      rw [ok_bind, checkRole]
      by_cases listed : roles.contains row.role
      · rw [if_pos listed]
        constructor
        · intro same
          cases same
          exact ⟨rfl, List.contains_iff_mem.mp listed⟩
        · exact fun found => found.1
      · rw [if_neg listed]
        constructor
        · exact nofun
        · intro ⟨same, member⟩
          cases same
          exact absurd (List.contains_iff_mem.mpr member) listed

end Lookups

end Pxtly.Auth
