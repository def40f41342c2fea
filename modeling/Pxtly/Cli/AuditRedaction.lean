/-
This file gives the redaction of the audit log of the command line.
-/

import Pxtly.Foundation.Python

namespace Pxtly.Cli

open Foundation

def redactKeys : List String :=
  ["password", "client_secret", "secret", "token", "access_token", "refresh_token", "api_key", "private_key",
    "code_verifier"]

section Redaction

variable (lower : String → String)

def RedactedKey (key : String) : Prop := lower key ∈ redactKeys

instance (key : String) : Decidable (RedactedKey lower key) := inferInstanceAs (Decidable (_ ∈ _))

mutual

def redact : Json → Json
  | .object members => .object (redactMembers members)
  | .array items => .array (redactItems items)
  | value => value

def redactItems : List Json → List Json
  | [] => []
  | item :: rest => redact item :: redactItems rest

def redactMembers : List (String × Json) → List (String × Json)
  | [] => []
  | (key, value) :: rest =>
      (key, if RedactedKey lower key then .string "<redacted>" else redact value) :: redactMembers rest

end

theorem redactItems_eq_map (items : List Json) : redactItems lower items = items.map (redact lower) := by
  induction items with
  | nil => rfl
  | cons item rest inductionHypothesis => rw [redactItems, inductionHypothesis, List.map_cons]

theorem keys_redactMembers (members : List (String × Json)) :
    (redactMembers lower members).map Prod.fst = members.map Prod.fst := by
  induction members with
  | nil => rfl
  | cons member rest inductionHypothesis => rw [redactMembers, List.map_cons, inductionHypothesis, List.map_cons]

theorem dictGet_redactMembers (members : List (String × Json)) (key : String) :
    dictGet (redactMembers lower members) key =
      (dictGet members key).map fun value => if RedactedKey lower key then .string "<redacted>" else redact lower value := by
  induction members with
  | nil => rfl
  | cons member rest inductionHypothesis =>
      obtain ⟨name, value⟩ := member
      rw [redactMembers, dictGet, dictGet, inductionHypothesis]
      by_cases same : name = key
      · subst same
        cases dictGet rest name <;> simp
      · cases dictGet rest key <;> simp [same]

end Redaction

section Paths

/-- A path enters lists by index and dictionaries by key. -/
inductive PathEntry where
  | item (index : Nat)
  | member (key : String)
  deriving DecidableEq

def PathEntry.of : PathEntry → Json → Option Json
  | .item index, .array items => items[index]?
  | .member key, .object members => dictGet members key
  | _, _ => none

def valueAt : List PathEntry → Json → Option Json
  | [], value => some value
  | entry :: path, value => (entry.of value).bind (valueAt path)

theorem valueAt_concat (path : List PathEntry) (entry : PathEntry) (value : Json) :
    valueAt (path ++ [entry]) value = (valueAt path value).bind entry.of := by
  induction path generalizing value with
  | nil =>
      show (entry.of value).bind (valueAt []) = entry.of value
      exact Option.bind_fun_some _
  | cons first path inductionHypothesis =>
      simp only [List.cons_append, valueAt, inductionHypothesis, Option.bind_assoc]

/-- The outline of a value is a scalar as a whole, the length of a list or the keys of a dictionary. -/
inductive Outline where
  | scalar (value : Json)
  | list (length : Nat)
  | dict (keys : List String)

def outline : Json → Outline
  | .array items => .list items.length
  | .object members => .dict (members.map Prod.fst)
  | value => .scalar value

variable (lower : String → String)

/-- A path is open where it enters no redacted key. -/
def OpenPath (path : List PathEntry) : Prop := ∀ key, PathEntry.member key ∈ path → ¬ RedactedKey lower key

variable {lower}

theorem outline_redact (value : Json) : outline (redact lower value) = outline value := by
  cases value with
  | array items => simp [redact, outline, redactItems_eq_map]
  | object members => simp [redact, outline, keys_redactMembers]
  | null => rfl
  | bool value => rfl
  | integer value => rfl
  | number value => rfl
  | string text => rfl

theorem of_redact {entry : PathEntry} (visible : ∀ key, entry = .member key → ¬ RedactedKey lower key) (value : Json) :
    entry.of (redact lower value) = (entry.of value).map (redact lower) := by
  cases entry with
  | item index => cases value <;> simp [PathEntry.of, redact, redactItems_eq_map]
  | member key =>
      have plain := visible key rfl
      cases value <;> simp [PathEntry.of, redact, dictGet_redactMembers, plain]

/-- Along an open path, the redaction leaves everything where it was. -/
theorem valueAt_redact {path : List PathEntry} (visible : OpenPath lower path) (value : Json) :
    valueAt path (redact lower value) = (valueAt path value).map (redact lower) := by
  induction path generalizing value with
  | nil => rfl
  | cons entry path inductionHypothesis =>
      have first : ∀ key, entry = .member key → ¬ RedactedKey lower key :=
        fun key same => visible key (same ▸ List.mem_cons_self)
      have later : OpenPath lower path := fun key member => visible key (List.mem_cons_of_mem _ member)
      rw [valueAt, valueAt, of_redact first]
      cases entry.of value with
      | none => rfl
      | some part => exact inductionHypothesis later part

theorem of_member_redact {key : String} (redacted : RedactedKey lower key) (value : Json) :
    (PathEntry.member key).of (redact lower value) =
      ((PathEntry.member key).of value).map fun _ => .string "<redacted>" := by
  cases value <;> simp [PathEntry.of, redact, dictGet_redactMembers, redacted]

end Paths

section Secrecy

variable (lower : String → String)

mutual

/-- Two values are alike where they differ only below redacted keys. -/
def Alike : Json → Json → Prop
  | .array items, .array others => AlikeItems items others
  | .object members, .object others => AlikeMembers members others
  | value, other => value = other

def AlikeItems : List Json → List Json → Prop
  | [], [] => True
  | item :: rest, other :: others => Alike item other ∧ AlikeItems rest others
  | _, _ => False

def AlikeMembers : List (String × Json) → List (String × Json) → Prop
  | [], [] => True
  | (key, value) :: rest, (name, other) :: others =>
      key = name ∧ (RedactedKey lower key ∨ Alike value other) ∧ AlikeMembers rest others
  | _, _ => False

end

variable {lower}

mutual

theorem redact_eq_iff : (value other : Json) → (redact lower value = redact lower other ↔ Alike lower value other)
  | .array items, other => by
      cases other with
      | array others =>
          rw [redact, redact, Json.array.injEq, Alike]
          exact redactItems_eq_iff items others
      | _ => simp [redact, Alike]
  | .object members, other => by
      cases other with
      | object others =>
          rw [redact, redact, Json.object.injEq, Alike]
          exact redactMembers_eq_iff members others
      | _ => simp [redact, Alike]
  | .null, other => by cases other <;> simp [redact, Alike]
  | .bool _, other => by cases other <;> simp [redact, Alike]
  | .integer _, other => by cases other <;> simp [redact, Alike]
  | .number _, other => by cases other <;> simp [redact, Alike]
  | .string _, other => by cases other <;> simp [redact, Alike]

theorem redactItems_eq_iff : (items others : List Json) →
    (redactItems lower items = redactItems lower others ↔ AlikeItems lower items others)
  | [], [] => by simp [AlikeItems]
  | [], other :: others => by simp [redactItems, AlikeItems]
  | item :: rest, [] => by simp [redactItems, AlikeItems]
  | item :: rest, other :: others => by
      rw [redactItems, redactItems, List.cons.injEq, redact_eq_iff item other, redactItems_eq_iff rest others, AlikeItems]

theorem redactMembers_eq_iff : (members others : List (String × Json)) →
    (redactMembers lower members = redactMembers lower others ↔ AlikeMembers lower members others)
  | [], [] => by simp [AlikeMembers]
  | [], (name, other) :: others => by simp [redactMembers, AlikeMembers]
  | (key, value) :: rest, [] => by simp [redactMembers, AlikeMembers]
  | (key, value) :: rest, (name, other) :: others => by
      have values := redact_eq_iff value other
      have later := redactMembers_eq_iff rest others
      rw [redactMembers, redactMembers, List.cons.injEq, Prod.mk.injEq, AlikeMembers, later, and_assoc]
      refine and_congr_right fun same => ?_
      subst same
      by_cases redacted : RedactedKey lower key
      · simp [redacted]
      · simp [redacted, values]

end

mutual

theorem redact_redact : (value : Json) → redact lower (redact lower value) = redact lower value
  | .array items => by rw [redact, redact, redactItems_redactItems items]
  | .object members => by rw [redact, redact, redactMembers_redactMembers members]
  | .null => rfl
  | .bool _ => rfl
  | .integer _ => rfl
  | .number _ => rfl
  | .string _ => rfl

theorem redactItems_redactItems : (items : List Json) →
    redactItems lower (redactItems lower items) = redactItems lower items
  | [] => rfl
  | item :: rest => by rw [redactItems, redactItems, redact_redact item, redactItems_redactItems rest]

theorem redactMembers_redactMembers : (members : List (String × Json)) →
    redactMembers lower (redactMembers lower members) = redactMembers lower members
  | [] => rfl
  | (key, value) :: rest => by
      rw [redactMembers, redactMembers, redactMembers_redactMembers rest]
      by_cases redacted : RedactedKey lower key
      · simp [redacted]
      · simp [redacted, redact_redact value]

end

end Secrecy

/-- The redaction keeps the shape and the scalars outside redacted keys, replaces every redacted member, forgets what is
below it and nothing else, and changes nothing that it has redacted. -/
theorem redaction_complete (lower : String → String) (value : Json) :
    (∀ path, OpenPath lower path →
        (valueAt path (redact lower value)).map outline = (valueAt path value).map outline) ∧
      (∀ path key, OpenPath lower path → RedactedKey lower key →
        valueAt (path ++ [.member key]) (redact lower value) =
          (valueAt (path ++ [.member key]) value).map fun _ => .string "<redacted>") ∧
      (∀ other, redact lower value = redact lower other ↔ Alike lower value other) ∧
      redact lower (redact lower value) = redact lower value := by
  refine ⟨?_, ?_, redact_eq_iff value, redact_redact value⟩
  · intro path visible
    rw [valueAt_redact visible, Option.map_map]
    congr 1
    funext part
    exact outline_redact part
  · intro path key visible redacted
    rw [valueAt_concat, valueAt_concat, valueAt_redact visible]
    cases valueAt path value with
    | none => rfl
    | some part => exact of_member_redact redacted part

end Pxtly.Cli
