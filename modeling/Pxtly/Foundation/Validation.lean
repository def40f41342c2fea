/-
This file gives the validation of named fields, which reports every field that fails.
-/

import Pxtly.Foundation.Patterns
import Pxtly.Foundation.Python

namespace Pxtly.Foundation

/-- A failure keeps the name of its field and says what is wrong with it. -/
structure FieldError where
  field : String
  message : String
  deriving DecidableEq, Repr

/-- A failure inside an item names the position of the item first. -/
def FieldError.within (index : Nat) (failure : FieldError) : FieldError :=
  ⟨toString index ++ (if failure.field = "" then "" else "." ++ failure.field), failure.message⟩

/-- A result is a value, or all failures in the order of the fields. -/
abbrev Validated (A : Type) := Except (List FieldError) A

namespace Validated

variable {A B : Type}

/-- The failures of two results are kept together. -/
def both : Validated A → Validated B → Validated (A × B)
  | .ok first, .ok second => .ok (first, second)
  | .ok _, .error later => .error later
  | .error errors, .ok _ => .error errors
  | .error errors, .error later => .error (errors ++ later)

/-- A required field is present and passes its check. -/
def required (arguments : List (String × Json)) (name : String) (check : Json → Except String A) : Validated A :=
  match dictGet arguments name with
  | none => .error [⟨name, "Field required"⟩]
  | some value => (check value).mapError fun message => [⟨name, message⟩]

/-- An optional field is missing, is `null`, or passes its check. -/
def optional (arguments : List (String × Json)) (name : String) (check : Json → Except String A) : Validated (Option A) :=
  match dictGet arguments name with
  | none => .ok none
  | some .null => .ok none
  | some value => ((check value).map some).mapError fun message => [⟨name, message⟩]

/-- All items are checked, from a position on. -/
def list (check : Json → Validated A) : Nat → List Json → Validated (List A)
  | _, [] => .ok []
  | index, item :: rest =>
      (both ((check item).mapError fun errors => errors.map (FieldError.within index)) (list check (index + 1) rest)).map
        fun (first, others) => first :: others

@[simp] theorem both_eq_ok (first : Validated A) (second : Validated B) (pair : A × B) :
    both first second = .ok pair ↔ first = .ok pair.1 ∧ second = .ok pair.2 := by
  cases first <;> cases second <;> simp [both, Prod.ext_iff]

@[simp] theorem map_eq_ok (result : Validated A) (f : A → B) (value : B) :
    result.map f = .ok value ↔ ∃ inner, result = .ok inner ∧ f inner = value := by
  cases result <;> simp [Except.map]

/-- A list passes only when each of its items does. -/
theorem exists_of_list {check : Json → Validated A} {index : Nat} {items : List Json} {values : List A}
    (passed : list check index items = .ok values) {item : Json} (member : item ∈ items) :
    ∃ value, check item = .ok value := by
  induction items generalizing index values with
  | nil => cases member
  | cons first rest inductionHypothesis =>
      simp only [list, map_eq_ok, both_eq_ok] at passed
      obtain ⟨_, ⟨firstPassed, restPassed⟩, _⟩ := passed
      rcases List.mem_cons.mp member with rfl | inside
      · exact ⟨_, (mapError_eq_ok _ _ _).mp firstPassed⟩
      · exact inductionHypothesis restPassed inside

theorem required_eq_ok (arguments : List (String × Json)) (name : String) (check : Json → Except String A)
    (value : A) :
    required arguments name check = .ok value ↔ ∃ given, dictGet arguments name = some given ∧ check given = .ok value := by
  unfold required
  cases found : dictGet arguments name with
  | none => simp
  | some given =>
      cases checked : check given with
      | error message => simp [Except.mapError, checked]
      | ok inner => simp [Except.mapError, checked]

/-- A missing field fails, whatever its check is. -/
theorem required_of_missing {arguments : List (String × Json)} {name : String} (missing : dictGet arguments name = none)
    (check : Json → Except String A) : required arguments name check = .error [⟨name, "Field required"⟩] := by
  simp [required, missing]

/-- A result fails for some field, and each failure names one of these fields. -/
def Names (names : List String) (result : Validated A) : Prop :=
  ∀ errors, result = .error errors → errors ≠ [] ∧ ∀ failure ∈ errors, failure.field ∈ names

theorem Names.required (arguments : List (String × Json)) (name : String) (check : Json → Except String A) :
    Names [name] (required arguments name check) := by
  intro errors failed
  unfold Validated.required at failed
  cases found : dictGet arguments name with
  | none =>
      rw [found] at failed
      obtain rfl := Except.error.inj failed
      simp
  | some given =>
      cases checked : check given with
      | error message =>
          simp only [found, checked, Except.mapError, Except.error.injEq] at failed
          simp [← failed]
      | ok value => simp [found, checked, Except.mapError] at failed

theorem Names.both {names later : List String} {first : Validated A} {second : Validated B}
    (left : Names names first) (right : Names later second) : Names (names ++ later) (both first second) := by
  intro errors failed
  cases first with
  | ok value =>
      cases second with
      | ok other => cases failed
      | error others =>
          obtain rfl := Except.error.inj failed
          have named := right others rfl
          exact ⟨named.1, fun failure member => List.mem_append_right _ (named.2 failure member)⟩
  | error mine =>
      have named := left mine rfl
      cases second with
      | ok other =>
          obtain rfl := Except.error.inj failed
          exact ⟨named.1, fun failure member => List.mem_append_left _ (named.2 failure member)⟩
      | error others =>
          obtain rfl := Except.error.inj failed
          have namedToo := right others rfl
          refine ⟨by simp [named.1], fun failure member => ?_⟩
          rcases List.mem_append.mp member with inside | behind
          · exact List.mem_append_left _ (named.2 failure inside)
          · exact List.mem_append_right _ (namedToo.2 failure behind)

theorem Names.map {names : List String} {result : Validated A} (named : Names names result) (f : A → B) :
    Names names (result.map f) := by
  intro errors failed
  cases result with
  | ok value => cases failed
  | error mine =>
      obtain rfl := Except.error.inj failed
      exact named mine rfl

end Validated

/-- A rule bounds the length of a text and may ask for a pattern, which is kept with its source. -/
structure TextRule where
  least : Nat := 0
  most : Option Nat := none
  pattern : Option (String × Pattern) := none

namespace TextRule

def Admits (rule : TextRule) (text : String) : Prop :=
  (∀ most ∈ rule.most, text.length ≤ most) ∧ rule.least ≤ text.length ∧
    ∀ pattern ∈ rule.pattern, pattern.2.matchString text = true

def characters (count : Nat) : String := toString count ++ if count = 1 then " character" else " characters"

/-- The upper bound is checked first and the pattern last. -/
def checkText (rule : TextRule) (text : String) : Except String {text : String // rule.Admits text} :=
  if short : ∀ most ∈ rule.most, text.length ≤ most then
    if long : rule.least ≤ text.length then
      if matched : ∀ pattern ∈ rule.pattern, pattern.2.matchString text = true then .ok ⟨text, short, long, matched⟩
      else .error ("String should match pattern '" ++ (rule.pattern.map Prod.fst).getD "" ++ "'")
    else .error ("String should have at least " ++ characters rule.least)
  else .error ("String should have at most " ++ characters (rule.most.getD 0))

def check (rule : TextRule) : Json → Except String {text : String // rule.Admits text}
  | .string text => rule.checkText text
  | _ => .error "Input should be a valid string"

theorem checkText_eq_ok (rule : TextRule) (text : String) (admitted : {text : String // rule.Admits text}) :
    rule.checkText text = .ok admitted ↔ text = admitted.val := by
  unfold checkText
  constructor
  · intro checked
    split at checked
    · split at checked
      · split at checked
        · exact congrArg Subtype.val (Except.ok.inj checked)
        · cases checked
      · cases checked
    · cases checked
  · rintro rfl
    have admits := admitted.property
    rw [dif_pos admits.1, dif_pos admits.2.1, dif_pos admits.2.2]

/-- A rule accepts exactly the texts that it admits, and hands them on unchanged. -/
theorem check_eq_ok (rule : TextRule) (json : Json) (admitted : {text : String // rule.Admits text}) :
    rule.check json = .ok admitted ↔ json = .string admitted.val := by
  cases json with
  | string text => simpa [check] using rule.checkText_eq_ok text admitted
  | null => simp [check]
  | bool value => simp [check]
  | integer value => simp [check]
  | number value => simp [check]
  | array items => simp [check]
  | object members => simp [check]

end TextRule

namespace Validated

variable (arguments : List (String × Json)) (name : String) {text : String} {rule : TextRule}

/-- An admitted text passes the check of a required field that it was given for. -/
theorem required_text (admits : rule.Admits text) (given : dictGet arguments name = some (.string text)) :
    required arguments name rule.check = .ok ⟨text, admits⟩ := by
  rw [required_eq_ok]
  exact ⟨_, given, (rule.check_eq_ok _ _).mpr rfl⟩

/-- A text that passes the check of its required field is admitted. -/
theorem admits_of_required (given : dictGet arguments name = some (.string text))
    {read : {text : String // rule.Admits text}} (passed : required arguments name rule.check = .ok read) :
    rule.Admits text := by
  obtain ⟨value, found, checked⟩ := (required_eq_ok arguments name rule.check read).mp passed
  obtain rfl := Option.some.inj (given.symm.trans found)
  cases (rule.check_eq_ok _ _).mp checked
  exact read.property

end Validated

end Pxtly.Foundation
