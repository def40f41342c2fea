/-
This file gives JSON values and the decoding rules of Go's `encoding/json`.
-/

import Pxtly.Foundation.Errors
import Pxtly.Foundation.Patterns

namespace Pxtly.Foundation

/-- A number literal is an integer or stands for one floating-point value. -/
inductive Json where
  | null
  | bool (value : Bool)
  | integer (value : Int)
  | number (value : Float)
  | string (value : String)
  | array (items : List Json)
  | object (members : List (String × Json))
  deriving Repr

/-- Later members win, and names match when their cases differ. -/
def Json.field : List (String × Json) → String → Option Json
  | [], _ => none
  | (key, value) :: later, name =>
      (Json.field later name).or (if equalFold key name then some value else none)

/-- This is the error of a value whose type does not fit its field. -/
def typeError (expected : String) : GoError :=
  .errorf "json: cannot unmarshal value into Go value of type %s" [.text expected]

def Json.decodeString : Json → Except GoError String
  | .null => .ok ""
  | .string value => .ok value
  | _ => .error (typeError "string")

/-- A literal beyond the range of `float64` is refused, so a decoded number is finite. -/
def Json.decodeFloat : Json → Except GoError Float
  | .null => .ok 0
  | .integer value => if (Float.ofInt value).isFinite then .ok (Float.ofInt value)
      else .error (typeError "float64")
  | .number value => if value.isFinite then .ok value else .error (typeError "float64")
  | _ => .error (typeError "float64")

/-- A counter takes integer literals. -/
def Json.decodeInt : Json → Except GoError Int
  | .null => .ok 0
  | .integer value => .ok value
  | _ => .error (typeError "int")

def Json.decodeArray {A : Type} (decode : Json → Except GoError A) : Json → Except GoError (List A)
  | .null => .ok []
  | .array items => items.mapM decode
  | _ => .error (typeError "slice")

/-- An absent member leaves the zero value, as `null` does. -/
def Json.decodeField {A : Type} (members : List (String × Json)) (name : String)
    (decode : Json → Except GoError A) : Except GoError A :=
  decode ((Json.field members name).getD .null)

def Json.decodeObject : Json → Except GoError (List (String × Json))
  | .null => .ok []
  | .object members => .ok members
  | _ => .error (typeError "struct")

/-- A number that is not finite has no literal. -/
def Json.encodeFloat (value : Float) : Except GoError Json :=
  if value.isFinite then .ok (.number value)
  else .error (.errorf "json: unsupported value: %v" [.float value])

@[simp] theorem Json.encodeFloat_eq_ok (value : Float) (json : Json) :
    Json.encodeFloat value = .ok json ↔ value.isFinite = true ∧ .number value = json := by
  by_cases finite : value.isFinite = true <;> simp [Json.encodeFloat, finite]

theorem Json.decodeFloat_number (value : Float) (finite : value.isFinite = true) :
    Json.decodeFloat (.number value) = .ok value := by
  simp [Json.decodeFloat, finite]

/-- Every decoded number can be encoded again. -/
theorem Json.isFinite_of_decodeFloat (json : Json) (value : Float)
    (decoded : Json.decodeFloat json = .ok value) : value.isFinite = true := by
  cases json with
  | null =>
      obtain rfl := Except.ok.inj decoded
      decide
  | integer literal =>
      simp only [Json.decodeFloat] at decoded
      split at decoded
      next finite =>
        obtain rfl := Except.ok.inj decoded
        exact finite
      next => cases decoded
  | number literal =>
      simp only [Json.decodeFloat] at decoded
      split at decoded
      next finite =>
        obtain rfl := Except.ok.inj decoded
        exact finite
      next => cases decoded
  | bool literal => cases decoded
  | string text => cases decoded
  | array items => cases decoded
  | object members => cases decoded

/-- Decoding each item inverts encoding each item. -/
theorem mapM_inverse {A : Type} {encode : A → Except GoError Json} {decode : Json → Except GoError A}
    (inverse : ∀ item json, encode item = .ok json → decode json = .ok item)
    (items : List A) (jsons : List Json) (encoded : items.mapM encode = .ok jsons) :
    jsons.mapM decode = .ok items := by
  induction items generalizing jsons with
  | nil =>
      obtain rfl := Except.ok.inj encoded
      rfl
  | cons item rest inductionHypothesis =>
      obtain ⟨json, others, first, later, rfl⟩ := mapM_cons_eq_ok.mp encoded
      exact mapM_cons_eq_ok.mpr ⟨item, rest, inverse item json first, inductionHypothesis others later, rfl⟩

/-- A list is encoded when each of its items is. -/
theorem exists_mapM {E A B : Type} {encode : A → Except E B} (items : List A)
    (each : ∀ item ∈ items, ∃ json, encode item = .ok json) : ∃ jsons, items.mapM encode = .ok jsons := by
  induction items with
  | nil => exact ⟨[], rfl⟩
  | cons item rest inductionHypothesis =>
      obtain ⟨json, first⟩ := each item List.mem_cons_self
      obtain ⟨jsons, later⟩ := inductionHypothesis fun item member =>
        each item (List.mem_cons_of_mem _ member)
      exact ⟨json :: jsons, mapM_cons_eq_ok.mpr ⟨json, jsons, first, later, rfl⟩⟩

/-- Each result of a successful traversal comes from some item. -/
theorem mem_of_mapM {A B : Type} {decode : A → Except GoError B} (items : List A) (results : List B)
    (decoded : items.mapM decode = .ok results) :
    ∀ result ∈ results, ∃ item ∈ items, decode item = .ok result := by
  induction items generalizing results with
  | nil =>
      obtain rfl := Except.ok.inj decoded
      simp
  | cons item rest inductionHypothesis =>
      obtain ⟨first, others, firstOk, later, rfl⟩ := mapM_cons_eq_ok.mp decoded
      intro result member
      rcases List.mem_cons.mp member with rfl | inside
      · exact ⟨item, List.mem_cons_self, firstOk⟩
      · obtain ⟨source, sourceMember, sourceOk⟩ := inductionHypothesis others later result inside
        exact ⟨source, List.mem_cons_of_mem _ sourceMember, sourceOk⟩

theorem Json.decodeArray_mem {A : Type} (decode : Json → Except GoError A) (json : Json)
    (results : List A) (decoded : Json.decodeArray decode json = .ok results) :
    ∀ result ∈ results, ∃ item, decode item = .ok result := by
  cases json with
  | null =>
      obtain rfl := Except.ok.inj decoded
      simp
  | array items =>
      intro result member
      obtain ⟨item, _, itemOk⟩ := mem_of_mapM items results decoded result member
      exact ⟨item, itemOk⟩
  | bool value => cases decoded
  | integer value => cases decoded
  | number value => cases decoded
  | string text => cases decoded
  | object members => cases decoded

section Occurrences

/-- A value occurs in a document as the document itself, as an item or as a member. -/
inductive Json.Occurs (part : Json) : Json → Prop where
  | here : Json.Occurs part part
  | item {items : List Json} {item : Json} (member : item ∈ items) (inside : Json.Occurs part item) :
      Json.Occurs part (.array items)
  | member {members : List (String × Json)} {member : String × Json} (named : member ∈ members)
      (inside : Json.Occurs part member.2) : Json.Occurs part (.object members)

variable {part : Json}

@[simp] theorem Json.occurs_string (text : String) : Json.Occurs part (.string text) ↔ part = .string text := by
  constructor
  · intro occurs
    cases occurs
    rfl
  · rintro rfl
    exact .here

@[simp] theorem Json.occurs_number (value : Float) : Json.Occurs part (.number value) ↔ part = .number value := by
  constructor
  · intro occurs
    cases occurs
    rfl
  · rintro rfl
    exact .here

@[simp] theorem Json.occurs_integer (value : Int) : Json.Occurs part (.integer value) ↔ part = .integer value := by
  constructor
  · intro occurs
    cases occurs
    rfl
  · rintro rfl
    exact .here

theorem Json.occurs_array (items : List Json) :
    Json.Occurs part (.array items) ↔ part = .array items ∨ ∃ item ∈ items, Json.Occurs part item := by
  constructor
  · intro occurs
    cases occurs with
    | here => exact .inl rfl
    | item member inside => exact .inr ⟨_, member, inside⟩
  · rintro (rfl | ⟨item, member, inside⟩)
    · exact .here
    · exact .item member inside

theorem Json.occurs_object (members : List (String × Json)) :
    Json.Occurs part (.object members) ↔
      part = .object members ∨ ∃ member ∈ members, Json.Occurs part member.2 := by
  constructor
  · intro occurs
    cases occurs with
    | here => exact .inl rfl
    | member named inside => exact .inr ⟨_, named, inside⟩
  · rintro (rfl | ⟨member, named, inside⟩)
    · exact .here
    · exact .member named inside

end Occurrences

end Pxtly.Foundation
