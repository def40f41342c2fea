/-
This file gives the templates of Python's `%` operator, their placeholders and when arguments fill them.
-/

import Mathlib

namespace Pxtly.Foundation

/-- A placeholder holds the text behind its percent sign; each star in it takes an argument. -/
structure Placeholder where
  key : Option (List Char)
  stars : Nat
  text : List Char
  deriving DecidableEq

namespace Placeholder

def conversion (placeholder : Placeholder) : Option Char := placeholder.text.getLast?

/-- A placeholder such as `%%` stands for a percent sign. -/
def count (placeholder : Placeholder) : Nat :=
  placeholder.stars + if placeholder.conversion = some '%' then 0 else 1

def demand (placeholders : List Placeholder) : Nat := (placeholders.map count).sum

@[simp] theorem demand_nil : demand [] = 0 := rfl

theorem demand_cons (placeholder : Placeholder) (placeholders : List Placeholder) :
    demand (placeholder :: placeholders) = placeholder.count + demand placeholders := rfl

theorem demand_append (first second : List Placeholder) : demand (first ++ second) = demand first + demand second := by
  simp [demand]

theorem demand_eq_zero {placeholders : List Placeholder} (idle : ∀ placeholder ∈ placeholders, placeholder.count = 0) :
    demand placeholders = 0 := by
  induction placeholders with
  | nil => rfl
  | cons placeholder placeholders inductionHypothesis =>
      rw [demand_cons, idle placeholder (List.mem_cons_self ..),
        inductionHypothesis fun other inside => idle other (List.mem_cons_of_mem _ inside)]

theorem count_le_demand {placeholder : Placeholder} {placeholders : List Placeholder} (inside : placeholder ∈ placeholders) :
    placeholder.count ≤ demand placeholders := by
  obtain ⟨before, behind, rfl⟩ := List.append_of_mem inside
  rw [demand_append, demand_cons]
  omega

theorem demand_sublist {fewer all : List Placeholder} (sublist : fewer.Sublist all) : demand fewer ≤ demand all := by
  induction sublist with
  | slnil => exact Nat.le_refl _
  | cons placeholder _ inductionHypothesis =>
      rw [demand_cons]
      omega
  | cons_cons placeholder _ inductionHypothesis =>
      rw [demand_cons, demand_cons]
      omega

end Placeholder

namespace Template

/-- A placeholder is read from slot to slot. -/
inductive Slot where
  | start
  | key (depth : Nat)
  | flags
  | width (number : Nat)
  | behindWidth
  | point
  | precision (number : Nat)
  | behindPrecision
  | conversion
  deriving DecidableEq

/-- A key where no mapping is given ends the reading. -/
inductive Cursor where
  | text
  | named
  | inside (slot : Slot) (placeholder : Placeholder)
  deriving DecidableEq

/-- A character moves the reader on and may end a placeholder. -/
abbrev Reading := Option (Cursor × List Placeholder)

def isDigit (c : Char) : Bool := '0' ≤ c && c ≤ '9'
def digitValue (c : Char) : Nat := c.toNat - '0'.toNat

section Characters

variable (placeholder : Placeholder) (c : Char)

def conversion : Reading :=
  if c ∈ "sracdiuoxXeEfFgG%".toList then some (.text, [placeholder]) else none

def modifier : Reading :=
  if c ∈ ['h', 'l', 'L'] then some (.inside .conversion placeholder, []) else conversion placeholder c

def precision : Reading := if c = '.' then some (.inside .point placeholder, []) else modifier placeholder c

def width : Reading :=
  if c = '*' then some (.inside .behindWidth { placeholder with stars := placeholder.stars + 1 }, [])
  else if isDigit c then some (.inside (.width (digitValue c)) placeholder, [])
  else precision placeholder c

def flags : Reading :=
  if c ∈ ['-', '+', ' ', '#', '0'] then some (.inside .flags placeholder, []) else width placeholder c

def maxWidth : Nat := 2 ^ 63 - 1
def maxPrecision : Nat := 2 ^ 31 - 1

def moreWidth (number : Nat) : Reading :=
  if isDigit c then
    if (maxWidth - digitValue c) / 10 < number then none
    else some (.inside (.width (number * 10 + digitValue c)) placeholder, [])
  else precision placeholder c

def afterPoint : Reading :=
  if c = '*' then some (.inside .behindPrecision { placeholder with stars := placeholder.stars + 1 }, [])
  else if isDigit c then some (.inside (.precision (digitValue c)) placeholder, [])
  else modifier placeholder c

def morePrecision (number : Nat) : Reading :=
  if isDigit c then
    if (maxPrecision - digitValue c) / 10 < number then none
    else some (.inside (.precision (number * 10 + digitValue c)) placeholder, [])
  else modifier placeholder c

/-- Parentheses may be nested in a key. -/
def moreKey (depth : Nat) : Reading :=
  if c = ')' then
    if depth ≤ 1 then
      some (.inside .flags { placeholder with key := some (placeholder.text.drop 1).dropLast }, [])
    else some (.inside (.key (depth - 1)) placeholder, [])
  else some (.inside (.key (if c = '(' then depth + 1 else depth)) placeholder, [])

def first (mapped : Bool) : Reading :=
  if c = '(' then some (if mapped then .inside (.key 1) placeholder else .named, []) else flags placeholder c

/-- The placeholder already holds the character. -/
def advance (mapped : Bool) : Slot → Reading
  | .start => first placeholder c mapped
  | .key depth => moreKey placeholder c depth
  | .flags => flags placeholder c
  | .width number => moreWidth placeholder c number
  | .behindWidth => precision placeholder c
  | .point => afterPoint placeholder c
  | .precision number => morePrecision placeholder c number
  | .behindPrecision => modifier placeholder c
  | .conversion => conversion placeholder c

end Characters

def step (mapped : Bool) : Cursor → Char → Reading
  | .text, c => some (if c = '%' then .inside .start ⟨none, 0, []⟩ else .text, [])
  | .named, _ => some (.named, [])
  | .inside slot placeholder, c =>
      advance { placeholder with text := placeholder.text ++ [c] } c mapped slot

def run (mapped : Bool) : Cursor → List Char → Reading
  | cursor, [] => some (cursor, [])
  | cursor, c :: rest =>
      match step mapped cursor c with
      | none => none
      | some (next, ended) => (run mapped next rest).map fun (last, later) => (last, ended ++ later)

/-- A template must not end within a placeholder. -/
def placeholders (mapped : Bool) (template : List Char) : Option (List Placeholder) :=
  match run mapped .text template with
  | some (.text, ended) => some ended
  | _ => none

example : placeholders true "%(user)s: %-5.*d%%".toList =
    some [⟨some "user".toList, 0, "(user)s".toList⟩, ⟨none, 1, "-5.*d".toList⟩, ⟨none, 0, "%".toList⟩] := by
  decide +kernel

variable {mapped : Bool}

theorem placeholders_eq_some {template : List Char} {ended : List Placeholder} :
    placeholders mapped template = some ended ↔ run mapped .text template = some (.text, ended) := by
  unfold placeholders
  split
  · next known => simp [known]
  · next other =>
      constructor
      · intro contrary
        cases contrary
      · exact fun found => absurd found (other ended)

theorem run_append (cursor : Cursor) (first rest : List Char) : run mapped cursor (first ++ rest) =
    match run mapped cursor first with
    | none => none
    | some (next, ended) => (run mapped next rest).map fun (last, later) => (last, ended ++ later) := by
  induction first generalizing cursor with
  | nil => simp [run]
  | cons c first inductionHypothesis =>
      simp only [List.cons_append, run]
      cases step mapped cursor c with
      | none => rfl
      | some outcome =>
          obtain ⟨next, ended⟩ := outcome
          simp only [inductionHypothesis]
          cases run mapped next first with
          | none => rfl
          | some outcome => simp [Function.comp_def, List.append_assoc]

/-- A reading of both parts is one of each part. -/
theorem run_append_eq {cursor last : Cursor} {first rest : List Char} {ended : List Placeholder} :
    run mapped cursor (first ++ rest) = some (last, ended) ↔ ∃ next early later,
      run mapped cursor first = some (next, early) ∧ run mapped next rest = some (last, later) ∧ ended = early ++ later := by
  rw [run_append]
  cases run mapped cursor first with
  | none => simp
  | some outcome =>
      obtain ⟨next, early⟩ := outcome
      constructor
      · intro found
        obtain ⟨⟨last', later⟩, same, whole⟩ := Option.map_eq_some_iff.mp found
        obtain ⟨rfl, rfl⟩ := Prod.mk.inj whole
        exact ⟨next, early, later, rfl, same, rfl⟩
      · rintro ⟨next', early', later, same, found, rfl⟩
        obtain ⟨rfl, rfl⟩ := Prod.mk.inj (Option.some.inj same)
        exact Option.map_eq_some_iff.mpr ⟨_, found, rfl⟩

theorem run_cons_eq {cursor last : Cursor} {c : Char} {rest : List Char} {ended : List Placeholder} :
    run mapped cursor (c :: rest) = some (last, ended) ↔ ∃ next early later,
      step mapped cursor c = some (next, early) ∧ run mapped next rest = some (last, later) ∧ ended = early ++ later := by
  rw [← List.singleton_append, run_append_eq]
  have single : run mapped cursor [c] = step mapped cursor c := by
    rw [run]
    cases step mapped cursor c with
    | none => rfl
    | some outcome => simp [run]
  rw [single]

theorem run_append_none {cursor next : Cursor} {first rest : List Char} {early : List Placeholder}
    (read : run mapped cursor first = some (next, early)) (fails : run mapped next rest = none) :
    run mapped cursor (first ++ rest) = none := by
  rw [run_append, read]
  simp [fails]

/-- Without percent signs a text has no placeholders. -/
theorem run_plain {text : List Char} (plain : '%' ∉ text) : run mapped .text text = some (.text, []) := by
  induction text with
  | nil => rfl
  | cons c text inductionHypothesis =>
      rw [List.mem_cons, not_or] at plain
      exact run_cons_eq.mpr ⟨.text, [], [], by rw [step, if_neg (Ne.symm plain.1)], inductionHypothesis plain.2, rfl⟩

/-- A key is being read, or has been. -/
def Slot.Keyed (slot : Slot) (placeholder : Placeholder) : Prop := (∃ depth, slot = .key depth) ∨ placeholder.key ≠ none

/-- No placeholder goes on with such a character, a key apart. -/
def Outside (c : Char) : Prop := c ∉ "sracdiuoxXeEfFgG%hlL-+ #0.*(".toList ∧ isDigit c = false

theorem advance_outside {slot : Slot} {placeholder : Placeholder} {c : Char} (outside : Outside c)
    (unkeyed : ¬∃ depth, slot = .key depth) : advance placeholder c mapped slot = none := by
  obtain ⟨other, notDigit⟩ := outside
  simp only [String.reduceToList, List.mem_cons, List.not_mem_nil, or_false, not_or] at other
  cases slot with
  | key depth => exact absurd ⟨depth, rfl⟩ unkeyed
  | _ =>
      simp [advance, first, moreWidth, afterPoint, morePrecision, flags, width, precision, modifier, conversion, other,
        notDigit]

/-- A placeholder goes on, apart from a key, or it ends. -/
def Goes (reading : Reading) (placeholder : Placeholder) (c : Char) : Prop :=
  reading = none ∨
    (∃ slot stars, reading = some (.inside slot { placeholder with stars := stars }, []) ∧ ¬∃ depth, slot = .key depth) ∨
    (reading = some (.text, [placeholder]) ∧ c ∈ "sracdiuoxXeEfFgG%".toList)

section Goes

variable (placeholder : Placeholder) (c : Char)

theorem goes_on {slot : Slot} (unkeyed : ¬∃ depth, slot = .key depth) :
    Goes (some (.inside slot placeholder, [])) placeholder c := .inr (.inl ⟨slot, placeholder.stars, rfl, unkeyed⟩)

theorem conversion_goes : Goes (conversion placeholder c) placeholder c := by
  unfold conversion
  split_ifs with supported
  · exact .inr (.inr ⟨rfl, supported⟩)
  · exact .inl rfl

theorem modifier_goes : Goes (modifier placeholder c) placeholder c := by
  unfold modifier
  split_ifs
  · exact goes_on placeholder c (by simp)
  · exact conversion_goes placeholder c

theorem precision_goes : Goes (precision placeholder c) placeholder c := by
  unfold precision
  split_ifs
  · exact goes_on placeholder c (by simp)
  · exact modifier_goes placeholder c

theorem width_goes : Goes (width placeholder c) placeholder c := by
  unfold width
  split_ifs
  · exact .inr (.inl ⟨_, _, rfl, by simp⟩)
  · exact goes_on placeholder c (by simp)
  · exact precision_goes placeholder c

theorem flags_goes : Goes (flags placeholder c) placeholder c := by
  unfold flags
  split_ifs
  · exact goes_on placeholder c (by simp)
  · exact width_goes placeholder c

theorem moreWidth_goes (number : Nat) : Goes (moreWidth placeholder c number) placeholder c := by
  unfold moreWidth
  split_ifs
  · exact .inl rfl
  · exact goes_on placeholder c (by simp)
  · exact precision_goes placeholder c

theorem afterPoint_goes : Goes (afterPoint placeholder c) placeholder c := by
  unfold afterPoint
  split_ifs
  · exact .inr (.inl ⟨_, _, rfl, by simp⟩)
  · exact goes_on placeholder c (by simp)
  · exact modifier_goes placeholder c

theorem morePrecision_goes (number : Nat) : Goes (morePrecision placeholder c number) placeholder c := by
  unfold morePrecision
  split_ifs
  · exact .inl rfl
  · exact goes_on placeholder c (by simp)
  · exact modifier_goes placeholder c

theorem advance_goes (mapped : Bool) {slot : Slot} (unkeyed : ¬∃ depth, slot = .key depth)
    (opens : ¬(slot = .start ∧ c = '(')) : Goes (advance placeholder c mapped slot) placeholder c := by
  cases slot with
  | key depth => exact absurd ⟨depth, rfl⟩ unkeyed
  | start =>
      rw [advance, first, if_neg fun same => opens ⟨rfl, same⟩]
      exact flags_goes placeholder c
  | flags => exact flags_goes placeholder c
  | width number => exact moreWidth_goes placeholder c number
  | behindWidth => exact precision_goes placeholder c
  | point => exact afterPoint_goes placeholder c
  | precision number => exact morePrecision_goes placeholder c number
  | behindPrecision => exact modifier_goes placeholder c
  | conversion => exact conversion_goes placeholder c

end Goes

/-- A character within a key goes on with it, or it ends the key. -/
theorem advance_key (mapped : Bool) (depth : Nat) (placeholder : Placeholder) (c : Char) : ∃ slot placeholder',
    advance placeholder c mapped (.key depth) = some (.inside slot placeholder', []) ∧
      placeholder'.text = placeholder.text ∧ slot.Keyed placeholder' := by
  rw [advance, moreKey]
  split_ifs
  · exact ⟨_, _, rfl, rfl, .inr (by simp)⟩
  · exact ⟨_, _, rfl, rfl, .inl ⟨_, rfl⟩⟩
  · exact ⟨_, _, rfl, rfl, .inl ⟨_, rfl⟩⟩
  · exact ⟨_, _, rfl, rfl, .inl ⟨_, rfl⟩⟩

/-- A character goes on with a placeholder, ends it, or starts a key without a mapping. -/
theorem advance_cases {slot : Slot} {placeholder : Placeholder} {c : Char} {next : Cursor} {ended : List Placeholder}
    (found : advance placeholder c mapped slot = some (next, ended)) :
    (∃ slot' placeholder', next = .inside slot' placeholder' ∧ ended = [] ∧ placeholder'.text = placeholder.text ∧
      (slot.Keyed placeholder → slot'.Keyed placeholder') ∧
      (slot'.Keyed placeholder' → slot.Keyed placeholder ∨ mapped = true ∧ slot = .start ∧ c = '(')) ∨
    (next = .text ∧ ended = [placeholder] ∧ (¬∃ depth, slot = .key depth) ∧ c ∈ "sracdiuoxXeEfFgG%".toList) ∨
    (next = .named ∧ ended = [] ∧ mapped = false ∧ slot = .start ∧ c = '(') := by
  by_cases keyed : ∃ depth, slot = .key depth
  · obtain ⟨depth, rfl⟩ := keyed
    obtain ⟨slot', placeholder', same, text, keyed⟩ := advance_key mapped depth placeholder c
    obtain ⟨rfl, rfl⟩ := Prod.mk.inj (Option.some.inj (same.symm.trans found))
    exact .inl ⟨slot', placeholder', rfl, rfl, text, fun _ => keyed, fun _ => .inl (.inl ⟨depth, rfl⟩)⟩
  · by_cases opens : slot = .start ∧ c = '('
    · obtain ⟨rfl, rfl⟩ := opens
      cases mapped with
      | false =>
          obtain ⟨rfl, rfl⟩ := Prod.mk.inj (Option.some.inj found)
          exact .inr (.inr ⟨rfl, rfl, rfl, rfl, rfl⟩)
      | true =>
          obtain ⟨rfl, rfl⟩ := Prod.mk.inj (Option.some.inj found)
          exact .inl ⟨_, _, rfl, rfl, rfl, fun _ => .inl ⟨1, rfl⟩, fun _ => .inr ⟨rfl, rfl, rfl⟩⟩
    · rcases advance_goes placeholder c mapped keyed opens with
        fails | ⟨slot', stars, same, unkeyed⟩ | ⟨same, supported⟩
      · cases fails.symm.trans found
      · obtain ⟨rfl, rfl⟩ := Prod.mk.inj (Option.some.inj (same.symm.trans found))
        exact .inl ⟨slot', _, rfl, rfl, rfl, fun known => .inr (known.resolve_left keyed), fun known =>
          .inl (.inr (known.resolve_left unkeyed))⟩
      · obtain ⟨rfl, rfl⟩ := Prod.mk.inj (Option.some.inj (same.symm.trans found))
        exact .inr (.inl ⟨rfl, rfl, keyed, supported⟩)

theorem run_named (text : List Char) : run mapped .named text = some (.named, []) := by
  induction text with
  | nil => rfl
  | cons c text inductionHypothesis => exact run_cons_eq.mpr ⟨.named, [], [], rfl, inductionHypothesis, rfl⟩

/-- Only a key is read differently without a mapping. -/
theorem advance_mapped {slot : Slot} (placeholder : Placeholder) {c : Char} (opens : ¬(slot = .start ∧ c = '(')) :
    advance placeholder c true slot = advance placeholder c false slot := by
  cases slot with
  | start =>
      have other : c ≠ '(' := fun same => opens ⟨rfl, same⟩
      simp [advance, first, other]
  | _ => rfl

theorem step_mapped {cursor next : Cursor} {c : Char} {early : List Placeholder} (other : next ≠ .named)
    (stepped : step false cursor c = some (next, early)) : step true cursor c = some (next, early) := by
  cases cursor with
  | text => exact stepped
  | named => exact stepped
  | inside slot placeholder =>
      refine (advance_mapped _ ?_).trans stepped
      rintro ⟨rfl, rfl⟩
      exact other (Prod.mk.inj (Option.some.inj stepped)).1.symm

/-- Neither a key nor a placeholder that has one is being read. -/
def Cursor.Unkeyed : Cursor → Prop
  | .text => True
  | .named => False
  | .inside slot placeholder => ¬slot.Keyed placeholder

/-- A placeholder that has a key keeps it. -/
theorem run_keyed {slot : Slot} {placeholder : Placeholder} {text : List Char} {ended : List Placeholder}
    (keyed : slot.Keyed placeholder) (found : run true (.inside slot placeholder) text = some (.text, ended)) :
    ∃ other ∈ ended, other.key ≠ none := by
  induction text generalizing slot placeholder ended with
  | nil => cases found
  | cons c text inductionHypothesis =>
      obtain ⟨next, early, later, stepped, rest, rfl⟩ := run_cons_eq.mp found
      rcases advance_cases stepped with ⟨slot', other, rfl, rfl, -, keeps, -⟩ | ⟨rfl, rfl, unkeyed, -⟩ | ⟨-, -, contrary, -⟩
      · exact inductionHypothesis (keeps keyed) rest
      · exact ⟨_, List.mem_append_left _ (List.mem_singleton_self _), keyed.resolve_left unkeyed⟩
      · cases contrary

theorem unkeyed_text : Cursor.text.Unkeyed := trivial

theorem unkeyed_of_text (c : Char) : (if c = '%' then Cursor.inside .start ⟨none, 0, []⟩ else .text).Unkeyed := by
  split_ifs
  · rintro (⟨depth, contrary⟩ | contrary)
    · cases contrary
    · exact contrary rfl
  · trivial

/-- Placeholders without keys are read alike with a mapping and without one. -/
theorem run_unmapped {cursor : Cursor} {text : List Char} {ended : List Placeholder} (unkeyed : cursor.Unkeyed)
    (found : run true cursor text = some (.text, ended)) (plain : ∀ other ∈ ended, other.key = none) :
    run false cursor text = some (.text, ended) := by
  induction text generalizing cursor ended with
  | nil => exact found
  | cons c text inductionHypothesis =>
      obtain ⟨next, early, later, stepped, rest, rfl⟩ := run_cons_eq.mp found
      have plain' : ∀ other ∈ later, other.key = none := fun other inside => plain other (List.mem_append_right _ inside)
      cases cursor with
      | named => exact unkeyed.elim
      | text =>
          obtain ⟨rfl, rfl⟩ := Prod.mk.inj (Option.some.inj stepped)
          exact run_cons_eq.mpr ⟨_, _, _, rfl, inductionHypothesis (unkeyed_of_text c) rest plain', rfl⟩
      | inside slot placeholder =>
          by_cases opens : slot = .start ∧ c = '('
          · obtain ⟨rfl, rfl⟩ := opens
            obtain ⟨rfl, rfl⟩ := Prod.mk.inj (Option.some.inj stepped)
            obtain ⟨other, inside, keyed⟩ := run_keyed (.inl ⟨1, rfl⟩) rest
            exact absurd (plain' other inside) keyed
          · have same : step false (.inside slot placeholder) c = some (next, early) := by
              rw [← stepped]
              exact (advance_mapped _ opens).symm
            refine run_cons_eq.mpr ⟨next, early, later, same, inductionHypothesis ?_ rest plain', rfl⟩
            rcases advance_cases stepped with ⟨slot', other, rfl, -, -, -, only⟩ | ⟨rfl, -⟩ | ⟨-, -, contrary, -⟩
            · exact fun keyed => (only keyed).elim unkeyed fun starts => opens starts.2
            · trivial
            · cases contrary

/-- Without a mapping, only placeholders without keys are read. -/
theorem run_mapped {cursor : Cursor} {text : List Char} {ended : List Placeholder} (unkeyed : cursor.Unkeyed)
    (found : run false cursor text = some (.text, ended)) :
    run true cursor text = some (.text, ended) ∧ ∀ other ∈ ended, other.key = none := by
  induction text generalizing cursor ended with
  | nil =>
      obtain ⟨rfl, rfl⟩ := Prod.mk.inj (Option.some.inj found)
      exact ⟨rfl, by simp⟩
  | cons c text inductionHypothesis =>
      obtain ⟨next, early, later, stepped, rest, rfl⟩ := run_cons_eq.mp found
      cases cursor with
      | named => exact unkeyed.elim
      | text =>
          obtain ⟨rfl, rfl⟩ := Prod.mk.inj (Option.some.inj stepped)
          obtain ⟨same, plain⟩ := inductionHypothesis (unkeyed_of_text c) rest
          exact ⟨run_cons_eq.mpr ⟨_, _, _, rfl, same, rfl⟩, plain⟩
      | inside slot placeholder =>
          rcases advance_cases stepped with ⟨slot', other, rfl, rfl, -, -, only⟩ | ⟨rfl, rfl, -⟩ | ⟨rfl, -⟩
          · have unkeyed' : (Cursor.inside slot' other).Unkeyed := fun keyed =>
              (only keyed).elim unkeyed fun starts => by cases starts.1
            obtain ⟨same, plain⟩ := inductionHypothesis unkeyed' rest
            have opens : ¬(slot = .start ∧ c = '(') := by
              rintro ⟨rfl, rfl⟩
              cases stepped
            exact ⟨run_cons_eq.mpr ⟨_, _, _, (advance_mapped _ opens).trans stepped, same, rfl⟩, plain⟩
          · obtain ⟨same, plain⟩ := inductionHypothesis unkeyed_text rest
            have opens : ¬(slot = .start ∧ c = '(') := by
              rintro ⟨rfl, rfl⟩
              cases stepped
            refine ⟨run_cons_eq.mpr ⟨_, _, _, (advance_mapped _ opens).trans stepped, same, rfl⟩, ?_⟩
            rintro other inside
            rcases List.mem_cons.mp inside with rfl | later'
            · by_contra keyed
              exact unkeyed (.inr keyed)
            · exact plain other later'
          · rw [run_named] at rest
            cases rest

/-- Only a key ends the reading of placeholders without keys. -/
theorem run_named_or_unkeyed {cursor last : Cursor} {text : List Char} {ended : List Placeholder} (unkeyed : cursor.Unkeyed)
    (found : run false cursor text = some (last, ended)) : last = .named ∧ '(' ∈ text ∨ last.Unkeyed := by
  induction text generalizing cursor ended with
  | nil =>
      obtain ⟨rfl, rfl⟩ := Prod.mk.inj (Option.some.inj found)
      exact .inr unkeyed
  | cons c text inductionHypothesis =>
      obtain ⟨next, early, later, stepped, rest, rfl⟩ := run_cons_eq.mp found
      have later' (unkeyed : next.Unkeyed) : last = .named ∧ '(' ∈ c :: text ∨ last.Unkeyed :=
        (inductionHypothesis unkeyed rest).imp_left fun holds => ⟨holds.1, List.mem_cons_of_mem _ holds.2⟩
      cases cursor with
      | named => exact unkeyed.elim
      | text =>
          obtain ⟨rfl, rfl⟩ := Prod.mk.inj (Option.some.inj stepped)
          exact later' (unkeyed_of_text c)
      | inside slot placeholder =>
          rcases advance_cases stepped with ⟨slot', other, rfl, -, -, -, only⟩ | ⟨rfl, -⟩ | ⟨rfl, -, -, -, rfl⟩
          · exact later' fun keyed => (only keyed).elim unkeyed fun starts => by cases starts.1
          · exact later' trivial
          · rw [run_named] at rest
            obtain ⟨rfl, -⟩ := Prod.mk.inj (Option.some.inj rest)
            exact .inl ⟨rfl, List.mem_cons_self ..⟩

end Template

/-- A text is an argument whose formatting is known; the formatting of other objects is their own. -/
inductive Value (Object : Type) where
  | text (text : List Char)
  | object (object : Object)
  deriving DecidableEq

structure Objects (Object : Type) where
  str : Object → Option (List Char)
  lookup : Object → List Char → Option (Value Object)
  isStar : Object → Placeholder → Nat → Bool
  formats : Object → Placeholder → List Object → Bool

namespace Objects

variable {Object : Type} (objects : Objects Object)

def accepts (placeholder : Placeholder) (stars : List Object) : Value Object → Bool
  | .text text =>
      placeholder.conversion ∈ [some 's', some 'r', some 'a'] || (placeholder.conversion == some 'c' && text.length == 1)
  | .object object => objects.formats object placeholder stars

def starObject : Value Object → Option Object
  | .text _ => none
  | .object object => some object

/-- The arguments at the stars come before the formatted one. -/
def fits (placeholder : Placeholder) (values : List (Value Object)) : Bool :=
  match (values.take placeholder.stars).mapM starObject with
  | none => false
  | some stars =>
      (stars.zipIdx.all fun star => objects.isStar star.1 placeholder star.2) &&
        match values.drop placeholder.stars with
        | [] => true
        | value :: _ => objects.accepts placeholder stars value

/-- A key replaces the arguments that are left by the value that the mapping has for it. -/
def supply (mapping : Option Object) (values : List (Value Object)) (placeholder : Placeholder) :
    Option (List (Value Object)) :=
  match placeholder.key with
  | none => some values
  | some key => mapping.bind fun object => (objects.lookup object key).map fun value => [value]

/-- Without a mapping, no argument may be left at the end. -/
def fill (mapping : Option Object) : List Placeholder → List (Value Object) → Bool
  | [], values => mapping.isSome || values.isEmpty
  | placeholder :: placeholders, values =>
      match objects.supply mapping values placeholder with
      | none => false
      | some values =>
          placeholder.count ≤ values.length && objects.fits placeholder (values.take placeholder.count) &&
            fill mapping placeholders (values.drop placeholder.count)

variable {objects} {placeholders : List Placeholder} {values : List (Value Object)}

theorem fill_cons {placeholder : Placeholder} : objects.fill none (placeholder :: placeholders) values ↔
    placeholder.key = none ∧ placeholder.count ≤ values.length ∧ objects.fits placeholder (values.take placeholder.count) ∧
      objects.fill none placeholders (values.drop placeholder.count) := by
  rw [fill, supply]
  cases placeholder.key with
  | none => simp [and_assoc]
  | some key => simp

/-- The placeholders take all the arguments. -/
theorem fill_demand (filled : objects.fill none placeholders values) :
    (∀ placeholder ∈ placeholders, placeholder.key = none) ∧ Placeholder.demand placeholders = values.length := by
  induction placeholders generalizing values with
  | nil =>
      have empty : values = [] := by simpa [fill] using filled
      simp [Placeholder.demand, empty]
  | cons placeholder placeholders inductionHypothesis =>
      obtain ⟨plain, short, -, rest⟩ := fill_cons.mp filled
      obtain ⟨plain', same⟩ := inductionHypothesis rest
      rw [List.length_drop] at same
      exact ⟨List.forall_mem_cons.mpr ⟨plain, plain'⟩, by rw [Placeholder.demand_cons]; omega⟩

/-- A mapping counts as one argument where no placeholder has a key. -/
theorem fill_unmapped {object : Object} (filled : objects.fill (some object) placeholders values)
    (plain : ∀ placeholder ∈ placeholders, placeholder.key = none)
    (same : Placeholder.demand placeholders = values.length) : objects.fill none placeholders values := by
  induction placeholders generalizing values with
  | nil =>
      have empty : values = [] := List.length_eq_zero_iff.mp same.symm
      simp [fill, empty]
  | cons placeholder placeholders inductionHypothesis =>
      have unnamed := plain placeholder (List.mem_cons_self ..)
      simp only [fill, supply, unnamed, Bool.and_eq_true, decide_eq_true_eq] at filled
      rw [Placeholder.demand_cons] at same
      refine fill_cons.mpr ⟨unnamed, filled.1.1, filled.1.2, inductionHypothesis filled.2
        (fun other inside => plain other (List.mem_cons_of_mem _ inside)) ?_⟩
      rw [List.length_drop]
      omega

/-- Placeholders without keys take no more than the arguments that are left. -/
theorem demand_le {mapping : Option Object} (filled : objects.fill mapping placeholders values)
    (plain : ∀ placeholder ∈ placeholders, placeholder.key = none) : Placeholder.demand placeholders ≤ values.length := by
  induction placeholders generalizing values with
  | nil => exact Nat.zero_le _
  | cons placeholder placeholders inductionHypothesis =>
      have unnamed := plain placeholder (List.mem_cons_self ..)
      simp only [fill, supply, unnamed, Bool.and_eq_true, decide_eq_true_eq] at filled
      have rest := inductionHypothesis filled.2 fun other inside => plain other (List.mem_cons_of_mem _ inside)
      rw [List.length_drop] at rest
      rw [Placeholder.demand_cons]
      omega

/-- Arguments may be exchanged for others that fit wherever they do. -/
theorem fill_map {change : Value Object → Value Object} (star : ∀ value, starObject (change value) = starObject value)
    (keeps : ∀ placeholder stars value, objects.accepts placeholder stars value →
      objects.accepts placeholder stars (change value)) (filled : objects.fill none placeholders values) :
    objects.fill none placeholders (values.map change) := by
  induction placeholders generalizing values with
  | nil =>
      have empty : values = [] := by simpa [fill] using filled
      simp [fill, empty]
  | cons placeholder placeholders inductionHypothesis =>
      obtain ⟨plain, short, fits, rest⟩ := fill_cons.mp filled
      refine fill_cons.mpr ⟨plain, by simpa using short, ?_, by simpa using inductionHypothesis rest⟩
      rw [← List.map_take]
      generalize values.take placeholder.count = taken at fits
      have stars (given : List (Value Object)) : (given.map change).mapM starObject = given.mapM starObject := by
        induction given with
        | nil => rfl
        | cons value given given' => rw [List.map_cons, List.mapM_cons, List.mapM_cons, star, given']
      unfold Objects.fits at fits ⊢
      rw [← List.map_take, ← List.map_drop, stars]
      split at fits
      · cases fits
      · cases left : taken.drop placeholder.stars with
        | nil => simpa [left] using fits
        | cons value more =>
            simp only [left, List.map_cons, Bool.and_eq_true] at fits ⊢
            exact ⟨fits.1, keeps _ _ _ fits.2⟩

end Objects

/-- Placeholders that take no argument have been left out. -/
inductive Thinned : List Placeholder → List Placeholder → Prop where
  | nil : Thinned [] []
  | keep (placeholder : Placeholder) {all some' : List Placeholder} (rest : Thinned all some') :
      Thinned (placeholder :: all) (placeholder :: some')
  | drop {placeholder : Placeholder} (idle : placeholder.count = 0) {all some' : List Placeholder}
      (rest : Thinned all some') : Thinned (placeholder :: all) some'

namespace Thinned

theorem refl (placeholders : List Placeholder) : Thinned placeholders placeholders := by
  induction placeholders with
  | nil => exact .nil
  | cons placeholder placeholders inductionHypothesis => exact .keep placeholder inductionHypothesis

theorem append {all some' more more' : List Placeholder} (first : Thinned all some') (second : Thinned more more') :
    Thinned (all ++ more) (some' ++ more') := by
  induction first with
  | nil => exact second
  | keep placeholder _ inductionHypothesis => exact .keep placeholder inductionHypothesis
  | drop idle _ inductionHypothesis => exact .drop idle inductionHypothesis

theorem trans {all some' fewer : List Placeholder} (first : Thinned all some') (second : Thinned some' fewer) :
    Thinned all fewer := by
  induction first generalizing fewer with
  | nil => exact second
  | keep placeholder _ inductionHypothesis =>
      cases second with
      | keep _ rest => exact .keep placeholder (inductionHypothesis rest)
      | drop idle rest => exact .drop idle (inductionHypothesis rest)
  | drop idle _ inductionHypothesis => exact .drop idle (inductionHypothesis second)

theorem of_idle {idle : List Placeholder} (idles : ∀ placeholder ∈ idle, placeholder.count = 0) : Thinned idle [] := by
  induction idle with
  | nil => exact .nil
  | cons placeholder idle inductionHypothesis =>
      exact .drop (idles placeholder (List.mem_cons_self ..))
        (inductionHypothesis fun other inside => idles other (List.mem_cons_of_mem _ inside))

theorem fill {Object : Type} {objects : Objects Object} {all some' : List Placeholder} (thinned : Thinned all some')
    {values : List (Value Object)} (filled : objects.fill none all values) : objects.fill none some' values := by
  induction thinned generalizing values with
  | nil => exact filled
  | keep placeholder _ inductionHypothesis =>
      obtain ⟨plain, short, fits, rest⟩ := Objects.fill_cons.mp filled
      exact Objects.fill_cons.mpr ⟨plain, short, fits, inductionHypothesis rest⟩
  | drop idle _ inductionHypothesis =>
      obtain ⟨-, -, -, rest⟩ := Objects.fill_cons.mp filled
      rw [idle, List.drop_zero] at rest
      exact inductionHypothesis rest

theorem sublist {all some' : List Placeholder} (thinned : Thinned all some') : some'.Sublist all := by
  induction thinned with
  | nil => exact List.Sublist.slnil
  | keep placeholder _ inductionHypothesis => exact inductionHypothesis.cons_cons placeholder
  | drop _ _ inductionHypothesis => exact inductionHypothesis.cons _

end Thinned

end Pxtly.Foundation
