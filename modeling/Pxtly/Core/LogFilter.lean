/-
This file gives the filter of log records, and which records still can be formatted behind it.
-/

import Pxtly.Core.Masking
import Pxtly.Foundation.Placeholders

namespace Pxtly.Core.LogFilter

open Foundation Redaction

/-- A record holds the arguments of the call, or a mapping that was the only one and not empty. -/
inductive Arguments (Object : Type) where
  | positional (values : List (Value Object))
  | mapping (object : Object)

namespace Arguments

variable {Object : Type}

def mapping? : Arguments Object → Option Object
  | .positional _ => none
  | .mapping object => some object

def values : Arguments Object → List (Value Object)
  | .positional values => values
  | .mapping object => [.object object]

end Arguments

/-- Other messages than texts are converted when the record is formatted. -/
structure LogRecord (Object : Type) where
  msg : Value Object
  args : Arguments Object

section Records

variable {Object : Type} (objects : Objects Object) (letterBeyond : Char → Bool)

def LogRecord.template (record : LogRecord Object) : Option (List Char) :=
  match record.msg with
  | .text text => some text
  | .object object => objects.str object

/-- `getMessage` does not format a message without arguments. -/
def LogRecord.formats (record : LogRecord Object) : Bool :=
  match record.template objects with
  | none => false
  | some template =>
      record.args.values.isEmpty ||
        match Template.placeholders record.args.mapping?.isSome template with
        | none => false
        | some placeholders => objects.fill record.args.mapping? placeholders record.args.values

def sanitized : Value Object → Value Object
  | .text text => .text (scrub letterBeyond text)
  | .object object => .object object

/-- This is `SensitiveFilter.filter`: a mapping that is no list and no tuple becomes the only argument. -/
def filter (record : LogRecord Object) : LogRecord Object :=
  ⟨sanitized letterBeyond record.msg,
    if record.args.values.isEmpty then record.args
    else .positional (record.args.values.map (sanitized letterBeyond))⟩

end Records

section Spared

open Template

def idle (placeholder : Placeholder) : Bool := placeholder.count == 0

/-- Each removed part begins and ends outside of placeholders, and none that it contains takes an argument. -/
def sparedFrom : Cursor → List (Piece Char) → Bool
  | _, [] => true
  | cursor, .copy c :: rest =>
      match step true cursor c with
      | none => true
      | some (next, _) => sparedFrom next rest
  | cursor, .edit edit :: rest =>
      match run true cursor edit.before with
      | some (.text, _) =>
          match run true .text edit.removed with
          | some (.text, removed) =>
              removed.all idle &&
                match run true .text edit.after with
                | none => true
                | some (next, _) => sparedFrom next rest
          | _ => false
      | _ => false

/-- Both patterns of `_scrub` spare the placeholders of a template. -/
def spared (letterBeyond : Char → Bool) (template : List Char) : Bool :=
  sparedFrom .text (sensitive.pieces none 0 template) &&
    sparedFrom .text ((email letterBeyond).pieces none 0 (sensitive.substitute template))

theorem sensitive_plain {edit : Edit Char} {text : List Char}
    (inside : .edit edit ∈ sensitive.pieces none 0 text) : '%' ∉ edit.inserted := by
  obtain ⟨previous, items, found⟩ := Matcher.exists_of_mem_pieces inside
  obtain ⟨length, -, rfl⟩ := Option.map_eq_some_iff.mp found
  change '%' ∉ redacted
  decide

theorem email_plain {letterBeyond : Char → Bool} {edit : Edit Char} {text : List Char}
    (inside : .edit edit ∈ (email letterBeyond).pieces none 0 text) : '%' ∉ edit.inserted := by
  obtain ⟨previous, items, found⟩ := Matcher.exists_of_mem_pieces inside
  obtain ⟨first, rest, domain, length, -, -, rfl⟩ := email_spec found
  simp

/-- Where the removed parts are spared, the rest of the text is read as before. -/
theorem run_spared {cursor last : Cursor} {pieces : List (Piece Char)} {placeholders : List Placeholder}
    (plain : ∀ edit, .edit edit ∈ pieces → '%' ∉ edit.inserted) (kept : sparedFrom cursor pieces)
    (found : run true cursor (pieces.flatMap Piece.source) = some (last, placeholders)) :
    ∃ some', run true cursor (pieces.flatMap Piece.result) = some (last, some') ∧ Thinned placeholders some' := by
  induction pieces generalizing cursor placeholders with
  | nil => exact ⟨placeholders, found, .refl placeholders⟩
  | cons piece pieces inductionHypothesis =>
      have plain' : ∀ edit, .edit edit ∈ pieces → '%' ∉ edit.inserted := fun edit inside =>
        plain edit (List.mem_cons_of_mem _ inside)
      rw [List.flatMap_cons] at found ⊢
      cases piece with
      | copy c =>
          obtain ⟨next, early, later, stepped, rest, rfl⟩ := run_cons_eq.mp found
          simp only [sparedFrom, stepped] at kept
          obtain ⟨some', same, thinned⟩ := inductionHypothesis plain' kept rest
          exact ⟨early ++ some', run_cons_eq.mpr ⟨next, early, some', stepped, same, rfl⟩, (Thinned.refl early).append thinned⟩
      | edit edit =>
          change run true cursor (edit.before ++ edit.removed ++ edit.after ++ _) = _ at found
          change ∃ some', run true cursor (edit.before ++ edit.inserted ++ edit.after ++ _) = _ ∧ _
          obtain ⟨next, early, later, front, rest, rfl⟩ := run_append_eq.mp found
          obtain ⟨next', early', behind, front', afterwards, rfl⟩ := run_append_eq.mp front
          obtain ⟨start, before, removed, first, second, rfl⟩ := run_append_eq.mp front'
          simp only [sparedFrom, first] at kept
          cases start with
          | named => cases kept
          | inside slot placeholder => cases kept
          | text =>
              simp only [second] at kept
              cases next' with
              | named => cases kept
              | inside slot placeholder => cases kept
              | text =>
                  simp only [afterwards, Bool.and_eq_true] at kept
                  obtain ⟨some', same, thinned⟩ := inductionHypothesis plain' kept.2 rest
                  have idles : ∀ placeholder ∈ removed, placeholder.count = 0 := fun placeholder inside =>
                    beq_iff_eq.mp (List.all_eq_true.mp kept.1 placeholder inside)
                  refine ⟨before ++ [] ++ behind ++ some', run_append_eq.mpr ⟨next, _, some',
                    run_append_eq.mpr ⟨.text, _, behind, run_append_eq.mpr ⟨.text, before, [], first,
                      run_plain (plain edit (List.mem_cons_self ..)), rfl⟩, afterwards, rfl⟩, same, rfl⟩, ?_⟩
                  exact (((Thinned.refl before).append (.of_idle idles)).append (.refl behind)).append thinned

/-- A template whose placeholders are spared keeps those that take arguments. -/
theorem placeholders_scrub {letterBeyond : Char → Bool} {template : List Char} {placeholders : List Placeholder}
    (kept : spared letterBeyond template) (found : Template.placeholders true template = some placeholders) :
    ∃ some', Template.placeholders true (scrub letterBeyond template) = some some' ∧ Thinned placeholders some' := by
  obtain ⟨first, second⟩ := Bool.and_eq_true_iff.mp kept
  have read := placeholders_eq_some.mp found
  rw [← List.drop_zero (l := template), ← Matcher.source_pieces sensitive_sound none 0] at read
  obtain ⟨middle, read', thinned⟩ := run_spared (fun _ => sensitive_plain) first read
  change run true .text (sensitive.substitute template) = _ at read'
  rw [← List.drop_zero (l := sensitive.substitute template), ← Matcher.source_pieces email_sound none 0] at read'
  obtain ⟨some', read'', thinned'⟩ := run_spared (fun _ => email_plain) second read'
  exact ⟨some', placeholders_eq_some.mpr read'', thinned.trans thinned'⟩

end Spared

section Kept

variable {Object : Type} {objects : Objects Object} {letterBeyond : Char → Bool} {record : LogRecord Object}

theorem sensitive_singleton (c : Char) : sensitive none [c] = none := by
  by_contra some'
  obtain ⟨edit, found⟩ := Option.ne_none_iff_exists'.mp some'
  obtain ⟨length, matched, -⟩ := Option.map_eq_some_iff.mp found
  obtain ⟨before, rest, split, -, open', -⟩ := opens_of_sensitiveLength matched
  obtain ⟨key, joint, run, rfl, -, long, holds, -⟩ := split_of_opens open'
  obtain ⟨d, more, rfl, -⟩ := holds.head
  obtain ⟨spelled, known, same⟩ := Option.map_eq_some_iff.mp long
  have nonempty : ∀ key ∈ sensitiveKeys, key ≠ [] := by decide
  have positive := List.length_pos_of_ne_nil (nonempty spelled (keyAt_some known).1)
  have size := congrArg List.length split
  simp only [List.length_append, List.length_cons, List.length_nil] at size
  omega

theorem scrub_singleton (c : Char) : scrub letterBeyond [c] = [c] := by
  have unmatched : email letterBeyond none [c] = none := by simp [email]
  rw [scrub, Matcher.substitute, Matcher.substitute, Matcher.substituteFrom_copy (sensitive_singleton c),
    Matcher.substituteFrom_nil, Matcher.substituteFrom_copy unmatched, Matcher.substituteFrom_nil]

theorem accepts_sanitized (placeholder : Placeholder) (stars : List Object) (value : Value Object)
    (accepted : objects.accepts placeholder stars value) :
    objects.accepts placeholder stars (sanitized letterBeyond value) := by
  cases value with
  | object object => exact accepted
  | text text =>
      simp only [Objects.accepts, Bool.or_eq_true, Bool.and_eq_true, beq_iff_eq] at accepted
      rcases accepted with any | ⟨character, single⟩
      · simp only [sanitized, Objects.accepts, any, Bool.true_or]
      · obtain ⟨c, rfl⟩ := List.length_eq_one_iff.mp single
        simp [sanitized, Objects.accepts, character, scrub_singleton]

theorem fill_sanitized {placeholders : List Placeholder} {values : List (Value Object)}
    (filled : objects.fill none placeholders values) :
    objects.fill none placeholders (values.map (sanitized letterBeyond)) :=
  Objects.fill_map (fun value => by cases value <;> rfl) accepts_sanitized filled

/-- The placeholders have no keys, take all the arguments, and are spared by the redaction. -/
def LogRecord.safe (objects : Objects Object) (letterBeyond : Char → Bool) (record : LogRecord Object) : Bool :=
  record.args.values.isEmpty ||
    match record.template objects with
    | none => false
    | some template =>
        match Template.placeholders true template with
        | none => false
        | some placeholders =>
            placeholders.all (fun placeholder => placeholder.key.isNone) &&
              Placeholder.demand placeholders == record.args.values.length &&
              match record.msg with
              | .text text => spared letterBeyond text
              | .object _ => true

theorem safe_iff (some' : record.args.values ≠ []) : record.safe objects letterBeyond ↔
    ∃ template placeholders, record.template objects = some template ∧
      Template.placeholders true template = some placeholders ∧ (∀ placeholder ∈ placeholders, placeholder.key = none) ∧
      Placeholder.demand placeholders = record.args.values.length ∧
      ∀ text, record.msg = .text text → spared letterBeyond text := by
  have full : record.args.values.isEmpty = false := by simpa using some'
  unfold LogRecord.safe
  rw [full, Bool.false_or]
  cases record.template objects with
  | none => simp
  | some template =>
      cases known : Template.placeholders true template with
      | none => simp [known]
      | some placeholders => cases record.msg <;> simp [known, and_assoc]

/-- Without keys, the placeholders take the arguments one after the other. -/
theorem fill_of_formats {template : List Char} {placeholders : List Placeholder} (some' : record.args.values ≠ [])
    (before : record.formats objects) (same : record.template objects = some template)
    (found : Template.placeholders true template = some placeholders)
    (plain : ∀ placeholder ∈ placeholders, placeholder.key = none)
    (demanded : Placeholder.demand placeholders = record.args.values.length) :
    objects.fill none placeholders record.args.values := by
  have full : record.args.values.isEmpty = false := by simpa using some'
  simp only [LogRecord.formats, same, full, Bool.false_or] at before
  cases args : record.args with
  | positional values =>
      rw [args] at before
      have unmapped := Template.placeholders_eq_some.mpr
        (Template.run_unmapped Template.unkeyed_text (Template.placeholders_eq_some.mp found) plain)
      simpa only [Arguments.mapping?, Option.isSome_none, unmapped] using before
  | mapping object =>
      rw [args] at before demanded
      simp only [Arguments.mapping?, Option.isSome_some, found] at before
      exact Objects.fill_unmapped before plain demanded

/-- The filter keeps a safe record formattable. -/
theorem formats_of_safe (before : record.formats objects) (safe : record.safe objects letterBeyond) :
    (filter letterBeyond record).formats objects := by
  by_cases some' : record.args.values = []
  · cases message : record.msg with
    | text text => simp [LogRecord.formats, LogRecord.template, filter, sanitized, message, some']
    | object object => simpa [LogRecord.formats, LogRecord.template, filter, sanitized, message, some'] using before
  · obtain ⟨template, placeholders, same, found, plain, demanded, kept⟩ := (safe_iff some').mp safe
    have filled := fill_of_formats some' before same found plain demanded
    have full : record.args.values.isEmpty = false := by simpa using some'
    obtain ⟨template', fewer, same', found', thinned⟩ : ∃ template' fewer,
        (filter letterBeyond record).template objects = some template' ∧
          Template.placeholders true template' = some fewer ∧ Thinned placeholders fewer := by
      cases message : record.msg with
      | object object =>
          refine ⟨template, placeholders, ?_, found, .refl placeholders⟩
          rw [← same]
          simp [LogRecord.template, filter, sanitized, message]
      | text text =>
          obtain rfl : text = template := by simpa [LogRecord.template, message] using same
          obtain ⟨fewer, found', thinned⟩ := placeholders_scrub (kept text message) found
          exact ⟨scrub letterBeyond text, fewer, by simp [LogRecord.template, filter, sanitized, message], found', thinned⟩
    have plain' : ∀ placeholder ∈ fewer, placeholder.key = none := fun placeholder inside =>
      plain placeholder (thinned.sublist.subset inside)
    have unmapped := Template.placeholders_eq_some.mpr
      (Template.run_unmapped Template.unkeyed_text (Template.placeholders_eq_some.mp found') plain')
    have args : (filter letterBeyond record).args = .positional (record.args.values.map (sanitized letterBeyond)) := by
      simp [filter, full]
    rw [LogRecord.formats, same']
    simp only [args, Arguments.mapping?, Arguments.values, Option.isSome_none, unmapped]
    exact Bool.or_eq_true_iff.mpr (.inr (fill_sanitized (thinned.fill filled)))

end Kept

end Pxtly.Core.LogFilter
