/-
This file shows that the filter breaks every record whose placeholders its redaction does not spare.
-/

import Pxtly.Core.LogFilter

namespace Pxtly.Core.LogFilter

open Foundation Redaction Template

section Tidy

/-- No percent sign follows a blank within a placeholder. -/
def tidyFrom : Cursor → List Char → Bool
  | _, [] => true
  | cursor, c :: rest =>
      (match cursor with
        | .inside _ placeholder => !(c == '%' && placeholder.text.any isSpace)
        | _ => true) &&
        match step true cursor c with
        | none => true
        | some (next, _) => tidyFrom next rest

theorem tidyFrom_cons {cursor next : Cursor} {c : Char} {rest : List Char} {ended : List Placeholder}
    (tidy : tidyFrom cursor (c :: rest)) (stepped : step true cursor c = some (next, ended)) :
    tidyFrom next rest ∧ ∀ slot placeholder, cursor = .inside slot placeholder → placeholder.text.any isSpace → c ≠ '%' := by
  simp only [tidyFrom, stepped, Bool.and_eq_true] at tidy
  refine ⟨tidy.2, ?_⟩
  rintro slot placeholder rfl blank rfl
  simp [blank] at tidy

theorem tidyFrom_append {cursor last : Cursor} {text rest : List Char} {ended : List Placeholder}
    (tidy : tidyFrom cursor (text ++ rest)) (found : run true cursor text = some (last, ended)) : tidyFrom last rest := by
  induction text generalizing cursor ended with
  | nil =>
      obtain ⟨rfl, rfl⟩ := Prod.mk.inj (Option.some.inj found)
      exact tidy
  | cons c text inductionHypothesis =>
      obtain ⟨next, early, later, stepped, behind, rfl⟩ := run_cons_eq.mp found
      exact inductionHypothesis (tidyFrom_cons tidy stepped).1 behind

/-- The two readers are at the same place, or the second one has lost a placeholder that holds a blank. -/
inductive Coupled : Cursor → Cursor → Prop where
  | same {cursor : Cursor} (unkeyed : cursor.Unkeyed) : Coupled cursor cursor
  | lost {slot : Slot} {placeholder : Placeholder} (blank : placeholder.text.any isSpace) :
      Coupled (.inside slot placeholder) .text

/-- The second reader gets no more placeholders, and fewer that take arguments once it has lost one. -/
structure Follows (cursor other next next' : Cursor) (early early' : List Placeholder) : Prop where
  coupled : Coupled next next'
  fewer : early'.Sublist early
  together : cursor = other → next = next'
  behind : cursor ≠ other → next = next' → (∀ placeholder ∈ early, placeholder.key = none) →
    Placeholder.demand early' < Placeholder.demand early

theorem count_pos {placeholder : Placeholder} {text : List Char} {c : Char} (ends : placeholder.text = text ++ [c])
    (other : c ≠ '%') : 0 < placeholder.count := by
  have conversion : placeholder.conversion = some c := by
    rw [Placeholder.conversion, ends, List.getLast?_concat]
  simp [Placeholder.count, conversion, other]

theorem demand_pos {placeholders : List Placeholder} (busy : ¬placeholders.all idle) :
    0 < Placeholder.demand placeholders := by
  by_contra zero
  refine busy (List.all_eq_true.mpr fun placeholder inside => beq_iff_eq.mpr ?_)
  have := Placeholder.count_le_demand inside
  omega

theorem follows_step {cursor other next : Cursor} {c : Char} {early : List Placeholder}
    (coupled : Coupled cursor other ∨ other = .text ∧ isSpace c ∧ ∃ slot placeholder, cursor = .inside slot placeholder)
    (tidy : ∀ slot placeholder, cursor = .inside slot placeholder → placeholder.text.any isSpace → c ≠ '%')
    (stepped : step true cursor c = some (next, early)) :
    (∃ ended, step false other c = some (.named, ended)) ∨
      ∃ next' early', step false other c = some (next', early') ∧ Follows cursor other next next' early early' := by
  have lost {slot : Slot} {placeholder : Placeholder} (other' : c ≠ '%')
      (blank : (placeholder.text ++ [c]).any isSpace) (stepped : step true (.inside slot placeholder) c = some (next, early)) :
      ∃ next' early', step false .text c = some (next', early') ∧
        Follows (.inside slot placeholder) .text next next' early early' := by
    refine ⟨.text, [], by rw [step, if_neg other'], ?_⟩
    rcases advance_cases stepped with ⟨slot', placeholder', rfl, rfl, text, -, -⟩ | ⟨rfl, rfl, -, -⟩ | ⟨-, -, contrary, -⟩
    · exact ⟨.lost (text ▸ blank), List.Sublist.refl _, by simp, by simp⟩
    · refine ⟨.same trivial, List.nil_sublist _, by simp, fun _ _ _ => ?_⟩
      have positive : 0 < Placeholder.count { placeholder with text := placeholder.text ++ [c] } := count_pos rfl other'
      rw [Placeholder.demand_cons]
      omega
    · cases contrary
  rcases coupled with coupled | ⟨rfl, space, slot, placeholder, rfl⟩
  · cases coupled with
    | lost blank => exact .inr (lost (tidy _ _ rfl blank) (by simp [blank]) stepped)
    | same unkeyed =>
        cases cursor with
        | named => exact unkeyed.elim
        | text =>
            obtain ⟨rfl, rfl⟩ := Prod.mk.inj (Option.some.inj stepped)
            exact .inr ⟨_, _, rfl, .same (unkeyed_of_text c), List.Sublist.refl _, fun _ => rfl,
              fun contrary => absurd rfl contrary⟩
        | inside slot placeholder =>
            by_cases opens : slot = .start ∧ c = '('
            · obtain ⟨rfl, rfl⟩ := opens
              exact .inl ⟨[], rfl⟩
            · refine .inr ⟨next, early, (advance_mapped _ opens).symm.trans stepped, ?_, List.Sublist.refl _, fun _ => rfl,
                fun contrary => absurd rfl contrary⟩
              rcases advance_cases stepped with ⟨slot', other, rfl, -, -, -, only⟩ | ⟨rfl, -⟩ | ⟨-, -, contrary, -⟩
              · exact .same fun keyed => (only keyed).elim unkeyed fun starts => opens starts.2
              · exact .same trivial
              · cases contrary
  · refine .inr (lost ?_ (by simp [space]) stepped)
    rintro rfl
    cases space

theorem Follows.trans {cursor other next next' last last' : Cursor} {early early' later later' : List Placeholder}
    (first : Follows cursor other next next' early early') (second : Follows next next' last last' later later') :
    Follows cursor other last last' (early ++ later) (early' ++ later') := by
  refine ⟨second.coupled, first.fewer.append second.fewer, fun same => second.together (first.together same), ?_⟩
  intro different same plain
  have plain₁ : ∀ placeholder ∈ early, placeholder.key = none := fun placeholder inside =>
    plain placeholder (List.mem_append_left _ inside)
  have plain₂ : ∀ placeholder ∈ later, placeholder.key = none := fun placeholder inside =>
    plain placeholder (List.mem_append_right _ inside)
  have short := Placeholder.demand_sublist first.fewer
  have short' := Placeholder.demand_sublist second.fewer
  rw [Placeholder.demand_append, Placeholder.demand_append]
  by_cases met : next = next'
  · have := first.behind different met plain₁
    omega
  · have := second.behind met same plain₂
    omega

/-- A text that both readers read does not part them. -/
theorem follows_run {cursor other last : Cursor} {text rest : List Char} {ended : List Placeholder}
    (coupled : Coupled cursor other) (tidy : tidyFrom cursor (text ++ rest)) (found : run true cursor text = some (last, ended)) :
    (∃ ended, run false other text = some (.named, ended)) ∨
      ∃ last' ended', run false other text = some (last', ended') ∧ Follows cursor other last last' ended ended' := by
  induction text generalizing cursor other ended with
  | nil =>
      obtain ⟨rfl, rfl⟩ := Prod.mk.inj (Option.some.inj found)
      exact .inr ⟨other, [], rfl, coupled, List.Sublist.refl _, id, fun different same => absurd same different⟩
  | cons c text inductionHypothesis =>
      obtain ⟨next, early, later, stepped, behind, rfl⟩ := run_cons_eq.mp found
      obtain ⟨tidy', noPercent⟩ := tidyFrom_cons tidy stepped
      rcases follows_step (.inl coupled) noPercent stepped with ⟨ended, named⟩ | ⟨next', early', stepped', follows⟩
      · exact .inl ⟨_, run_cons_eq.mpr ⟨_, _, _, named, run_named text, rfl⟩⟩
      · rcases inductionHypothesis follows.coupled tidy' behind with ⟨ended, named⟩ | ⟨last', ended', same, follows'⟩
        · exact .inl ⟨_, run_cons_eq.mpr ⟨_, _, _, stepped', named, rfl⟩⟩
        · exact .inr ⟨last', _, run_cons_eq.mpr ⟨_, _, _, stepped', same, rfl⟩, follows.trans follows'⟩

/-- The placeholder that was lost takes an argument. -/
theorem lost_positive {slot : Slot} {placeholder : Placeholder} {text rest : List Char} {ended : List Placeholder}
    (blank : placeholder.text.any isSpace) (tidy : tidyFrom (.inside slot placeholder) (text ++ rest))
    (found : run true (.inside slot placeholder) text = some (.text, ended)) : 0 < Placeholder.demand ended := by
  induction text generalizing slot placeholder ended with
  | nil => cases found
  | cons c text inductionHypothesis =>
      obtain ⟨next, early, later, stepped, behind, rfl⟩ := run_cons_eq.mp found
      obtain ⟨tidy', noPercent⟩ := tidyFrom_cons tidy stepped
      rcases advance_cases stepped with ⟨slot', other, rfl, rfl, text', -, -⟩ | ⟨rfl, rfl, -, -⟩ | ⟨-, -, contrary, -⟩
      · exact inductionHypothesis (by simp [text', blank]) tidy' behind
      · have positive : 0 < Placeholder.count { placeholder with text := placeholder.text ++ [c] } :=
          count_pos rfl (noPercent _ _ rfl blank)
        rw [Placeholder.demand_append, Placeholder.demand_cons]
        omega
      · cases contrary

end Tidy

section Sensitive

/-- A separator is read outside of placeholders or within a key. -/
theorem text_of_separator {cursor last : Cursor} {front : List Char} {separator : Char} {ended : List Placeholder}
    (separates : isSeparator separator) (found : run true cursor (front ++ [separator]) = some (last, ended))
    (unkeyed : last.Unkeyed) : last = .text := by
  obtain ⟨next, early, later, -, reads, -⟩ := run_append_eq.mp found
  obtain ⟨next', early', later', stepped, done, -⟩ := run_cons_eq.mp reads
  obtain ⟨rfl, rfl⟩ := Prod.mk.inj (Option.some.inj done)
  have outside : Outside separator ∧ separator ≠ '%' := by
    rcases colon_or_equals separates with rfl | rfl <;> exact ⟨⟨by decide, rfl⟩, by decide⟩
  cases next with
  | named =>
      obtain ⟨rfl, rfl⟩ := Prod.mk.inj (Option.some.inj stepped)
      exact unkeyed.elim
  | text =>
      rw [step, if_neg outside.2] at stepped
      exact (Prod.mk.inj (Option.some.inj stepped)).1.symm
  | inside slot placeholder =>
      by_cases key : ∃ depth, slot = .key depth
      · obtain ⟨depth, rfl⟩ := key
        obtain ⟨slot', other, same, -, keyed⟩ :=
          advance_key true depth { placeholder with text := placeholder.text ++ [separator] } separator
        obtain ⟨rfl, rfl⟩ := Prod.mk.inj (Option.some.inj (same.symm.trans stepped))
        exact absurd keyed unkeyed
      · cases (advance_outside outside.1 key).symm.trans stepped

theorem sensitive_edit {previous : Option Char} {edit : Edit Char} {rest : List Char}
    (found : sensitive previous (edit.source ++ rest) = some edit) : Apart rest ∧
      (∃ front separator, edit.before = front ++ [separator] ∧ isSeparator separator) ∧ edit.after = [] ∧
      edit.inserted = redacted ∧ ∃ c more, edit.source = c :: more ∧ isSpace c = false := by
  obtain ⟨length, matched, same⟩ := Option.map_eq_some_iff.mp found
  obtain ⟨before, rest', split, long, open', apart⟩ := opens_of_sensitiveLength matched
  rw [split, ← long, List.take_left] at same
  have source : edit.source = before := by rw [← same, source_redactKV (separator_of_opens open')]
  rw [source] at split
  obtain rfl := List.append_cancel_left split
  refine ⟨apart, ⟨before.takeWhile _, if ':' ∈ before then ':' else '=', by rw [← same]; rfl, by split_ifs <;> rfl⟩,
    by rw [← same]; rfl, by rw [← same]; rfl, ?_⟩
  obtain ⟨c, more, rfl⟩ := List.exists_cons_of_ne_nil (ne_nil_of_opens open')
  refine ⟨c, more, source, ?_⟩
  by_contra blank
  have none' := keyAt_foreign (foreign_of_isSpace (by simpa using blank)) more
  simp [opens, none'] at open'

/-- Behind a removed part the first reader may still be within a placeholder, which a blank goes on with. -/
def Waits (cursor other : Cursor) (items : List Char) : Prop :=
  other = .text ∧ Apart items ∧ ∃ slot placeholder, cursor = .inside slot placeholder

/-- The redacted text has a key, or it has no other placeholders than the text, and fewer that take arguments where the
redaction does not spare them. -/
def Redacts (cursor other : Cursor) (items : List Char) (pieces : List (Piece Char)) : Prop :=
  ∀ placeholders, run true cursor items = some (.text, placeholders) →
    (∃ ended, run false other (pieces.flatMap Piece.result) = some (.named, ended)) ∨
      ∃ fewer, run false other (pieces.flatMap Piece.result) = some (.text, fewer) ∧ fewer.Sublist placeholders ∧
        (sparedFrom cursor pieces = false ∨ cursor ≠ other → (∀ placeholder ∈ placeholders, placeholder.key = none) →
          Placeholder.demand fewer < Placeholder.demand placeholders)

theorem redacts_copy {cursor other : Cursor} {c : Char} {rest : List Char} {pieces : List (Piece Char)}
    (coupled : Coupled cursor other ∨ Waits cursor other (c :: rest)) (tidy : tidyFrom cursor (c :: rest))
    (later : ∀ cursor other, Coupled cursor other ∨ Waits cursor other rest → tidyFrom cursor rest →
      Redacts cursor other rest pieces) : Redacts cursor other (c :: rest) (.copy c :: pieces) := by
  intro placeholders found
  obtain ⟨next, early, behind, stepped, found', rfl⟩ := run_cons_eq.mp found
  obtain ⟨tidy', noPercent⟩ := tidyFrom_cons tidy stepped
  have coupled' : Coupled cursor other ∨ other = .text ∧ isSpace c ∧ ∃ slot placeholder, cursor = .inside slot placeholder :=
    coupled
  rw [List.flatMap_cons]
  change (∃ ended, run false other (c :: _) = _) ∨ ∃ fewer, run false other (c :: _) = _ ∧ _
  rcases follows_step coupled' noPercent stepped with ⟨ended, named⟩ | ⟨next', early', stepped', follows⟩
  · exact .inl ⟨_, run_cons_eq.mpr ⟨_, _, _, named, run_named _, rfl⟩⟩
  · rcases later next next' (.inl follows.coupled) tidy' behind found' with ⟨ended, named⟩ | ⟨fewer, same, sublist, less⟩
    · exact .inl ⟨_, run_cons_eq.mpr ⟨_, _, _, stepped', named, rfl⟩⟩
    · refine .inr ⟨_, run_cons_eq.mpr ⟨_, _, _, stepped', same, rfl⟩, follows.fewer.append sublist, fun broken plain => ?_⟩
      have plain₁ : ∀ placeholder ∈ early, placeholder.key = none := fun placeholder inside =>
        plain placeholder (List.mem_append_left _ inside)
      have plain₂ : ∀ placeholder ∈ behind, placeholder.key = none := fun placeholder inside =>
        plain placeholder (List.mem_append_right _ inside)
      have short := Placeholder.demand_sublist follows.fewer
      have short' := Placeholder.demand_sublist sublist
      rw [Placeholder.demand_append, Placeholder.demand_append]
      simp only [sparedFrom, stepped] at broken
      by_cases met : next = next'
      · rcases broken with broken | different
        · have := less (.inl broken) plain₂
          omega
        · have := follows.behind different met plain₁
          omega
      · have := less (.inr met) plain₂
        omega

theorem redacts_edit {previous : Option Char} {cursor other : Cursor} {edit : Edit Char} {rest : List Char}
    {pieces : List (Piece Char)} (matched : sensitive previous (edit.source ++ rest) = some edit)
    (coupled : Coupled cursor other) (tidy : tidyFrom cursor (edit.source ++ rest))
    (later : ∀ cursor other, Coupled cursor other ∨ Waits cursor other rest → tidyFrom cursor rest →
      Redacts cursor other rest pieces) : Redacts cursor other (edit.source ++ rest) (.edit edit :: pieces) := by
  intro placeholders found
  obtain ⟨apart, ⟨front, separator, before, separates⟩, after, inserted, -⟩ := sensitive_edit matched
  have source : edit.source = edit.before ++ edit.removed := by rw [Edit.source, after, List.append_nil]
  have result : Piece.result (.edit edit) = edit.before ++ redacted := by
    change edit.before ++ edit.inserted ++ edit.after = _
    rw [after, inserted, List.append_nil]
  rw [source] at found tidy
  obtain ⟨last, ended, behind, whole, found', rfl⟩ := run_append_eq.mp found
  obtain ⟨middle, early, removed, first, second, rfl⟩ := run_append_eq.mp whole
  have tidy' := tidyFrom_append tidy whole
  rw [List.append_assoc] at tidy
  rw [List.flatMap_cons, result]
  rcases follows_run coupled tidy first with ⟨ended, named⟩ | ⟨middle', early', first', follows⟩
  · exact .inl ⟨_, run_append_eq.mpr ⟨_, _, _, run_append_eq.mpr ⟨_, _, _, named, run_named _, rfl⟩, run_named _, rfl⟩⟩
  -- The second reader is outside of placeholders when the redaction starts.
  obtain rfl : middle' = .text := by
    cases follows.coupled with
    | lost blank => rfl
    | same unkeyed => exact text_of_separator separates (before ▸ first) unkeyed
  have read : run false other (edit.before ++ redacted) = some (.text, early' ++ []) :=
    run_append_eq.mpr ⟨.text, early', [], first', run_plain (by decide), rfl⟩
  have next : Coupled last .text ∨ Waits last .text rest := by
    cases last with
    | text => exact .inl (.same trivial)
    | inside slot placeholder => exact .inr ⟨rfl, apart, slot, placeholder, rfl⟩
    | named =>
        rw [run_named] at found'
        cases found'
  rcases later last .text next tidy' behind found' with ⟨ended, named⟩ | ⟨fewer, same, sublist, less⟩
  · exact .inl ⟨_, run_append_eq.mpr ⟨_, _, _, read, named, rfl⟩⟩
  · refine .inr ⟨_, run_append_eq.mpr ⟨_, _, _, read, same, rfl⟩,
      (follows.fewer.append (List.nil_sublist removed)).append sublist, fun broken plain => ?_⟩
    have plain₁ : ∀ placeholder ∈ early, placeholder.key = none := fun placeholder inside =>
      plain placeholder (List.mem_append_left _ (List.mem_append_left _ inside))
    have plain₂ : ∀ placeholder ∈ behind, placeholder.key = none := fun placeholder inside =>
      plain placeholder (List.mem_append_right _ inside)
    have short := Placeholder.demand_sublist follows.fewer
    have short' := Placeholder.demand_sublist sublist
    simp only [Placeholder.demand_append, Placeholder.demand_nil]
    by_cases ends : last = .text
    · subst ends
      by_cases outside : middle = .text
      · subst outside
        by_cases met : cursor = other
        · have broken' := broken.resolve_right fun different => different met
          simp only [sparedFrom, first, second, after] at broken'
          by_cases idles : removed.all idle
          · have := less (.inl (by simpa [idles, run] using broken')) plain₂
            omega
          · have := demand_pos idles
            omega
        · have := follows.behind met rfl plain₁
          omega
      · cases follows.coupled with
        | same unkeyed => exact absurd rfl outside
        | lost blank =>
            have positive := lost_positive blank (tidyFrom_append tidy first) second
            omega
    · have := less (.inr ends) plain₂
      omega

/-- The first pattern takes arguments away, adds none, and leaves the keys of a mapping. -/
theorem sensitive_redacts (template : List Char) (tidy : tidyFrom .text template) :
    Redacts .text .text template (sensitive.pieces none 0 template) := by
  have all : ∀ cursor other, Coupled cursor other ∨ Waits cursor other template → tidyFrom cursor template →
      Redacts cursor other template (sensitive.pieces none 0 template) := by
    refine Matcher.pieces_rule sensitive_sound (motive := fun _ items pieces => ∀ cursor other,
      Coupled cursor other ∨ Waits cursor other items → tidyFrom cursor items → Redacts cursor other items pieces) ?_ ?_ ?_ none
      template
    · rintro - cursor other coupled - placeholders found
      obtain ⟨rfl, rfl⟩ := Prod.mk.inj (Option.some.inj found)
      rcases coupled with coupled | ⟨-, -, slot, placeholder, contrary⟩
      · cases coupled
        exact .inr ⟨[], rfl, List.Sublist.refl _, fun broken => by simp [sparedFrom] at broken⟩
      · cases contrary
    · intro previous c rest _ later cursor other coupled tidy
      exact redacts_copy coupled tidy later
    · intro previous next edit rest matched later cursor other coupled tidy
      refine redacts_edit matched (coupled.resolve_right ?_) tidy later
      rintro ⟨-, apart, -⟩
      obtain ⟨-, -, -, -, c, more, source, shown⟩ := sensitive_edit matched
      rw [source] at apart
      exact Bool.false_ne_true (shown.symm.trans apart)
  exact all .text .text (.inl (.same trivial)) tidy

end Sensitive

section Emails

variable {letterBeyond : Char → Bool}

/-- A star is no part of a placeholder in these slots, or needs a character behind it. -/
def closes : Slot → Bool
  | .flags | .width _ | .precision _ | .conversion => true
  | _ => false

theorem closes_of_alphanumeric {slot slot' : Slot} {placeholder placeholder' : Placeholder} {c : Char}
    {ended : List Placeholder} (letter : isAsciiAlphanumeric c) (unkeyed : ¬∃ depth, slot = .key depth)
    (found : advance placeholder c false slot = some (.inside slot' placeholder', ended)) : closes slot' := by
  have other (d : Char) (plain : isAsciiAlphanumeric d = false) : c ≠ d := by
    rintro rfl
    exact Bool.false_ne_true (plain.symm.trans letter)
  have star := other '*' rfl
  have point := other '.' rfl
  have opens := other '(' rfl
  cases slot with
  | key depth => exact absurd ⟨depth, rfl⟩ unkeyed
  | _ =>
      simp only [advance, first, flags, width, precision, modifier, conversion, moreWidth, afterPoint, morePrecision, star,
        point, opens, if_false] at found
      split_ifs at found <;> cases found <;> rfl

/-- The stars that replace a local part do not go on with a placeholder. -/
theorem run_stars {slot : Slot} {placeholder : Placeholder} (closing : closes slot) :
    run false (.inside slot placeholder) "***".toList = none := by
  cases slot with
  | flags | width | precision | conversion =>
      simp [run, step, advance, flags, width, precision, modifier, conversion, moreWidth, morePrecision, isDigit]
  | _ => cases closing

/-- The masked text cannot be read, or it has a key where the text has one, or it has no other placeholders than the
text, and fewer that take arguments where the masking does not spare them. -/
def Masks (cursor : Cursor) (items : List Char) (pieces : List (Piece Char)) : Prop :=
  ∀ last placeholders, run false cursor items = some (last, placeholders) → last = .text ∨ last = .named →
    run false cursor (pieces.flatMap Piece.result) = none ∨
      (last = .named ∧ ∃ ended, run false cursor (pieces.flatMap Piece.result) = some (.named, ended)) ∨
      (last = .text ∧ ∃ fewer, run false cursor (pieces.flatMap Piece.result) = some (.text, fewer) ∧
        fewer.Sublist placeholders ∧
          (sparedFrom cursor pieces = false → Placeholder.demand fewer < Placeholder.demand placeholders))

theorem masks_copy {cursor : Cursor} {c : Char} {rest : List Char} {pieces : List (Piece Char)} (unkeyed : cursor.Unkeyed)
    (later : ∀ cursor, cursor.Unkeyed → Masks cursor rest pieces) : Masks cursor (c :: rest) (.copy c :: pieces) := by
  intro last placeholders found ends
  obtain ⟨next, early, behind, stepped, found', rfl⟩ := run_cons_eq.mp found
  have single : run false cursor [c] = some (next, early) := run_cons_eq.mpr ⟨_, _, _, stepped, rfl, by simp⟩
  rw [List.flatMap_cons]
  change run false cursor ([c] ++ _) = none ∨ (_ ∧ ∃ ended, run false cursor ([c] ++ _) = _) ∨
    (_ ∧ ∃ fewer, run false cursor ([c] ++ _) = _ ∧ _)
  rcases run_named_or_unkeyed unkeyed single with ⟨rfl, -⟩ | unkeyed'
  · rw [run_named] at found'
    obtain ⟨rfl, -⟩ := Prod.mk.inj (Option.some.inj found')
    exact .inr (.inl ⟨rfl, _, run_append_eq.mpr ⟨_, _, _, single, run_named _, rfl⟩⟩)
  · rcases later next unkeyed' last behind found' ends with
      fails | ⟨rfl, ended, named⟩ | ⟨rfl, fewer, same, sublist, less⟩
    · exact .inl (run_append_none single fails)
    · exact .inr (.inl ⟨rfl, _, run_append_eq.mpr ⟨_, _, _, single, named, rfl⟩⟩)
    · refine .inr (.inr ⟨rfl, _, run_append_eq.mpr ⟨_, _, _, single, same, rfl⟩, sublist.append_left early, fun broken => ?_⟩)
      have other : next ≠ .named := by
        rintro rfl
        exact unkeyed'
      simp only [sparedFrom, step_mapped other stepped] at broken
      have := less broken
      rw [Placeholder.demand_append, Placeholder.demand_append]
      omega

theorem masks_edit {previous : Option Char} {cursor : Cursor} {edit : Edit Char} {rest : List Char}
    {pieces : List (Piece Char)} (matched : email letterBeyond previous (edit.source ++ rest) = some edit)
    (unkeyed : cursor.Unkeyed) (later : ∀ cursor, cursor.Unkeyed → Masks cursor rest pieces) :
    Masks cursor (edit.source ++ rest) (.edit edit :: pieces) := by
  intro last placeholders found ends
  obtain ⟨first, removed, domain, rfl, letter, local', domains⟩ := email_characters matched
  have noPercent : first ≠ '%' := by
    rintro rfl
    cases letter
  have plain : '%' ∉ '@' :: domain := by
    intro inside
    rcases List.mem_cons.mp inside with contrary | inside
    · cases contrary
    · cases domains '%' inside
  obtain ⟨middle, ended, behind, whole, found', rfl⟩ := run_append_eq.mp found
  obtain ⟨next, early, after, front, at', rfl⟩ := run_append_eq.mp whole
  obtain ⟨start, before, gone, single, reads, rfl⟩ := run_append_eq.mp front
  change run false next ('@' :: domain) = _ at at'
  change run false start removed = _ at reads
  change run false cursor [first] = _ at single
  obtain ⟨start', before', none', stepped, done, same⟩ := run_cons_eq.mp single
  obtain ⟨rfl, rfl⟩ := Prod.mk.inj (Option.some.inj done)
  rw [List.append_nil] at same
  subst same
  rw [List.flatMap_cons]
  change run false cursor ([first] ++ "***".toList ++ ('@' :: domain) ++ _) = none ∨
    (_ ∧ ∃ ended, run false cursor ([first] ++ "***".toList ++ ('@' :: domain) ++ _) = _) ∨
    (_ ∧ ∃ fewer, run false cursor ([first] ++ "***".toList ++ ('@' :: domain) ++ _) = _ ∧ _)
  -- The kept character stands outside of placeholders, ends one, or is followed by stars within one.
  cases start' with
  | named =>
      rcases run_named_or_unkeyed unkeyed single with ⟨-, inside⟩ | contrary
      · rw [List.mem_singleton] at inside
        rw [← inside] at letter
        cases letter
      · exact contrary.elim
  | inside slot placeholder =>
      cases cursor with
      | named => exact unkeyed.elim
      | text =>
          rw [step, if_neg noPercent] at stepped
          cases stepped
      | inside slot' placeholder' =>
          have closing := closes_of_alphanumeric letter (fun key => unkeyed (.inl key)) stepped
          have fails := run_append_none single (run_stars closing)
          exact .inl (by rw [run_append, run_append, fails])
  | text =>
      have outside : next = .text := by
        rcases run_named_or_unkeyed unkeyed_text reads with ⟨-, inside⟩ | unkeyed'
        · cases local' '(' inside
        · cases next with
          | text => rfl
          | named => exact unkeyed'.elim
          | inside slot placeholder =>
              obtain ⟨_, _, _, stepped', -, -⟩ := run_cons_eq.mp at'
              have outside : Outside '@' := ⟨by decide, rfl⟩
              cases (advance_outside outside fun key => unkeyed' (.inl key)).symm.trans stepped'
      subst outside
      rw [run_plain plain] at at'
      obtain ⟨rfl, rfl⟩ := Prod.mk.inj (Option.some.inj at')
      have read : run false cursor ([first] ++ "***".toList ++ ('@' :: domain)) = some (.text, before ++ [] ++ []) :=
        run_append_eq.mpr ⟨_, _, _, run_append_eq.mpr ⟨_, _, _, single, run_plain (by decide), rfl⟩, run_plain plain, rfl⟩
      rcases later .text trivial last behind found' ends with
        fails | ⟨rfl, ended, named⟩ | ⟨rfl, fewer, same, sublist, less⟩
      · exact .inl (run_append_none read fails)
      · exact .inr (.inl ⟨rfl, _, run_append_eq.mpr ⟨_, _, _, read, named, rfl⟩⟩)
      · refine .inr (.inr ⟨rfl, _, run_append_eq.mpr ⟨_, _, _, read, same, rfl⟩, ?_, fun broken => ?_⟩)
        · exact (((List.Sublist.refl before).append (List.nil_sublist gone)).append (List.Sublist.refl [])).append sublist
        · have single' : run true cursor [first] = some (.text, before) :=
            run_cons_eq.mpr ⟨_, _, _, step_mapped (by simp) stepped, rfl, by simp⟩
          simp only [sparedFrom, single', (run_mapped unkeyed_text reads).1, run_plain plain] at broken
          have short := Placeholder.demand_sublist sublist
          simp only [Placeholder.demand_append, Placeholder.demand_nil]
          by_cases idles : gone.all idle
          · have := less (by simpa [idles] using broken)
            omega
          · have := demand_pos idles
            omega

/-- The second pattern takes arguments away and adds none. -/
theorem email_masks (template : List Char) : Masks .text template ((email letterBeyond).pieces none 0 template) := by
  have all : ∀ cursor, cursor.Unkeyed → Masks cursor template ((email letterBeyond).pieces none 0 template) := by
    refine Matcher.pieces_rule email_sound (motive := fun _ items pieces => ∀ cursor, cursor.Unkeyed →
      Masks cursor items pieces) ?_ ?_ ?_ none template
    · rintro - cursor - last placeholders found ends
      obtain ⟨rfl, rfl⟩ := Prod.mk.inj (Option.some.inj found)
      rcases ends with rfl | rfl
      · exact .inr (.inr ⟨rfl, [], rfl, List.Sublist.refl _, fun broken => by simp [sparedFrom] at broken⟩)
      · exact .inr (.inl ⟨rfl, [], rfl⟩)
    · intro previous c rest _ later cursor unkeyed
      exact masks_copy unkeyed later
    · intro previous next edit rest matched later cursor unkeyed
      exact masks_edit matched unkeyed later
  exact all .text trivial

end Emails

section Broken

variable {Object : Type} {objects : Objects Object} {letterBeyond : Char → Bool} {record : LogRecord Object}

/-- A redacted template asks for no more arguments, and for fewer where its placeholders are not spared. -/
theorem spared_of_scrub {template : List Char} {placeholders fewer : List Placeholder} (tidy : tidyFrom .text template)
    (found : Template.placeholders true template = some placeholders)
    (after : Template.placeholders false (scrub letterBeyond template) = some fewer) : fewer.Sublist placeholders ∧
      ((∀ placeholder ∈ placeholders, placeholder.key = none) →
        Placeholder.demand placeholders ≤ Placeholder.demand fewer → spared letterBeyond template) := by
  have found' := placeholders_eq_some.mp found
  have after' := placeholders_eq_some.mp after
  have masks : Masks .text (sensitive.substitute template) ((email letterBeyond).pieces none 0 _) := email_masks _
  rcases sensitive_redacts template tidy placeholders found' with ⟨ended, named⟩ | ⟨some', read, sublist, less⟩
  · rcases masks .named ended named (.inr rfl) with fails | ⟨-, ended', contrary⟩ | ⟨contrary, -⟩
    · cases after'.symm.trans fails
    · cases after'.symm.trans contrary
    · cases contrary
  · rcases masks .text some' read (.inl rfl) with fails | ⟨contrary, -⟩ | ⟨-, fewer', read', sublist', less'⟩
    · cases after'.symm.trans fails
    · cases contrary
    · obtain ⟨-, rfl⟩ := Prod.mk.inj (Option.some.inj (read'.symm.trans after'))
      refine ⟨sublist'.trans sublist, fun plain enough => Bool.and_eq_true_iff.mpr ⟨?_, ?_⟩⟩
      · by_contra broken
        have := less (.inl (by simpa using broken)) plain
        have := Placeholder.demand_sublist sublist'
        omega
      · by_contra broken
        have := less' (by simpa using broken)
        have := Placeholder.demand_sublist sublist
        omega

def LogRecord.tidy (record : LogRecord Object) : Bool :=
  match record.msg with
  | .text text => tidyFrom .text text
  | .object _ => true

/-- The placeholders that take arguments have keys, or none has. -/
def LogRecord.unmixed (objects : Objects Object) (record : LogRecord Object) : Bool :=
  match (record.template objects).bind (Template.placeholders true) with
  | none => true
  | some placeholders =>
      (placeholders.all fun placeholder => placeholder.key.isNone) ||
        placeholders.all fun placeholder => placeholder.count == 0 || placeholder.key.isSome

theorem read_of_formats (some' : record.args.values ≠ []) (before : record.formats objects) :
    ∃ template placeholders, record.template objects = some template ∧
      Template.placeholders record.args.mapping?.isSome template = some placeholders ∧
      objects.fill record.args.mapping? placeholders record.args.values := by
  have full : record.args.values.isEmpty = false := by simpa using some'
  unfold LogRecord.formats at before
  cases same : record.template objects with
  | none =>
      rw [same] at before
      cases before
  | some template =>
      simp only [same, full, Bool.false_or] at before
      cases known : Template.placeholders record.args.mapping?.isSome template with
      | none =>
          rw [known] at before
          cases before
      | some placeholders =>
          simp only [known] at before
          exact ⟨template, placeholders, rfl, known, before⟩

/-- A mapping would not change how a formatted template is read. -/
theorem placeholders_of_formats (some' : record.args.values ≠ []) (before : record.formats objects) :
    ∃ template placeholders, record.template objects = some template ∧
      Template.placeholders true template = some placeholders ∧
      objects.fill record.args.mapping? placeholders record.args.values := by
  obtain ⟨template, placeholders, same, known, filled⟩ := read_of_formats some' before
  refine ⟨template, placeholders, same, ?_, filled⟩
  cases mapped : record.args.mapping?.isSome with
  | true => rwa [mapped] at known
  | false =>
      rw [mapped] at known
      exact placeholders_eq_some.mpr (run_mapped unkeyed_text (placeholders_eq_some.mp known)).1

/-- Behind the filter the arguments are taken one after the other. -/
theorem filtered_of_formats (some' : record.args.values ≠ []) (after : (filter letterBeyond record).formats objects) :
    ∃ template fewer, (filter letterBeyond record).template objects = some template ∧
      Template.placeholders false template = some fewer ∧ (∀ placeholder ∈ fewer, placeholder.key = none) ∧
      Placeholder.demand fewer = record.args.values.length := by
  have full : record.args.values.isEmpty = false := by simpa using some'
  have args : (filter letterBeyond record).args = .positional (record.args.values.map (sanitized letterBeyond)) := by
    simp [filter, full]
  have some'' : (filter letterBeyond record).args.values ≠ [] := by
    rw [args]
    simpa [Arguments.values] using some'
  obtain ⟨template, fewer, same, found, filled⟩ := read_of_formats some'' after
  rw [args] at found filled
  obtain ⟨plain, demanded⟩ := Objects.fill_demand filled
  exact ⟨template, fewer, same, found, plain, by simpa [Arguments.values] using demanded⟩

/-- A formattable record behind the filter was a safe one, unless its template is untidy. -/
theorem safe_of_formats (before : record.formats objects) (tidy : record.tidy) (unmixed : record.unmixed objects)
    (after : (filter letterBeyond record).formats objects) : record.safe objects letterBeyond := by
  by_cases some' : record.args.values = []
  · simp [LogRecord.safe, some']
  obtain ⟨template, placeholders, same, found, filled⟩ := placeholders_of_formats some' before
  obtain ⟨template', fewer, same', found', plain', demanded⟩ := filtered_of_formats some' after
  obtain ⟨sublist, kept⟩ : fewer.Sublist placeholders ∧ ((∀ placeholder ∈ placeholders, placeholder.key = none) →
      Placeholder.demand placeholders ≤ Placeholder.demand fewer → ∀ text, record.msg = .text text →
        spared letterBeyond text) := by
    cases message : record.msg with
    | text text =>
        obtain rfl : text = template := by simpa [LogRecord.template, message] using same
        obtain rfl : scrub letterBeyond text = template' := by
          simpa [LogRecord.template, filter, sanitized, message] using same'
        have tidy' : tidyFrom .text text := by simpa [LogRecord.tidy, message] using tidy
        obtain ⟨sublist, kept⟩ := spared_of_scrub tidy' found found'
        refine ⟨sublist, fun plain enough other same => ?_⟩
        obtain rfl := Value.text.inj same
        exact kept plain enough
    | object object =>
        have both : template = template' := by
          have whole : objects.str object = some template := by simpa [LogRecord.template, message] using same
          have whole' : objects.str object = some template' := by
            simpa [LogRecord.template, filter, sanitized, message] using same'
          exact Option.some.inj (whole.symm.trans whole')
        have read := placeholders_eq_some.mpr (run_mapped unkeyed_text (placeholders_eq_some.mp found')).1
        rw [← both, found] at read
        obtain rfl := Option.some.inj read
        exact ⟨List.Sublist.refl _, fun _ _ text contrary => by cases contrary⟩
  have plain : ∀ placeholder ∈ placeholders, placeholder.key = none := by
    simp only [LogRecord.unmixed, same, Option.bind_some, found, Bool.or_eq_true, List.all_eq_true] at unmixed
    rcases unmixed with none' | named
    · exact fun placeholder inside => Option.isNone_iff_eq_none.mp (none' placeholder inside)
    · -- Only placeholders without keys are left, and they take no argument.
      have empty : ∀ placeholder ∈ fewer, placeholder.count = 0 := by
        intro placeholder inside
        have known := named placeholder (sublist.subset inside)
        simpa [plain' placeholder inside] using known
      exact absurd (List.length_eq_zero_iff.mp (demanded.symm.trans (Placeholder.demand_eq_zero empty))) some'
  have least := Objects.demand_le filled plain
  have most := Placeholder.demand_sublist sublist
  exact (safe_iff some').mpr ⟨template, placeholders, same, found, plain, by omega, kept plain (by omega)⟩

/-- Named placeholders of a mapping are not filled behind the filter. -/
theorem mapping_broken {object : Object} (mapped : record.args = .mapping object) (before : record.formats objects)
    (tidy : record.tidy) (named : ∀ template placeholders, record.template objects = some template →
      Template.placeholders true template = some placeholders → ∀ placeholder ∈ placeholders,
        placeholder.count = 0 ∨ placeholder.key.isSome) : (filter letterBeyond record).formats objects = false := by
  have some' : record.args.values ≠ [] := by simp [mapped, Arguments.values]
  obtain ⟨template, placeholders, same, found, -⟩ := placeholders_of_formats some' before
  have named' := named template placeholders same found
  have unmixed : record.unmixed objects := by
    simp only [LogRecord.unmixed, same, Option.bind_some, found, Bool.or_eq_true, List.all_eq_true, beq_iff_eq]
    exact .inr named'
  by_contra kept
  have safe := safe_of_formats before tidy unmixed (by simpa using kept)
  obtain ⟨template', placeholders', same', found', plain, demanded, -⟩ := (safe_iff some').mp safe
  obtain rfl := Option.some.inj (same.symm.trans same')
  obtain rfl := Option.some.inj (found.symm.trans found')
  have zero : Placeholder.demand placeholders = 0 := Placeholder.demand_eq_zero fun placeholder inside =>
    (named' placeholder inside).resolve_right fun key => by simp [plain placeholder inside] at key
  exact absurd (List.length_eq_zero_iff.mp (demanded.symm.trans zero)) some'

/-- Integers can be formatted by every conversion, by `%c` when they are code points. -/
def integers : Objects Int where
  str number := some (toString number).toList
  lookup _ _ := none
  isStar _ _ _ := true
  formats number placeholder _ := placeholder.conversion ≠ some 'c' || (0 ≤ number && number < 0x110000)

def greeting : LogRecord Int :=
  ⟨.text "user %s has %d assets".toList, .positional [.text "alice@example.com".toList, .object 3]⟩

end Broken

end Pxtly.Core.LogFilter
