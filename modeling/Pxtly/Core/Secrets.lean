/-
This file shows which of the values that a log text carries are hidden by its redaction.
-/

import Pxtly.Core.Masking

namespace Pxtly.Core.Redaction

open Foundation

section Pending

/-- The search reaches the end of a text that a value follows: this is the match, if any, that the value belongs to. -/
def pendingFrom : Nat → List Char → Option (List Char)
  | _, [] => none
  | skip + 1, _ :: rest => pendingFrom skip rest
  | 0, c :: rest =>
      if opens (c :: rest) then some (c :: rest)
      else match sensitiveLength (c :: rest) with
        | none => pendingFrom 0 rest
        | some length => pendingFrom (length - 1) rest

def pending (lead : List Char) : Option (List Char) := pendingFrom 0 lead

theorem pendingFrom_spec {skip : Nat} {lead front : List Char} (found : pendingFrom skip lead = some front) :
    front <:+ lead ∧ opens front := by
  induction lead generalizing skip with
  | nil => cases skip <;> cases found
  | cons c rest inductionHypothesis =>
      have later {skip : Nat} (found : pendingFrom skip rest = some front) : front <:+ c :: rest ∧ opens front :=
        ⟨(inductionHypothesis found).1.trans (List.suffix_cons c rest), (inductionHypothesis found).2⟩
      cases skip with
      | succ skip => exact later found
      | zero =>
          unfold pendingFrom at found
          split_ifs at found with open'
          · obtain rfl := Option.some.inj found
            exact ⟨List.suffix_rfl, open'⟩
          · split at found
            · exact later found
            · exact later found

/-- A match that ends inside a text leaves characters behind it. -/
theorem sensitiveLength_lt {text : List Char} {length : Nat} (closed : opens text = false)
    (found : sensitiveLength text = some length) : length < text.length := by
  obtain ⟨before, rest, rfl, rfl, open', -⟩ := opens_of_sensitiveLength found
  cases rest with
  | nil => simp [open'] at closed
  | cons c rest => simp

/-- The search treats the text before a value alike for all values. -/
theorem substituteFrom_pending (skip : Nat) (lead : List Char) (foreign : ∀ last, lead.getLast? = some last → Foreign last)
    (inside : skip ≤ lead.length) : ∃ out,
    (pendingFrom skip lead = none → out.getLast? = (lead.drop skip).getLast?) ∧
      ∀ previous c rest, isSpace c = false → (isSeparator c = false ∨ (pendingFrom skip lead).isSome) →
        sensitive.substituteFrom previous skip (lead ++ c :: rest) =
          out ++ sensitive.substitute ((pendingFrom skip lead).getD [] ++ c :: rest) := by
  induction lead generalizing skip with
  | nil =>
      obtain rfl := Nat.le_zero.mp inside
      exact ⟨[], fun _ => rfl, fun previous c rest _ _ => sensitive_previous previous (c :: rest)⟩
  | cons d lead inductionHypothesis =>
      have foreign' : ∀ last, lead.getLast? = some last → Foreign last := by
        intro last ends
        cases lead with
        | nil => cases ends
        | cons e lead => exact foreign last ends
      cases skip with
      | succ skip =>
          obtain ⟨out, ends, same⟩ := inductionHypothesis skip foreign' (Nat.le_of_succ_le_succ inside)
          exact ⟨out, ends, fun previous => same (some d)⟩
      | zero =>
          by_cases open' : opens (d :: lead)
          · have found : pendingFrom 0 (d :: lead) = some (d :: lead) := by simp [pendingFrom, open']
            refine ⟨[], fun contrary => ?_, fun previous c rest _ _ => ?_⟩
            · cases found.symm.trans contrary
            · rw [found]
              exact sensitive_previous previous _
          · have closed : opens (d :: lead) = false := by simpa using open'
            have alone (c : Char) (rest : List Char) (shown : isSpace c = false)
                (separated : isSeparator c = false ∨ (pendingFrom 0 (d :: lead)).isSome) :
                sensitiveLength (d :: (lead ++ c :: rest)) = sensitiveLength (d :: lead) := by
              obtain ⟨last, known⟩ := Option.isSome_iff_exists.mp (List.getLast?_isSome.mpr (List.cons_ne_nil d lead))
              refine sensitiveLength_append known (foreign last known) closed shown (separated.imp_right fun some' => ?_)
              obtain ⟨front, found⟩ := Option.isSome_iff_exists.mp some'
              obtain ⟨⟨before, whole⟩, open'⟩ := pendingFrom_spec found
              obtain ⟨separator, member, separates⟩ := separator_of_opens open'
              exact ⟨separator, whole ▸ List.mem_append_right _ member, separates⟩
            cases matched : sensitiveLength (d :: lead) with
            | none =>
                have later : pendingFrom 0 (d :: lead) = pendingFrom 0 lead := by simp [pendingFrom, closed, matched]
                obtain ⟨out, ends, same⟩ := inductionHypothesis 0 foreign' (Nat.zero_le _)
                rw [later] at alone ⊢
                refine ⟨d :: out, fun none' => ?_, fun previous c rest shown separated => ?_⟩
                · rw [List.getLast?_cons, ends none', List.drop_zero, List.drop_zero, List.getLast?_cons]
                · have unmatched : sensitive previous (d :: (lead ++ c :: rest)) = none := by
                    simp [sensitive, alone c rest shown separated, matched]
                  rw [List.cons_append, Matcher.substituteFrom_copy unmatched, same _ c rest shown separated,
                    List.cons_append]
            | some length =>
                have later : pendingFrom 0 (d :: lead) = pendingFrom (length - 1) lead := by
                  simp [pendingFrom, closed, matched]
                have short := sensitiveLength_lt closed matched
                rw [List.length_cons] at short
                obtain ⟨before, behind, split, long, open', -⟩ := opens_of_sensitiveLength matched
                have source : (redactKV ((d :: lead).take length)).source.length = length := by
                  rw [split, ← long, List.take_left, source_redactKV (separator_of_opens open')]
                have positive : 0 < length := long ▸ List.length_pos_of_ne_nil (ne_nil_of_opens open')
                obtain ⟨out, ends, same⟩ := inductionHypothesis (length - 1) foreign' (by omega)
                rw [later] at alone ⊢
                refine ⟨(redactKV ((d :: lead).take length)).result ++ out, fun none' => ?_,
                  fun previous c rest shown separated => ?_⟩
                · have some' : lead ≠ [] := List.ne_nil_of_length_pos (by omega)
                  rw [List.getLast?_append, ends none', List.getLast?_drop, if_neg (by omega), List.drop_zero,
                    List.getLast?_cons]
                  cases lead with
                  | nil => exact absurd rfl some'
                  | cons e lead => simp [List.getLast?_cons]
                · have edited : sensitive previous (d :: (lead ++ c :: rest)) =
                      some (redactKV ((d :: lead).take length)) := by
                    rw [sensitive, alone c rest shown separated, matched, Option.map_some, ← List.cons_append,
                      List.take_append_of_le_length (by rw [List.length_cons]; omega)]
                  rw [List.cons_append, Matcher.substituteFrom_edit edited, source, same _ c rest shown separated,
                    List.append_assoc]

end Pending

section Redacting

theorem result_redactKV_append {front value : List Char} (separated : ∃ c ∈ front, isSeparator c)
    (hidden : ':' ∈ front ∨ ':' ∉ value) : (redactKV (front ++ value)).result = (redactKV front).result := by
  have stops (c : Char) (inside : c ∈ front) :
      (front ++ value).takeWhile (fun d => decide (d ≠ c)) = front.takeWhile fun d => decide (d ≠ c) := by
    rw [List.takeWhile_append]
    refine if_neg fun all => ?_
    have whole := (List.takeWhile_prefix (fun d => decide (d ≠ c)) (l := front)).eq_of_length all
    rw [← whole] at inside
    simpa using List.mem_takeWhile_imp inside
  by_cases colon : ':' ∈ front
  · simpa [redactKV, Edit.result, colon] using stops ':' colon
  · have plain : ':' ∉ front ++ value := by simp [colon, hidden.resolve_left colon]
    simpa [redactKV, Edit.result, colon, plain] using stops '=' (equals_mem separated colon)

theorem result_redactKV_equals {front : List Char} (separated : ∃ c ∈ front, isSeparator c) (plain : ':' ∉ front) :
    ∃ before behind, front = before ++ '=' :: behind ∧ (redactKV front).result = before ++ '=' :: redacted := by
  have source := source_redactKV ⟨'=', equals_mem separated plain, rfl⟩
  refine ⟨front.takeWhile fun d => decide (d ≠ '='), (front.dropWhile fun d => decide (d ≠ '=')).tail, ?_, ?_⟩
  · conv_lhs => rw [← source]
    simp [redactKV, Edit.source, plain]
  · simp [redactKV, Edit.result, plain]

theorem result_redactKV_colon {front value : List Char} (plain : ':' ∉ front) (colon : ':' ∈ value) :
    (redactKV (front ++ value)).result =
      front ++ (value.takeWhile (fun d => decide (d ≠ ':')) ++ ':' :: redacted) := by
  have front' : (front ++ value).takeWhile (fun d => decide (d ≠ ':')) =
      front ++ value.takeWhile fun d => decide (d ≠ ':') :=
    List.takeWhile_append_of_pos fun d inside => by
      rw [decide_eq_true_eq]
      rintro rfl
      exact plain inside
  rw [redactKV, if_pos (List.mem_append_right _ colon), Edit.result, front']
  simp

/-- A value whose colon the redaction keeps lets the text grow. -/
theorem length_redacted (letterBeyond : Char → Bool) {front value : List Char} (separated : ∃ c ∈ front, isSeparator c)
    (plain : ':' ∉ front) (colon : ':' ∈ value) (out more : List Char) :
    ((email letterBeyond).substitute (out ++ ((redactKV front).result ++ more))).length <
      ((email letterBeyond).substitute (out ++ ((redactKV (front ++ value)).result ++ more))).length := by
  obtain ⟨before, behind, same, result⟩ := result_redactKV_equals separated plain
  have bracket : redacted = '[' :: "REDACTED]".toList := rfl
  have first : out ++ ((redactKV front).result ++ more) =
      (out ++ before) ++ '=' :: ([] ++ '[' :: ("REDACTED]".toList ++ more)) := by
    rw [result, bracket]
    simp
  have second : out ++ ((redactKV (front ++ value)).result ++ more) = (out ++ before) ++ '=' ::
      ((behind ++ value.takeWhile (fun d => decide (d ≠ ':')) ++ [':']) ++ '[' :: ("REDACTED]".toList ++ more)) := by
    rw [result_redactKV_colon plain colon, bracket, same]
    simp
  have grown := email_cut (delimiter_colon letterBeyond) (behind ++ value.takeWhile fun d => decide (d ≠ ':')) []
  rw [first, second, email_cut (delimiter_equals letterBeyond), email_cut (delimiter_bracket letterBeyond),
    email_cut (delimiter_equals letterBeyond), email_cut (delimiter_bracket letterBeyond), grown]
  simp only [List.length_append, List.length_cons]
  omega

theorem length_redacted_le (letterBeyond : Char → Bool) {front : List Char} (separated : ∃ c ∈ front, isSeparator c)
    (value out : List Char) : ((email letterBeyond).substitute (out ++ (redactKV front).result)).length ≤
      ((email letterBeyond).substitute (out ++ (redactKV (front ++ value)).result)).length := by
  by_cases hidden : ':' ∈ front ∨ ':' ∉ value
  · rw [result_redactKV_append separated hidden]
  · rw [not_or, not_not] at hidden
    have grown := length_redacted letterBeyond separated hidden.1 hidden.2 out []
    rw [List.append_nil, List.append_nil] at grown
    exact grown.le

end Redacting

section Values

/-- Other texts carry such a value, which shows nothing of its own form. -/
structure Plain (value : List Char) : Prop where
  some' : value ≠ []
  visible : Run value
  noColon : ':' ∉ value

/-- A value starts with a character that is no blank. -/
def Starts (value : List Char) : Prop := ∃ c rest, value = c :: rest ∧ isSpace c = false

variable {letterBeyond : Char → Bool} {lead value adjacent : List Char}

theorem Plain.starts {value : List Char} (plain : Plain value) : Starts value := by
  cases value with
  | nil => exact absurd rfl plain.some'
  | cons c rest => exact ⟨c, rest, rfl, plain.visible c (List.mem_cons_self ..)⟩

theorem plain_one (c : Char) (shown : isSpace c = false) (noColon : c ≠ ':') : Plain [c] :=
  ⟨List.cons_ne_nil _ _, fun _ inside => List.mem_singleton.mp inside ▸ shown, fun inside =>
    noColon (List.mem_singleton.mp inside).symm⟩

/-- Where a match is pending, it swallows the value and what touches it. -/
theorem substitute_pending {front : List Char} (foreign : ∀ last, lead.getLast? = some last → Foreign last)
    (found : pending lead = some front) : ∃ out, ∀ value rest, Starts value → Run value → Apart rest →
      sensitive.substitute (lead ++ (value ++ rest)) =
        out ++ ((redactKV (front ++ value)).result ++ sensitive.substitute rest) := by
  obtain ⟨out, -, same⟩ := substituteFrom_pending 0 lead foreign (Nat.zero_le _)
  refine ⟨out, fun value rest starts visible apart => ?_⟩
  obtain ⟨c, more, rfl, shown⟩ := starts
  change pendingFrom 0 lead = some front at found
  have whole := same none c (more ++ rest) shown (.inr (by rw [found]; rfl))
  rw [found, Option.getD_some, ← List.cons_append] at whole
  exact whole.trans (congrArg _ (redact_opens (pendingFrom_spec found).2 visible (List.cons_ne_nil _ _) apart))

/-- Otherwise the search passes the value anew. -/
theorem substitute_unmatched (foreign : ∀ last, lead.getLast? = some last → Foreign last)
    (found : pending lead = none) : ∃ out, out.getLast? = lead.getLast? ∧ ∀ c rest, isSpace c = false →
      isSeparator c = false → sensitive.substitute (lead ++ c :: rest) = out ++ sensitive.substitute (c :: rest) := by
  obtain ⟨out, ends, same⟩ := substituteFrom_pending 0 lead foreign (Nat.zero_le _)
  change pendingFrom 0 lead = none at found
  refine ⟨out, by simpa using ends found, fun c rest shown plain => ?_⟩
  have whole := same none c rest shown (.inl plain)
  rwa [found] at whole

theorem sensitive_foreign {c : Char} (foreign : Foreign c) (rest : List Char) :
    sensitive.substitute (c :: rest) = c :: sensitive.substitute rest := by
  have unmatched : sensitive none (c :: rest) = none := by simp [sensitive, sensitiveLength, keyAt_foreign foreign]
  rw [Matcher.substitute, Matcher.substituteFrom_copy unmatched, sensitive_previous]

/-- A character behind a delimiter survives the masking. -/
theorem scrub_differs {last c d : Char} {out first second : List Char} (delimits : Delimiter letterBeyond last)
    (different : c ≠ d) : (email letterBeyond).substitute (out ++ last :: c :: first) ≠
      (email letterBeyond).substitute (out ++ last :: d :: second) := by
  rw [email_cut delimits, email_cut delimits]
  intro same
  obtain ⟨more, first'⟩ := email_head letterBeyond c first
  obtain ⟨more', second'⟩ := email_head letterBeyond d second
  have tails := (List.cons.inj (List.append_cancel_left same)).2
  rw [first', second'] at tails
  exact different (List.cons.inj tails).1

variable (letterBeyond lead value adjacent)

/-- Whatever follows, the text cannot be told from the same text with any plain value. -/
def Hidden : Prop :=
  ∀ other rest, Plain other → Apart rest →
    scrub letterBeyond (lead ++ (value ++ (adjacent ++ rest))) = scrub letterBeyond (lead ++ (other ++ (adjacent ++ rest)))

/-- A pending match swallows the whole value, and it is not split at a colon within or behind the value. -/
def Covered : Prop := Run value ∧ ∃ front, pending lead = some front ∧ (':' ∈ front ∨ ':' ∉ value ++ adjacent)

variable {letterBeyond lead value adjacent}

theorem Starts.append {value : List Char} (starts : Starts value) (rest : List Char) : Starts (value ++ rest) := by
  obtain ⟨c, more, rfl, shown⟩ := starts
  exact ⟨c, more ++ rest, rfl, shown⟩

theorem Run.append {first second : List Char} (left : Run first) (right : Run second) : Run (first ++ second) :=
  fun c inside => (List.mem_append.mp inside).elim (left c) (right c)

theorem hidden_of_covered (foreign : ∀ last, lead.getLast? = some last → Foreign last) (starts : Starts value)
    (touches : Run adjacent) (covered : Covered lead value adjacent) : Hidden letterBeyond lead value adjacent := by
  intro other rest plain apart
  obtain ⟨visible, front, found, hidden⟩ := covered
  have hidden' : ':' ∈ front ∨ ':' ∉ other ++ adjacent := hidden.imp_right fun noColon => by
    rw [List.mem_append, not_or] at noColon ⊢
    exact ⟨plain.noColon, noColon.2⟩
  have separated := separator_of_opens (pendingFrom_spec found).2
  obtain ⟨out, same⟩ := substitute_pending foreign found
  have first := same (value ++ adjacent) rest (starts.append adjacent) (visible.append touches) apart
  have second := same (other ++ adjacent) rest (plain.starts.append adjacent) (plain.visible.append touches) apart
  rw [result_redactKV_append separated hidden, List.append_assoc] at first
  rw [result_redactKV_append separated hidden', List.append_assoc] at second
  rw [scrub, scrub, first, second]

/-- Where no pending match hides it, a character in the place of the value stays behind the text before it. -/
theorem character_kept {last : Char} (ends : lead.getLast? = some last) (foreign : Foreign last) (touches : Run adjacent)
    (uncovered : ¬∃ front, pending lead = some front ∧ (':' ∈ front ∨ ':' ∉ adjacent)) : ∃ out, ∀ c, isSpace c = false →
      Foreign c → isSeparator c = false → ∃ more, sensitive.substitute (lead ++ c :: adjacent) = out ++ last :: c :: more := by
  have foreign' : ∀ c, lead.getLast? = some c → Foreign c := fun c same => Option.some.inj (ends.symm.trans same) ▸ foreign
  cases found : pending lead with
  | none =>
      obtain ⟨out, same, unmatched⟩ := substitute_unmatched foreign' found
      obtain ⟨before, rfl⟩ := List.getLast?_eq_some_iff.mp (same.trans ends)
      refine ⟨before, fun c shown other plain => ⟨sensitive.substitute adjacent, ?_⟩⟩
      rw [unmatched c adjacent shown plain, sensitive_foreign other, List.append_assoc]
      rfl
  | some front =>
      have colons : ':' ∉ front ∧ ':' ∈ adjacent := by
        constructor
        · exact fun inside => uncovered ⟨front, found, .inl inside⟩
        · by_contra outside
          exact uncovered ⟨front, found, .inr outside⟩
      obtain ⟨⟨earlier, whole⟩, open'⟩ := pendingFrom_spec found
      have ends' : front.getLast? = some last := by
        rw [← ends, ← whole, List.getLast?_append_of_ne_nil _ (ne_nil_of_opens open')]
      obtain ⟨before, rfl⟩ := List.getLast?_eq_some_iff.mp ends'
      obtain ⟨out, same⟩ := substitute_pending foreign' found
      refine ⟨out ++ before, fun c shown other plain => ?_⟩
      have colon : c ≠ ':' := by
        rintro rfl
        exact Bool.false_ne_true (plain.symm.trans rfl)
      have visible : Run (c :: adjacent) := List.forall_mem_cons.mpr ⟨shown, touches⟩
      have kept := same (c :: adjacent) [] ⟨c, adjacent, rfl, shown⟩ visible rfl
      rw [List.append_nil, result_redactKV_colon colons.1 (List.mem_cons_of_mem c colons.2)] at kept
      rw [kept, List.takeWhile_cons_of_pos (by simp [colon])]
      exact ⟨adjacent.takeWhile (fun d => decide (d ≠ ':')) ++ ':' :: redacted, by simp [Matcher.substitute]⟩

theorem covered_of_hidden {last : Char} (ends : lead.getLast? = some last) (foreign : Foreign last)
    (delimits : Delimiter letterBeyond last) (starts : Starts value) (touches : Run adjacent)
    (hidden : Hidden letterBeyond lead value adjacent) : Covered lead value adjacent := by
  have foreign' : ∀ c, lead.getLast? = some c → Foreign c := fun c same => Option.some.inj (ends.symm.trans same) ▸ foreign
  have one := hidden ['1'] [] (plain_one '1' (by decide) (by decide)) rfl
  have two := hidden ['2'] [] (plain_one '2' (by decide) (by decide)) rfl
  rw [List.append_nil] at one two
  have pends : ∃ front, pending lead = some front ∧ (':' ∈ front ∨ ':' ∉ adjacent) := by
    by_contra uncovered
    obtain ⟨out, kept⟩ := character_kept ends foreign touches uncovered
    obtain ⟨first, kept₁⟩ := kept '1' (by decide) (by unfold Foreign; decide) (by decide)
    obtain ⟨second, kept₂⟩ := kept '2' (by decide) (by unfold Foreign; decide) (by decide)
    have same := one.symm.trans two
    rw [scrub, scrub, List.singleton_append, List.singleton_append, kept₁, kept₂] at same
    exact scrub_differs delimits (by decide) same
  obtain ⟨front, found, noColon⟩ := pends
  obtain ⟨out, same⟩ := substitute_pending foreign' found
  have separated := separator_of_opens (pendingFrom_spec found).2
  have base := same (['1'] ++ adjacent) [] ⟨'1', adjacent, rfl, rfl⟩
    (Run.append (plain_one '1' (by decide) (by decide)).visible touches) rfl
  have noColon' : ':' ∈ front ∨ ':' ∉ ['1'] ++ adjacent := noColon.imp_right fun outside => by simp [outside]
  rw [result_redactKV_append separated noColon', List.append_nil] at base
  rw [scrub, scrub, base] at one
  have split := List.takeWhile_append_dropWhile (p := notSpace) (l := value)
  have visible := run_takeWhile value
  have starts' : Starts (value.takeWhile notSpace) := by
    obtain ⟨c, more, rfl, shown⟩ := starts
    exact ⟨c, more.takeWhile notSpace, List.takeWhile_cons_of_pos (by simp [notSpace, shown]), shown⟩
  cases left : value.dropWhile notSpace with
  | nil =>
      rw [left, List.append_nil] at split
      rw [split] at visible
      refine ⟨visible, front, found, ?_⟩
      by_contra shown
      rw [not_or, not_not] at shown
      have whole := same (value ++ adjacent) [] (starts.append adjacent) (visible.append touches) rfl
      rw [List.append_nil] at whole
      rw [whole] at one
      exact Nat.lt_irrefl _ (one ▸ length_redacted letterBeyond separated shown.1 shown.2 out (sensitive.substitute []))
  | cons blank later =>
      have ends' : isSpace blank := by simpa [Apart, left] using apart_dropWhile value
      have whole := same (value.takeWhile notSpace) (blank :: (later ++ adjacent)) starts' visible ends'
      rw [← List.cons_append, ← List.append_assoc (value.takeWhile notSpace), ← left, split,
        left, List.cons_append, sensitive_foreign (foreign_of_isSpace ends')] at whole
      rw [whole, ← List.append_assoc, email_cut (delimiter_of_isSpace letterBeyond ends')] at one
      have long := congrArg List.length one
      rw [List.length_append, List.length_cons] at long
      have grown := length_redacted_le letterBeyond separated (value.takeWhile notSpace) out
      have none' : sensitive.substitute [] = [] := Matcher.substituteFrom_nil none 0
      rw [none', List.append_nil] at long
      omega

end Values

section Occurrences

/-- The platform logs a value behind its key in these shapes. -/
inductive Shape where
  | assignment
  | pair
  | member
  | header (scheme : List Char) (named : scheme ≠ [] ∧ scheme.all isAsciiLetter)

def Shape.joins (key : List Char) : Shape → List Char
  | .assignment => key ++ ['=']
  | .pair => key ++ [':', ' ']
  | .member => '"' :: key ++ ['"', ':', ' ', '"']
  | .header scheme _ => key ++ [':', ' '] ++ scheme ++ [' ']

/-- A sensitive key and its value occur in a text; some characters may touch the value, such as a closing quote. -/
structure Occurrence where
  before : List Char
  key : List Char
  shape : Shape
  value : List Char
  adjacent : List Char
  named : key.map foldCase ∈ sensitiveKeys
  starts : Starts value
  touches : Run adjacent

namespace Occurrence

variable (occurrence : Occurrence)

def lead : List Char := occurrence.before ++ occurrence.shape.joins occurrence.key

theorem lead_ends : ∃ front last, occurrence.lead = front ++ [last] ∧ Foreign last ∧
    ∀ letterBeyond, Delimiter letterBeyond last := by
  unfold lead
  cases occurrence.shape with
  | assignment =>
      exact ⟨occurrence.before ++ occurrence.key, '=', by simp [Shape.joins], foreign_of_isSeparator rfl, delimiter_equals⟩
  | pair =>
      exact ⟨occurrence.before ++ (occurrence.key ++ [':']), ' ', by simp [Shape.joins], foreign_of_isSpace rfl,
        fun _ => delimiter_of_isSpace _ rfl⟩
  | member =>
      exact ⟨occurrence.before ++ ('"' :: occurrence.key ++ ['"', ':', ' ']), '"', by simp [Shape.joins], foreign_quote,
        delimiter_quote⟩
  | header scheme named =>
      exact ⟨occurrence.before ++ (occurrence.key ++ [':', ' '] ++ scheme), ' ', by simp [Shape.joins],
        foreign_of_isSpace rfl, fun _ => delimiter_of_isSpace _ rfl⟩

end Occurrence

theorem reverse_of_opens {front : List Char} (open' : opens front) : ∃ key blanks separator gap run,
    front.reverse = run ++ (gap ++ separator :: (blanks ++ key)) ∧ key ≠ [] ∧ (∀ c ∈ key, ¬Foreign c) ∧
      (∀ c ∈ blanks, isSpace c) ∧ isSeparator separator ∧ (∀ c ∈ gap, isSpace c) ∧ Run run := by
  have some' : ∀ key ∈ sensitiveKeys, key ≠ [] := by decide
  obtain ⟨key, joint, run, rfl, -, long, ⟨blanks, separator, gap, rfl, blank, separates, blank'⟩, visible⟩ :=
    split_of_opens open'
  obtain ⟨found, known, same⟩ := Option.map_eq_some_iff.mp long
  obtain ⟨member, spelled⟩ := keyAt_some known
  refine ⟨key.reverse, blanks.reverse, separator, gap.reverse, run.reverse, by simp, ?_,
    fun c inside foreign => ?_, fun c inside => blank c (List.mem_reverse.mp inside), separates, fun c inside => blank' c (List.mem_reverse.mp inside),
    fun c inside => visible c (List.mem_reverse.mp inside)⟩
  · rw [Ne, List.reverse_eq_nil_iff, ← List.length_eq_zero_iff, ← same, List.length_eq_zero_iff]
    exact some' found member
  refine foreign found member ?_
  rw [spelled.eq_of_length (by rw [same, List.length_map])]
  exact List.mem_map_of_mem (List.mem_reverse.mp inside)

/-- No match is pending behind a word and a blank. -/
theorem pending_word (before : List Char) {c : Char} (shown : isSpace c = false) (plain : isSeparator c = false) :
    pending (before ++ [c, ' ']) = none := by
  by_contra some'
  obtain ⟨front, found⟩ := Option.ne_none_iff_exists'.mp some'
  obtain ⟨⟨earlier, whole⟩, open'⟩ := pendingFrom_spec found
  obtain ⟨key, blanks, separator, gap, run, reversed, -, -, -, separates, blank, visible⟩ := reverse_of_opens open'
  have same := congrArg List.reverse whole
  rw [List.reverse_append, List.reverse_append, reversed] at same
  cases run with
  | cons d run =>
      obtain rfl : d = ' ' := by simpa using (List.cons.inj same).1
      cases visible ' ' (List.mem_cons_self ..)
  | nil =>
      cases gap with
      | nil =>
          obtain rfl : separator = ' ' := by simpa using (List.cons.inj same).1
          cases separates
      | cons d gap =>
          have same' := (List.cons.inj same).2
          cases gap with
          | nil =>
              obtain rfl : separator = c := by simpa using (List.cons.inj same').1
              exact Bool.false_ne_true (plain.symm.trans separates)
          | cons e gap =>
              obtain rfl : e = c := by simpa using (List.cons.inj same').1
              exact Bool.false_ne_true (shown.symm.trans (blank e (by simp)))

/-- No match is pending in a member of an object, whose key is quoted. -/
theorem pending_member (before : List Char) : pending (before ++ ['"', ':', ' ', '"']) = none := by
  by_contra some'
  obtain ⟨front, found⟩ := Option.ne_none_iff_exists'.mp some'
  obtain ⟨⟨earlier, whole⟩, open'⟩ := pendingFrom_spec found
  obtain ⟨key, blanks, separator, gap, run, reversed, some', named, blank, separates, blank', visible⟩ :=
    reverse_of_opens open'
  have same := congrArg List.reverse whole
  rw [List.reverse_append, List.reverse_append, reversed] at same
  -- The characters are compared from the last one on.
  cases run with
  | nil =>
      cases gap with
      | nil =>
          obtain rfl : separator = '"' := by simpa using (List.cons.inj same).1
          cases separates
      | cons c gap =>
          obtain rfl : c = '"' := by simpa using (List.cons.inj same).1
          cases blank' '"' (List.mem_cons_self ..)
  | cons c run =>
      have same₁ := (List.cons.inj same).2
      cases run with
      | cons d run =>
          obtain rfl : d = ' ' := by simpa using (List.cons.inj same₁).1
          cases visible ' ' (by simp)
      | nil =>
          cases gap with
          | nil =>
              obtain rfl : separator = ' ' := by simpa using (List.cons.inj same₁).1
              cases separates
          | cons d gap =>
              have same₂ := (List.cons.inj same₁).2
              cases gap with
              | cons e gap =>
                  obtain rfl : e = ':' := by simpa using (List.cons.inj same₂).1
                  cases blank' ':' (by simp)
              | nil =>
                  have same₃ := (List.cons.inj same₂).2
                  cases blanks with
                  | cons e blanks =>
                      obtain rfl : e = '"' := by simpa using (List.cons.inj same₃).1
                      cases blank '"' (by simp)
                  | nil =>
                      obtain ⟨e, key, rfl⟩ := List.exists_cons_of_ne_nil some'
                      obtain rfl : e = '"' := by simpa using (List.cons.inj same₃).1
                      exact named '"' (by simp) foreign_quote

theorem pending_of_member {occurrence : Occurrence} (shape : occurrence.shape = .member) : pending occurrence.lead = none := by
  have whole := pending_member (occurrence.before ++ '"' :: occurrence.key)
  simpa [Occurrence.lead, shape, Shape.joins] using whole

theorem pending_of_header {occurrence : Occurrence} {scheme : List Char} {named : scheme ≠ [] ∧ scheme.all isAsciiLetter}
    (shape : occurrence.shape = .header scheme named) : pending occurrence.lead = none := by
  obtain ⟨front, last, rfl⟩ := (List.eq_nil_or_concat' scheme).resolve_left named.1
  have letter : isAsciiLetter last := List.all_eq_true.mp named.2 last (by simp)
  have range := ascii_range (show isAsciiAlphanumeric last by simp [isAsciiAlphanumeric, letter])
  have shown : isSpace last = false := by
    by_contra blank
    have := space_range (by simpa using blank)
    omega
  have plain : isSeparator last = false := by
    by_contra separates
    rcases colon_or_equals (by simpa using separates) with rfl | rfl <;> cases letter
  have whole := pending_word (occurrence.before ++ (occurrence.key ++ [':', ' '] ++ front)) shown plain
  simpa [Occurrence.lead, shape, Shape.joins] using whole

/-- The search does not pass over a key and its separator, which have no blank between them. -/
theorem pendingFrom_opens {skip : Nat} (before : List Char) {front : List Char} (open' : opens front) (visible : Run front)
    (inside : skip ≤ before.length) : (pendingFrom skip (before ++ front)).isSome := by
  induction before generalizing skip with
  | nil =>
      obtain rfl := Nat.le_zero.mp inside
      obtain ⟨c, rest, rfl⟩ := List.exists_cons_of_ne_nil (ne_nil_of_opens open')
      simp [pendingFrom, open']
  | cons c before inductionHypothesis =>
      cases skip with
      | succ skip => exact inductionHypothesis (Nat.le_of_succ_le_succ inside)
      | zero =>
          by_cases reached : opens (c :: (before ++ front))
          · simp [pendingFrom, reached]
          · cases matched : sensitiveLength (c :: (before ++ front)) with
            | none => simpa [pendingFrom, reached, matched] using inductionHypothesis (Nat.zero_le _)
            | some length =>
                have short : length - 1 ≤ before.length := by
                  by_contra long
                  have bound := sensitiveLength_lt (by simpa using reached) matched
                  obtain ⟨earlier, rest, split, rfl, -, apart⟩ := opens_of_sensitiveLength matched
                  rw [← List.cons_append] at split
                  rcases List.append_eq_append_iff.mp split with ⟨more, rfl, rfl⟩ | ⟨more, same, -⟩
                  · cases rest with
                    | nil => simp at bound
                    | cons d rest =>
                        have shown := visible d (by simp)
                        have blank : isSpace d := apart
                        exact Bool.false_ne_true (shown.symm.trans blank)
                  · have := congrArg List.length same
                    rw [List.length_append, List.length_cons] at this
                    omega
                simpa [pendingFrom, reached, matched] using inductionHypothesis short

theorem opens_assignment {key : List Char} (named : key.map foldCase ∈ sensitiveKeys) :
    opens (key ++ ['=']) ∧ Run (key ++ ['=']) := by
  have first : ∀ key ∈ sensitiveKeys, (sensitiveKeys.find? fun other => other.isPrefixOf key) = some key := by decide
  have visible : ∀ key ∈ sensitiveKeys, key.all notSpace := by decide
  have found : keyAt (key ++ ['=']) = some (key.map foldCase) :=
    (keyAt_append (foreign_of_isSeparator rfl) key []).trans (first _ named)
  constructor
  · refine (opens_iff _).mpr ⟨_, ['='], [], found, ?_, ⟨[], '=', [], rfl, by simp, rfl, by simp⟩, by simp [Run]⟩
    rw [List.length_map, List.drop_left, List.append_nil]
  · refine Run.append (fun c inside => ?_) (plain_one '=' rfl (by decide)).visible
    by_contra blank
    have blank' : isSpace c := by simpa using blank
    have shown := List.all_eq_true.mp (visible _ named) (foldCase c) (List.mem_map_of_mem inside)
    rw [foldCase_of_isSpace blank'] at shown
    simp [notSpace, blank'] at shown

end Occurrences

/-- A value is hidden exactly when a match that is pending before it covers it. -/
theorem value_hidden_iff (letterBeyond : Char → Bool) (occurrence : Occurrence) :
    Hidden letterBeyond occurrence.lead occurrence.value occurrence.adjacent ↔
      Covered occurrence.lead occurrence.value occurrence.adjacent := by
  obtain ⟨front, last, same, foreign, delimits⟩ := occurrence.lead_ends
  have ends : occurrence.lead.getLast? = some last := List.getLast?_eq_some_iff.mpr ⟨front, same⟩
  exact ⟨covered_of_hidden ends foreign (delimits letterBeyond) occurrence.starts occurrence.touches,
    hidden_of_covered (fun _ same => Option.some.inj (ends.symm.trans same) ▸ foreign) occurrence.starts occurrence.touches⟩

/-- A text that carries one covered value cannot be told from the same text with another one. -/
theorem covered_alike (letterBeyond : Char → Bool) (occurrence : Occurrence) {other rest : List Char} (starts : Starts other)
    (first : Covered occurrence.lead occurrence.value occurrence.adjacent)
    (second : Covered occurrence.lead other occurrence.adjacent) (apart : Apart rest) :
    scrub letterBeyond (occurrence.lead ++ (occurrence.value ++ (occurrence.adjacent ++ rest))) =
      scrub letterBeyond (occurrence.lead ++ (other ++ (occurrence.adjacent ++ rest))) := by
  have one := plain_one '1' rfl (by decide)
  have hidden := (value_hidden_iff letterBeyond occurrence).mpr first ['1'] rest one apart
  have hidden' := (value_hidden_iff letterBeyond { occurrence with value := other, starts := starts }).mpr second
    ['1'] rest one apart
  exact hidden.trans hidden'.symm

/-- A value without colons and blanks is hidden behind `key=`. -/
theorem assignment_hidden (letterBeyond : Char → Bool) {occurrence : Occurrence} (shape : occurrence.shape = .assignment)
    (visible : Run occurrence.value) (plain : ':' ∉ occurrence.value ++ occurrence.adjacent) :
    Hidden letterBeyond occurrence.lead occurrence.value occurrence.adjacent := by
  obtain ⟨open', run⟩ := opens_assignment occurrence.named
  have pends := pendingFrom_opens occurrence.before open' run (Nat.zero_le _)
  obtain ⟨front, found⟩ := Option.isSome_iff_exists.mp pends
  have same : occurrence.lead = occurrence.before ++ (occurrence.key ++ ['=']) := by
    rw [Occurrence.lead, shape, Shape.joins]
  exact (value_hidden_iff letterBeyond occurrence).mpr ⟨visible, front, same ▸ found, .inr plain⟩

/-- No value is hidden in a member of an object. -/
theorem member_shown (letterBeyond : Char → Bool) {occurrence : Occurrence} (shape : occurrence.shape = .member) :
    ¬Hidden letterBeyond occurrence.lead occurrence.value occurrence.adjacent := by
  intro hidden
  obtain ⟨-, front, found, -⟩ := (value_hidden_iff letterBeyond occurrence).mp hidden
  cases (pending_of_member shape).symm.trans found

/-- No value is hidden behind a scheme. -/
theorem header_shown (letterBeyond : Char → Bool) {occurrence : Occurrence} {scheme : List Char}
    {named : scheme ≠ [] ∧ scheme.all isAsciiLetter} (shape : occurrence.shape = .header scheme named) :
    ¬Hidden letterBeyond occurrence.lead occurrence.value occurrence.adjacent := by
  intro hidden
  obtain ⟨-, front, found, -⟩ := (value_hidden_iff letterBeyond occurrence).mp hidden
  cases (pending_of_header shape).symm.trans found

def bearer : Occurrence where
  before := []
  key := "Authorization".toList
  shape := .header "Bearer".toList (by decide)
  value := "abc".toList
  adjacent := []
  named := by decide
  starts := ⟨'a', "bc".toList, rfl, rfl⟩
  touches := by simp [Run]

theorem bearer_kept : ¬∀ (occurrence : Occurrence) (other rest : List Char), Starts other → Apart rest →
    scrub (fun _ => false) (occurrence.lead ++ (occurrence.value ++ (occurrence.adjacent ++ rest))) =
      scrub (fun _ => false) (occurrence.lead ++ (other ++ (occurrence.adjacent ++ rest))) := by
  intro alike
  have same := alike bearer "xyz".toList [] ⟨'x', "yz".toList, rfl, rfl⟩ rfl
  revert same
  decide +kernel

example : scrub (fun _ => false) "Authorization: Bearer abc".toList = "Authorization:[REDACTED] abc".toList := by
  decide +kernel

end Pxtly.Core.Redaction
