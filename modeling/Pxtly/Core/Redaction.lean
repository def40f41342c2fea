/-
This file gives the redaction of log texts, and which values it hides.
-/

import Pxtly.Foundation.Python
import Pxtly.Foundation.Substitutions
import Mathlib.Data.List.Find
import Mathlib.Data.List.TakeWhile

namespace Pxtly.Core.Redaction

open Foundation

section Sensitive

def sensitiveKeys : List (List Char) :=
  ["password", "token", "secret", "api_key", "authorization", "hashed_password", "private_key", "vault_token"].map
    String.toList

/-- `re.IGNORECASE` compares these forms; a long s, a Kelvin sign and two Turkish letters count as ASCII letters. -/
def foldCase (c : Char) : Char :=
  if c = 'ſ' then 's'
  else if c = '\u212a' then 'k'
  else if c = 'İ' ∨ c = 'ı' then 'i'
  else c.toLower

/-- No key begins with another one, so that at most one of them stands at a place. -/
def keyAt (text : List Char) : Option (List Char) := sensitiveKeys.find? fun key => key.isPrefixOf (text.map foldCase)

def isSeparator (c : Char) : Bool := c == ':' || c == '='
def notSpace (c : Char) : Bool := !isSpace c

/-- This is the length of a match of `\s*[:=]\s*\S+`. -/
def assignmentLength (text : List Char) : Option Nat :=
  match text.dropWhile isSpace with
  | [] => none
  | separator :: rest =>
      let value := (rest.dropWhile isSpace).takeWhile notSpace
      if isSeparator separator ∧ value ≠ [] then
        some ((text.takeWhile isSpace).length + 1 + (rest.takeWhile isSpace).length + value.length)
      else none

/-- This is the length of a match of `SENSITIVE_PATTERN`. -/
def sensitiveLength (text : List Char) : Option Nat :=
  match keyAt text with
  | none => none
  | some key => (assignmentLength (text.drop key.length)).map (key.length + ·)

def redacted : List Char := "[REDACTED]".toList

/-- The text is split at its first colon, or at its first equals sign where it has no colon. -/
def redactKV (text : List Char) : Edit Char :=
  let separator := if ':' ∈ text then ':' else '='
  ⟨text.takeWhile (· ≠ separator) ++ [separator], (text.dropWhile (· ≠ separator)).tail, redacted, []⟩

def sensitive : Matcher Char := fun _ text => (sensitiveLength text).map fun length => redactKV (text.take length)

end Sensitive

section Emails

-- The classes of Unicode decide which characters beyond ASCII are letters or digits.
variable (letterBeyond : Char → Bool)

def isAsciiLetter (c : Char) : Bool := ('a' ≤ c && c ≤ 'z') || ('A' ≤ c && c ≤ 'Z')
def isAsciiAlphanumeric (c : Char) : Bool := isAsciiLetter c || isAsciiDigit c

/-- This is `\w`, which holds of no blank. -/
def isWord (c : Char) : Bool :=
  if c.toNat < 128 then isAsciiAlphanumeric c || c == '_' else letterBeyond c && !isSpace c

def isLocal (c : Char) : Bool := isAsciiAlphanumeric c || c ∈ ['.', '_', '%', '+', '-']
def isDomain (c : Char) : Bool := isAsciiAlphanumeric c || c ∈ ['.', '-']

/-- Behind the dot at this place of a domain, `[A-Za-z]{2,}\b` matches all letters or nothing. -/
def topLevelAt (domain : List Char) (dot : Nat) : Option Nat :=
  let letters := (domain.drop (dot + 1)).takeWhile isAsciiLetter
  let length := dot + 1 + letters.length
  if domain[dot]? = some '.' ∧ 2 ≤ letters.length ∧ ((domain.drop length).head?.all fun c => !isWord letterBeyond c) then
    some length
  else none

/-- This is the length of a match of `[A-Za-z0-9.-]+\.[A-Za-z]{2,}\b`: the last dot that allows one is taken. -/
def domainLength (domain : List Char) : Option Nat :=
  ((List.range (domain.takeWhile isDomain).length).reverse.filter (0 < ·)).findSome? (topLevelAt letterBeyond domain)

/-- This is `EMAIL_PATTERN` with its replacement: the first character and the domain are kept. -/
def email : Matcher Char := fun previous text =>
  match text with
  | [] => none
  | first :: rest =>
      if isAsciiAlphanumeric first ∧ previous.all (fun c => !isWord letterBeyond c) then
        match rest.dropWhile isLocal with
        | [] => none
        | at' :: domain =>
            if at' = '@' then
              (domainLength letterBeyond domain).map fun length =>
                ⟨[first], rest.takeWhile isLocal, "***".toList, '@' :: domain.take length⟩
            else none
      else none

/-- This is `_scrub`. -/
def scrub (text : List Char) : List Char := (email letterBeyond).substitute (sensitive.substitute text)

end Emails

example : scrub (fun _ => false) "password=ab:cd for alice.smith@example.com".toList =
    "password=ab:[REDACTED] for a***@example.com".toList := by decide +kernel

section Matching

/-- This text matches `\s*[:=]\s*`. -/
def Joint (text : List Char) : Prop :=
  ∃ blanks separator gap, text = blanks ++ separator :: gap ∧ (∀ c ∈ blanks, isSpace c) ∧ isSeparator separator ∧
    ∀ c ∈ gap, isSpace c

def Run (text : List Char) : Prop := ∀ c ∈ text, isSpace c = false

/-- A run of non-blanks ends before such a text. -/
def Apart (text : List Char) : Prop := text.head?.all isSpace

theorem colon_or_equals {c : Char} (separates : isSeparator c) : c = ':' ∨ c = '=' :=
  ((Bool.or_eq_true _ _).mp separates).imp beq_iff_eq.mp beq_iff_eq.mp

theorem equals_mem {text : List Char} (separated : ∃ c ∈ text, isSeparator c) (plain : ':' ∉ text) : '=' ∈ text := by
  obtain ⟨c, inside, separates⟩ := separated
  rcases colon_or_equals separates with rfl | rfl
  · exact absurd inside plain
  · exact inside

theorem notSpace_of_isSeparator {c : Char} (separates : isSeparator c) : isSpace c = false := by
  rcases colon_or_equals separates with rfl | rfl <;> decide

theorem takeWhile_run {run rest : List Char} (visible : Run run) (apart : Apart rest) :
    (run ++ rest).takeWhile notSpace = run := by
  have stops : rest.takeWhile notSpace = [] := by
    cases rest with
    | nil => rfl
    | cons c rest => exact List.takeWhile_cons_of_neg (by simpa [notSpace, Apart] using apart)
  rw [List.takeWhile_append_of_pos fun c inside => by simp [notSpace, visible c inside], stops, List.append_nil]

/-- The non-blanks at the start of a text are a run, and the rest is apart from them. -/
theorem run_takeWhile (text : List Char) : Run (text.takeWhile notSpace) := fun c inside => by
  simpa [notSpace] using List.mem_takeWhile_imp inside

theorem apart_dropWhile (text : List Char) : Apart (text.dropWhile notSpace) := by
  have first := List.head?_dropWhile_not notSpace text
  rw [Apart]
  cases seen : (text.dropWhile notSpace).head? with
  | none => rfl
  | some c => simpa [seen, notSpace] using first

theorem Joint.dropWhile {joint : List Char} (holds : Joint joint) (rest : List Char) :
    ∃ blanks separator gap, (joint ++ rest).takeWhile isSpace = blanks ∧
      (joint ++ rest).dropWhile isSpace = separator :: (gap ++ rest) ∧ isSeparator separator ∧ (∀ c ∈ gap, isSpace c) ∧
      joint.length = blanks.length + 1 + gap.length := by
  obtain ⟨blanks, separator, gap, rfl, blank, separates, blank'⟩ := holds
  have stops := notSpace_of_isSeparator separates
  refine ⟨blanks, separator, gap, ?_, ?_, separates, blank', by simp; omega⟩
  · rw [List.append_assoc, List.takeWhile_append_of_pos blank, List.cons_append,
      List.takeWhile_cons_of_neg (by simp [stops]), List.append_nil]
  · rw [List.append_assoc, List.dropWhile_append_of_pos blank, List.cons_append,
      List.dropWhile_cons_of_neg (by simp [stops])]

theorem assignmentLength_of_joint {joint value rest : List Char} (holds : Joint joint) (visible : Run value)
    (some' : value ≠ []) (apart : Apart rest) :
    assignmentLength (joint ++ (value ++ rest)) = some (joint.length + value.length) := by
  obtain ⟨blanks, separator, gap, before, behind, separates, blank, long⟩ := holds.dropWhile (value ++ rest)
  have visibleHead : ((value ++ rest).head?.all notSpace) = true := by
    cases value with
    | nil => exact absurd rfl some'
    | cons c value => simp [notSpace, visible c (List.mem_cons_self ..)]
  have stops : (value ++ rest).dropWhile isSpace = value ++ rest ∧ (value ++ rest).takeWhile isSpace = [] := by
    cases value with
    | nil => exact absurd rfl some'
    | cons c value =>
        have shown := visible c (List.mem_cons_self ..)
        exact ⟨List.dropWhile_cons_of_neg (by simp [shown]), List.takeWhile_cons_of_neg (by simp [shown])⟩
  unfold assignmentLength
  simp only [before, behind]
  rw [List.dropWhile_append_of_pos blank, List.takeWhile_append_of_pos blank, stops.1, stops.2, takeWhile_run visible apart,
    if_pos ⟨separates, some'⟩, List.append_nil, long]

theorem joint_of_assignmentLength {text : List Char} {length : Nat} (found : assignmentLength text = some length) :
    ∃ joint value rest, text = joint ++ (value ++ rest) ∧ Joint joint ∧ Run value ∧ value ≠ [] ∧ Apart rest ∧
      length = joint.length + value.length := by
  unfold assignmentLength at found
  cases known : text.dropWhile isSpace with
  | nil =>
      simp only [known] at found
      cases found
  | cons separator rest =>
      simp only [known] at found
      split at found
      · next holds =>
          refine ⟨text.takeWhile isSpace ++ separator :: rest.takeWhile isSpace, (rest.dropWhile isSpace).takeWhile notSpace,
            (rest.dropWhile isSpace).dropWhile notSpace, ?_, ⟨_, _, _, rfl, fun _ => List.mem_takeWhile_imp,
              holds.1, fun _ => List.mem_takeWhile_imp⟩, run_takeWhile _, holds.2, apart_dropWhile _, ?_⟩
          · conv_lhs => rw [← List.takeWhile_append_dropWhile (p := isSpace) (l := text), known,
              ← List.takeWhile_append_dropWhile (p := isSpace) (l := rest),
              ← List.takeWhile_append_dropWhile (p := notSpace) (l := rest.dropWhile isSpace)]
            simp
          · rw [← Option.some.inj found, List.length_append, List.length_cons]
            omega
      · cases found

@[simp] theorem not_joint_nil : ¬Joint [] := by
  rintro ⟨blanks, separator, gap, whole, -⟩
  simp at whole

/-- A text that no longer awaits the end of its value decides the match alone. -/
theorem assignmentLength_append {text rest : List Char} {c : Char}
    (closed : ¬∃ joint run, text = joint ++ run ∧ Joint joint ∧ Run run) (shown : isSpace c = false)
    (separated : isSeparator c = false ∨ ∃ separator ∈ text, isSeparator separator) :
    assignmentLength (text ++ c :: rest) = assignmentLength text := by
  have whole := List.takeWhile_append_dropWhile (p := isSpace) (l := text)
  have blank : ∀ x ∈ text.takeWhile isSpace, isSpace x := fun _ => List.mem_takeWhile_imp
  cases known : text.dropWhile isSpace with
  | nil =>
      rw [known, List.append_nil] at whole
      have plain : isSeparator c = false := by
        refine separated.resolve_right ?_
        rintro ⟨separator, inside, separates⟩
        rw [← whole] at inside
        exact Bool.false_ne_true ((notSpace_of_isSeparator separates).symm.trans (blank _ inside))
      have behind : (text ++ c :: rest).dropWhile isSpace = c :: rest := by
        rw [List.dropWhile_append, known]
        exact List.dropWhile_cons_of_neg (by simp [shown])
      simp [assignmentLength, known, behind, plain]
  | cons separator more =>
      have behind : (text ++ c :: rest).dropWhile isSpace = separator :: (more ++ c :: rest) := by
        rw [List.dropWhile_append, known]
        rfl
      by_cases separates : isSeparator separator
      · have inner := List.takeWhile_append_dropWhile (p := isSpace) (l := more)
        have value := List.takeWhile_append_dropWhile (p := notSpace) (l := more.dropWhile isSpace)
        have joint : Joint (text.takeWhile isSpace ++ separator :: more.takeWhile isSpace) :=
          ⟨_, _, _, rfl, blank, separates, fun _ => List.mem_takeWhile_imp⟩
        have run := run_takeWhile (more.dropWhile isSpace)
        have split : text = (text.takeWhile isSpace ++ separator :: more.takeWhile isSpace) ++
            ((more.dropWhile isSpace).takeWhile notSpace ++ (more.dropWhile isSpace).dropWhile notSpace) := by
          rw [value, List.append_assoc, List.cons_append, inner, ← known, whole]
        cases left : (more.dropWhile isSpace).dropWhile notSpace with
        | nil =>
            rw [left, List.append_nil] at split
            exact absurd ⟨_, _, split, joint, run⟩ closed
        | cons d later =>
            have ends : isSpace d := by simpa [Apart, left] using apart_dropWhile (more.dropWhile isSpace)
            have some' : (more.dropWhile isSpace).takeWhile notSpace ≠ [] := by
              intro none'
              have first := List.head?_dropWhile_not isSpace more
              rw [← value, none', left] at first
              simp [ends] at first
            rw [left] at split
            generalize text.takeWhile isSpace ++ separator :: more.takeWhile isSpace = front at joint split
            generalize (more.dropWhile isSpace).takeWhile notSpace = shown at run some' split
            have apart (behind : List Char) : Apart (d :: behind) := by simp [Apart, ends]
            rw [split, List.append_assoc, List.append_assoc, assignmentLength_of_joint joint run some' (apart later),
              List.cons_append, assignmentLength_of_joint joint run some' (apart _)]
      · simp [assignmentLength, known, behind, separates]

end Matching

section Keys

/-- A character of this kind belongs to no key. -/
def Foreign (c : Char) : Prop := ∀ key ∈ sensitiveKeys, foldCase c ∉ key

theorem space_range {c : Char} (blank : isSpace c) : c.toNat ≤ 32 ∨ 128 ≤ c.toNat := by
  simp only [isSpace, Bool.or_eq_true, Bool.and_eq_true, decide_eq_true_eq, List.mem_cons, List.not_mem_nil, or_false] at blank
  omega

theorem foldCase_of_isSpace {c : Char} (blank : isSpace c) : foldCase c = c := by
  unfold foldCase
  split_ifs with long kelvin turkish
  · subst long; revert blank; decide
  · subst kelvin; revert blank; decide
  · rcases turkish with same | same <;> (subst same; revert blank; decide)
  · refine dif_neg fun ⟨low, high⟩ => ?_
    have above : 'A'.toNat ≤ c.toNat := UInt32.le_iff_toNat_le.mp low
    have below : c.toNat ≤ 'Z'.toNat := UInt32.le_iff_toNat_le.mp high
    have range := space_range blank
    simp at above below
    omega

theorem foreign_of_isSpace {c : Char} (blank : isSpace c) : Foreign c := by
  have visible : ∀ key ∈ sensitiveKeys, key.all notSpace := by decide
  intro key known inside
  rw [foldCase_of_isSpace blank] at inside
  have shown := List.all_eq_true.mp (visible key known) c inside
  simp [notSpace, blank] at shown

theorem foreign_of_isSeparator {c : Char} (separates : isSeparator c) : Foreign c := by
  rcases colon_or_equals separates with rfl | rfl <;> unfold Foreign <;> decide

theorem foreign_quote : Foreign '"' := by unfold Foreign; decide

/-- A key in front of such a character ends before it. -/
theorem keyAt_append {c : Char} (foreign : Foreign c) (before rest : List Char) :
    keyAt (before ++ c :: rest) = keyAt before := by
  refine List.find?_congr fun key known => ?_
  rw [Bool.eq_iff_iff, List.isPrefixOf_iff_prefix, List.isPrefixOf_iff_prefix, List.map_append, List.map_cons]
  refine ⟨fun starts => ?_, fun starts => starts.trans (List.prefix_append _ _)⟩
  rcases List.prefix_or_prefix_of_prefix starts (List.prefix_append _ _) with short | ⟨more, long⟩
  · exact short
  · rw [← long, List.prefix_append_right_inj] at starts
    cases more with
    | nil =>
        exact ⟨[], by rw [← long, List.append_nil, List.append_nil]⟩
    | cons d more =>
        obtain ⟨same, -⟩ := List.cons_prefix_cons.mp starts
        refine absurd ?_ (foreign key known)
        rw [← long, ← same]
        exact List.mem_append_right _ (List.mem_cons_self ..)

theorem keyAt_foreign {c : Char} (foreign : Foreign c) (rest : List Char) : keyAt (c :: rest) = none :=
  (keyAt_append foreign [] rest).trans (by decide)

theorem keyAt_some {text key : List Char} (found : keyAt text = some key) :
    key ∈ sensitiveKeys ∧ key <+: text.map foldCase := by
  unfold keyAt at found
  have starts := List.find?_some found
  exact ⟨List.mem_of_find?_eq_some found, List.isPrefixOf_iff_prefix.mp starts⟩

end Keys

section Opening

/-- A match of `SENSITIVE_PATTERN` would go on behind this text, whose value it has not read to the end. -/
def opens (text : List Char) : Bool :=
  match keyAt text with
  | none => false
  | some key =>
      match (text.drop key.length).dropWhile isSpace with
      | [] => false
      | separator :: rest => isSeparator separator && (rest.dropWhile isSpace).all notSpace

theorem opens_iff (text : List Char) : opens text ↔
    ∃ key joint run, keyAt text = some key ∧ text.drop key.length = joint ++ run ∧ Joint joint ∧ Run run := by
  unfold opens
  cases found : keyAt text with
  | none => simp
  | some key =>
      constructor
      · intro holds
        have whole := List.takeWhile_append_dropWhile (p := isSpace) (l := text.drop key.length)
        cases known : (text.drop key.length).dropWhile isSpace with
        | nil => simp [known] at holds
        | cons separator rest =>
            simp only [known, Bool.and_eq_true] at holds
            have inner := List.takeWhile_append_dropWhile (p := isSpace) (l := rest)
            refine ⟨key, (text.drop key.length).takeWhile isSpace ++ separator :: rest.takeWhile isSpace,
              rest.dropWhile isSpace, rfl, ?_, ⟨_, _, _, rfl, ?_, holds.1, ?_⟩, ?_⟩
            · rw [List.append_assoc, List.cons_append, inner, ← known, whole]
            · exact fun _ => List.mem_takeWhile_imp
            · exact fun _ => List.mem_takeWhile_imp
            · exact fun c inside => by simpa [notSpace] using List.all_eq_true.mp holds.2 c inside
      · rintro ⟨key', joint, run, same, split, holds, visible⟩
        obtain rfl := Option.some.inj same
        obtain ⟨blanks, separator, gap, -, behind, separates, blank, -⟩ := holds.dropWhile run
        have stops : run.dropWhile isSpace = run := by
          cases run with
          | nil => rfl
          | cons c run => exact List.dropWhile_cons_of_neg (by simp [visible c (List.mem_cons_self ..)])
        simp only [split, behind, separates, Bool.true_and]
        rw [List.dropWhile_append_of_pos blank, stops]
        exact List.all_eq_true.mpr fun c inside => by simp [notSpace, visible c inside]

theorem Joint.head {joint : List Char} (holds : Joint joint) : ∃ c rest, joint = c :: rest ∧ Foreign c := by
  obtain ⟨blanks, separator, gap, rfl, blank, separates, -⟩ := holds
  cases blanks with
  | nil => exact ⟨separator, gap, rfl, foreign_of_isSeparator separates⟩
  | cons c blanks => exact ⟨c, _, rfl, foreign_of_isSpace (blank c (List.mem_cons_self ..))⟩

theorem Joint.separator {joint : List Char} (holds : Joint joint) : ∃ c ∈ joint, isSeparator c := by
  obtain ⟨blanks, separator, gap, rfl, -, separates, -⟩ := holds
  exact ⟨separator, by simp, separates⟩

/-- The text before the value is a key and what joins the key to the value. -/
theorem split_of_opens {text : List Char} (open' : opens text) :
    ∃ key joint run, text = key ++ (joint ++ run) ∧ (∀ rest, keyAt (text ++ rest) = keyAt key) ∧
      (keyAt key).map List.length = some key.length ∧ Joint joint ∧ Run run := by
  obtain ⟨key, joint, run, found, split, holds, visible⟩ := (opens_iff text).mp open'
  obtain ⟨c, rest, front, foreign⟩ := holds.head
  have short : key.length ≤ text.length := by simpa using (keyAt_some found).2.length_le
  have whole := List.take_append_drop key.length text
  rw [split, front] at whole
  have only (behind : List Char) : keyAt (text ++ behind) = keyAt (text.take key.length) := by
    conv_lhs => rw [← whole]
    rw [List.append_assoc, List.cons_append, List.cons_append]
    exact keyAt_append foreign _ _
  refine ⟨text.take key.length, joint, run, ?_, only, ?_, holds, visible⟩
  · rw [← split, List.take_append_drop]
  · rw [← only [], List.append_nil, found, List.length_take, Nat.min_eq_left short]
    rfl

theorem sensitiveLength_of_opens {text value rest : List Char} (open' : opens text) (visible : Run value)
    (some' : value ≠ []) (apart : Apart rest) :
    sensitiveLength (text ++ (value ++ rest)) = some (text.length + value.length) := by
  obtain ⟨key, joint, run, split, only, long, holds, shown⟩ := split_of_opens open'
  obtain ⟨found, known, same⟩ := Option.map_eq_some_iff.mp long
  have run' : Run (run ++ value) := fun c inside => (List.mem_append.mp inside).elim (shown c) (visible c)
  unfold sensitiveLength
  rw [only, known]
  simp only [same]
  rw [split, List.append_assoc, List.drop_left, List.append_assoc, ← List.append_assoc run,
    assignmentLength_of_joint holds run' (by simp [some']) apart]
  simp
  omega

theorem opens_of_sensitiveLength {text : List Char} {length : Nat} (found : sensitiveLength text = some length) :
    ∃ before rest, text = before ++ rest ∧ before.length = length ∧ opens before ∧ Apart rest := by
  unfold sensitiveLength at found
  cases known : keyAt text with
  | none =>
      simp only [known] at found
      cases found
  | some key =>
      simp only [known] at found
      obtain ⟨long, matched, rfl⟩ := Option.map_eq_some_iff.mp found
      obtain ⟨joint, value, rest, split, holds, visible, -, apart, rfl⟩ := joint_of_assignmentLength matched
      obtain ⟨c, more, front, foreign⟩ := holds.head
      have short : key.length ≤ text.length := by simpa using (keyAt_some known).2.length_le
      have whole : text.take key.length ++ (joint ++ (value ++ rest)) = text := by rw [← split, List.take_append_drop]
      have key' : keyAt (text.take key.length) = some key := by
        rw [← known]
        conv_rhs => rw [← whole, front, List.cons_append]
        exact (keyAt_append foreign _ _).symm
      refine ⟨text.take key.length ++ (joint ++ value), rest, by simp [← split], by simp; omega, ?_, apart⟩
      refine (opens_iff _).mpr ⟨key, joint, value, ?_, ?_, holds, visible⟩
      · rw [front, List.cons_append, keyAt_append foreign, key']
      · have same : (text.take key.length).length = key.length := by simp [short]
        exact List.drop_left' same

/-- A text that no longer awaits the end of its value decides the match alone. -/
theorem sensitiveLength_append {text rest : List Char} {last c : Char} (ends : text.getLast? = some last)
    (foreign : Foreign last) (closed : opens text = false) (shown : isSpace c = false)
    (separated : isSeparator c = false ∨ ∃ separator ∈ text, isSeparator separator) :
    sensitiveLength (text ++ c :: rest) = sensitiveLength text := by
  obtain ⟨before, rfl⟩ := List.getLast?_eq_some_iff.mp ends
  have same : keyAt (before ++ [last] ++ c :: rest) = keyAt (before ++ [last]) := by
    rw [List.append_assoc, List.cons_append, keyAt_append foreign, keyAt_append foreign]
  unfold sensitiveLength
  rw [same]
  cases known : keyAt (before ++ [last]) with
  | none => rfl
  | some key =>
      have short : key.length ≤ before.length := by
        rw [keyAt_append foreign] at known
        simpa using (keyAt_some known).2.length_le
      have plain : ∀ separator ∈ (before ++ [last]).take key.length, isSeparator separator = false := by
        intro separator inside
        by_contra separates
        obtain ⟨member, spelled⟩ := keyAt_some known
        refine foreign_of_isSeparator (by simpa using separates) key member ?_
        rw [List.prefix_iff_eq_take.mp spelled, ← List.map_take]
        exact List.mem_map_of_mem inside
      have closed' : ¬∃ joint run, (before ++ [last]).drop key.length = joint ++ run ∧ Joint joint ∧ Run run := by
        rintro ⟨joint, run, split, holds, visible⟩
        exact Bool.false_ne_true (closed.symm.trans ((opens_iff _).mpr ⟨key, joint, run, known, split, holds, visible⟩))
      have separated' : isSeparator c = false ∨ ∃ separator ∈ (before ++ [last]).drop key.length, isSeparator separator := by
        refine separated.imp_right ?_
        rintro ⟨separator, inside, separates⟩
        rw [← List.take_append_drop key.length (before ++ [last])] at inside
        refine ⟨separator, (List.mem_append.mp inside).resolve_left fun front => ?_, separates⟩
        exact Bool.false_ne_true ((plain _ front).symm.trans separates)
      change (assignmentLength _).map _ = (assignmentLength _).map _
      rw [List.drop_append_of_le_length (by simp; omega), assignmentLength_append closed' shown separated']

end Opening

section Sensitive

theorem source_redactKV {text : List Char} (separated : ∃ c ∈ text, isSeparator c) : (redactKV text).source = text := by
  have split (c : Char) (inside : c ∈ text) : text.takeWhile (· ≠ c) ++ [c] ++ (text.dropWhile (· ≠ c)).tail ++ [] = text := by
    have whole := List.takeWhile_append_dropWhile (p := fun x => decide (x ≠ c)) (l := text)
    have first := List.head?_dropWhile_not (fun x => decide (x ≠ c)) text
    cases known : text.dropWhile fun x => decide (x ≠ c) with
    | nil =>
        rw [known, List.append_nil] at whole
        rw [← whole] at inside
        simpa using List.mem_takeWhile_imp inside
    | cons d rest =>
        rw [known] at first whole
        obtain rfl : d = c := by simpa using first
        simpa using whole
  unfold redactKV
  split_ifs with colon
  · exact split ':' colon
  · exact split '=' (equals_mem separated colon)

theorem separator_of_opens {text : List Char} (open' : opens text) : ∃ c ∈ text, isSeparator c := by
  obtain ⟨key, joint, run, rfl, -, -, holds, -⟩ := split_of_opens open'
  obtain ⟨c, inside, separates⟩ := holds.separator
  exact ⟨c, by simp [inside], separates⟩

theorem ne_nil_of_opens {text : List Char} (open' : opens text) : text ≠ [] := by
  obtain ⟨c, inside, -⟩ := separator_of_opens open'
  exact List.ne_nil_of_mem inside

theorem sensitive_sound : sensitive.Sound := by
  have same (previous : Option Char) (text : List Char) (edit : Edit Char) (found : sensitive previous text = some edit) :
      ∃ before, before <+: text ∧ before ≠ [] ∧ edit.source = before := by
    obtain ⟨length, matched, rfl⟩ := Option.map_eq_some_iff.mp found
    obtain ⟨before, rest, rfl, rfl, open', -⟩ := opens_of_sensitiveLength matched
    rw [List.take_left]
    exact ⟨before, List.prefix_append _ _, ne_nil_of_opens open', source_redactKV (separator_of_opens open')⟩
  constructor
  · intro previous text edit found
    obtain ⟨before, -, some', same⟩ := same previous text edit found
    exact same ▸ some'
  · intro previous text edit found
    obtain ⟨before, front, -, same⟩ := same previous text edit found
    exact same ▸ front

/-- The pattern does not look at what stands before a match. -/
theorem sensitive_previous (previous : Option Char) (text : List Char) :
    sensitive.substituteFrom previous 0 text = sensitive.substitute text :=
  Matcher.substituteFrom_congr previous none (fun _ => rfl) text

/-- The value and the match before it are redacted together. -/
theorem redact_opens {text value rest : List Char} (open' : opens text) (visible : Run value) (some' : value ≠ [])
    (apart : Apart rest) : sensitive.substitute (text ++ (value ++ rest)) =
      (redactKV (text ++ value)).result ++ sensitive.substitute rest := by
  have separated : ∃ c ∈ text ++ value, isSeparator c := by
    obtain ⟨c, inside, separates⟩ := separator_of_opens open'
    exact ⟨c, List.mem_append_left _ inside, separates⟩
  have source := source_redactKV separated
  have matched : sensitive none ((redactKV (text ++ value)).source ++ rest) = some (redactKV (text ++ value)) := by
    rw [source, List.append_assoc, sensitive, sensitiveLength_of_opens open' visible some' apart, Option.map_some,
      ← List.append_assoc, ← List.length_append, List.take_left]
  rw [← List.append_assoc]
  conv_lhs => rw [← source]
  rw [Matcher.substitute, Matcher.substituteFrom_match sensitive_sound matched, sensitive_previous]

end Sensitive

end Pxtly.Core.Redaction
