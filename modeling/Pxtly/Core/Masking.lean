/-
This file shows that the masking of addresses works separately on both sides of a delimiter.
-/

import Pxtly.Core.Redaction

namespace Pxtly.Core.Redaction

open Foundation

variable (letterBeyond : Char → Bool)

/-- A character of this kind is no part of an address and ends a word. -/
structure Delimiter (c : Char) : Prop where
  notWord : isWord letterBeyond c = false
  notLocal : isLocal c = false
  notAt : c ≠ '@'

theorem ascii_range {c : Char} (letter : isAsciiAlphanumeric c) : 48 ≤ c.toNat ∧ c.toNat ≤ 122 := by
  simp only [isAsciiAlphanumeric, isAsciiLetter, isAsciiDigit, Bool.or_eq_true, Bool.and_eq_true, decide_eq_true_eq,
    Char.le_def, UInt32.le_iff_toNat_le] at letter
  have bounds : ('0'.val.toNat = 48 ∧ '9'.val.toNat = 57) ∧ ('a'.val.toNat = 97 ∧ 'z'.val.toNat = 122) ∧
    ('A'.val.toNat = 65 ∧ 'Z'.val.toNat = 90) := by decide
  change 48 ≤ c.val.toNat ∧ c.val.toNat ≤ 122
  omega

theorem delimiter_of_isSpace {c : Char} (blank : isSpace c) : Delimiter letterBeyond c := by
  have range := space_range blank
  have plain : isAsciiAlphanumeric c = false := by
    by_contra letter
    have := ascii_range (by simpa using letter)
    omega
  have other (d : Char) (shown : isSpace d = false) : c ≠ d := by
    rintro rfl
    exact Bool.false_ne_true (shown.symm.trans blank)
  refine ⟨?_, ?_, other '@' (by decide)⟩
  · unfold isWord
    split_ifs
    · simp [plain, other '_' (by decide)]
    · simp [blank]
  · simp [isLocal, plain, other '.' (by decide), other '_' (by decide), other '%' (by decide), other '+' (by decide),
      other '-' (by decide)]

theorem delimiter_colon : Delimiter letterBeyond ':' := ⟨rfl, rfl, by decide⟩
theorem delimiter_equals : Delimiter letterBeyond '=' := ⟨rfl, rfl, by decide⟩
theorem delimiter_quote : Delimiter letterBeyond '"' := ⟨rfl, rfl, by decide⟩
theorem delimiter_bracket : Delimiter letterBeyond '[' := ⟨rfl, rfl, by decide⟩

variable {letterBeyond}

theorem Delimiter.notAlphanumeric {c : Char} (delimits : Delimiter letterBeyond c) : isAsciiAlphanumeric c = false := by
  have other := delimits.notLocal
  unfold isLocal at other
  exact (Bool.or_eq_false_iff.mp other).1

theorem Delimiter.notDomain {c : Char} (delimits : Delimiter letterBeyond c) : isDomain c = false := by
  have other := delimits.notLocal
  simp only [isLocal, List.mem_cons, List.not_mem_nil, or_false, Bool.or_eq_false_iff, decide_eq_false_iff_not, not_or]
    at other
  simp [isDomain, other.1, other.2.1, other.2.2.2.2.2]

theorem Delimiter.notLetter {c : Char} (delimits : Delimiter letterBeyond c) : isAsciiLetter c = false := by
  have other := delimits.notAlphanumeric
  unfold isAsciiAlphanumeric at other
  exact (Bool.or_eq_false_iff.mp other).1

theorem topLevelAt_le {domain : List Char} {dot length : Nat} (found : topLevelAt letterBeyond domain dot = some length) :
    length ≤ domain.length := by
  simp only [topLevelAt] at found
  split_ifs at found with holds
  obtain ⟨inside, -⟩ := List.getElem?_eq_some_iff.mp holds.1
  have letters := (List.takeWhile_prefix isAsciiLetter (l := domain.drop (dot + 1))).length_le
  rw [List.length_drop] at letters
  have same := Option.some.inj found
  omega

theorem takeWhile_append_cons {test : Char → Bool} {c : Char} (stops : test c = false) (text rest : List Char) :
    (text ++ c :: rest).takeWhile test = text.takeWhile test := by
  rw [List.takeWhile_append]
  split_ifs with all
  · rw [List.takeWhile_cons_of_neg (by simp [stops]), List.append_nil]
    exact (List.takeWhile_prefix _).eq_of_length all |>.symm
  · rfl

theorem topLevelAt_append {c : Char} (delimits : Delimiter letterBeyond c) {domain : List Char} {dot : Nat}
    (inside : dot < domain.length) (rest : List Char) :
    topLevelAt letterBeyond (domain ++ c :: rest) dot = topLevelAt letterBeyond domain dot := by
  have letters : ((domain ++ c :: rest).drop (dot + 1)).takeWhile isAsciiLetter =
      (domain.drop (dot + 1)).takeWhile isAsciiLetter := by
    rw [List.drop_append_of_le_length inside, takeWhile_append_cons delimits.notLetter]
  have short : dot + 1 + ((domain.drop (dot + 1)).takeWhile isAsciiLetter).length ≤ domain.length := by
    have letters := (List.takeWhile_prefix isAsciiLetter (l := domain.drop (dot + 1))).length_le
    rw [List.length_drop] at letters
    omega
  simp only [topLevelAt, letters]
  generalize dot + 1 + ((domain.drop (dot + 1)).takeWhile isAsciiLetter).length = length at short
  rw [List.getElem?_append_left inside, List.drop_append_of_le_length short]
  cases behind : domain.drop length with
  | nil => simp [delimits.notWord]
  | cons d more => simp

theorem findSome_congr {A B : Type} {first second : A → Option B} {items : List A}
    (same : ∀ a ∈ items, first a = second a) : items.findSome? first = items.findSome? second := by
  induction items with
  | nil => rfl
  | cons a items inductionHypothesis =>
      rw [List.findSome?_cons, List.findSome?_cons, same a (List.mem_cons_self ..),
        inductionHypothesis fun b inside => same b (List.mem_cons_of_mem _ inside)]

theorem domainLength_append {c : Char} (delimits : Delimiter letterBeyond c) (domain rest : List Char) :
    domainLength letterBeyond (domain ++ c :: rest) = domainLength letterBeyond domain := by
  have same := takeWhile_append_cons delimits.notDomain domain rest
  have short := (List.takeWhile_prefix isDomain (l := domain)).length_le
  unfold domainLength
  rw [same]
  refine findSome_congr fun dot inside => topLevelAt_append delimits ?_ rest
  have bound := List.mem_range.mp (List.mem_reverse.mp (List.mem_of_mem_filter inside))
  omega

theorem domainLength_le {domain : List Char} {length : Nat} (found : domainLength letterBeyond domain = some length) :
    length ≤ domain.length := by
  obtain ⟨dot, -, found⟩ := List.exists_of_findSome?_eq_some found
  exact topLevelAt_le found

theorem email_spec {previous : Option Char} {text : List Char} {edit : Edit Char}
    (found : email letterBeyond previous text = some edit) :
    ∃ first rest domain length, text = first :: (rest ++ '@' :: domain) ∧ length ≤ domain.length ∧
      edit = ⟨[first], rest, "***".toList, '@' :: domain.take length⟩ := by
  cases text with
  | nil => cases found
  | cons first rest =>
      have whole := List.takeWhile_append_dropWhile (p := isLocal) (l := rest)
      simp only [email] at found
      split_ifs at found
      cases known : rest.dropWhile isLocal with
      | nil =>
          simp only [known] at found
          cases found
      | cons at' domain =>
          simp only [known] at found
          split_ifs at found with same
          obtain ⟨length, matched, rfl⟩ := Option.map_eq_some_iff.mp found
          rw [known, same] at whole
          exact ⟨first, rest.takeWhile isLocal, domain, length, by rw [whole], domainLength_le matched, rfl⟩

theorem isDomain_of_isAsciiLetter {c : Char} (letter : isAsciiLetter c) : isDomain c := by
  simp [isDomain, isAsciiAlphanumeric, letter]

/-- A matched domain consists of the characters of domains. -/
theorem domain_of_length {domain : List Char} {length : Nat} (found : domainLength letterBeyond domain = some length) :
    ∀ c ∈ domain.take length, isDomain c := by
  obtain ⟨dot, inside, matched⟩ := List.exists_of_findSome?_eq_some found
  have bound := List.mem_range.mp (List.mem_reverse.mp (List.mem_of_mem_filter inside))
  simp only [topLevelAt] at matched
  split_ifs at matched
  obtain rfl := Option.some.inj matched
  have front : domain.take (dot + 1) <+: domain.takeWhile isDomain := by
    have initial := List.takeWhile_prefix isDomain (l := domain)
    rw [List.prefix_iff_eq_take.mp initial, ← Nat.min_eq_left (show dot + 1 ≤ _ from bound), ← List.take_take]
    exact List.take_prefix _ _
  intro c member
  rw [List.take_add, List.mem_append] at member
  rcases member with early | late
  · exact List.mem_takeWhile_imp (front.subset early)
  · rw [← List.prefix_iff_eq_take.mp (List.takeWhile_prefix isAsciiLetter)] at late
    exact isDomain_of_isAsciiLetter (List.mem_takeWhile_imp late)

/-- The kept and the removed characters of an address belong to it. -/
theorem email_characters {previous : Option Char} {text : List Char} {edit : Edit Char}
    (found : email letterBeyond previous text = some edit) : ∃ first rest domain,
      edit = ⟨[first], rest, "***".toList, '@' :: domain⟩ ∧ isAsciiAlphanumeric first ∧ (∀ c ∈ rest, isLocal c) ∧
        ∀ c ∈ domain, isDomain c := by
  cases text with
  | nil => cases found
  | cons first rest =>
      simp only [email] at found
      split_ifs at found with starts
      cases known : rest.dropWhile isLocal with
      | nil =>
          simp only [known] at found
          cases found
      | cons at' domain =>
          simp only [known] at found
          split_ifs at found
          obtain ⟨length, matched, rfl⟩ := Option.map_eq_some_iff.mp found
          exact ⟨first, _, _, rfl, starts.1, fun _ => List.mem_takeWhile_imp,
            domain_of_length matched⟩

theorem email_sound : (email letterBeyond).Sound := by
  constructor
  · intro previous text edit found
    obtain ⟨first, rest, domain, length, -, -, rfl⟩ := email_spec found
    simp [Edit.source]
  · intro previous text edit found
    obtain ⟨first, rest, domain, length, rfl, -, rfl⟩ := email_spec found
    refine ⟨domain.drop length, ?_⟩
    simp [Edit.source]

theorem email_breaks {c : Char} (delimits : Delimiter letterBeyond c) : (email letterBeyond).Breaks c := by
  constructor
  · intro previous text more some'
    cases text with
    | nil => exact absurd rfl some'
    | cons first rest =>
        simp only [email, List.cons_append]
        congr 1
        cases known : rest.dropWhile isLocal with
        | nil =>
            have behind : (rest ++ c :: more).dropWhile isLocal = c :: more := by
              rw [List.dropWhile_append, known]
              exact List.dropWhile_cons_of_neg (by simp [delimits.notLocal])
            simp [behind, delimits.notAt]
        | cons at' domain =>
            have behind : (rest ++ c :: more).dropWhile isLocal = at' :: (domain ++ c :: more) := by
              rw [List.dropWhile_append, known]
              rfl
            have front := takeWhile_append_cons delimits.notLocal rest more
            simp only [behind, front]
            rw [domainLength_append delimits]
            split_ifs
            · refine Option.map_congr fun length found => ?_
              rw [List.take_append_of_le_length (domainLength_le found)]
            · rfl
  · intro previous more
    simp [email, delimits.notAlphanumeric]
  · intro text
    cases text with
    | nil => rfl
    | cons first rest => simp [email, delimits.notWord]

theorem email_cut {c : Char} (delimits : Delimiter letterBeyond c) (before behind : List Char) :
    (email letterBeyond).substitute (before ++ c :: behind) =
      (email letterBeyond).substitute before ++ c :: (email letterBeyond).substitute behind :=
  Matcher.substitute_break email_sound (email_breaks delimits) before behind

/-- The first character of a text survives the masking. -/
theorem email_head (letterBeyond : Char → Bool) (c : Char) (rest : List Char) : ∃ more, (email letterBeyond).substitute (c :: rest) = c :: more := by
  unfold Matcher.substitute
  cases found : email letterBeyond none (c :: rest) with
  | none => exact ⟨_, Matcher.substituteFrom_copy found⟩
  | some edit =>
      obtain ⟨first, rest, domain, length, whole, -, rfl⟩ := email_spec found
      obtain ⟨rfl, rfl⟩ := List.cons.inj whole
      exact ⟨_, Matcher.substituteFrom_edit found⟩

end Pxtly.Core.Redaction
