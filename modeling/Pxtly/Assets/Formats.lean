/-
This file compares the formats of a tokenisation request with those of the client, the contract and the listener.
-/

import Pxtly.Assets.References
import Pxtly.Assets.Service
import Pxtly.FabricClient.Network

namespace Pxtly.Assets

open Foundation
open Chaincode (assetIDPattern validateAssetID validateISIN validateLEI validateCurrency supportedCurrencies convertFloat
  runesFrom)
open Fabric (isForbidden isControl shellCharacters sanitizeArguments)

/-- `^RWA-[A-Z]{2,12}-[A-Z]{2,6}-\d{4}-\d{3}$` -/
def eventAssetIDPattern : Pattern := [
  .literal 'R', .literal 'W', .literal 'A', .literal '-', .between isUpperLetter 2 12, .literal '-',
  .between isUpperLetter 2 6, .literal '-', .exactly unicodeDigit 4, .literal '-', .exactly unicodeDigit 3]

/-- The `$` of Python also stands before a line feed at the end. -/
def pythonMatch (pattern : Pattern) (text : String) : Bool :=
  pattern.accepts text.toList ||
    (text.toList.getLast? == some '\n' && pattern.accepts text.toList.dropLast)

/-- Every later layer accepts the formats of the request. -/
structure LaterLayersAccept (request : TokenizeRequest) : Prop where
  arguments : (sanitizeArguments (tokenizeCall request).arguments).isOk = true
  assetID : validateAssetID request.assetID = .ok ()
  isin : validateISIN request.isin = .ok ()
  issuerLEI : validateLEI request.issuerLEI = .ok ()
  currency : validateCurrency request.currency = .ok ()
  nominalValue : ∃ value, convertFloat request.nominalValue.str = .ok value ∧ ¬ value ≤ 0
  event : pythonMatch eventAssetIDPattern request.assetID = true

/-- The type of an asset stands between the second and the third dash of its ID. -/
def typeOf (assetID : String) : List Char :=
  (((assetID.toList.drop 4).dropWhile (· != '-')).drop 1).takeWhile (· != '-')

/-- The documented convention has at most six letters as the type, and the digits of ASCII. -/
structure ConventionalID (assetID : String) : Prop where
  letters : ∀ c ∈ typeOf assetID, isUpperLetter c = true
  short : (typeOf assetID).length ≤ 6
  ascii : ∀ c ∈ assetID.toList, unicodeDigit c = true → isAsciiDigit c = true

section Runes

theorem mem_runesFrom {offset : Nat} {text : List Char} {i : Nat} {c : Char} (member : (i, c) ∈ runesFrom offset text) :
    offset ≤ i ∧ c ∈ text := by
  induction text generalizing offset with
  | nil => cases member
  | cons first rest inductionHypothesis =>
      rcases List.mem_cons.mp member with same | later
      · cases same
        exact ⟨le_refl _, List.mem_cons_self⟩
      · obtain ⟨behind, inside⟩ := inductionHypothesis later
        exact ⟨by omega, List.mem_cons_of_mem _ inside⟩

theorem runesFrom_append (offset : Nat) (first later : List Char) (ascii : ∀ c ∈ first, c.utf8Size = 1) :
    runesFrom offset (first ++ later) = runesFrom offset first ++ runesFrom (offset + first.length) later := by
  induction first generalizing offset with
  | nil => rfl
  | cons c rest inductionHypothesis =>
      have single := ascii c List.mem_cons_self
      have behind := inductionHypothesis (offset + 1) fun d member => ascii d (List.mem_cons_of_mem _ member)
      simp only [List.cons_append, runesFrom, single, behind, List.length_cons]
      congr 3
      omega

theorem utf8ByteSize_ascii {text : String} (ascii : ∀ c ∈ text.toList, c.utf8Size = 1) :
    text.utf8ByteSize = text.toList.length := by
  conv => left; rw [← String.ofList_toList (s := text)]
  rw [String.utf8ByteSize_ofList]
  generalize text.toList = chars at ascii
  induction chars with
  | nil => rfl
  | cons c rest inductionHypothesis =>
      rw [String.utf8Len_cons, inductionHypothesis fun d member => ascii d (List.mem_cons_of_mem _ member),
        ascii c List.mem_cons_self, List.length_cons]

theorem toNat_isUpperOrDigit {c : Char} (allowed : isUpperOrDigit c = true) : 48 ≤ c.toNat ∧ c.toNat ≤ 90 := by
  simp only [isUpperOrDigit, isUpperLetter, isAsciiDigit, Bool.or_eq_true, Bool.and_eq_true, decide_eq_true_eq,
    Char.le_def, UInt32.le_iff_toNat_le] at allowed
  unfold Char.toNat
  have bounds : 'A'.val.toNat = 65 ∧ 'Z'.val.toNat = 90 ∧ '0'.val.toNat = 48 ∧ '9'.val.toNat = 57 := by decide
  omega

theorem utf8Size_isUpperOrDigit {c : Char} (allowed : isUpperOrDigit c = true) : c.utf8Size = 1 := by
  have small := (toNat_isUpperOrDigit allowed).2
  have ascii : c.val ≤ 0x7f := by
    rw [UInt32.le_iff_toNat_le]
    show c.toNat ≤ 127
    omega
  simp [Char.utf8Size, ascii]

/-- A loop of checks succeeds when each of them does. -/
theorem forM_eq_ok {A : Type} {check : A → Except GoError Unit} {values : List A}
    (checked : ∀ value ∈ values, check value = .ok ()) : values.forM check = .ok () := by
  induction values with
  | nil => rfl
  | cons value rest inductionHypothesis =>
      show (check value >>= fun _ => rest.forM check) = .ok ()
      rw [checked value List.mem_cons_self, ok_bind]
      exact inductionHypothesis fun other member => checked other (List.mem_cons_of_mem _ member)

end Runes

section Identifiers

/-- The contract accepts every ISIN of the schema. -/
theorem validateISIN_of_matches {isin : String} (accepted : isinPattern.matchString isin = true) :
    validateISIN isin = .ok () := by
  obtain ⟨first, later, split, letters, rest⟩ := (Pattern.accepts_cons _ _ _).mp accepted
  have characters := (Pattern.accepts_singleton _ _).mp rest
  have capital : ∀ c ∈ first, isUpperLetter c = true := letters.allowed
  have upper : ∀ c ∈ first, isUpperOrDigit c = true := fun c member =>
    Bool.or_eq_true_iff.mpr (.inl (capital c member))
  have allowed : ∀ c ∈ later, isUpperOrDigit c = true := characters.allowed
  have two : first.length = 2 := Nat.le_antisymm (letters.most 2 rfl) letters.least
  have ten : later.length = 10 := Nat.le_antisymm (characters.most 10 rfl) characters.least
  have ascii : ∀ c ∈ isin.toList, c.utf8Size = 1 := by
    intro c member
    rw [split, List.mem_append] at member
    exact utf8Size_isUpperOrDigit (member.elim (upper c) (allowed c))
  have bytes : isin.utf8ByteSize = 12 := by
    rw [utf8ByteSize_ascii ascii, split, List.length_append, two, ten]
  rw [validateISIN, bytes]
  refine forM_eq_ok ?_
  rintro ⟨i, c⟩ member
  rw [split, runesFrom_append _ _ _ fun d inside => utf8Size_isUpperOrDigit (upper d inside), two,
    List.mem_append] at member
  rcases member with inside | inside
  · have found := (mem_runesFrom inside).2
    simp [capital c found, upper c found, failWhen]
  · obtain ⟨behind, found⟩ := mem_runesFrom inside
    have late : ¬ i < 2 := by omega
    simp [late, allowed c found]

/-- The contract accepts every LEI of the schema. -/
theorem validateLEI_of_matches {lei : String} (accepted : leiPattern.matchString lei = true) :
    validateLEI lei = .ok () := by
  have characters := (Pattern.accepts_singleton _ _).mp accepted
  have allowed : ∀ c ∈ lei.toList, isUpperOrDigit c = true := characters.allowed
  have ascii : ∀ c ∈ lei.toList, c.utf8Size = 1 := fun c member => utf8Size_isUpperOrDigit (allowed c member)
  have twenty : lei.toList.length = 20 := Nat.le_antisymm (characters.most 20 rfl) characters.least
  rw [validateLEI, utf8ByteSize_ascii ascii, twenty]
  refine forM_eq_ok ?_
  rintro ⟨i, c⟩ member
  simp [allowed c (mem_runesFrom member).2]

/-- These are the asset IDs of the schema, part by part. -/
structure IDParts (country kind year last : List Char) : Prop where
  ofCountry : (Segment.between isUpperLetter 2 12).Admits country
  ofKind : (Segment.between isUpperOrDigit 2 8).Admits kind
  ofYear : (Segment.exactly unicodeDigit 4).Admits year
  ofSerial : (Segment.exactly unicodeDigit 3).Admits last
  countryWhole : '-' ∉ country
  kindWhole : '-' ∉ kind
  yearWhole : '-' ∉ year

def tokenPrefix (rest : List Char) : List Char := 'R' :: 'W' :: 'A' :: '-' :: rest

theorem accepts_tokenPrefix (rest : Pattern) (text : List Char) :
    Pattern.accepts (.literal 'R' :: .literal 'W' :: .literal 'A' :: .literal '-' :: rest) text = true ↔
      ∃ later, text = tokenPrefix later ∧ rest.accepts later = true := by
  simp only [Pattern.accepts_literal]
  constructor
  · rintro ⟨_, rfl, _, rfl, _, rfl, later, rfl, accepted⟩
    exact ⟨later, rfl, accepted⟩
  · rintro ⟨later, rfl, accepted⟩
    exact ⟨_, rfl, _, rfl, _, rfl, later, rfl, accepted⟩

theorem tokenizeAssetID_parts {text : List Char} (accepted : tokenizeAssetIDPattern.accepts text = true) :
    ∃ country kind year last, text = tokenPrefix (joined country kind year last) ∧ IDParts country kind year last := by
  obtain ⟨_, rfl, rest⟩ := (accepts_tokenPrefix _ _).mp accepted
  obtain ⟨country, _, rfl, first, countryWhole, rest⟩ := (Pattern.accepts_field (by decide) _ _).mp rest
  obtain ⟨kind, _, rfl, second, kindWhole, rest⟩ := (Pattern.accepts_field (by decide) _ _).mp rest
  obtain ⟨year, last, rfl, third, yearWhole, rest⟩ := (Pattern.accepts_field (by decide) _ _).mp rest
  exact ⟨country, kind, year, last, rfl, first, second, third, (Pattern.accepts_singleton _ _).mp rest, countryWhole,
    kindWhole, yearWhole⟩

theorem typeOf_joined {assetID : String} {country kind year last : List Char}
    (parts : IDParts country kind year last) (split : assetID.toList = tokenPrefix (joined country kind year last)) :
    typeOf assetID = kind := by
  have others : ∀ c ∈ country, (c != '-') = true := by
    simpa using fun c member => ne_of_mem_of_not_mem member parts.countryWhole
  have behind : (assetID.toList.drop 4).dropWhile (· != '-') = '-' :: (kind ++ '-' :: (year ++ '-' :: last)) := by
    rw [split]
    show (country ++ '-' :: (kind ++ '-' :: (year ++ '-' :: last))).dropWhile (· != '-') = _
    rw [List.dropWhile_append_of_pos others, List.dropWhile_cons_of_neg (by simp)]
  rw [typeOf, behind]
  exact Pattern.takeWhile_field _ parts.kindWhole

/-- The contract and the listener accept a schema-valid asset ID of the documented convention. -/
theorem assetID_accepted {assetID : String} (accepted : tokenizeAssetIDPattern.matchString assetID = true)
    (conventional : ConventionalID assetID) :
    validateAssetID assetID = .ok () ∧ pythonMatch eventAssetIDPattern assetID = true := by
  obtain ⟨country, kind, year, last, split, parts⟩ := tokenizeAssetID_parts accepted
  obtain ⟨letters, short, ascii⟩ := conventional
  rw [typeOf_joined parts split] at letters short
  rw [split] at ascii
  have kindAdmitted : (Segment.between isUpperLetter 2 6).Admits kind := by
    refine ⟨parts.ofKind.least, ?_, letters⟩
    rintro most ⟨⟩
    exact short
  have yearAdmitted : (Segment.exactly isAsciiDigit 4).Admits year :=
    ⟨parts.ofYear.least, parts.ofYear.most, fun c member =>
      ascii c (by simp [tokenPrefix, joined, member]) (parts.ofYear.allowed c member)⟩
  have serialAdmitted : (Segment.exactly isAsciiDigit 3).Admits last :=
    ⟨parts.ofSerial.least, parts.ofSerial.most, fun c member =>
      ascii c (by simp [tokenPrefix, joined, member]) (parts.ofSerial.allowed c member)⟩
  constructor
  · rw [Chaincode.validateAssetID_eq_ok, Pattern.matchString, split]
    refine (accepts_tokenPrefix _ _).mpr ⟨_, rfl, ?_⟩
    rw [joined, Pattern.accepts_field_append (by decide) _ _ parts.countryWhole,
      Pattern.accepts_field_append (by decide) _ _ parts.kindWhole,
      Pattern.accepts_field_append (by decide) _ _ parts.yearWhole, Pattern.accepts_singleton]
    exact ⟨parts.ofCountry, kindAdmitted, yearAdmitted, serialAdmitted⟩
  · rw [pythonMatch, Bool.or_eq_true]
    left
    rw [split]
    refine (accepts_tokenPrefix _ _).mpr ⟨_, rfl, ?_⟩
    rw [joined, Pattern.accepts_field_append (by decide) _ _ parts.countryWhole,
      Pattern.accepts_field_append (by decide) _ _ parts.kindWhole,
      Pattern.accepts_field_append (by decide) _ _ parts.yearWhole, Pattern.accepts_singleton]
    exact ⟨parts.ofCountry, kindAdmitted, parts.ofYear, parts.ofSerial⟩

end Identifiers

section Sanitized

/-- A text of harmless characters with at most one point is not forbidden. -/
theorem not_isForbidden {text : String} (harmless : ∀ c ∈ text.toList, isControl c = false ∧ c ∉ shellCharacters)
    (points : text.toList.count '.' ≤ 1) : isForbidden text = false := by
  rw [isForbidden, Bool.or_eq_false_iff, List.any_eq_false, decide_eq_false_iff_not]
  constructor
  · intro c member
    obtain ⟨visible, plain⟩ := harmless c member
    simp [visible, plain]
  · intro doubled
    have := doubled.count_le '.'
    have two : List.count '.' ['.', '.'] = 2 := by decide
    omega

/-- Capital letters, digits, signs and low lines make words. -/
def isWord (c : Char) : Bool := isUpperOrDigit c || unicodeDigit c || c ∈ ['-', '+', '_']

theorem isWord_of_upperOrDigit {c : Char} (allowed : isUpperOrDigit c = true) : isWord c = true := by
  simp [isWord, allowed]

theorem isWord_of_letter {c : Char} (letter : isUpperLetter c = true) : isWord c = true :=
  isWord_of_upperOrDigit (Bool.or_eq_true_iff.mpr (.inl letter))

theorem isWord_of_unicodeDigit {c : Char} (digit : unicodeDigit c = true) : isWord c = true := by
  simp [isWord, digit]

theorem isWord_of_isDigit {c : Char} (digit : c.isDigit = true) : isWord c = true := by
  have ascii : isAsciiDigit c = true := by
    simpa [Char.isDigit, isAsciiDigit, Char.le_def] using digit
  exact isWord_of_upperOrDigit (isUpperOrDigit_of_digit ascii)

theorem visible_of_unicodeDigit {c : Char} (digit : unicodeDigit c = true) : 0x1f < c.toNat ∧ c.toNat ≠ 0x7f := by
  simp only [unicodeDigit, List.any_eq_true, Bool.and_eq_true, decide_eq_true_eq] at digit
  obtain ⟨first, member, least, most⟩ := digit
  have apart : ∀ start ∈ digitZeros, 0x1f < start ∧ (start + 9 < 0x7f ∨ 0x7f < start) := by decide
  have := apart first member
  omega

theorem harmless_of_isWord {c : Char} (word : isWord c = true) : isControl c = false ∧ c ∉ shellCharacters := by
  constructor
  · have visible : 0x1f < c.toNat ∧ c.toNat ≠ 0x7f := by
      rw [isWord, Bool.or_eq_true, Bool.or_eq_true, decide_eq_true_eq] at word
      rcases word with (allowed | digit) | sign
      · have := toNat_isUpperOrDigit allowed
        omega
      · exact visible_of_unicodeDigit digit
      · have signs : (['-', '+', '_'].all fun d => decide (0x1f < d.toNat ∧ d.toNat ≠ 0x7f)) = true := by decide
        exact of_decide_eq_true (List.all_eq_true.mp signs c sign)
    simp only [isControl, Bool.or_eq_false_iff, decide_eq_false_iff_not, beq_eq_false_iff_ne]
    omega
  · intro member
    have refused : (shellCharacters.all fun d => !isWord d) = true := by decide
    have notWord := List.all_eq_true.mp refused c member
    rw [word] at notWord
    cases notWord

theorem count_point_words {text : List Char} (words : ∀ c ∈ text, isWord c = true) : text.count '.' = 0 := by
  rw [List.count_eq_zero]
  intro member
  have refused : isWord '.' = false := by decide
  rw [words '.' member] at refused
  cases refused

/-- A text of words is not forbidden. -/
theorem not_isForbidden_of_words {text : String} (words : ∀ c ∈ text.toList, isWord c = true) :
    isForbidden text = false :=
  not_isForbidden (fun c member => harmless_of_isWord (words c member)) (by simp [count_point_words words])

theorem words_assetID {assetID : String} (accepted : tokenizeAssetIDPattern.matchString assetID = true) :
    ∀ c ∈ assetID.toList, isWord c = true := by
  obtain ⟨country, kind, year, last, split, parts⟩ := tokenizeAssetID_parts accepted
  intro c member
  simp only [split, tokenPrefix, joined, List.mem_cons, List.mem_append] at member
  rcases member with rfl | rfl | rfl | rfl | inside | rfl | inside | rfl | inside | rfl | inside
  all_goals first | decide | skip
  · exact isWord_of_letter (parts.ofCountry.allowed c inside)
  · exact isWord_of_upperOrDigit (parts.ofKind.allowed c inside)
  · exact isWord_of_unicodeDigit (parts.ofYear.allowed c inside)
  · exact isWord_of_unicodeDigit (parts.ofSerial.allowed c inside)

theorem words_isin {isin : String} (accepted : isinPattern.matchString isin = true) :
    ∀ c ∈ isin.toList, isWord c = true := by
  obtain ⟨first, later, split, letters, rest⟩ := (Pattern.accepts_cons _ _ _).mp accepted
  have characters := (Pattern.accepts_singleton _ _).mp rest
  intro c member
  rw [split, List.mem_append] at member
  rcases member with inside | inside
  · exact isWord_of_letter (letters.allowed c inside)
  · exact isWord_of_upperOrDigit (characters.allowed c inside)

theorem words_isoformat (date : Date) : ∀ c ∈ date.isoformat.toList, isWord c = true := by
  intro c member
  rw [Date.isoformat, String.toList_ofList, List.mem_append, List.mem_append, List.mem_cons, List.mem_cons] at member
  rcases member with (inside | rfl | inside) | rfl | inside
  · exact isWord_of_isDigit (padded_isDigit _ _ c inside)
  · decide
  · exact isWord_of_isDigit (padded_isDigit _ _ c inside)
  · decide
  · exact isWord_of_isDigit (padded_isDigit _ _ c inside)

theorem words_powerText (power : Option Int) : ∀ c ∈ powerText power, isWord c = true := by
  intro c member
  cases power with
  | none => cases member
  | some power =>
      rcases List.mem_cons.mp member with rfl | inside
      · decide
      · rcases List.mem_cons.mp inside with rfl | later
        · split <;> decide
        · exact isWord_of_isDigit (decimalDigits_isDigit _ c later)

/-- A printed decimal has words around at most one point. -/
theorem not_isForbidden_str (decimal : PositiveDecimal) : isForbidden decimal.str = false := by
  obtain ⟨whole, fraction, _, _, power, printed, _, _, wholeDigits, fractionDigits, _⟩ := decimal.str_prints
  have wholeWords : ∀ c ∈ whole, isWord c = true := fun c member => isWord_of_isDigit (wholeDigits c member)
  have fractionWords : ∀ c ∈ fraction, isWord c = true := fun c member => isWord_of_isDigit (fractionDigits c member)
  have point : isControl '.' = false ∧ '.' ∉ shellCharacters := by decide
  rw [printed]
  apply not_isForbidden
  · intro c member
    rw [String.toList_ofList, scientific, List.mem_append, List.mem_append] at member
    rcases member with (inside | inside) | inside
    · exact harmless_of_isWord (wholeWords c inside)
    · split at inside
      · cases inside
      · rcases List.mem_cons.mp inside with rfl | later
        · exact point
        · exact harmless_of_isWord (fractionWords c later)
    · exact harmless_of_isWord (words_powerText power c inside)
  · rw [String.toList_ofList, scientific, List.count_append, List.count_append, count_point_words wholeWords,
      count_point_words (words_powerText power)]
    split
    · simp
    · rw [List.count_cons_self, count_point_words fractionWords]

/-- The client forbids a tokenisation exactly for one of its free texts. -/
theorem sanitized_iff (request : TokenizeRequest) :
    (sanitizeArguments (tokenizeCall request).arguments).isOk = true ↔
      isForbidden request.assetName = false ∧ isForbidden request.justification = false := by
  have assetID := not_isForbidden_of_words (words_assetID request.assetIDMatches)
  have isin := not_isForbidden_of_words (words_isin request.isinMatches)
  have issuerLEI : isForbidden request.issuerLEI = false := not_isForbidden_of_words fun c member =>
    isWord_of_upperOrDigit (((Pattern.accepts_singleton _ _).mp request.issuerLEIMatches).allowed c member)
  have currency : isForbidden request.currency = false := not_isForbidden_of_words fun c member =>
    isWord_of_letter (((Pattern.accepts_singleton _ _).mp request.currencyMatches).allowed c member)
  have listed : ∀ assetType ∈ assetTypes, isForbidden assetType = false := by decide
  have assetType := listed request.assetType request.assetTypeListed
  have issuanceDate := not_isForbidden_of_words (words_isoformat request.issuanceDate)
  rw [isOk_iff]
  constructor
  · rintro ⟨_, sanitized⟩
    have clean := (Fabric.sanitizeArguments_eq_ok _).mp sanitized
    exact ⟨clean _ (by simp [tokenizeCall]), clean _ (by simp [tokenizeCall])⟩
  · rintro ⟨assetName, justification⟩
    refine ⟨(), (Fabric.sanitizeArguments_eq_ok _).mpr ?_⟩
    simp [tokenizeCall, assetID, isin, assetType, assetName, issuerLEI, not_isForbidden_str, currency, issuanceDate,
      justification]

end Sanitized

theorem nominalValue_accepted_iff (decimal : PositiveDecimal) :
    (∃ value, convertFloat decimal.str = .ok value ∧ ¬ value ≤ 0) ↔
      decimal.toFloat.isFinite = true ∧ ¬ decimal.toFloat ≤ 0 := by
  simp only [Chaincode.convertFloat_eq_ok, decimal.parseFloat_str]
  cases finite : decimal.toFloat.isFinite with
  | true => simp
  | false => simp

/-- A request with a conventional asset ID is accepted by every later layer exactly when its currency is supported, its
free texts are clean, and its nominal value is a positive float. -/
theorem tokenize_formats_accepted_iff (request : TokenizeRequest) (conventional : ConventionalID request.assetID) :
    LaterLayersAccept request ↔
      request.currency ∈ supportedCurrencies ∧ isForbidden request.assetName = false ∧
        isForbidden request.justification = false ∧ request.nominalValue.toFloat.isFinite = true ∧
        ¬ request.nominalValue.toFloat ≤ 0 := by
  obtain ⟨known, heard⟩ := assetID_accepted request.assetIDMatches conventional
  have currency : validateCurrency request.currency = .ok () ↔ request.currency ∈ supportedCurrencies := by
    simp [validateCurrency]
  constructor
  · rintro ⟨sanitized, _, _, _, supported, positive, _⟩
    obtain ⟨assetName, justification⟩ := (sanitized_iff request).mp sanitized
    exact ⟨currency.mp supported, assetName, justification, (nominalValue_accepted_iff _).mp positive⟩
  · rintro ⟨supported, assetName, justification, positive⟩
    exact ⟨(sanitized_iff request).mpr ⟨assetName, justification⟩, known, validateISIN_of_matches request.isinMatches,
      validateLEI_of_matches request.issuerLEIMatches, currency.mpr supported,
      (nominalValue_accepted_iff _).mpr positive, heard⟩

def bondTokenize : TokenizeRequest where
  assetID := "RWA-BANK-BOND-2026-001"
  isin := "FR0000123456"
  assetType := "OBLIGATION"
  assetName := "Bank bond"
  issuerLEI := "969500T3MBS4SQAMHJ45"
  nominalValue := ⟨120, 0, bondTransfer.price.positive⟩
  currency := "EUR"
  issuanceDate := ⟨2026, 5, 1, by decide, by decide⟩
  justification := "first emission"
  assetIDMatches := by decide +kernel
  isinBounded := by decide
  isinMatches := by decide +kernel
  assetTypeListed := by decide
  assetNameBounded := by decide
  issuerLEIBounded := by decide
  issuerLEIMatches := by decide +kernel
  currencyBounded := by decide
  currencyMatches := by decide +kernel
  issuanceYear := by decide
  justificationBounded := by decide

theorem bondTokenize_conventional : ConventionalID bondTokenize.assetID where
  letters := List.all_eq_true.mp (by decide)
  short := by decide
  ascii := by
    have digits : (bondTokenize.assetID.toList.all fun c =>
        decide (unicodeDigit c = true → isAsciiDigit c = true)) = true := by decide
    exact fun c member => of_decide_eq_true (List.all_eq_true.mp digits c member)

theorem bondTokenize_accepted_iff :
    LaterLayersAccept bondTokenize ↔
      bondTokenize.currency ∈ supportedCurrencies ∧ isForbidden bondTokenize.assetName = false ∧
        isForbidden bondTokenize.justification = false ∧ bondTokenize.nominalValue.toFloat.isFinite = true ∧
        ¬ bondTokenize.nominalValue.toFloat ≤ 0 :=
  tokenize_formats_accepted_iff bondTokenize bondTokenize_conventional

/-- The schema accepts these bonds in Canadian dollars and with an ampersand in the name. -/
def canadianBond : TokenizeRequest := { bondTokenize with
  currency := "CAD"
  currencyBounded := by decide
  currencyMatches := by decide +kernel }

def ampersandBond : TokenizeRequest := { bondTokenize with
  assetName := "Smith & Sons bond"
  assetNameBounded := by decide }

/-- The contract refuses one of the bonds and the client the other one. -/
theorem tokenize_formats_disagree :
    validateCurrency canadianBond.currency ≠ .ok () ∧
      (sanitizeArguments (tokenizeCall ampersandBond).arguments).isOk = false ∧
      ¬ ∀ request, LaterLayersAccept request := by
  have unsupported : validateCurrency canadianBond.currency ≠ .ok () := by decide
  refine ⟨unsupported, ?_, fun accepted => unsupported (accepted canadianBond).currency⟩
  rw [← Bool.not_eq_true, sanitized_iff]
  have forbidden : isForbidden ampersandBond.assetName = true := by decide
  simp [forbidden]

end Pxtly.Assets
