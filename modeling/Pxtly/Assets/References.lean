/-
This file gives the references of a freeze that the schema accepts and that the contract accepts as well.
-/

import Pxtly.Assets.Schemas
import Pxtly.Chaincode.Compliance

namespace Pxtly.Assets

open Foundation
open Chaincode (regulatoryRefPattern validateRegulatoryRef)

/-- A reference has an authority, a category, a year and a serial between dashes. -/
def joined (authority category year serial : List Char) : List Char :=
  authority ++ '-' :: (category ++ '-' :: (year ++ '-' :: serial))

def authority (regulatoryRef : String) : List Char := regulatoryRef.toList.takeWhile (· != '-')

def serial (regulatoryRef : String) : List Char := (regulatoryRef.toList.reverse.takeWhile (· != '-')).reverse

/-- The contract knows short authorities of letters, short serials and the digits of ASCII. -/
structure Conventional (regulatoryRef : String) : Prop where
  letters : ∀ c ∈ authority regulatoryRef, isUpperLetter c = true
  authorityShort : (authority regulatoryRef).length ≤ 6
  serialShort : (serial regulatoryRef).length ≤ 8
  ascii : ∀ c ∈ regulatoryRef.toList, unicodeDigit c = true → isAsciiDigit c = true

/-- These are the references that the schema accepts, part by part. -/
structure SchemaParts (first category year last : List Char) : Prop where
  ofAuthority : (Segment.between isUpperOrDigit 2 8).Admits first
  ofCategory : (Segment.between isUpperLetter 2 4).Admits category
  ofYear : (Segment.exactly unicodeDigit 4).Admits year
  ofSerial : (Segment.atLeast unicodeDigit 3).Admits last
  authorityWhole : '-' ∉ first
  categoryWhole : '-' ∉ category
  yearWhole : '-' ∉ year
  serialWhole : '-' ∉ last

theorem freezeRef_parts {text : List Char} (accepted : freezeRefPattern.accepts text = true) :
    ∃ first category year last, text = joined first category year last ∧ SchemaParts first category year last := by
  obtain ⟨first, _, rfl, authority, authorityWhole, rest⟩ := (Pattern.accepts_field (by decide) _ _).mp accepted
  obtain ⟨category, _, rfl, second, categoryWhole, rest⟩ := (Pattern.accepts_field (by decide) _ _).mp rest
  obtain ⟨year, last, rfl, third, yearWhole, rest⟩ := (Pattern.accepts_field (by decide) _ _).mp rest
  have serial := (Pattern.accepts_singleton _ _).mp rest
  exact ⟨first, category, year, last, rfl, authority, second, third, serial, authorityWhole, categoryWhole, yearWhole,
    Pattern.separator_notMem (by decide) serial⟩

section Joined

variable {category year : List Char} {regulatoryRef : String}

theorem authority_joined {text later : List Char} (absent : '-' ∉ text)
    (split : regulatoryRef.toList = joined text category year later) : authority regulatoryRef = text := by
  rw [authority, split]
  exact Pattern.takeWhile_field _ absent

theorem serial_joined {first text : List Char} (absent : '-' ∉ text)
    (split : regulatoryRef.toList = joined first category year text) : serial regulatoryRef = text := by
  have reversed : regulatoryRef.toList.reverse =
      text.reverse ++ '-' :: (year.reverse ++ '-' :: (category.reverse ++ '-' :: first.reverse)) := by
    rw [split, joined]
    simp
  rw [serial, reversed, Pattern.takeWhile_field _ (by simpa using absent), List.reverse_reverse]

end Joined

/-- The decimal digits of Unicode hold no capital letter. -/
theorem not_isUpperLetter_of_unicodeDigit {c : Char} (digit : unicodeDigit c = true) : isUpperLetter c = false := by
  by_contra letter
  have bounds : 65 ≤ c.toNat ∧ c.toNat ≤ 90 := by
    simp only [isUpperLetter, Bool.not_eq_false, Bool.and_eq_true, decide_eq_true_eq] at letter
    exact letter
  simp only [unicodeDigit, List.any_eq_true, Bool.and_eq_true, decide_eq_true_eq] at digit
  obtain ⟨first, member, least, most⟩ := digit
  have apart : ∀ start ∈ digitZeros, start + 9 < 65 ∨ 90 < start := by decide
  have := apart first member
  omega

theorem not_unicodeDigit_of_isUpperLetter {c : Char} (letter : isUpperLetter c = true) : unicodeDigit c = false := by
  by_contra digit
  rw [not_isUpperLetter_of_unicodeDigit (by simpa using digit)] at letter
  cases letter

theorem isUpperOrDigit_of_digit {c : Char} (digit : isAsciiDigit c = true) : isUpperOrDigit c = true := by
  simp [isUpperOrDigit, digit]

/-- Every digit of the parts is one of ASCII when the contract knows them. -/
theorem ascii_of_joined {first category year last : List Char} (parts : SchemaParts first category year last)
    (letters : ∀ c ∈ first, isUpperLetter c = true) (digits : ∀ c ∈ year, isAsciiDigit c = true)
    (ending : ∀ c ∈ last, isUpperOrDigit c = true) {c : Char} (member : c ∈ joined first category year last)
    (digit : unicodeDigit c = true) : isAsciiDigit c = true := by
  have letter (upper : isUpperLetter c = true) : isAsciiDigit c = true := by
    rw [not_unicodeDigit_of_isUpperLetter upper] at digit
    cases digit
  simp only [joined, List.mem_append, List.mem_cons] at member
  rcases member with inside | rfl | inside | rfl | inside | rfl | inside
  · exact letter (letters c inside)
  · revert digit
    decide
  · exact letter (parts.ofCategory.allowed c inside)
  · revert digit
    decide
  · exact digits c inside
  · revert digit
    decide
  · rcases Bool.or_eq_true_iff.mp (ending c inside) with upper | ascii
    · exact letter upper
    · exact ascii

/-- A schema-valid reference is accepted by the contract exactly when it is conventional. -/
theorem regulatoryRef_accepted_iff {regulatoryRef : String}
    (accepted : freezeRefPattern.matchString regulatoryRef = true) :
    regulatoryRefPattern.matchString regulatoryRef = true ↔ Conventional regulatoryRef := by
  obtain ⟨first, category, year, last, split, parts⟩ := freezeRef_parts accepted
  have named := authority_joined parts.authorityWhole split
  have numbered := serial_joined parts.serialWhole split
  rw [Pattern.matchString, split, regulatoryRefPattern, joined,
    Pattern.accepts_field_append (by decide) _ _ parts.authorityWhole,
    Pattern.accepts_field_append (by decide) _ _ parts.categoryWhole,
    Pattern.accepts_field_append (by decide) _ _ parts.yearWhole, Pattern.accepts_singleton]
  constructor
  · rintro ⟨letters, _, digits, ending⟩
    refine ⟨?_, ?_, ?_, ?_⟩
    · rw [named]
      exact letters.allowed
    · rw [named]
      exact letters.most 6 rfl
    · rw [numbered]
      exact ending.most 8 rfl
    · rw [split]
      exact fun c member => ascii_of_joined parts letters.allowed digits.allowed ending.allowed member
  · rintro ⟨letters, authorityShort, serialShort, ascii⟩
    rw [named] at letters authorityShort
    rw [numbered] at serialShort
    rw [split] at ascii
    refine ⟨⟨parts.ofAuthority.least, ?_, letters⟩, ⟨parts.ofCategory.least, ?_, ?_⟩,
      ⟨parts.ofYear.least, parts.ofYear.most, ?_⟩, ⟨parts.ofSerial.least, ?_, ?_⟩⟩
    · rintro most ⟨⟩
      exact authorityShort
    · rintro most ⟨⟩
      have := parts.ofCategory.most 4 rfl
      omega
    · intro c member
      show isUpperOrDigit c = true
      exact Bool.or_eq_true_iff.mpr (.inl (parts.ofCategory.allowed c member))
    · intro c member
      exact ascii c (by simp [joined, member]) (parts.ofYear.allowed c member)
    · rintro most ⟨⟩
      exact serialShort
    · intro c member
      exact isUpperOrDigit_of_digit (ascii c (by simp [joined, member]) (parts.ofSerial.allowed c member))

/-- The contract accepts the reference of a freeze request exactly when it is conventional. -/
theorem freeze_reference_accepted_iff (request : FreezeRequest) :
    validateRegulatoryRef request.regulatoryRef = .ok () ↔ Conventional request.regulatoryRef := by
  rw [Chaincode.validateRegulatoryRef_eq_ok, regulatoryRef_accepted_iff request.regulatoryRefMatches]

/-- The authority of this reference is the one that the documentation names. -/
def documentedFreeze : FreezeRequest where
  assetID := "RWA-BANK-BOND-2026-001"
  reason := "market abuse inquiry"
  regulatoryRef := "REG01-INV-2026-001"
  assetIDBounded := bondFreeze.assetIDBounded
  reasonBounded := bondFreeze.reasonBounded
  regulatoryRefShort := by decide
  regulatoryRefMatches := by decide +kernel

/-- The contract refuses the reference that its own documentation gives as an example. -/
theorem documented_reference_refused :
    ¬ ((∀ request : FreezeRequest, validateRegulatoryRef request.regulatoryRef = .ok ()) ∧
      ∀ regulatoryRef ∈ ["REG01-INV-2026-001", "ESMA-MICA-2026-042"],
        freezeRefPattern.matchString regulatoryRef = true ∧ validateRegulatoryRef regulatoryRef = .ok ()) := by
  rintro ⟨accepted, _⟩
  have refused : validateRegulatoryRef documentedFreeze.regulatoryRef ≠ .ok () := by
    rw [Ne, freeze_reference_accepted_iff]
    rintro ⟨letters, _⟩
    exact absurd (letters '0' (by decide)) (by decide)
  exact refused (accepted documentedFreeze)

end Pxtly.Assets
