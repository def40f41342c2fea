/-
This file gives anchored text patterns and the comparison of texts that ignores case.
-/

import Mathlib.Data.List.Basic
import Mathlib.Data.String.Basic
import Mathlib.Tactic.Ring

namespace Pxtly.Foundation

/-- A segment accepts between `least` and `most` characters of one class. -/
structure Segment where
  allowed : Char → Bool
  least : Nat
  most : Option Nat

/-- A pattern between `^` and `$` is a sequence of segments. -/
abbrev Pattern := List Segment

def Segment.literal (c : Char) : Segment := ⟨(· == c), 1, some 1⟩

def Segment.between (allowed : Char → Bool) (least most : Nat) : Segment :=
  ⟨allowed, least, some most⟩

def Segment.exactly (allowed : Char → Bool) (count : Nat) : Segment :=
  ⟨allowed, count, some count⟩

def Segment.atLeast (allowed : Char → Bool) (least : Nat) : Segment := ⟨allowed, least, none⟩

/-- The decimal digits of Unicode come in runs of ten, and each run starts with its zero. -/
def digitZeros : List Nat := [
  0x30, 0x660, 0x6f0, 0x7c0, 0x966, 0x9e6, 0xa66, 0xae6, 0xb66, 0xbe6, 0xc66, 0xce6, 0xd66, 0xde6,
  0xe50, 0xed0, 0xf20, 0x1040, 0x1090, 0x17e0, 0x1810, 0x1946, 0x19d0, 0x1a80, 0x1a90, 0x1b50, 0x1bb0,
  0x1c40, 0x1c50, 0xa620, 0xa8d0, 0xa900, 0xa9d0, 0xa9f0, 0xaa50, 0xabf0, 0xff10, 0x104a0, 0x10d30,
  0x11066, 0x110f0, 0x11136, 0x111d0, 0x112f0, 0x11450, 0x114d0, 0x11650, 0x116c0, 0x11730, 0x118e0,
  0x11950, 0x11c50, 0x11d50, 0x11da0, 0x16a60, 0x16ac0, 0x16b50, 0x1d7ce, 0x1d7d8, 0x1d7e2, 0x1d7ec,
  0x1d7f6, 0x1e140, 0x1e2f0, 0x1e950, 0x1fbf0]

/-- The class `\d` of a pattern holds every decimal digit of Unicode. -/
def unicodeDigit (c : Char) : Bool := digitZeros.any fun first => first ≤ c.toNat && c.toNat < first + 10

def isUpperLetter (c : Char) : Bool := 'A' ≤ c && c ≤ 'Z'
def isAsciiDigit (c : Char) : Bool := '0' ≤ c && c ≤ '9'
def isUpperOrDigit (c : Char) : Bool := isUpperLetter c || isAsciiDigit c

/-- A segment may take the first `count` characters of a text. -/
def Segment.takes (segment : Segment) (count : Nat) (text : List Char) : Bool :=
  segment.least ≤ count && segment.most.all (count ≤ ·) && (text.take count).all segment.allowed

/-- The search tries every length that the first segment may take. -/
def Pattern.accepts : Pattern → List Char → Bool
  | [], text => text.isEmpty
  | segment :: rest, text => (List.range (text.length + 1)).any fun count =>
      segment.takes count text && Pattern.accepts rest (text.drop count)

def Pattern.matchString (pattern : Pattern) (text : String) : Bool := pattern.accepts text.toList

/-- A pattern that starts with a nonempty segment refuses the empty text. -/
theorem Pattern.accepts_nil (segment : Segment) (rest : Pattern) (nonempty : 0 < segment.least) :
    Pattern.accepts (segment :: rest) [] = false := by
  have refused : ¬ segment.least ≤ 0 := by omega
  simp [Pattern.accepts, Segment.takes, refused]

theorem Pattern.ne_empty_of_matchString {segment : Segment} {rest : Pattern} {text : String}
    (nonempty : 0 < segment.least) (accepted : Pattern.matchString (segment :: rest) text = true) :
    text ≠ "" := by
  rintro rfl
  have refused := Pattern.accepts_nil segment rest nonempty
  simp only [Pattern.matchString, String.toList_empty] at accepted
  rw [refused] at accepted
  cases accepted

/-- A segment admits a run of its characters whose length is within its bounds. -/
structure Segment.Admits (segment : Segment) (run : List Char) : Prop where
  least : segment.least ≤ run.length
  most : ∀ most ∈ segment.most, run.length ≤ most
  allowed : ∀ c ∈ run, segment.allowed c = true

theorem Segment.takes_iff (segment : Segment) (count : Nat) (text : List Char) (short : count ≤ text.length) :
    segment.takes count text = true ↔ segment.Admits (text.take count) := by
  have length : (text.take count).length = count := by simp [short]
  rw [takes, Bool.and_eq_true, Bool.and_eq_true, decide_eq_true_eq, List.all_eq_true, Option.all_eq_true]
  constructor
  · rintro ⟨⟨least, most⟩, allowed⟩
    exact ⟨by rwa [length], fun bound given => by simpa [length] using most bound given, allowed⟩
  · rintro ⟨least, most, allowed⟩
    rw [length] at least
    exact ⟨⟨least, fun bound given => by simpa [length] using most bound given⟩, allowed⟩

namespace Pattern

/-- A pattern accepts a text that its first segment and the rest of it share. -/
theorem accepts_cons (segment : Segment) (rest : Pattern) (text : List Char) :
    Pattern.accepts (segment :: rest) text = true ↔
      ∃ run later, text = run ++ later ∧ segment.Admits run ∧ rest.accepts later = true := by
  simp only [accepts, List.any_eq_true, List.mem_range, Bool.and_eq_true, Nat.lt_succ_iff]
  constructor
  · rintro ⟨count, short, taken, accepted⟩
    exact ⟨_, _, (List.take_append_drop count text).symm, (segment.takes_iff count text short).mp taken, accepted⟩
  · rintro ⟨run, later, rfl, admitted, accepted⟩
    have short : run.length ≤ (run ++ later).length := by simp
    refine ⟨run.length, short, (segment.takes_iff _ _ short).mpr ?_, ?_⟩
    · rwa [List.take_left]
    · rwa [List.drop_left]

theorem accepts_singleton (segment : Segment) (text : List Char) :
    Pattern.accepts [segment] text = true ↔ segment.Admits text := by
  rw [accepts_cons]
  constructor
  · rintro ⟨run, later, rfl, admitted, accepted⟩
    rw [accepts, List.isEmpty_iff] at accepted
    rwa [accepted, List.append_nil]
  · intro admitted
    exact ⟨text, [], (List.append_nil text).symm, admitted, rfl⟩

theorem admits_literal (c : Char) (run : List Char) : (Segment.literal c).Admits run ↔ run = [c] := by
  constructor
  · rintro ⟨least, most, allowed⟩
    obtain ⟨first, rfl⟩ := List.length_eq_one_iff.mp (Nat.le_antisymm (most 1 rfl) least)
    have same : first = c := by simpa [Segment.literal] using allowed first List.mem_cons_self
    rw [same]
  · rintro rfl
    exact ⟨le_refl _, fun most given => by simp_all [Segment.literal], by simp [Segment.literal]⟩

theorem accepts_literal (c : Char) (rest : Pattern) (text : List Char) :
    Pattern.accepts (.literal c :: rest) text = true ↔ ∃ later, text = c :: later ∧ rest.accepts later = true := by
  rw [accepts_cons]
  constructor
  · rintro ⟨run, later, rfl, admitted, accepted⟩
    rw [(admits_literal c run).mp admitted]
    exact ⟨later, rfl, accepted⟩
  · rintro ⟨later, rfl, accepted⟩
    exact ⟨[c], later, rfl, (admits_literal c [c]).mpr rfl, accepted⟩

/-- A field is the part of a text before its first separator. -/
theorem takeWhile_field {separator : Char} {run : List Char} (later : List Char) (absent : separator ∉ run) :
    (run ++ separator :: later).takeWhile (· != separator) = run := by
  have others : ∀ c ∈ run, (c != separator) = true := by
    simpa using fun c member => ne_of_mem_of_not_mem member absent
  rw [List.takeWhile_append_of_pos others, List.takeWhile_cons_of_neg (by simp), List.append_nil]

/-- Two texts that are cut at their first separators agree on both sides of them. -/
theorem field_inj {separator : Char} {first second firstRest secondRest : List Char} (firstPlain : separator ∉ first)
    (secondPlain : separator ∉ second) (same : first ++ separator :: firstRest = second ++ separator :: secondRest) :
    first = second ∧ firstRest = secondRest := by
  have fields := congrArg (List.takeWhile (· != separator)) same
  rw [takeWhile_field _ firstPlain, takeWhile_field _ secondPlain] at fields
  subst fields
  exact ⟨rfl, (List.cons.inj (List.append_cancel_left same)).2⟩

section Fields

variable {segment : Segment} {separator : Char}

/-- A run of a segment holds no separator that the segment excludes. -/
theorem separator_notMem (excluded : segment.allowed separator = false) {run : List Char}
    (admitted : segment.Admits run) : separator ∉ run := by
  intro member
  have allowed := admitted.allowed separator member
  rw [excluded] at allowed
  cases allowed

/-- A text is cut at its separator when the segment before it excludes the separator. -/
theorem accepts_field (excluded : segment.allowed separator = false) (rest : Pattern) (text : List Char) :
    Pattern.accepts (segment :: .literal separator :: rest) text = true ↔
      ∃ run later, text = run ++ separator :: later ∧ segment.Admits run ∧ separator ∉ run ∧
        rest.accepts later = true := by
  rw [accepts_cons]
  constructor
  · rintro ⟨run, _, rfl, admitted, accepted⟩
    obtain ⟨later, rfl, behind⟩ := (accepts_literal _ _ _).mp accepted
    exact ⟨run, later, rfl, admitted, separator_notMem excluded admitted, behind⟩
  · rintro ⟨run, later, rfl, admitted, _, accepted⟩
    exact ⟨run, _, rfl, admitted, (accepts_literal _ _ _).mpr ⟨later, rfl, accepted⟩⟩

/-- A text that is cut at its first separator is accepted part by part. -/
theorem accepts_field_append (excluded : segment.allowed separator = false) (rest : Pattern) {run : List Char}
    (later : List Char) (absent : separator ∉ run) :
    Pattern.accepts (segment :: .literal separator :: rest) (run ++ separator :: later) = true ↔
      segment.Admits run ∧ rest.accepts later = true := by
  rw [accepts_field excluded]
  constructor
  · rintro ⟨other, last, same, admitted, free, accepted⟩
    obtain rfl : run = other := by rw [← takeWhile_field later absent, same, takeWhile_field last free]
    obtain rfl : later = last := by simpa using same
    exact ⟨admitted, accepted⟩
  · rintro ⟨admitted, accepted⟩
    exact ⟨run, later, rfl, admitted, absent, accepted⟩

end Fields

end Pattern

/-- Two runes outside ASCII fold to an ASCII letter: the long s and the Kelvin sign. -/
def foldRune (c : Char) : Char :=
  if c = '\u017f' then 's' else if c = '\u212a' then 'k' else c.toLower

/-- This is `strings.EqualFold` against a text of ASCII characters. -/
def equalFold (first second : String) : Bool :=
  first.toList.map foldRune == second.toList.map foldRune

end Pxtly.Foundation
