/-
This file gives UTC times, calendar dates and their RFC 3339 texts.
-/

import Mathlib.Data.List.Induction
import Mathlib.Data.String.Basic
import Mathlib.Tactic.Common
import Mathlib.Tactic.Ring

namespace Pxtly.Foundation

def isLeap (year : Int) : Bool := year % 4 == 0 && (year % 100 != 0 || year % 400 == 0)

def daysIn (month : Nat) (year : Int) : Nat :=
  if month = 2 then (if isLeap year then 29 else 28)
  else if month = 4 ∨ month = 6 ∨ month = 9 ∨ month = 11 then 30 else 31

/-- A date is a day that its month has. -/
structure Date where
  year : Int
  month : Nat
  day : Nat
  monthRange : 1 ≤ month ∧ month ≤ 12
  dayRange : 1 ≤ day ∧ day ≤ daysIn month year
  deriving DecidableEq, Repr

/-- A time in UTC is a date and a clock reading on it. -/
structure Time extends Date where
  hour : Nat
  minute : Nat
  second : Nat
  nanosecond : Nat
  hourRange : hour < 24
  minuteRange : minute < 60
  secondRange : second < 60
  nanosecondRange : nanosecond < 10 ^ 9
  deriving DecidableEq, Repr

theorem january : 1 ≤ 1 ∧ 1 ≤ 12 := by decide
theorem zeroHour : 0 < 24 := by decide
theorem zeroMinute : 0 < 60 := by decide
theorem zeroNanosecond : 0 < 10 ^ 9 := by decide

def digit (value : Nat) : Char := Char.ofNat (48 + value)

def digitValue (c : Char) : Option Nat := if c.isDigit then some (c.toNat - 48) else none

theorem digitValue_digit (value : Nat) (small : value < 10) : digitValue (digit value) = some value := by
  have all : ∀ v : Fin 10, digitValue (digit v) = some v.val := by decide
  exact all ⟨value, small⟩

/-- This function prints the last `width` digits of a number. -/
def padded : Nat → Nat → List Char
  | 0, _ => []
  | width + 1, value => padded width (value / 10) ++ [digit (value % 10)]

/-- The digits are read from the left. -/
def readDigits (digits : List Char) : Option Nat :=
  digits.foldlM (fun value c => (digitValue c).map (10 * value + ·)) 0

@[simp] theorem padded_length (width value : Nat) : (padded width value).length = width := by
  induction width generalizing value with
  | zero => rfl
  | succ width inductionHypothesis => simp [padded, inductionHypothesis]

theorem readDigits_concat (digits : List Char) (c : Char) :
    readDigits (digits ++ [c]) =
      (readDigits digits).bind fun value => (digitValue c).map (10 * value + ·) := by
  simp [readDigits, List.foldlM_append, List.foldlM_cons]

/-- Reading a padded number gives the number back. -/
theorem readDigits_padded (width value : Nat) (fits : value < 10 ^ width) :
    readDigits (padded width value) = some value := by
  induction width generalizing value with
  | zero =>
      have zero : value = 0 := by simpa using fits
      subst zero
      rfl
  | succ width inductionHypothesis =>
      have tail : value / 10 < 10 ^ width := by
        rw [Nat.pow_succ] at fits
        omega
      have last : value % 10 < 10 := Nat.mod_lt _ (by decide)
      rw [padded, readDigits_concat, inductionHypothesis _ tail, Option.bind_some,
        digitValue_digit _ last, Option.map_some]
      congr 1
      omega

/-- A field takes a fixed number of digits from the text. -/
def takeDigits (width : Nat) (text : List Char) : Option (Nat × List Char) :=
  if text.length < width then none
  else (readDigits (text.take width)).map fun value => (value, text.drop width)

def takeChar (c : Char) : List Char → Option (List Char)
  | [] => none
  | first :: rest => if first = c then some rest else none

theorem takeDigits_padded (width value : Nat) (rest : List Char) (fits : value < 10 ^ width) :
    takeDigits width (padded width value ++ rest) = some (value, rest) := by
  have enough : ¬ (padded width value ++ rest).length < width := by simp
  have head : (padded width value ++ rest).take width = padded width value := by
    simp
  have tail : (padded width value ++ rest).drop width = rest := by simp
  rw [takeDigits, if_neg enough, head, tail, readDigits_padded width value fits]
  rfl

@[simp] theorem takeChar_cons (c : Char) (rest : List Char) : takeChar c (c :: rest) = some rest := by
  simp [takeChar]

/-- The layout `.999999999` drops the zeros at the end of a fraction. -/
def stripZeros : List Char → List Char
  | [] => []
  | c :: rest => if c = '0' ∧ stripZeros rest = [] then [] else c :: stripZeros rest

theorem stripZeros_length (digits : List Char) : (stripZeros digits).length ≤ digits.length := by
  induction digits with
  | nil => exact Nat.le_refl _
  | cons c rest inductionHypothesis =>
      rw [stripZeros]
      split
      · simp
      · simpa using inductionHypothesis

/-- The dropped zeros are exactly the missing end of the fraction. -/
theorem stripZeros_restore (digits : List Char) :
    stripZeros digits ++ List.replicate (digits.length - (stripZeros digits).length) '0' = digits := by
  induction digits with
  | nil => rfl
  | cons c rest inductionHypothesis =>
      rw [stripZeros]
      split
      next dropped =>
        obtain ⟨rfl, empty⟩ := dropped
        rw [empty] at inductionHypothesis
        simpa [List.replicate_succ] using inductionHypothesis
      next =>
        simpa using inductionHypothesis

/-- The fraction of a second is printed after a point, or not at all. -/
def fraction (nanosecond : Nat) : List Char :=
  match stripZeros (padded 9 nanosecond) with
  | [] => []
  | digits => '.' :: digits

/-- A fraction ends before the zone. -/
def takeFraction : List Char → Option (Nat × List Char)
  | '.' :: text =>
      let digits := text.takeWhile Char.isDigit
      if digits = [] then none
      else (readDigits (digits.take 9 ++ List.replicate (9 - digits.length) '0')).map
        fun value => (value, text.dropWhile Char.isDigit)
  | text => some (0, text)

theorem digit_isDigit (value : Nat) (small : value < 10) : (digit value).isDigit = true := by
  have all : ∀ v : Fin 10, (digit v).isDigit = true := by decide
  exact all ⟨value, small⟩

theorem padded_isDigit (width value : Nat) : ∀ c ∈ padded width value, c.isDigit = true := by
  induction width generalizing value with
  | zero => simp [padded]
  | succ width inductionHypothesis =>
      intro c member
      rw [padded, List.mem_append, List.mem_singleton] at member
      rcases member with earlier | rfl
      · exact inductionHypothesis _ c earlier
      · exact digit_isDigit _ (Nat.mod_lt _ (by decide))

theorem stripZeros_subset (digits : List Char) : ∀ c ∈ stripZeros digits, c ∈ digits := by
  induction digits with
  | nil => simp [stripZeros]
  | cons first rest inductionHypothesis =>
      intro c member
      rw [stripZeros] at member
      split at member
      · cases member
      · rcases List.mem_cons.mp member with rfl | later
        · exact List.mem_cons_self
        · exact List.mem_cons_of_mem _ (inductionHypothesis c later)

/-- A printed fraction is read back before any text that does not start with a digit. -/
theorem takeFraction_fraction (nanosecond : Nat) (rest : List Char) (c : Char)
    (fits : nanosecond < 10 ^ 9) (stops : c.isDigit = false) (notPoint : c ≠ '.') :
    takeFraction (fraction nanosecond ++ c :: rest) = some (nanosecond, c :: rest) := by
  have restored := stripZeros_restore (padded 9 nanosecond)
  have short := stripZeros_length (padded 9 nanosecond)
  have digits : ∀ d ∈ stripZeros (padded 9 nanosecond), d.isDigit = true := fun d member =>
    padded_isDigit 9 nanosecond d (stripZeros_subset _ d member)
  have value := readDigits_padded 9 nanosecond fits
  simp only [padded_length] at restored short
  unfold fraction
  generalize stripZeros (padded 9 nanosecond) = stripped at restored short digits
  cases stripped with
  | nil =>
      have zero : nanosecond = 0 := by
        rw [← restored] at value
        exact (Option.some.inj value).symm
      subst zero
      simp only [List.nil_append]
      unfold takeFraction
      split
      next same =>
        exact absurd (List.cons.inj same).1 notPoint
      next => rfl
  | cons first others =>
      have taken : (first :: others ++ c :: rest).takeWhile Char.isDigit = first :: others := by
        rw [List.takeWhile_append_of_pos digits, List.takeWhile_cons]
        simp [stops]
      have dropped : (first :: others ++ c :: rest).dropWhile Char.isDigit = c :: rest := by
        rw [List.dropWhile_append_of_pos digits, List.dropWhile_cons]
        simp [stops]
      simp only [List.cons_append] at taken dropped ⊢
      simp only [takeFraction, taken, dropped, List.take_of_length_le short, restored, value,
        reduceCtorEq, if_false, Option.map_some]

/-- This is `date.isoformat`. -/
def Date.isoformat (date : Date) : String :=
  String.ofList (padded 4 date.year.toNat ++ '-' :: padded 2 date.month ++ '-' :: padded 2 date.day)

/-- This is the layout of RFC 3339 up to the fraction. -/
def Time.civil (time : Time) : List Char :=
  padded 4 time.year.toNat ++ '-' :: padded 2 time.month ++ '-' :: padded 2 time.day ++
    'T' :: padded 2 time.hour ++ ':' :: padded 2 time.minute ++ ':' :: padded 2 time.second

/-- A year before 0 or after 9999 has no RFC 3339 text. -/
def Time.representable (time : Time) : Bool := 0 ≤ time.year && time.year ≤ 9999

/-- A year has at least four digits, behind its sign. -/
def Time.yearDigits (time : Time) : List Char :=
  let digits := if time.year.natAbs < 10 ^ 4 then padded 4 time.year.natAbs
    else (toString time.year.natAbs).toList
  if time.year < 0 then '-' :: digits else digits

/-- This is `Format(time.RFC3339)`. -/
def Time.formatRFC3339 (time : Time) : String :=
  String.ofList (time.yearDigits ++ (time.civil.drop 4) ++ ['Z'])

/-- This is `MarshalJSON`: the RFC 3339 text with nanoseconds. -/
def Time.formatRFC3339Nano (time : Time) : String :=
  String.ofList (time.civil ++ fraction time.nanosecond ++ ['Z'])

def Time.assemble (year month day hour minute second nanosecond : Nat) : Option Time :=
  if ranges : (1 ≤ month ∧ month ≤ 12) ∧ (1 ≤ day ∧ day ≤ daysIn month year) ∧ hour < 24 ∧
      minute < 60 ∧ second < 60 ∧ nanosecond < 10 ^ 9 then
    some ⟨⟨year, month, day, ranges.1, ranges.2.1⟩, hour, minute, second, nanosecond,
      ranges.2.2.1, ranges.2.2.2.1, ranges.2.2.2.2.1, ranges.2.2.2.2.2⟩
  else none

/-- This is `UnmarshalJSON` on texts in UTC: every other zone is refused. -/
def Time.parseRFC3339 (text : String) : Option Time := do
  let (year, text) ← takeDigits 4 text.toList
  let text ← takeChar '-' text
  let (month, text) ← takeDigits 2 text
  let text ← takeChar '-' text
  let (day, text) ← takeDigits 2 text
  let text ← takeChar 'T' text
  let (hour, text) ← takeDigits 2 text
  let text ← takeChar ':' text
  let (minute, text) ← takeDigits 2 text
  let text ← takeChar ':' text
  let (second, text) ← takeDigits 2 text
  let (nanosecond, text) ← takeFraction text
  if text = ['Z'] then Time.assemble year month day hour minute second nanosecond else none

theorem daysIn_le (month : Nat) (year : Int) : daysIn month year ≤ 31 := by
  unfold daysIn
  split
  · split <;> decide
  · split <;> decide

/-- The components of a time put the time together again. -/
theorem Time.assemble_self (time : Time) (nonnegative : 0 ≤ time.year) :
    Time.assemble time.year.toNat time.month time.day time.hour time.minute time.second
      time.nanosecond = some time := by
  have year : ((time.year.toNat : Nat) : Int) = time.year := Int.toNat_of_nonneg nonnegative
  unfold Time.assemble
  simp only [year]
  rw [dif_pos ⟨time.monthRange, time.dayRange, time.hourRange, time.minuteRange,
    time.secondRange, time.nanosecondRange⟩]

/-- Parsing inverts printing on every representable time. -/
theorem Time.parse_format (time : Time) (representable : time.representable = true) :
    Time.parseRFC3339 time.formatRFC3339Nano = some time := by
  simp only [Time.representable, Bool.and_eq_true, decide_eq_true_eq] at representable
  have year : time.year.toNat < 10 ^ 4 := by omega
  have month : time.month < 10 ^ 2 := Nat.lt_of_le_of_lt time.monthRange.2 (by decide : 12 < 10 ^ 2)
  have day : time.day < 10 ^ 2 :=
    Nat.lt_of_le_of_lt (Nat.le_trans time.dayRange.2 (daysIn_le _ _)) (by decide : 31 < 10 ^ 2)
  have hour : time.hour < 10 ^ 2 := Nat.lt_trans time.hourRange (by decide : 24 < 10 ^ 2)
  have minute : time.minute < 10 ^ 2 := Nat.lt_trans time.minuteRange (by decide : 60 < 10 ^ 2)
  have second : time.second < 10 ^ 2 := Nat.lt_trans time.secondRange (by decide : 60 < 10 ^ 2)
  simp only [Time.parseRFC3339, Time.formatRFC3339Nano, Time.civil, String.toList_ofList,
    List.append_assoc, List.cons_append]
  simp only [takeDigits_padded, takeChar_cons, year, month, day, hour, minute, second,
    takeFraction_fraction _ [] 'Z' time.nanosecondRange rfl (by decide), Option.bind_eq_bind,
    Option.bind_some, if_true]
  exact Time.assemble_self time representable.1

theorem readDigits_lt (digits : List Char) (value : Nat) (read : readDigits digits = some value) :
    value < 10 ^ digits.length := by
  induction digits using List.reverseRecOn generalizing value with
  | nil =>
      obtain rfl : 0 = value := Option.some.inj read
      decide
  | append_singleton digits c inductionHypothesis =>
      rw [readDigits_concat] at read
      obtain ⟨front, frontRead, read⟩ := Option.bind_eq_some_iff.mp read
      obtain ⟨last, lastRead, rfl⟩ := Option.map_eq_some_iff.mp read
      have bound := inductionHypothesis front frontRead
      have small : last < 10 := by
        unfold digitValue at lastRead
        split at lastRead
        next isDigit =>
          simp only [Char.isDigit, Bool.and_eq_true, decide_eq_true_eq, UInt32.le_iff_toNat_le] at isDigit
          obtain rfl := Option.some.inj lastRead
          have upper : c.toNat ≤ 57 := isDigit.2
          omega
        next => cases lastRead
      rw [List.length_append, List.length_singleton, Nat.pow_succ]
      omega

theorem takeDigits_lt (width : Nat) (text rest : List Char) (value : Nat)
    (taken : takeDigits width text = some (value, rest)) : value < 10 ^ width := by
  unfold takeDigits at taken
  split at taken
  · cases taken
  next enough =>
    obtain ⟨read, isRead, same⟩ := Option.map_eq_some_iff.mp taken
    obtain ⟨rfl, rfl⟩ := Prod.mk.inj same
    have bound := readDigits_lt _ _ isRead
    rwa [List.length_take_of_le (by omega)] at bound

theorem Time.assemble_year (year month day hour minute second nanosecond : Nat) (time : Time)
    (assembled : Time.assemble year month day hour minute second nanosecond = some time) :
    time.year = year := by
  unfold Time.assemble at assembled
  split at assembled
  · exact congrArg (fun t : Time => t.year) (Option.some.inj assembled).symm
  · cases assembled

/-- A parsed time is representable, for its year has four digits. -/
theorem Time.representable_of_parse (text : String) (time : Time)
    (parsed : Time.parseRFC3339 text = some time) : time.representable = true := by
  simp only [Time.parseRFC3339, Option.bind_eq_bind, Option.bind_eq_some_iff] at parsed
  obtain ⟨⟨year, rest⟩, yearTaken, parsed⟩ := parsed
  have bound := takeDigits_lt 4 _ _ _ yearTaken
  obtain ⟨_, _, _, _, _, _, _, _, _, _, _, _, _, _, _, _, _, _, _, _, _, _, parsed⟩ := parsed
  split at parsed
  · have same := Time.assemble_year _ _ _ _ _ _ _ _ parsed
    simp only [Time.representable, Bool.and_eq_true, decide_eq_true_eq]
    omega
  · cases parsed

end Pxtly.Foundation
