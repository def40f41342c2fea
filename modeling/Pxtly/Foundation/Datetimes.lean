/-
This file gives the datetimes of Python and their ISO texts in any zone, and instants in UTC.
-/

import Pxtly.Foundation.Timestamps

namespace Pxtly.Foundation

section Clocks

/-- A clock counts microseconds, and its year has at most four digits. -/
structure Clock extends Date where
  hour : Nat
  minute : Nat
  second : Nat
  microsecond : Nat
  hourRange : hour < 24
  minuteRange : minute < 60
  secondRange : second < 60
  microsecondRange : microsecond < 10 ^ 6
  yearRange : 1 ≤ year ∧ year ≤ 9999
  deriving Repr

theorem Clock.eq_iff {first second : Clock} : first = second ↔ first.toDate = second.toDate ∧ first.hour = second.hour ∧
    first.minute = second.minute ∧ first.second = second.second ∧ first.microsecond = second.microsecond := by
  obtain ⟨firstDate, _, _, _, _, _, _, _, _, _⟩ := first
  obtain ⟨secondDate, _, _, _, _, _, _, _, _, _⟩ := second
  simp only [Clock.mk.injEq]

instance : DecidableEq Clock := fun _ _ => decidable_of_iff _ Clock.eq_iff.symm

/-- The offset is the one from UTC in microseconds; a naive datetime has none. -/
structure Datetime where
  clock : Clock
  offset : Option Int
  deriving DecidableEq, Repr

theorem firstDay : 1 ≤ 1 ∧ 1 ≤ daysIn 1 1 := by decide
theorem zeroMicrosecond : 0 < 10 ^ 6 := by decide

/-- This is `datetime.min`. -/
def Datetime.min : Datetime where
  clock := ⟨⟨1, 1, 1, january, firstDay⟩, 0, 0, 0, 0, zeroHour, zeroMinute, zeroMinute, zeroMicrosecond, by decide⟩
  offset := none

/-- A clock shows a time of UTC up to its microseconds. -/
def Clock.ofTime (time : Time) (range : 1 ≤ time.year ∧ time.year ≤ 9999) : Clock where
  toDate := time.toDate
  hour := time.hour
  minute := time.minute
  second := time.second
  microsecond := time.nanosecond / 1000
  hourRange := time.hourRange
  minuteRange := time.minuteRange
  secondRange := time.secondRange
  microsecondRange := by
    have range := time.nanosecondRange
    omega
  yearRange := range

/-- A datetime in UTC shows a time with all of its digits. -/
structure Datetime.Shows (datetime : Datetime) (time : Time) : Prop where
  zone : datetime.offset = some 0
  date : datetime.clock.toDate = time.toDate
  hour : datetime.clock.hour = time.hour
  minute : datetime.clock.minute = time.minute
  second : datetime.clock.second = time.second
  nanosecond : datetime.clock.microsecond * 1000 = time.nanosecond

theorem shows_ofTime_iff {time : Time} (range : 1 ≤ time.year ∧ time.year ≤ 9999) :
    Datetime.Shows ⟨Clock.ofTime time range, some 0⟩ time ↔ time.nanosecond % 1000 = 0 := by
  constructor
  · intro shows
    have same : time.nanosecond / 1000 * 1000 = time.nanosecond := shows.nanosecond
    omega
  · intro whole
    have same : time.nanosecond / 1000 * 1000 = time.nanosecond := by omega
    exact ⟨rfl, rfl, rfl, rfl, rfl, same⟩

end Clocks

section Texts

def Clock.civil (clock : Clock) : List Char :=
  padded 4 clock.year.toNat ++ '-' :: (padded 2 clock.month ++ '-' :: (padded 2 clock.day ++
    'T' :: (padded 2 clock.hour ++ ':' :: (padded 2 clock.minute ++ ':' :: padded 2 clock.second))))

/-- A whole second has no fraction. -/
def Clock.fraction (clock : Clock) : List Char :=
  if clock.microsecond = 0 then [] else '.' :: padded 6 clock.microsecond

/-- The seconds of an offset are left out where they are zero. -/
def offsetText (offset : Int) : List Char :=
  let seconds := offset.natAbs / 1000000
  let micros := offset.natAbs % 1000000
  (if offset < 0 then '-' else '+') :: (padded 2 (seconds / 3600) ++ ':' :: (padded 2 (seconds / 60 % 60) ++
    (if seconds % 60 = 0 ∧ micros = 0 then []
    else ':' :: (padded 2 (seconds % 60) ++ (if micros = 0 then [] else '.' :: padded 6 micros)))))

/-- This is `datetime.isoformat`. -/
def Datetime.isoformat (datetime : Datetime) : String :=
  String.ofList (datetime.clock.civil ++ (datetime.clock.fraction ++ (datetime.offset.map offsetText).getD []))

/-- An offset is shorter than a day. -/
def Datetime.Aware (datetime : Datetime) : Prop := ∃ offset, datetime.offset = some offset ∧ offset.natAbs < 86400 * 10 ^ 6

example : Datetime.min.isoformat = "0001-01-01T00:00:00" := by decide

theorem date_ext {first second : Date} (year : first.year = second.year) (month : first.month = second.month)
    (day : first.day = second.day) : first = second := by
  cases first
  cases second
  cases year
  cases month
  cases day
  rfl

theorem clock_ext {first second : Clock} (date : first.toDate = second.toDate) (hour : first.hour = second.hour)
    (minute : first.minute = second.minute) (seconds : first.second = second.second)
    (micros : first.microsecond = second.microsecond) : first = second := by
  cases first
  cases second
  cases date
  cases hour
  cases minute
  cases seconds
  cases micros
  rfl

theorem padded_append_inj {width first second : Nat} {rest others : List Char} (small : first < 10 ^ width)
    (otherSmall : second < 10 ^ width) (same : padded width first ++ rest = padded width second ++ others) :
    first = second ∧ rest = others := by
  obtain ⟨digits, behind⟩ := List.append_inj same (by simp)
  have value := readDigits_padded width first small
  rw [digits, readDigits_padded width second otherSmall] at value
  exact ⟨(Option.some.inj value).symm, behind⟩

/-- A civil text is read back from the front. -/
theorem civil_append_inj {first second : Clock} {rest others : List Char}
    (same : first.civil ++ rest = second.civil ++ others) :
    first.toDate = second.toDate ∧ first.hour = second.hour ∧ first.minute = second.minute ∧
      first.second = second.second ∧ rest = others := by
  have bounds (clock : Clock) : clock.year.toNat < 10 ^ 4 ∧ clock.month < 10 ^ 2 ∧ clock.day < 10 ^ 2 ∧
      clock.hour < 10 ^ 2 ∧ clock.minute < 10 ^ 2 ∧ clock.second < 10 ^ 2 := by
    have year := clock.yearRange
    have month := clock.monthRange
    have day := clock.dayRange
    have short := daysIn_le clock.month clock.year
    have hour := clock.hourRange
    have minute := clock.minuteRange
    have second := clock.secondRange
    omega
  obtain ⟨year, month, day, hour, minute, seconds⟩ := bounds first
  obtain ⟨otherYear, otherMonth, otherDay, otherHour, otherMinute, otherSeconds⟩ := bounds second
  simp only [Clock.civil, List.append_assoc, List.cons_append] at same
  obtain ⟨sameYear, same⟩ := padded_append_inj year otherYear same
  obtain ⟨sameMonth, same⟩ := padded_append_inj month otherMonth (List.cons.inj same).2
  obtain ⟨sameDay, same⟩ := padded_append_inj day otherDay (List.cons.inj same).2
  obtain ⟨sameHour, same⟩ := padded_append_inj hour otherHour (List.cons.inj same).2
  obtain ⟨sameMinute, same⟩ := padded_append_inj minute otherMinute (List.cons.inj same).2
  obtain ⟨sameSecond, same⟩ := padded_append_inj seconds otherSeconds (List.cons.inj same).2
  have years : first.year = second.year := by
    have range := first.yearRange
    have otherRange := second.yearRange
    omega
  exact ⟨date_ext years sameMonth sameDay, sameHour, sameMinute, sameSecond, same⟩

theorem offsetText_ne (offset : Int) : ∃ sign rest, offsetText offset = sign :: rest ∧ sign ≠ '.' := by
  refine ⟨_, _, rfl, ?_⟩
  split <;> decide

theorem fraction_inj {first second : Nat} (small : first < 10 ^ 6) (otherSmall : second < 10 ^ 6)
    (same : (if first = 0 then [] else '.' :: padded 6 first) = if second = 0 then [] else '.' :: padded 6 second) :
    first = second := by
  by_cases zero : first = 0
  · by_cases otherZero : second = 0
    · rw [zero, otherZero]
    · rw [if_pos zero, if_neg otherZero] at same
      cases same
  · by_cases otherZero : second = 0
    · rw [if_neg zero, if_pos otherZero] at same
      cases same
    · rw [if_neg zero, if_neg otherZero] at same
      have digits := congrArg (· ++ []) (List.cons.inj same).2
      exact (padded_append_inj small otherSmall digits).1

/-- An offset is read back from its text. -/
theorem offsetText_inj {first second : Int} (short : first.natAbs < 86400 * 10 ^ 6)
    (otherShort : second.natAbs < 86400 * 10 ^ 6) (same : offsetText first = offsetText second) : first = second := by
  unfold offsetText at same
  obtain ⟨sign, same⟩ := List.cons.inj same
  obtain ⟨hours, same⟩ := padded_append_inj (by omega) (by omega) same
  obtain ⟨minutes, same⟩ := padded_append_inj (by omega) (by omega) (List.cons.inj same).2
  have signs : first < 0 ↔ second < 0 := by
    by_cases negative : first < 0 <;> by_cases otherNegative : second < 0 <;>
      simp [negative, otherNegative] at sign <;> simp [negative, otherNegative]
  have seconds : first.natAbs / 1000000 % 60 = second.natAbs / 1000000 % 60 ∧
      first.natAbs % 1000000 = second.natAbs % 1000000 := by
    by_cases zero : first.natAbs / 1000000 % 60 = 0 ∧ first.natAbs % 1000000 = 0
    · by_cases otherZero : second.natAbs / 1000000 % 60 = 0 ∧ second.natAbs % 1000000 = 0
      · exact ⟨zero.1.trans otherZero.1.symm, zero.2.trans otherZero.2.symm⟩
      · rw [if_pos zero, if_neg otherZero] at same
        cases same
    · by_cases otherZero : second.natAbs / 1000000 % 60 = 0 ∧ second.natAbs % 1000000 = 0
      · rw [if_neg zero, if_pos otherZero] at same
        cases same
      · rw [if_neg zero, if_neg otherZero] at same
        obtain ⟨whole, same⟩ := padded_append_inj (by omega) (by omega) (List.cons.inj same).2
        exact ⟨whole, fraction_inj (by omega) (by omega) same⟩
  omega

/-- Two aware datetimes with one text show the same clock. -/
theorem clock_of_isoformat_eq {first second : Datetime} {offset otherOffset : Int} (aware : first.offset = some offset)
    (otherAware : second.offset = some otherOffset) (same : first.isoformat = second.isoformat) :
    first.clock = second.clock := by
  unfold Datetime.isoformat at same
  rw [aware, otherAware] at same
  obtain ⟨date, hour, minute, seconds, rest⟩ := civil_append_inj (String.ofList_injective same)
  obtain ⟨sign, zone, text, notPoint⟩ := offsetText_ne offset
  obtain ⟨otherSign, otherZone, otherText, otherNotPoint⟩ := offsetText_ne otherOffset
  simp only [Option.map_some, Option.getD_some, text, otherText, Clock.fraction] at rest
  have micros : first.clock.microsecond = second.clock.microsecond := by
    split at rest
    next zero =>
      split at rest
      next otherZero => rw [zero, otherZero]
      next => exact absurd (List.cons.inj rest).1 notPoint
    next =>
      split at rest
      next => exact absurd (List.cons.inj rest).1.symm otherNotPoint
      next =>
        exact (padded_append_inj first.clock.microsecondRange second.clock.microsecondRange
          (List.cons.inj rest).2).1
  exact clock_ext date hour minute seconds micros

/-- The text of an aware datetime determines its clock and its offset. -/
theorem isoformat_inj {first second : Datetime} (aware : first.Aware) (otherAware : second.Aware)
    (same : first.isoformat = second.isoformat) : first = second := by
  obtain ⟨offset, zone, short⟩ := aware
  obtain ⟨otherOffset, otherZone, otherShort⟩ := otherAware
  have clocks := clock_of_isoformat_eq zone otherZone same
  unfold Datetime.isoformat at same
  rw [clocks, zone, otherZone, String.ofList_inj, List.append_cancel_left_eq, List.append_cancel_left_eq] at same
  have offsets := offsetText_inj short otherShort same
  cases first
  cases second
  subst zone otherZone clocks offsets
  rfl

end Texts

section Instants

def microsPerSecond : Int := 1000000

def microsPerDay : Int := 86400 * microsPerSecond

/-- A year of this calendar starts in March, so that a leap day ends it; 400 years have 146097 days. -/
def civilOfDay (day : Int) : Int × Nat × Nat :=
  let shifted := day + 719468
  let dayOfEra := (shifted % 146097).toNat
  let yearOfEra := (dayOfEra - dayOfEra / 1460 + dayOfEra / 36524 - dayOfEra / 146096) / 365
  let dayOfYear := dayOfEra - (365 * yearOfEra + yearOfEra / 4 - yearOfEra / 100)
  let monthOfYear := (5 * dayOfYear + 2) / 153
  let month := if monthOfYear < 10 then monthOfYear + 3 else monthOfYear - 9
  (yearOfEra + shifted / 146097 * 400 + (if month ≤ 2 then 1 else 0), month,
    dayOfYear - (153 * monthOfYear + 2) / 5 + 1)

/-- This is `datetime.isoformat` for an instant in UTC, counted in microseconds; the years have four digits. -/
def isoformat (instant : Int) : String :=
  let (year, month, day) := civilOfDay (instant / microsPerDay)
  let micros := (instant % microsPerDay).toNat
  let seconds := micros / 1000000
  let rest := micros % 1000000
  String.ofList <| padded 4 year.toNat ++ '-' :: padded 2 month ++ '-' :: padded 2 day ++
    'T' :: padded 2 (seconds / 3600) ++ ':' :: padded 2 (seconds / 60 % 60) ++ ':' :: padded 2 (seconds % 60) ++
    (if rest = 0 then [] else '.' :: padded 6 rest) ++ "+00:00".toList

example : isoformat 1775001600000000 = "2026-04-01T00:00:00+00:00" := by decide +kernel

end Instants

end Pxtly.Foundation
