/-
This file gives the printing of Python decimals and Go's `strconv.ParseFloat`.
-/

import Pxtly.Foundation.Errors
import Pxtly.Foundation.Timestamps
import Mathlib.Data.Nat.Log
import Mathlib.Tactic.Ring

namespace Pxtly.Foundation

/-- A positive decimal is a coefficient scaled by a power of ten. -/
structure PositiveDecimal where
  coefficient : Nat
  exponent : Int
  positive : 0 < coefficient
  deriving DecidableEq, Repr

def decimalDigits (value : Nat) : List Char := padded (Nat.log 10 value + 1) value

/-- This is `"%+d"`. -/
def signedDigits (value : Int) : List Char :=
  (if value < 0 then '-' else '+') :: decimalDigits value.natAbs

def powerText : Option Int → List Char
  | none => []
  | some power => 'E' :: signedDigits power

/-- A numeral has digits before the point, digits after it and perhaps a power of ten. -/
def scientific (whole fraction : List Char) (power : Option Int) : List Char :=
  whole ++ (if fraction = [] then [] else '.' :: fraction) ++ powerText power

/-- This is `Decimal.__str__`. -/
def PositiveDecimal.str (decimal : PositiveDecimal) : String :=
  let digits := decimalDigits decimal.coefficient
  let leftdigits := decimal.exponent + digits.length
  let dotplace := if decimal.exponent ≤ 0 ∧ -6 < leftdigits then leftdigits else 1
  let power := if leftdigits = dotplace then none else some (leftdigits - dotplace)
  String.ofList <|
    if dotplace ≤ 0 then scientific ['0'] (List.replicate (-dotplace).toNat '0' ++ digits) power
    else if digits.length ≤ dotplace then
      scientific (digits ++ List.replicate (dotplace - digits.length).toNat '0') [] power
    else scientific (digits.take dotplace.toNat) (digits.drop dotplace.toNat) power

/-- This is the float nearest to a decimal, or infinity beyond the range. -/
def PositiveDecimal.toFloat (decimal : PositiveDecimal) : Float :=
  Float.ofScientific decimal.coefficient (decimal.exponent < 0) decimal.exponent.natAbs

/-- A numeral is a signed mantissa scaled by a power of ten, or of two when it was hexadecimal. -/
structure Numeral where
  negative : Bool
  hexadecimal : Bool
  mantissa : Nat
  exponent : Int
  deriving DecidableEq, Repr

/-- A power of two is scaled as a power of ten, so one rounding is enough. -/
def Numeral.magnitude (numeral : Numeral) : Float :=
  if numeral.hexadecimal then
    if numeral.exponent < 0 then
      Float.ofScientific (numeral.mantissa * 5 ^ numeral.exponent.natAbs) true numeral.exponent.natAbs
    else Float.ofScientific (numeral.mantissa * 2 ^ numeral.exponent.natAbs) false 0
  else Float.ofScientific numeral.mantissa (numeral.exponent < 0) numeral.exponent.natAbs

def Numeral.toFloat (numeral : Numeral) : Float :=
  if numeral.negative then -numeral.magnitude else numeral.magnitude

def hexLetter (c : Char) : Option Nat :=
  if 'a' ≤ c ∧ c ≤ 'f' then some (c.toNat - 87)
  else if 'A' ≤ c ∧ c ≤ 'F' then some (c.toNat - 55)
  else none

def mantissaDigit (hexadecimal : Bool) (c : Char) : Option Nat :=
  (digitValue c).or (if hexadecimal then hexLetter c else none)

/-- A scan counts the digits behind the point and notes what it met. -/
structure Scan where
  mantissa : Nat := 0
  scale : Nat := 0
  sawdot : Bool := false
  sawdigits : Bool := false
  underscores : Bool := false
  deriving DecidableEq, Repr

def Scan.digit (scan : Scan) (base value : Nat) : Scan :=
  { scan with
    mantissa := base * scan.mantissa + value
    scale := if scan.sawdot then scan.scale + 1 else scan.scale
    sawdigits := true }

/-- The mantissa ends at the second point or at the first character that is no digit. -/
def scanMantissa (hexadecimal : Bool) : Scan → List Char → Scan × List Char
  | scan, [] => (scan, [])
  | scan, c :: rest =>
      if c = '_' then scanMantissa hexadecimal { scan with underscores := true } rest
      else if c = '.' then
        if scan.sawdot then (scan, c :: rest)
        else scanMantissa hexadecimal { scan with sawdot := true } rest
      else match mantissaDigit hexadecimal c with
        | some value =>
            scanMantissa hexadecimal (scan.digit (if hexadecimal then 16 else 10) value) rest
        | none => (scan, c :: rest)

/-- The digits of an exponent fill the rest of the text. -/
def scanExponent : Nat → Bool → List Char → Option (Nat × Bool)
  | value, underscores, [] => some (value, underscores)
  | value, underscores, c :: rest =>
      if c = '_' then scanExponent value true rest
      else (digitValue c).bind fun d => scanExponent (10 * value + d) underscores rest

def takeSign : List Char → Bool × List Char
  | '+' :: rest => (false, rest)
  | '-' :: rest => (true, rest)
  | text => (false, text)

/-- An exponent starts with a digit behind its sign. -/
def readExponent (text : List Char) : Option (Int × Bool) :=
  let (negative, rest) := takeSign text
  match rest with
  | c :: _ =>
      if c.isDigit then
        (scanExponent 0 false rest).map fun (value, underscores) =>
          (if negative then -(value : Int) else value, underscores)
      else none
  | [] => none

/-- Underscores stand between digits, or between a base prefix and a digit. -/
def underscoreOK (text : List Char) : Bool :=
  let rec digitsFrom (hexadecimal : Bool) (saw : Char) : List Char → Bool
    | [] => saw != '_'
    | c :: rest =>
        if (mantissaDigit hexadecimal c).isSome then digitsFrom hexadecimal '0' rest
        else if c = '_' then saw == '0' && digitsFrom hexadecimal '_' rest
        else saw != '_' && digitsFrom hexadecimal '!' rest
  match (takeSign text).2 with
  | '0' :: c :: rest =>
      if c.toLower ∈ ['b', 'o', 'x'] then digitsFrom (c.toLower == 'x') '0' rest
      else digitsFrom false '^' ('0' :: c :: rest)
  | rest => digitsFrom false '^' rest

/-- A hexadecimal mantissa stands behind `0x` and has at least one more character. -/
def takeHexPrefix : List Char → Bool × List Char
  | '0' :: x :: c :: rest => if x.toLower = 'x' then (true, c :: rest) else (false, '0' :: x :: c :: rest)
  | text => (false, text)

/-- This is `readFloat` on a text that it has to consume as a whole. -/
def readFloat (text : List Char) : Option Numeral :=
  let (negative, unsigned) := takeSign text
  let (hexadecimal, digits) := takeHexPrefix unsigned
  let (scan, rest) := scanMantissa hexadecimal {} digits
  let exponent := match rest with
    | [] => if hexadecimal then none else some (0, false)
    | marker :: rest =>
        if marker.toLower = (if hexadecimal then 'p' else 'e') then readExponent rest else none
  exponent.bind fun (power, underscores) =>
    if scan.sawdigits = false then none
    else if (scan.underscores || underscores) && !underscoreOK text then none
    else some ⟨negative, hexadecimal, scan.mantissa,
      power - scan.scale * (if hexadecimal then 4 else 1)⟩

/-- Infinities and the missing number have names, in any case. -/
def special (text : List Char) : Option Float :=
  let (negative, unsigned) := takeSign text
  let name := unsigned.map Char.toLower
  if name = "inf".toList ∨ name = "infinity".toList then some (if negative then -1 / 0 else 1 / 0)
  else if text.map Char.toLower = "nan".toList then some (0 / 0)
  else none

/-- This is `strconv.ParseFloat` at 64 bits. -/
def parseFloat (text : String) : Except GoError Float :=
  match special text.toList with
  | some value => .ok value
  | none => match readFloat text.toList with
    | none => .error (.errorf "strconv.ParseFloat: parsing %q: invalid syntax" [.text text])
    | some numeral =>
        if numeral.toFloat.isFinite then .ok numeral.toFloat
        else .error (.errorf "strconv.ParseFloat: parsing %q: value out of range" [.text text])

theorem decimalDigits_fits (value : Nat) : value < 10 ^ (Nat.log 10 value + 1) :=
  Nat.lt_pow_succ_log_self (by decide) value

theorem readDigits_decimalDigits (value : Nat) : readDigits (decimalDigits value) = some value :=
  readDigits_padded _ value (decimalDigits_fits value)

theorem decimalDigits_isDigit (value : Nat) : ∀ c ∈ decimalDigits value, c.isDigit = true :=
  padded_isDigit _ value

@[simp] theorem decimalDigits_length (value : Nat) :
    (decimalDigits value).length = Nat.log 10 value + 1 :=
  padded_length _ value

/-- The reading of two joined runs of digits shifts the first one. -/
theorem readDigits_append (front back : List Char) (first second : Nat)
    (readFront : readDigits front = some first) (readBack : readDigits back = some second) :
    readDigits (front ++ back) = some (first * 10 ^ back.length + second) := by
  induction back using List.reverseRecOn generalizing second with
  | nil =>
      obtain rfl : 0 = second := Option.some.inj readBack
      simpa using readFront
  | append_singleton back c inductionHypothesis =>
      rw [readDigits_concat] at readBack
      obtain ⟨middle, readMiddle, readLast⟩ := Option.bind_eq_some_iff.mp readBack
      obtain ⟨last, isLast, rfl⟩ := Option.map_eq_some_iff.mp readLast
      rw [← List.append_assoc, readDigits_concat, inductionHypothesis middle readMiddle,
        Option.bind_some, isLast, Option.map_some, List.length_append, List.length_singleton,
        Nat.pow_succ]
      congr 1
      ring

theorem readDigits_zeros (count : Nat) : readDigits (List.replicate count '0') = some 0 := by
  induction count with
  | zero => rfl
  | succ count inductionHypothesis =>
      rw [List.replicate_succ', readDigits_concat, inductionHypothesis]
      rfl

theorem isSome_digitValue {c : Char} {value : Nat} (read : digitValue c = some value) :
    c.isDigit = true := by
  unfold digitValue at read
  split at read
  next isDigit => exact isDigit
  next => cases read

/-- A scan after a run of digits. -/
def Scan.run (scan : Scan) (length value : Nat) : Scan :=
  { scan with
    mantissa := scan.mantissa * 10 ^ length + value
    scale := if scan.sawdot then scan.scale + length else scan.scale
    sawdigits := scan.sawdigits || decide (0 < length) }

theorem Scan.run_digit (scan : Scan) (length value last : Nat) :
    (scan.run length value).digit 10 last = scan.run (length + 1) (10 * value + last) := by
  have mantissa : 10 * (scan.mantissa * 10 ^ length + value) + last =
      scan.mantissa * 10 ^ (length + 1) + (10 * value + last) := by ring
  cases seen : scan.sawdot <;> simp [run, digit, mantissa, seen, Nat.add_assoc]

theorem digit_not_mark {c : Char} (isDigit : c.isDigit = true) : c ≠ '_' ∧ c ≠ '.' := by
  constructor
  · rintro rfl
    cases isDigit
  · rintro rfl
    cases isDigit

/-- A mantissa scan passes over a run of digits. -/
theorem scanMantissa_digits (scan : Scan) (digits rest : List Char) (value : Nat)
    (read : readDigits digits = some value) :
    scanMantissa false scan (digits ++ rest) = scanMantissa false (scan.run digits.length value) rest := by
  induction digits using List.reverseRecOn generalizing value rest with
  | nil =>
      obtain rfl : 0 = value := Option.some.inj read
      simp [Scan.run]
  | append_singleton digits c inductionHypothesis =>
      rw [readDigits_concat] at read
      obtain ⟨middle, readMiddle, readLast⟩ := Option.bind_eq_some_iff.mp read
      obtain ⟨last, isLast, rfl⟩ := Option.map_eq_some_iff.mp readLast
      obtain ⟨notUnderscore, notPoint⟩ := digit_not_mark (isSome_digitValue isLast)
      rw [List.append_assoc, List.singleton_append, inductionHypothesis (c :: rest) middle readMiddle,
        scanMantissa, if_neg notUnderscore, if_neg notPoint]
      simp only [mantissaDigit, isLast, Option.some_or, Bool.false_eq_true, if_false, Scan.run_digit,
        List.length_append, List.length_singleton]

/-- An exponent scan reads a run of digits. -/
theorem scanExponent_digits (start : Nat) (digits : List Char) (value : Nat)
    (read : digits.foldlM (fun value c => (digitValue c).map (10 * value + ·)) start = some value) :
    scanExponent start false digits = some (value, false) := by
  induction digits generalizing start with
  | nil =>
      obtain rfl : start = value := Option.some.inj read
      rfl
  | cons c rest inductionHypothesis =>
      rw [List.foldlM_cons] at read
      obtain ⟨middle, readFirst, readRest⟩ := Option.bind_eq_some_iff.mp read
      obtain ⟨first, isFirst, rfl⟩ := Option.map_eq_some_iff.mp readFirst
      obtain ⟨notUnderscore, _⟩ := digit_not_mark (isSome_digitValue isFirst)
      rw [scanExponent, if_neg notUnderscore, isFirst, Option.bind_some]
      exact inductionHypothesis _ readRest

/-- A printed power is read back. -/
theorem readExponent_signedDigits (power : Int) : readExponent (signedDigits power) = some (power, false) := by
  have read := scanExponent_digits 0 (decimalDigits power.natAbs) power.natAbs
    (readDigits_decimalDigits power.natAbs)
  have digits := decimalDigits_isDigit power.natAbs
  have nonempty : decimalDigits power.natAbs ≠ [] := by
    intro empty
    have length := decimalDigits_length power.natAbs
    simp [empty] at length
  unfold readExponent signedDigits
  obtain ⟨c, rest, split⟩ := List.exists_cons_of_ne_nil nonempty
  rw [split] at read digits ⊢
  have first := digits c List.mem_cons_self
  by_cases negative : power < 0
  · have value : -((power.natAbs : Nat) : Int) = power := by omega
    generalize power.natAbs = magnitude at read value
    simp [negative, takeSign, first, read, value]
  · have value : ((power.natAbs : Nat) : Int) = power := by omega
    generalize power.natAbs = magnitude at read value
    simp [negative, takeSign, first, read, value]

theorem digit_toLower {c : Char} (isDigit : c.isDigit = true) : c.toLower = c := by
  simp only [Char.isDigit, Bool.and_eq_true, decide_eq_true_eq, UInt32.le_iff_toNat_le] at isDigit
  unfold Char.toLower
  split
  next upper =>
    simp only [ge_iff_le, UInt32.le_iff_toNat_le] at upper
    have bound : c.val.toNat ≤ 57 := isDigit.2
    have large : 65 ≤ c.val.toNat := upper.1
    omega
  next => rfl

theorem takeSign_digit {c : Char} (rest : List Char) (isDigit : c.isDigit = true) :
    takeSign (c :: rest) = (false, c :: rest) := by
  unfold takeSign
  split
  next same => rw [(List.cons.inj same).1] at isDigit; cases isDigit
  next same => rw [(List.cons.inj same).1] at isDigit; cases isDigit
  next => rfl

/-- The characters of a printed numeral are digits, a point and the parts of a power. -/
theorem scientific_characters {whole fraction : List Char} (power : Option Int)
    (wholeDigits : ∀ c ∈ whole, c.isDigit = true) (fractionDigits : ∀ c ∈ fraction, c.isDigit = true) :
    ∀ c ∈ scientific whole fraction power, c.toLower ≠ 'x' := by
  have notX : ∀ c : Char, c.isDigit = true → c.toLower ≠ 'x' := by
    intro c isDigit
    rw [digit_toLower isDigit]
    rintro rfl
    cases isDigit
  intro c member
  rw [scientific, List.mem_append, List.mem_append] at member
  rcases member with (inside | inside) | inside
  · exact notX c (wholeDigits c inside)
  · split at inside
    · cases inside
    · rcases List.mem_cons.mp inside with rfl | later
      · decide
      · exact notX c (fractionDigits c later)
  · cases power with
    | none => cases inside
    | some power =>
        rcases List.mem_cons.mp inside with rfl | inside
        · decide
        · rcases List.mem_cons.mp inside with rfl | later
          · split <;> decide
          · exact notX c (decimalDigits_isDigit _ c later)

theorem takeHexPrefix_plain (text : List Char) (plain : ∀ c ∈ text, c.toLower ≠ 'x') :
    takeHexPrefix text = (false, text) := by
  unfold takeHexPrefix
  split
  next x c rest => rw [if_neg (plain x (by simp))]
  next => rfl

/-- A scan of a numeral stops before its power. -/
theorem scanMantissa_scientific {whole fraction : List Char} {first second : Nat} (rest : List Char)
    (readWhole : readDigits whole = some first) (readFraction : readDigits fraction = some second)
    (nonempty : whole ≠ []) (stops : scanMantissa false ⟨first * 10 ^ fraction.length + second,
      fraction.length, !fraction.isEmpty, true, false⟩ rest =
        (⟨first * 10 ^ fraction.length + second, fraction.length, !fraction.isEmpty, true, false⟩, rest)) :
    scanMantissa false {} (whole ++ (if fraction = [] then [] else '.' :: fraction) ++ rest) =
      (⟨first * 10 ^ fraction.length + second, fraction.length, !fraction.isEmpty, true, false⟩, rest) := by
  have positive : 0 < whole.length := List.length_pos_iff.mpr nonempty
  rw [List.append_assoc, scanMantissa_digits {} whole _ first readWhole]
  cases fraction with
  | nil =>
      obtain rfl : 0 = second := Option.some.inj readFraction
      simpa [Scan.run, positive] using stops
  | cons c others =>
      have point : ('.' = '_') = False := by simp
      rw [if_neg (List.cons_ne_nil c others), List.cons_append, scanMantissa]
      simp only [point, if_false, if_true, Scan.run, Bool.false_eq_true]
      rw [scanMantissa_digits _ (c :: others) rest second readFraction]
      simpa [Scan.run, positive] using stops

/-- Reading a printed numeral gives its digits as the mantissa. -/
theorem readFloat_scientific {whole fraction : List Char} {first second : Nat} (power : Option Int)
    (readWhole : readDigits whole = some first) (readFraction : readDigits fraction = some second)
    (wholeDigits : ∀ c ∈ whole, c.isDigit = true) (fractionDigits : ∀ c ∈ fraction, c.isDigit = true)
    (nonempty : whole ≠ []) :
    readFloat (scientific whole fraction power) = some ⟨false, false,
      first * 10 ^ fraction.length + second, power.getD 0 - fraction.length⟩ := by
  have characters := scientific_characters power wholeDigits fractionDigits
  have sign : takeSign (scientific whole fraction power) = (false, scientific whole fraction power) := by
    obtain ⟨c, rest, split⟩ := List.exists_cons_of_ne_nil nonempty
    rw [scientific, split, List.cons_append, List.cons_append]
    exact takeSign_digit _ (wholeDigits c (by simp [split]))
  have stops : scanMantissa false {} (scientific whole fraction power) =
      (⟨first * 10 ^ fraction.length + second, fraction.length, !fraction.isEmpty, true, false⟩,
        powerText power) := by
    apply scanMantissa_scientific _ readWhole readFraction nonempty
    cases power <;> simp [powerText, scanMantissa, mantissaDigit, digitValue]
  unfold readFloat
  simp only [sign, takeHexPrefix_plain _ characters, stops]
  cases power with
  | none => simp [powerText]
  | some power => simp [powerText, readExponent_signedDigits]

/-- A text that starts with a digit is no special name. -/
theorem special_digit {c : Char} (rest : List Char) (isDigit : c.isDigit = true) :
    special (c :: rest) = none := by
  have different : ∀ other : Char, other.isDigit = false → c.toLower ≠ other := by
    intro other notDigit same
    rw [digit_toLower isDigit] at same
    rw [same, notDigit] at isDigit
    cases isDigit
  have letters := different 'i' rfl
  have missing := different 'n' rfl
  simp [special, takeSign_digit rest isDigit, letters, missing]

/-- A text prints a mantissa and an exponent when its digits read as them. -/
def Prints (text : String) (mantissa : Nat) (exponent : Int) : Prop :=
  ∃ whole fraction first second power, text = String.ofList (scientific whole fraction power) ∧
    readDigits whole = some first ∧ readDigits fraction = some second ∧
    (∀ c ∈ whole, c.isDigit = true) ∧ (∀ c ∈ fraction, c.isDigit = true) ∧ whole ≠ [] ∧
    first * 10 ^ fraction.length + second = mantissa ∧ power.getD 0 - fraction.length = exponent

theorem zeros_isDigit (count : Nat) : ∀ c ∈ List.replicate count '0', c.isDigit = true := by
  intro c member
  rw [List.eq_of_mem_replicate member]
  rfl

theorem exists_readDigits (digits : List Char) (allDigits : ∀ c ∈ digits, c.isDigit = true) :
    ∃ value, readDigits digits = some value := by
  induction digits using List.reverseRecOn with
  | nil => exact ⟨0, rfl⟩
  | append_singleton digits c inductionHypothesis =>
      obtain ⟨value, read⟩ := inductionHypothesis fun other member =>
        allDigits other (List.mem_append_left _ member)
      have last := allDigits c (by simp)
      exact ⟨10 * value + (c.toNat - 48), by simp [readDigits_concat, read, digitValue, last]⟩

/-- The digits of a number split at any place into two numbers. -/
theorem readDigits_split {text : List Char} {value : Nat} (place : Nat)
    (read : readDigits text = some value) (digits : ∀ c ∈ text, c.isDigit = true) :
    ∃ first second, readDigits (text.take place) = some first ∧
      readDigits (text.drop place) = some second ∧
      first * 10 ^ (text.drop place).length + second = value := by
  obtain ⟨first, readFirst⟩ := exists_readDigits (text.take place) fun c member =>
    digits c (List.mem_of_mem_take member)
  obtain ⟨second, readSecond⟩ := exists_readDigits (text.drop place) fun c member =>
    digits c (List.mem_of_mem_drop member)
  have joined := readDigits_append _ _ first second readFirst readSecond
  rw [List.take_append_drop, read] at joined
  exact ⟨first, second, readFirst, readSecond, (Option.some.inj joined).symm⟩

/-- A decimal prints its coefficient and its exponent. -/
theorem PositiveDecimal.str_prints (decimal : PositiveDecimal) :
    Prints decimal.str decimal.coefficient decimal.exponent := by
  have read := readDigits_decimalDigits decimal.coefficient
  have digits := decimalDigits_isDigit decimal.coefficient
  have length := decimalDigits_length decimal.coefficient
  have nonempty : 0 < (decimalDigits decimal.coefficient).length := by omega
  unfold str
  simp only
  generalize decimalDigits decimal.coefficient = text at read digits length nonempty
  generalize leftdigitsIs : decimal.exponent + (text.length : Int) = leftdigits
  generalize dotplaceIs : (if decimal.exponent ≤ 0 ∧ -6 < leftdigits then leftdigits else 1) = dotplace
  have power : (if leftdigits = dotplace then none else some (leftdigits - dotplace)).getD 0 =
      leftdigits - dotplace := by
    split
    · simp; omega
    · rfl
  generalize (if leftdigits = dotplace then none else some (leftdigits - dotplace)) = shift at power
  split
  next small =>
    refine ⟨['0'], List.replicate (-dotplace).toNat '0' ++ text, 0, decimal.coefficient, shift, rfl,
      by decide, ?_, List.forall_mem_singleton.mpr rfl, ?_, by simp, by simp, ?_⟩
    · rw [readDigits_append _ _ _ _ (readDigits_zeros _) read]
      simp
    · intro c member
      rcases List.mem_append.mp member with inside | inside
      · exact zeros_isDigit _ c inside
      · exact digits c inside
    · rw [power, List.length_append, List.length_replicate]
      omega
  next large =>
    have within : dotplace ≤ text.length := by
      split at dotplaceIs <;> omega
    split
    next fits =>
      have exact : (dotplace - text.length).toNat = 0 := by omega
      rw [exact, List.replicate_zero, List.append_nil]
      refine ⟨text, [], decimal.coefficient, 0, shift, rfl, read, by decide, digits, by simp,
        List.length_pos_iff.mp nonempty, by simp, ?_⟩
      rw [power, List.length_nil]
      omega
    next splits =>
      obtain ⟨first, second, readFirst, readSecond, value⟩ := readDigits_split dotplace.toNat read digits
      refine ⟨text.take dotplace.toNat, text.drop dotplace.toNat, first, second, shift, rfl, readFirst,
        readSecond, ?_, ?_, ?_, value, ?_⟩
      · intro c member
        exact digits c (List.mem_of_mem_take member)
      · intro c member
        exact digits c (List.mem_of_mem_drop member)
      · rw [← List.length_pos_iff, List.length_take]
        omega
      · rw [power, List.length_drop]
        omega

/-- The chaincode reads a printed decimal as the nearest float, and refuses it beyond the range. -/
theorem PositiveDecimal.parseFloat_str (decimal : PositiveDecimal) :
    parseFloat decimal.str =
      if decimal.toFloat.isFinite then .ok decimal.toFloat
      else .error (.errorf "strconv.ParseFloat: parsing %q: value out of range" [.text decimal.str]) := by
  obtain ⟨whole, fraction, first, second, power, printed, readWhole, readFraction, wholeDigits,
    fractionDigits, nonempty, mantissa, exponent⟩ := decimal.str_prints
  have read := readFloat_scientific power readWhole readFraction wholeDigits fractionDigits nonempty
  have notSpecial : special (scientific whole fraction power) = none := by
    obtain ⟨c, rest, split⟩ := List.exists_cons_of_ne_nil nonempty
    rw [scientific, split, List.cons_append, List.cons_append]
    exact special_digit _ (wholeDigits c (by simp [split]))
  have value : (Numeral.mk false false decimal.coefficient decimal.exponent).toFloat = decimal.toFloat := by
    rfl
  unfold parseFloat
  rw [printed, String.toList_ofList, notSpecial, read, mantissa, exponent]
  simp only [value]

end Pxtly.Foundation
