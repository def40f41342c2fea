/-
This file gives Python's `json.loads` as an automaton over the characters of a text.
-/

import Mathlib
import Pxtly.Foundation.QuotedTexts

namespace Pxtly.Foundation

section Words

/-- These are the states of the literal of a number. -/
inductive NumberPhase where
  | start
  | minus
  | zero
  | whole
  | point
  | fraction
  | power
  | powerSign
  | powerDigits
  deriving DecidableEq, Repr

/-- No digit stands behind a leading zero. -/
def NumberPhase.step : NumberPhase → Char → Option NumberPhase
  | .start, c => if c = '-' then some .minus else if c = '0' then some .zero else if c.isDigit then some .whole else none
  | .minus, c => if c = '0' then some .zero else if c.isDigit then some .whole else none
  | .zero, c => if c = '.' then some .point else if c ∈ ['e', 'E'] then some .power else none
  | .whole, c =>
      if c.isDigit then some .whole else if c = '.' then some .point else if c ∈ ['e', 'E'] then some .power else none
  | .point, c => if c.isDigit then some .fraction else none
  | .fraction, c => if c.isDigit then some .fraction else if c ∈ ['e', 'E'] then some .power else none
  | .power, c =>
      if c ∈ ['+', '-'] then some .powerSign else if c.isDigit then some .powerDigits else none
  | .powerSign, c => if c.isDigit then some .powerDigits else none
  | .powerDigits, c => if c.isDigit then some .powerDigits else none

variable (readFloat : String → Float)

/-- The literal of an integer is digits behind at most one sign. -/
def readInteger : List Char → Int
  | '-' :: digits => -(Nat.ofDigitChars 10 digits 0 : Int)
  | digits => Nat.ofDigitChars 10 digits 0

/-- An integer has at most 4300 digits. -/
def readNumber (word : List Char) : Option Json :=
  match word.foldlM NumberPhase.step .start with
  | some .zero => some (.integer (readInteger word))
  | some .whole => if (word.filter Char.isDigit).length ≤ 4300 then some (.integer (readInteger word)) else none
  | some .fraction => some (.number (readFloat (String.ofList word)))
  | some .powerDigits => some (.number (readFloat (String.ofList word)))
  | _ => none

/-- Three of the constants are no JSON, and Python reads them. -/
def readWord (word : List Char) : Option Json :=
  if word = "null".toList then some .null
  else if word = "true".toList then some (.bool true)
  else if word = "false".toList then some (.bool false)
  else if word ∈ ["NaN".toList, "Infinity".toList, "-Infinity".toList] then some (.number (readFloat (String.ofList word)))
  else readNumber readFloat word

def isWordChar (c : Char) : Bool := c.isAlphanum || c ∈ ['+', '-', '.']

end Words

section Reader

/-- An open container has the values before the one that is read. -/
inductive Frame where
  | array (items : List Json)
  | object (members : List (String × Json)) (key : String)

inductive Phase where
  | value
  | text (quoted : QuotedText)
  | word (letters : List Char)
  | key (members : List (String × Json))
  | keyText (members : List (String × Json)) (quoted : QuotedText)
  | colon (members : List (String × Json)) (key : String)
  | after (value : Json)

/-- The innermost container comes first. -/
structure Loader where
  stack : List Frame := []
  phase : Phase := .value

def isJsonSpace (c : Char) : Bool := c ∈ [' ', '\t', '\n', '\r']

/-- Behind a value, its container goes on or ends. -/
def Loader.afterValue (stack : List Frame) (value : Json) (c : Char) : Option Loader :=
  if isJsonSpace c then some ⟨stack, .after value⟩
  else match stack with
    | [] => none
    | .array items :: outer =>
        if c = ',' then some ⟨.array (items ++ [value]) :: outer, .value⟩
        else if c = ']' then some ⟨outer, .after (.array (items ++ [value]))⟩
        else none
    | .object members key :: outer =>
        if c = ',' then some ⟨outer, .key (members ++ [(key, value)])⟩
        else if c = '\x7d' then some ⟨outer, .after (.object (members ++ [(key, value)]))⟩
        else none

variable (readFloat : String → Float)

/-- A container is closed at once only while it is empty. -/
def Loader.feed (loader : Loader) (c : Char) : Option Loader :=
  match loader.phase with
  | .value =>
      if isJsonSpace c then some loader
      else if c = '"' then some ⟨loader.stack, .text {}⟩
      else if c = '\x7b' then some ⟨loader.stack, .key []⟩
      else if c = '[' then some ⟨.array [] :: loader.stack, .value⟩
      else if c = ']' then
        match loader.stack with
        | .array [] :: outer => some ⟨outer, .after (.array [])⟩
        | _ => none
      else if isWordChar c then some ⟨loader.stack, .word [c]⟩
      else none
  | .text quoted =>
      if quoted.closes c then
        if quoted.high = none then some ⟨loader.stack, .after (.string (String.ofList quoted.text))⟩ else none
      else (quoted.feed c).map fun next => ⟨loader.stack, .text next⟩
  | .word letters =>
      if isWordChar c then some ⟨loader.stack, .word (letters ++ [c])⟩
      else (readWord readFloat letters).bind fun value => Loader.afterValue loader.stack value c
  | .key members =>
      if isJsonSpace c then some loader
      else if c = '"' then some ⟨loader.stack, .keyText members {}⟩
      else if c = '\x7d' && members.isEmpty then some ⟨loader.stack, .after (.object [])⟩
      else none
  | .keyText members quoted =>
      if quoted.closes c then
        if quoted.high = none then some ⟨loader.stack, .colon members (String.ofList quoted.text)⟩ else none
      else (quoted.feed c).map fun next => ⟨loader.stack, .keyText members next⟩
  | .colon members key =>
      if isJsonSpace c then some loader
      else if c = ':' then some ⟨.object members key :: loader.stack, .value⟩
      else none
  | .after value => Loader.afterValue loader.stack value c

def Loader.finish (loader : Loader) : Option Json :=
  match loader.stack, loader.phase with
  | [], .after value => some value
  | [], .word letters => readWord readFloat letters
  | _, _ => none

/-- This is `json.loads`; it raises an error where the result is missing. -/
def loads (text : List Char) : Option Json :=
  (text.foldlM (Loader.feed readFloat) {}).bind (Loader.finish readFloat)

end Reader

section Digits

/-- These characters go on behind the digits of a number. -/
def hasFraction : List Char → Bool
  | '.' :: c :: _ => c.isDigit
  | mark :: sign :: rest =>
      mark ∈ ['e', 'E'] && (sign.isDigit || (sign ∈ ['+', '-'] && (rest.head?.map Char.isDigit).getD false))
  | _ => false

/-- Python converts the digits as soon as they end, whatever the rest of the word is. -/
def isOverlong (word : List Char) : Bool :=
  let body := if word.head? = some '-' then word.tail else word
  let digits := body.takeWhile Char.isDigit
  4300 < digits.length && digits.head? ≠ some '0' && !hasFraction (body.dropWhile Char.isDigit)

def Loader.isOverlong (loader : Loader) : Bool :=
  match loader.phase with
  | .word letters => Foundation.isOverlong letters
  | _ => false

variable (readFloat : String → Float)

/-- The error of an integer that is too long is not that of a text that is no JSON. -/
def refusesDigits (loader : Loader) : List Char → Bool
  | [] => (loader.finish readFloat).isNone && loader.isOverlong
  | c :: rest =>
      match loader.feed readFloat c with
      | some next => refusesDigits next rest
      | none => loader.isOverlong

variable {readFloat}

theorem refusesDigits_of_finished {loader : Loader} {text : List Char} {value : Json}
    (read : (text.foldlM (Loader.feed readFloat) loader).bind (Loader.finish readFloat) = some value) :
    refusesDigits readFloat loader text = false := by
  induction text generalizing loader with
  | nil =>
      have finished : loader.finish readFloat = some value := read
      rw [refusesDigits, finished]
      rfl
  | cons c rest inductionHypothesis =>
      obtain ⟨last, run, finished⟩ := Option.bind_eq_some_iff.mp read
      obtain ⟨next, fed, later⟩ := foldlM_cons_eq_some.mp run
      rw [refusesDigits, fed]
      exact inductionHypothesis (Option.bind_eq_some_iff.mpr ⟨last, later, finished⟩)

theorem refusesDigits_of_loads {text : List Char} {value : Json}
    (read : loads readFloat text = some value) : refusesDigits readFloat {} text = false :=
  refusesDigits_of_finished read

end Digits

section Structure

variable {readFloat : String → Float}

/-- Only these characters stand outside strings. -/
def isStructural (c : Char) : Bool :=
  isJsonSpace c || c ∈ ['"', '\x7b', '[', ']', '\x7d', ',', ':'] || isWordChar c

theorem isStructural_ascii {c : Char} (structural : isStructural c = true) : c.toNat < 128 := by
  have marks : ∀ d ∈ [' ', '\t', '\n', '\r'] ++ ['"', '\x7b', '[', ']', '\x7d', ',', ':'] ++ ['+', '-', '.'],
      d.toNat < 128 := by simp
  simp only [isStructural, isJsonSpace, isWordChar, Bool.or_eq_true, decide_eq_true_eq] at structural
  rcases structural with (space | mark) | alphanumeric | sign
  · exact marks c (List.mem_append_left _ (List.mem_append_left _ space))
  · exact marks c (List.mem_append_left _ (List.mem_append_right _ mark))
  · simp only [Char.isAlphanum, Char.isAlpha, Char.isUpper, Char.isLower, Char.isDigit, Bool.or_eq_true,
      Bool.and_eq_true, decide_eq_true_eq, UInt32.le_iff_toNat_le, ge_iff_le] at alphanumeric
    have code : c.val.toNat = c.toNat := rfl
    have upper : 'Z'.val.toNat = 90 := rfl
    have lower : 'z'.val.toNat = 122 := rfl
    have digit : '9'.val.toNat = 57 := rfl
    omega
  · exact marks c (List.mem_append_right _ sign)

theorem afterValue_alien {c : Char} (alien : isStructural c = false) (stack : List Frame) (value : Json) :
    Loader.afterValue stack value c = none := by
  simp only [isStructural, Bool.or_eq_false_iff, decide_eq_false_iff_not, List.mem_cons, not_or] at alien
  obtain ⟨⟨space, _, brace, bracket, close, last, comma, colon, _⟩, word⟩ := alien
  unfold Loader.afterValue
  simp only [space, Bool.false_eq_true, if_false]
  split <;> simp [comma, close, last]

/-- Between strings, any other character is an error. -/
theorem feed_alien {c : Char} (alien : isStructural c = false) (stack : List Frame) {phase : Phase}
    (notText : ∀ quoted, phase ≠ .text quoted) (notKey : ∀ members quoted, phase ≠ .keyText members quoted) :
    Loader.feed readFloat ⟨stack, phase⟩ c = none := by
  have behind := afterValue_alien alien stack
  simp only [isStructural, Bool.or_eq_false_iff, decide_eq_false_iff_not, List.mem_cons, not_or] at alien
  obtain ⟨⟨space, quote, brace, bracket, close, last, comma, colon, _⟩, word⟩ := alien
  cases phase with
  | value => simp [Loader.feed, space, quote, brace, bracket, close, word]
  | text quoted => exact absurd rfl (notText quoted)
  | word letters => simp [Loader.feed, word, behind]
  | key members => simp [Loader.feed, space, quote, last]
  | keyText members quoted => exact absurd rfl (notKey members quoted)
  | colon members name => simp [Loader.feed, space, colon]
  | after read => exact behind read

theorem not_closes {c : Char} (other : c ≠ '"') (quoted : QuotedText) : quoted.closes c = false := by
  simp [QuotedText.closes, other]

/-- A string and a key go on in the same way over characters that are no quotes. -/
theorem foldlM_feed_quoted {phase : QuotedText → Phase} {stack : List Frame}
    (goesOn : ∀ quoted c, c ≠ '"' → Loader.feed readFloat ⟨stack, phase quoted⟩ c =
      (quoted.feed c).map fun next => ⟨stack, phase next⟩) {front : List Char} (unquoted : '"' ∉ front)
    (quoted : QuotedText) : front.foldlM (Loader.feed readFloat) ⟨stack, phase quoted⟩ =
      (front.foldlM QuotedText.feed quoted).map fun next => ⟨stack, phase next⟩ := by
  induction front generalizing quoted with
  | nil => rfl
  | cons c front inductionHypothesis =>
      rw [List.mem_cons, not_or] at unquoted
      rw [List.foldlM_cons, List.foldlM_cons, goesOn quoted c (Ne.symm unquoted.1)]
      cases fed : quoted.feed c with
      | none => rfl
      | some next => exact inductionHypothesis unquoted.2 next

theorem feed_text (stack : List Frame) (quoted : QuotedText) (c : Char) (other : c ≠ '"') :
    Loader.feed readFloat ⟨stack, .text quoted⟩ c = (quoted.feed c).map fun next => ⟨stack, .text next⟩ := by
  simp [Loader.feed, not_closes other]

theorem feed_keyText (stack : List Frame) (members : List (String × Json)) (quoted : QuotedText) (c : Char)
    (other : c ≠ '"') : Loader.feed readFloat ⟨stack, .keyText members quoted⟩ c =
      (quoted.feed c).map fun next => ⟨stack, .keyText members next⟩ := by
  simp [Loader.feed, not_closes other]

end Structure

section Objects

variable {readFloat : String → Float}

/-- A text that begins with a quote is one string and spaces. -/
inductive Loader.TopString : Loader → Prop where
  | inside (quoted : QuotedText) : Loader.TopString ⟨[], .text quoted⟩
  | behind (value : String) : Loader.TopString ⟨[], .after (.string value)⟩

theorem Loader.TopString.feed {loader next : Loader} {c : Char} (top : loader.TopString)
    (fed : loader.feed readFloat c = some next) : next.TopString := by
  cases top with
  | inside quoted =>
      simp only [Loader.feed] at fed
      split_ifs at fed with closes whole
      · obtain rfl := Option.some.inj fed
        exact .behind _
      · obtain ⟨read, _, rfl⟩ := Option.map_eq_some_iff.mp fed
        exact .inside read
  | behind value =>
      simp only [Loader.feed, Loader.afterValue] at fed
      split_ifs at fed with space
      obtain rfl := Option.some.inj fed
      exact .behind value

theorem Loader.TopString.run {loader last : Loader} {text : List Char} (top : loader.TopString)
    (run : text.foldlM (Loader.feed readFloat) loader = some last) : last.TopString :=
  foldlM_keeps (fun _ _ _ top fed => top.feed fed) top run

/-- The text of an object begins with no quote. -/
theorem head_of_loads_object {text : List Char} {members : List (String × Json)}
    (read : loads readFloat text = some (.object members)) : ∃ c rest, text = c :: rest ∧ c ≠ '"' := by
  cases text with
  | nil => cases read
  | cons c rest =>
      refine ⟨c, rest, rfl, ?_⟩
      rintro rfl
      obtain ⟨last, run, finished⟩ := Option.bind_eq_some_iff.mp read
      have top : Loader.TopString last := (Loader.TopString.inside {}).run run
      cases top with
      | inside quoted => cases finished
      | behind value => cases finished

/-- A quote leaves no object behind it. -/
theorem finish_of_quote {loader last : Loader} {members : List (String × Json)}
    (fed : loader.feed readFloat '"' = some last) : last.finish readFloat ≠ some (.object members) := by
  obtain ⟨stack, phase⟩ := loader
  cases phase with
  | value =>
      obtain rfl := Option.some.inj fed
      cases stack <;> exact nofun
  | text quoted =>
      simp only [Loader.feed] at fed
      split_ifs at fed with closes whole
      · obtain rfl := Option.some.inj fed
        cases stack <;> exact nofun
      · obtain ⟨read, _, rfl⟩ := Option.map_eq_some_iff.mp fed
        cases stack <;> exact nofun
  | word letters =>
      obtain ⟨value, _, rest⟩ := Option.bind_eq_some_iff.mp fed
      cases stack with
      | nil => cases rest
      | cons frame outer => cases frame <;> cases rest
  | key members =>
      obtain rfl := Option.some.inj fed
      cases stack <;> exact nofun
  | keyText members quoted =>
      simp only [Loader.feed] at fed
      split_ifs at fed with closes whole
      · obtain rfl := Option.some.inj fed
        cases stack <;> exact nofun
      · obtain ⟨read, _, rfl⟩ := Option.map_eq_some_iff.mp fed
        cases stack <;> exact nofun
  | colon members name => cases fed
  | after value =>
      cases stack with
      | nil => cases fed
      | cons frame outer => cases frame <;> cases fed

/-- The text of an object ends with no quote. -/
theorem last_of_loads_object {text : List Char} {members : List (String × Json)}
    (read : loads readFloat text = some (.object members)) : ∃ front c, text = front ++ [c] ∧ c ≠ '"' := by
  rcases List.eq_nil_or_concat' text with rfl | ⟨front, c, rfl⟩
  · cases read
  · refine ⟨front, c, rfl, ?_⟩
    rintro rfl
    rw [loads, List.foldlM_append] at read
    obtain ⟨last, run, finished⟩ := Option.bind_eq_some_iff.mp read
    obtain ⟨middle, _, rest⟩ := Option.bind_eq_some_iff.mp run
    obtain ⟨next, fed, same⟩ := Option.bind_eq_some_iff.mp rest
    obtain rfl := Option.some.inj same
    exact finish_of_quote fed finished

end Objects

end Pxtly.Foundation
