/-
This file gives the texts that Python's `json.dumps` writes by default, and that `json.loads` reads them back.
-/

import Pxtly.Foundation.JsonReader

namespace Pxtly.Foundation

section Writer

/-- `repr` writes a finite float as a word, and `float` reads this word as that float. -/
structure FloatTexts where
  write : Float → String
  read : String → Float
  word : ∀ value : Float, value.isFinite = true → ∀ c ∈ (write value).toList, isWordChar c = true
  read_write : ∀ value : Float, value.isFinite = true → readWord read (write value).toList = some (.number value)

mutual

/-- Every literal of the value passes the test. -/
def Json.every (test : Json → Bool) : Json → Bool
  | .array items => everyItem test items
  | .object members => everyMember test members
  | literal => test literal

def everyItem (test : Json → Bool) : List Json → Bool
  | [] => true
  | item :: rest => item.every test && everyItem test rest

def everyMember (test : Json → Bool) : List (String × Json) → Bool
  | [] => true
  | (_, value) :: rest => value.every test && everyMember test rest

end

/-- Python refuses to write an integer of more than 4300 digits. -/
def Json.digitsFit : Json → Bool
  | .integer value => ((toString value).toList.filter Char.isDigit).length ≤ 4300
  | _ => true

/-- No float outside the numbers is JSON. -/
def Json.isNumeric : Json → Bool
  | .number value => value.isFinite
  | _ => true

def Json.written (literal : Json) : Bool := literal.digitsFit && literal.isNumeric

mutual

theorem Json.every_and (first second : Json → Bool) : (value : Json) →
    value.every (fun literal => first literal && second literal) = (value.every first && value.every second)
  | .array items => everyItem_and first second items
  | .object members => everyMember_and first second members
  | .null => rfl
  | .bool _ => rfl
  | .integer _ => rfl
  | .number _ => rfl
  | .string _ => rfl

theorem everyItem_and (first second : Json → Bool) : (items : List Json) →
    everyItem (fun literal => first literal && second literal) items = (everyItem first items && everyItem second items)
  | [] => rfl
  | item :: rest => by
      rw [everyItem, everyItem, everyItem, Json.every_and first second item, everyItem_and first second rest]
      ac_rfl

theorem everyMember_and (first second : Json → Bool) : (members : List (String × Json)) →
    everyMember (fun literal => first literal && second literal) members =
      (everyMember first members && everyMember second members)
  | [] => rfl
  | (_, value) :: rest => by
      rw [everyMember, everyMember, everyMember, Json.every_and first second value, everyMember_and first second rest]
      ac_rfl

end

variable (floats : FloatTexts)

mutual

/-- This is `json.dumps` with its default separators. -/
def dumpsSpaced : Json → String
  | .null => "null"
  | .bool value => if value then "true" else "false"
  | .integer value => toString value
  | .number value => floats.write value
  | .string value => dumpsText value
  | .array items => "[" ++ ", ".intercalate (spacedItems items) ++ "]"
  | .object members => "\x7b" ++ ", ".intercalate (spacedMembers members) ++ "\x7d"

def spacedItems : List Json → List String
  | [] => []
  | item :: rest => dumpsSpaced item :: spacedItems rest

def spacedMembers : List (String × Json) → List String
  | [] => []
  | (key, value) :: rest => memberText (key, dumpsSpaced value) :: spacedMembers rest

end

/-- This is `json.dumps` with an indentation of two, where no member is a container. -/
def dumpsIndented (members : List (String × Json)) : String :=
  if members.isEmpty then "\x7b\x7d" else "\x7b\n  " ++ ",\n  ".intercalate (spacedMembers floats members) ++ "\n\x7d"

/-- `json` also writes the floats that are no numbers as words, and it reads them. -/
structure FloatTexts.Total : Prop where
  word : ∀ value : Float, ∀ c ∈ (floats.write value).toList, isWordChar c = true
  read_write : ∀ value : Float, readWord floats.read (floats.write value).toList = some (.number value)

end Writer

section Words

variable {readFloat : String → Float}

/-- A literal ends only where the next character does, so it may still be read as a word. -/
inductive Loader.Holds (readFloat : String → Float) (stack : List Frame) (value : Json) : Loader → Prop where
  | after : Loader.Holds readFloat stack value ⟨stack, .after value⟩
  | word {letters : List Char} (read : readWord readFloat letters = some value) :
      Loader.Holds readFloat stack value ⟨stack, .word letters⟩

variable {stack : List Frame} {value : Json} {loader : Loader}

theorem Loader.Holds.feed (holds : loader.Holds readFloat stack value) {c : Char} (mark : isWordChar c = false) :
    loader.feed readFloat c = Loader.afterValue stack value c := by
  cases holds with
  | after => rfl
  | word read => simp [Loader.feed, mark, read]

theorem Loader.Holds.finish (holds : loader.Holds readFloat [] value) : loader.finish readFloat = some value := by
  cases holds with
  | after => rfl
  | word read => exact read

theorem feed_letters {letters word : List Char} (letter : ∀ c ∈ word, isWordChar c = true) :
    word.foldlM (Loader.feed readFloat) ⟨stack, .word letters⟩ = some ⟨stack, .word (letters ++ word)⟩ := by
  induction word generalizing letters with
  | nil => rw [List.append_nil, List.foldlM_nil]; rfl
  | cons c word inductionHypothesis =>
      have fed : Loader.feed readFloat ⟨stack, .word letters⟩ c = some ⟨stack, .word (letters ++ [c])⟩ := by
        simp [Loader.feed, letter c List.mem_cons_self]
      rw [List.foldlM_cons, fed, Option.bind_eq_bind, Option.bind_some,
        inductionHypothesis fun d member => letter d (List.mem_cons_of_mem _ member), List.append_assoc]
      rfl

/-- No word begins with a space, a quote or a bracket. -/
theorem feed_value_word {c : Char} (letter : isWordChar c = true) :
    Loader.feed readFloat ⟨stack, .value⟩ c = some ⟨stack, .word [c]⟩ := by
  have others : ∀ d ∈ [' ', '\t', '\n', '\r', '"', '\x7b', '[', ']'], isWordChar d = false := by simp; decide
  have apart {d : Char} (member : d ∈ [' ', '\t', '\n', '\r', '"', '\x7b', '[', ']']) : c ≠ d := by
    rintro rfl
    rw [others c member] at letter
    cases letter
  have space : isJsonSpace c = false := by simp [isJsonSpace, apart]
  simp [Loader.feed, space, letter, apart]

/-- A word is read as the value that it stands for. -/
theorem run_word {word : List Char} (letter : ∀ c ∈ word, isWordChar c = true)
    (read : readWord readFloat word = some value) :
    ∃ loader, word.foldlM (Loader.feed readFloat) ⟨stack, .value⟩ = some loader ∧
      loader.Holds readFloat stack value := by
  cases word with
  | nil => cases read
  | cons c word =>
      refine ⟨⟨stack, .word (c :: word)⟩, ?_, .word read⟩
      rw [List.foldlM_cons, feed_value_word (letter c List.mem_cons_self), Option.bind_eq_bind, Option.bind_some]
      exact feed_letters fun d member => letter d (List.mem_cons_of_mem _ member)

end Words

section Integers

variable {readFloat : String → Float}

theorem step_digit {phase : NumberPhase} (phased : phase = .start ∨ phase = .minus) {digit : Nat} (small : digit < 10) :
    phase.step digit.digitChar = some (if digit = 0 then .zero else .whole) := by
  have sign : digit.digitChar ≠ '-' := Nat.digitChar_ne '-' (by decide)
  have isDigit : digit.digitChar.isDigit = true := by simpa [Nat.isDigit_digitChar] using small
  rcases phased with rfl | rfl <;> by_cases nothing : digit = 0 <;> simp [NumberPhase.step, sign, isDigit, nothing]

/-- The digits of a number begin with a zero only where they are a zero. -/
theorem run_toDigits {phase : NumberPhase} (phased : phase = .start ∨ phase = .minus) (value : Nat) :
    (Nat.toDigits 10 value).foldlM NumberPhase.step phase = some (if value = 0 then .zero else .whole) := by
  induction value using Nat.strongRecOn with
  | ind value inductionHypothesis =>
      rw [Nat.toDigits_eq_if (by decide)]
      by_cases small : value < 10
      · rw [if_pos small, List.foldlM_cons, step_digit phased small]
        rfl
      · have front := inductionHypothesis (value / 10) (by omega)
        have isDigit : (value % 10).digitChar.isDigit = true := by
          simpa [Nat.isDigit_digitChar] using Nat.mod_lt value (by decide)
        rw [if_neg small, List.foldlM_append, front, if_neg (by omega), if_neg (by omega)]
        show (NumberPhase.step .whole (value % 10).digitChar).bind some = some .whole
        simp [NumberPhase.step, isDigit]

theorem isDigit_toDigits (value : Nat) : ∀ c ∈ Nat.toDigits 10 value, c.isDigit = true :=
  fun _ member => Nat.isDigit_of_mem_toDigits (by decide) (by decide) member

/-- No digit, sign or point is the letter of a constant. -/
theorem readWord_of_step {c : Char} {word : List Char} (first : c.isDigit = true ∨ c = '-')
    (bounded : c :: word ≠ "-Infinity".toList) : readWord readFloat (c :: word) = readNumber readFloat (c :: word) := by
  have letters : ∀ d ∈ ['n', 't', 'f', 'N', 'I'], d.isDigit = false ∧ d ≠ '-' := by simp [Char.isDigit]
  have apart {d : Char} (member : d ∈ ['n', 't', 'f', 'N', 'I']) : c ≠ d := by
    rintro rfl
    rcases first with digit | sign
    · rw [(letters c member).1] at digit
      cases digit
    · exact (letters c member).2 sign
  have texts : "null".toList = 'n' :: "ull".toList ∧ "true".toList = 't' :: "rue".toList ∧
      "false".toList = 'f' :: "alse".toList ∧ "NaN".toList = 'N' :: "aN".toList ∧
      "Infinity".toList = 'I' :: "nfinity".toList := by decide
  obtain ⟨null, true_, false_, notNumber, infinity⟩ := texts
  have constants : c :: word ∉ ["NaN".toList, "Infinity".toList, "-Infinity".toList] := by
    rw [notNumber, infinity]
    simp only [List.mem_cons, List.not_mem_nil, or_false, not_or]
    exact ⟨by simp [apart], by simp [apart], bounded⟩
  unfold readWord
  rw [if_neg (by rw [null]; simp [apart]), if_neg (by rw [true_]; simp [apart]), if_neg (by rw [false_]; simp [apart]),
    if_neg constants]

theorem toList_ofNat (value : Nat) : (toString (Int.ofNat value)).toList = Nat.toDigits 10 value := Nat.toList_repr

theorem toList_negSucc (value : Nat) : (toString (Int.negSucc value)).toList = '-' :: Nat.toDigits 10 (value + 1) := by
  have text : toString (Int.negSucc value) = "-" ++ (value + 1).repr := rfl
  rw [text, String.toList_append, Nat.toList_repr]
  rfl

theorem ne_infinity_of_digits {c : Char} {word : List Char} (digits : ∀ d ∈ word, d.isDigit = true) :
    c :: word ≠ "-Infinity".toList := by
  intro same
  have texts : c :: word = '-' :: 'I' :: "nfinity".toList := same
  have digit := digits 'I' ((List.cons.inj texts).2 ▸ List.mem_cons_self)
  exact absurd digit (by decide)

/-- An integer is written as a word that is read back. -/
theorem readWord_integer {value : Int} (written : (Json.integer value).written = true) :
    readWord readFloat (toString value).toList = some (.integer value) := by
  rw [Json.written, Bool.and_eq_true_iff, Json.digitsFit, decide_eq_true_iff] at written
  replace written := written.1
  cases value with
  | ofNat value =>
      rw [toList_ofNat] at written ⊢
      obtain ⟨c, word, digits⟩ := List.exists_cons_of_ne_nil (Nat.toDigits_ne_nil (n := value) (b := 10))
      have isDigit := isDigit_toDigits value
      have run := run_toDigits (.inl rfl) value
      have number := Nat.ofDigitChars_ten_toDigits (n := value)
      rw [digits] at written isDigit run number ⊢
      have sign : c ≠ '-' := by
        rintro rfl
        exact absurd (isDigit _ List.mem_cons_self) (by decide)
      have read : readInteger (c :: word) = (value : Int) := by
        unfold readInteger
        split
        · next same => exact absurd (List.cons.inj same).1 sign
        · exact congrArg Int.ofNat number
      have others : ∀ d ∈ word, d.isDigit = true := fun d member => isDigit d (List.mem_cons_of_mem _ member)
      rw [readWord_of_step (.inl (isDigit _ List.mem_cons_self)) (ne_infinity_of_digits others), readNumber, run, read]
      by_cases nothing : value = 0
      · rw [if_pos nothing]
        rfl
      · rw [if_neg nothing]
        exact if_pos written
  | negSucc value =>
      rw [toList_negSucc] at written ⊢
      have run : ('-' :: Nat.toDigits 10 (value + 1)).foldlM NumberPhase.step .start = some .whole :=
        (run_toDigits (.inr rfl) (value + 1)).trans (by rw [if_neg (Nat.succ_ne_zero value)])
      have read : readInteger ('-' :: Nat.toDigits 10 (value + 1)) = Int.negSucc value := by
        rw [readInteger, Nat.ofDigitChars_ten_toDigits]
        rfl
      rw [readWord_of_step (.inr rfl) (ne_infinity_of_digits (isDigit_toDigits _)), readNumber, run, read]
      exact if_pos written

theorem written_integer {value count : Nat} (positive : 0 < count) (fits : count ≤ 4300) (small : value < 10 ^ count) :
    (Json.integer (Int.ofNat value)).written = true := by
  have length := (Nat.length_toDigits_le_iff (by decide) positive).mpr small
  have digits := List.length_filter_le Char.isDigit (Nat.toDigits 10 value)
  rw [Json.written, Bool.and_eq_true_iff, Json.digitsFit, decide_eq_true_iff, toList_ofNat]
  exact ⟨digits.trans (length.trans fits), rfl⟩

theorem isFinite_of_written {value : Float} (written : (Json.number value).written = true) : value.isFinite = true :=
  (Bool.and_eq_true_iff.mp written).2

theorem isWordChar_of_isDigit {c : Char} (digit : c.isDigit = true) : isWordChar c = true := by
  simp [isWordChar, Char.isAlphanum, digit]

theorem isWordChar_integer (value : Int) : ∀ c ∈ (toString value).toList, isWordChar c = true := by
  cases value with
  | ofNat value =>
      intro c member
      exact isWordChar_of_isDigit (isDigit_toDigits value c ((toList_ofNat value) ▸ member))
  | negSucc value =>
      rw [toList_negSucc]
      intro c member
      rcases List.mem_cons.mp member with rfl | digit
      · decide
      · exact isWordChar_of_isDigit (isDigit_toDigits _ c digit)

end Integers

section Reading

variable {readFloat : String → Float}

/-- A string and a key are read by the reader of strings up to their closing quotes. -/
theorem run_readString {stack : List Frame} {phase : QuotedText → Phase} (behind : String → Loader)
    (goesOn : ∀ quoted c, Loader.feed readFloat ⟨stack, phase quoted⟩ c =
      if quoted.closes c then if quoted.high = none then some (behind (String.ofList quoted.text)) else none
      else (quoted.feed c).map fun next => ⟨stack, phase next⟩)
    {quoted : QuotedText} {input text rest : List Char} (read : readString quoted input = some (text, rest)) :
    input.foldlM (Loader.feed readFloat) ⟨stack, phase quoted⟩ =
      rest.foldlM (Loader.feed readFloat) (behind (String.ofList text)) := by
  induction input generalizing quoted with
  | nil => cases read
  | cons c input inductionHypothesis =>
      rw [readString] at read
      rw [List.foldlM_cons, goesOn]
      split_ifs at read ⊢ with closes whole
      · obtain ⟨rfl, rfl⟩ := Prod.mk.inj (Option.some.inj read)
        rfl
      · obtain ⟨next, fed, later⟩ := Option.bind_eq_some_iff.mp read
        rw [fed]
        exact inductionHypothesis later

theorem run_text (stack : List Frame) (text : String) :
    (dumpsText text).toList.foldlM (Loader.feed readFloat) ⟨stack, .value⟩ = some ⟨stack, .after (.string text)⟩ := by
  have quotes : (dumpsText text).toList = '"' :: (text.toList.flatMap escapeChar ++ ['"']) := by simp [dumpsText]
  have opened : Loader.feed readFloat ⟨stack, .value⟩ '"' = some ⟨stack, .text {}⟩ := rfl
  rw [quotes, List.foldlM_cons, opened, Option.bind_eq_bind, Option.bind_some,
    run_readString (fun text => ⟨stack, .after (.string text)⟩) (fun _ _ => rfl)
      (readString_escaped [] text.toList []), List.nil_append, String.ofList_toList]
  rfl

theorem run_key (stack : List Frame) (members : List (String × Json)) (key : String) :
    (dumpsText key).toList.foldlM (Loader.feed readFloat) ⟨stack, .key members⟩ = some ⟨stack, .colon members key⟩ := by
  have quotes : (dumpsText key).toList = '"' :: (key.toList.flatMap escapeChar ++ ['"']) := by simp [dumpsText]
  have opened : Loader.feed readFloat ⟨stack, .key members⟩ '"' = some ⟨stack, .keyText members {}⟩ := rfl
  rw [quotes, List.foldlM_cons, opened, Option.bind_eq_bind, Option.bind_some,
    run_readString (fun key => ⟨stack, .colon members key⟩) (fun _ _ => rfl)
      (readString_escaped [] key.toList []), List.nil_append, String.ofList_toList]
  rfl

end Reading

section RoundTrip

variable {floats : FloatTexts}

/-- The reader takes a text as this value, wherever the value stands. -/
def ReadsAs (floats : FloatTexts) (text : String) (value : Json) : Prop :=
  ∀ stack, ∃ loader, text.toList.foldlM (Loader.feed floats.read) ⟨stack, .value⟩ = some loader ∧
    loader.Holds floats.read stack value

theorem ReadsAs.followed {text : String} {value : Json} (reads : ReadsAs floats text value) (stack : List Frame)
    {c : Char} (mark : isWordChar c = false) (rest : List Char) :
    (text.toList ++ c :: rest).foldlM (Loader.feed floats.read) ⟨stack, .value⟩ =
      (Loader.afterValue stack value c).bind (rest.foldlM (Loader.feed floats.read)) := by
  obtain ⟨loader, run, holds⟩ := reads stack
  rw [List.foldlM_append, run, Option.bind_eq_bind, Option.bind_some, List.foldlM_cons, holds.feed mark]
  rfl

/-- The items of a list are read up to the closing bracket. -/
def ReadsItems (floats : FloatTexts) (texts : List String) (items : List Json) : Prop :=
  ∀ stack done, done = [] ∨ items ≠ [] →
    ((", ".intercalate texts).toList ++ [']']).foldlM (Loader.feed floats.read) ⟨.array done :: stack, .value⟩ =
      some ⟨stack, .after (.array (done ++ items))⟩

theorem readsItems_nil : ReadsItems floats [] [] := by
  intro stack done empty
  obtain rfl : done = [] := by simpa using empty
  rfl

theorem toList_intercalate_cons {separator : String} {gap : List Char} (comma : separator.toList = ',' :: gap)
    (text next : String) (rest : List String) : (separator.intercalate (text :: next :: rest)).toList =
      text.toList ++ ',' :: (gap ++ (separator.intercalate (next :: rest)).toList) := by
  simp only [String.intercalate_cons_cons, String.toList_append, comma, List.append_assoc, List.cons_append]

theorem readsItems_cons {text : String} {texts : List String} {item : Json} {rest : List Json}
    (reads : ReadsAs floats text item) (later : ReadsItems floats texts rest) (same : texts.length = rest.length) :
    ReadsItems floats (text :: texts) (item :: rest) := by
  intro stack done _
  cases texts with
  | nil =>
      obtain rfl : rest = [] := List.eq_nil_of_length_eq_zero same.symm
      rw [String.intercalate_singleton, reads.followed _ (by decide)]
      rfl
  | cons next others =>
      have nonempty : rest ≠ [] := by
        rintro rfl
        cases same
      have comma : Loader.afterValue (.array done :: stack) item ',' = some ⟨.array (done ++ [item]) :: stack, .value⟩ := rfl
      have space : Loader.feed floats.read ⟨.array (done ++ [item]) :: stack, .value⟩ ' ' =
          some ⟨.array (done ++ [item]) :: stack, .value⟩ := rfl
      have separator : ", ".toList = ',' :: [' '] := by decide
      rw [toList_intercalate_cons separator, List.append_assoc, List.cons_append, List.append_assoc,
        reads.followed _ (by decide), comma, Option.bind_some, List.cons_append, List.nil_append, List.foldlM_cons, space,
        Option.bind_eq_bind, Option.bind_some, later stack (done ++ [item]) (.inr nonempty), List.append_assoc]
      rfl

/-- The reader passes over the spaces between two tokens. -/
def Blank (gap : List Char) : Prop := ∀ c ∈ gap, isJsonSpace c = true

theorem blank_nil : Blank [] := nofun

theorem Blank.run {gap : List Char} (blank : Blank gap) {loader : Loader}
    (skips : ∀ c, isJsonSpace c = true → loader.feed floats.read c = some loader) :
    gap.foldlM (Loader.feed floats.read) loader = some loader := by
  induction gap with
  | nil => rfl
  | cons c gap inductionHypothesis =>
      rw [List.foldlM_cons, skips c (blank c List.mem_cons_self)]
      exact inductionHypothesis fun d member => blank d (List.mem_cons_of_mem _ member)

theorem feed_key_space {stack : List Frame} {done : List (String × Json)} {c : Char} (space : isJsonSpace c = true) :
    Loader.feed floats.read ⟨stack, .key done⟩ c = some ⟨stack, .key done⟩ := by simp [Loader.feed, space]

theorem afterValue_space {stack : List Frame} {value : Json} {c : Char} (space : isJsonSpace c = true) :
    Loader.afterValue stack value c = some ⟨stack, .after value⟩ := if_pos space

theorem isWordChar_of_isJsonSpace {c : Char} (space : isJsonSpace c = true) : isWordChar c = false := by
  simp only [isJsonSpace, List.mem_cons, List.not_mem_nil, or_false, decide_eq_true_eq] at space
  rcases space with rfl | rfl | rfl | rfl <;> decide

/-- Spaces may stand between a value and the mark behind it. -/
theorem ReadsAs.spaced {text : String} {value : Json} (reads : ReadsAs floats text value) (stack : List Frame)
    {gap : List Char} (blank : Blank gap) {c : Char} (mark : isWordChar c = false) (rest : List Char) :
    (text.toList ++ (gap ++ c :: rest)).foldlM (Loader.feed floats.read) ⟨stack, .value⟩ =
      (Loader.afterValue stack value c).bind (rest.foldlM (Loader.feed floats.read)) := by
  cases gap with
  | nil => exact reads.followed stack mark rest
  | cons space gap =>
      have first := blank space List.mem_cons_self
      have others : Blank gap := fun d member => blank d (List.mem_cons_of_mem _ member)
      have passed : gap.foldlM (Loader.feed floats.read) ⟨stack, .after value⟩ = some ⟨stack, .after value⟩ :=
        others.run fun _ => afterValue_space
      rw [List.cons_append, reads.followed stack (isWordChar_of_isJsonSpace first), afterValue_space first,
        Option.bind_some, List.foldlM_append, passed]
      rfl

/-- The members of a dictionary are read up to the closing brace, and spaces may stand before it. -/
def ReadsMembers (floats : FloatTexts) (separator : String) (tail : List Char) (texts : List String)
    (members : List (String × Json)) : Prop :=
  ∀ stack done, done = [] ∨ members ≠ [] →
    ((separator.intercalate texts).toList ++ (tail ++ ['\x7d'])).foldlM (Loader.feed floats.read) ⟨stack, .key done⟩ =
      some ⟨stack, .after (.object (done ++ members))⟩

variable {separator : String} {tail : List Char}

theorem readsMembers_nil (blank : Blank tail) : ReadsMembers floats separator tail [] [] := by
  intro stack done empty
  obtain rfl : done = [] := by simpa using empty
  have passed : tail.foldlM (Loader.feed floats.read) ⟨stack, .key []⟩ = some ⟨stack, .key []⟩ :=
    blank.run fun _ => feed_key_space
  have nothing : (separator.intercalate []).toList = [] := rfl
  rw [nothing, List.nil_append, List.foldlM_append, passed]
  rfl

theorem ReadsAs.member {text : String} {value : Json} (reads : ReadsAs floats text value) (stack : List Frame)
    (done : List (String × Json)) (key : String) {gap : List Char} (blank : Blank gap) {c : Char}
    (mark : isWordChar c = false) (rest : List Char) :
    ((memberText (key, text)).toList ++ (gap ++ c :: rest)).foldlM (Loader.feed floats.read) ⟨stack, .key done⟩ =
      (Loader.afterValue (.object done key :: stack) value c).bind (rest.foldlM (Loader.feed floats.read)) := by
  have separator : ": ".toList = [':', ' '] := by decide
  have colon : Loader.feed floats.read ⟨stack, .colon done key⟩ ':' = some ⟨.object done key :: stack, .value⟩ := rfl
  have space : Loader.feed floats.read ⟨.object done key :: stack, .value⟩ ' ' =
      some ⟨.object done key :: stack, .value⟩ := rfl
  rw [memberText, String.toList_append, String.toList_append, separator, List.append_assoc, List.append_assoc,
    List.foldlM_append, run_key, Option.bind_eq_bind, Option.bind_some, List.cons_append, List.cons_append,
    List.nil_append, List.foldlM_cons, colon, Option.bind_eq_bind, Option.bind_some, List.foldlM_cons, space,
    Option.bind_eq_bind, Option.bind_some, reads.spaced _ blank mark]

theorem readsMembers_cons {gap : List Char} (comma : separator.toList = ',' :: gap) (blank : Blank gap)
    (closing : Blank tail) {key text : String} {texts : List String} {value : Json} {rest : List (String × Json)}
    (reads : ReadsAs floats text value) (later : ReadsMembers floats separator tail texts rest)
    (same : texts.length = rest.length) :
    ReadsMembers floats separator tail (memberText (key, text) :: texts) ((key, value) :: rest) := by
  intro stack done _
  cases texts with
  | nil =>
      obtain rfl : rest = [] := List.eq_nil_of_length_eq_zero same.symm
      rw [String.intercalate_singleton, reads.member _ _ _ closing (by decide)]
      rfl
  | cons next others =>
      have nonempty : rest ≠ [] := by
        rintro rfl
        cases same
      have behind : Loader.afterValue (.object done key :: stack) value ',' = some ⟨stack, .key (done ++ [(key, value)])⟩ :=
        rfl
      have passed : gap.foldlM (Loader.feed floats.read) ⟨stack, .key (done ++ [(key, value)])⟩ =
          some ⟨stack, .key (done ++ [(key, value)])⟩ := blank.run fun _ => feed_key_space
      rw [toList_intercalate_cons comma, List.append_assoc, List.cons_append, List.append_assoc]
      refine (reads.member _ _ _ blank_nil (by decide) _).trans ?_
      rw [behind, Option.bind_some, List.foldlM_append, passed, Option.bind_eq_bind, Option.bind_some,
        later stack (done ++ [(key, value)]) (.inr nonempty), List.append_assoc]
      rfl

theorem length_spacedItems (items : List Json) : (spacedItems floats items).length = items.length := by
  induction items with
  | nil => rfl
  | cons item rest inductionHypothesis => rw [spacedItems, List.length_cons, List.length_cons, inductionHypothesis]

theorem length_spacedMembers (members : List (String × Json)) :
    (spacedMembers floats members).length = members.length := by
  induction members with
  | nil => rfl
  | cons member rest inductionHypothesis =>
      rw [spacedMembers, List.length_cons, List.length_cons, inductionHypothesis]

theorem readWord_null (readFloat : String → Float) : readWord readFloat "null".toList = some .null := if_pos rfl

theorem readWord_bool (readFloat : String → Float) (value : Bool) :
    readWord readFloat (if value then "true" else "false").toList = some (.bool value) := by
  cases value with
  | false =>
      rw [if_neg Bool.false_ne_true, readWord, if_neg (by decide), if_neg (by decide), if_pos rfl]
  | true => rw [if_pos rfl, readWord, if_neg (by decide), if_pos rfl]

theorem isWordChar_null : ∀ c ∈ "null".toList, isWordChar c = true := by
  simp [isWordChar, Char.isAlphanum, Char.isAlpha, Char.isLower]

theorem isWordChar_bool (value : Bool) : ∀ c ∈ (if value then "true" else "false").toList, isWordChar c = true := by
  cases value with
  | false => simp [isWordChar, Char.isAlphanum, Char.isAlpha, Char.isLower]
  | true => simp [isWordChar, Char.isAlphanum, Char.isAlpha, Char.isLower]

theorem readsAs_word {text : String} {value : Json} (letter : ∀ c ∈ text.toList, isWordChar c = true)
    (read : readWord floats.read text.toList = some value) : ReadsAs floats text value :=
  fun _ => run_word letter read

theorem ReadsItems.readsAs {texts : List String} {items : List Json} (reads : ReadsItems floats texts items) :
    ReadsAs floats ("[" ++ ", ".intercalate texts ++ "]") (.array items) := by
  intro stack
  have opening : "[".toList = ['['] := by decide
  have closing : "]".toList = [']'] := by decide
  refine ⟨⟨stack, .after (.array items)⟩, ?_, .after⟩
  rw [String.toList_append, String.toList_append, opening, closing, List.append_assoc]
  exact reads stack [] (.inl rfl)

/-- Spaces may stand behind the opening brace too. -/
theorem ReadsMembers.readsAs {texts : List String} {members : List (String × Json)}
    (reads : ReadsMembers floats separator tail texts members) {text opened closed : String} {gap : List Char}
    (blank : Blank gap) (opening : opened.toList = '\x7b' :: gap) (closing : closed.toList = tail ++ ['\x7d'])
    (parts : text = opened ++ separator.intercalate texts ++ closed) : ReadsAs floats text (.object members) := by
  intro stack
  refine ⟨⟨stack, .after (.object members)⟩, ?_, .after⟩
  have brace : Loader.feed floats.read ⟨stack, .value⟩ '\x7b' = some ⟨stack, .key []⟩ := rfl
  have passed : gap.foldlM (Loader.feed floats.read) ⟨stack, .key []⟩ = some ⟨stack, .key []⟩ :=
    blank.run fun _ => feed_key_space
  rw [parts, String.toList_append, String.toList_append, opening, closing, List.append_assoc, List.cons_append,
    List.foldlM_cons, brace, Option.bind_eq_bind, Option.bind_some, List.foldlM_append, passed]
  exact reads stack [] (.inl rfl)

mutual

/-- By induction on the value: its text is read as the value. -/
theorem readsAs_dumpsSpaced : (value : Json) → value.every Json.written = true →
    ReadsAs floats (dumpsSpaced floats value) value
  | .null, _ => readsAs_word isWordChar_null (readWord_null _)
  | .bool value, _ => readsAs_word (isWordChar_bool value) (readWord_bool _ value)
  | .integer value, written => readsAs_word (isWordChar_integer value) (readWord_integer written)
  | .number value, written => readsAs_word (floats.word value (isFinite_of_written written))
      (floats.read_write value (isFinite_of_written written))
  | .string text, _ => fun stack => ⟨_, run_text stack text, .after⟩
  | .array items, written => (readsItems_dumpsSpaced items written).readsAs
  | .object members, written => (readsMembers_dumpsSpaced members written).readsAs blank_nil (by decide) (by decide) rfl

theorem readsItems_dumpsSpaced : (items : List Json) → everyItem Json.written items = true →
    ReadsItems floats (spacedItems floats items) items
  | [], _ => readsItems_nil
  | item :: rest, written =>
      have parts := Bool.and_eq_true_iff.mp written
      readsItems_cons (readsAs_dumpsSpaced item parts.1) (readsItems_dumpsSpaced rest parts.2) (length_spacedItems rest)

theorem readsMembers_dumpsSpaced : (members : List (String × Json)) → everyMember Json.written members = true →
    ReadsMembers floats ", " [] (spacedMembers floats members) members
  | [], _ => readsMembers_nil blank_nil
  | (_, value) :: rest, written =>
      have parts := Bool.and_eq_true_iff.mp written
      have comma : ", ".toList = ',' :: [' '] := by decide
      readsMembers_cons comma (by simp [Blank, isJsonSpace]) blank_nil (readsAs_dumpsSpaced value parts.1)
        (readsMembers_dumpsSpaced rest parts.2) (length_spacedMembers rest)

end

/-- The reader also takes the words of the floats that are no numbers. -/
theorem FloatTexts.Total.readsAs (total : floats.Total) (value : Float) :
    ReadsAs floats (dumpsSpaced floats (.number value)) (.number value) :=
  readsAs_word (total.word value) (total.read_write value)

theorem ReadsAs.loads {text : String} {value : Json} (reads : ReadsAs floats text value) :
    loads floats.read text.toList = some value := by
  obtain ⟨loader, run, holds⟩ := reads []
  rw [Foundation.loads, run]
  exact holds.finish

/-- A value that JSON can represent is read back from its text. -/
theorem loads_dumpsSpaced {value : Json} (written : value.every Json.written = true) :
    loads floats.read (dumpsSpaced floats value).toList = some value := (readsAs_dumpsSpaced value written).loads

theorem readsMembers_indented {members : List (String × Json)}
    (each : ∀ member ∈ members, ReadsAs floats (dumpsSpaced floats member.2) member.2) :
    ReadsMembers floats ",\n  " ['\n'] (spacedMembers floats members) members := by
  have comma : ",\n  ".toList = ',' :: ['\n', ' ', ' '] := by decide
  have blank : Blank ['\n', ' ', ' '] := by simp [Blank, isJsonSpace]
  have closing : Blank ['\n'] := by simp [Blank, isJsonSpace]
  induction members with
  | nil => exact readsMembers_nil closing
  | cons member rest inductionHypothesis =>
      have later := inductionHypothesis fun member inside => each member (List.mem_cons_of_mem _ inside)
      exact readsMembers_cons comma blank closing (each member List.mem_cons_self) later (length_spacedMembers rest)

/-- The reader passes over the indentation. -/
theorem loads_dumpsIndented {members : List (String × Json)}
    (each : ∀ member ∈ members, ReadsAs floats (dumpsSpaced floats member.2) member.2) :
    loads floats.read (dumpsIndented floats members).toList = some (.object members) := by
  unfold dumpsIndented
  split
  · next empty =>
      rw [List.isEmpty_iff.mp empty]
      rfl
  · have blank : Blank ['\n', ' ', ' '] := by simp [Blank, isJsonSpace]
    exact ((readsMembers_indented each).readsAs blank (by decide) (by decide) rfl).loads

end RoundTrip

section Printable

variable {floats : FloatTexts}

/-- These characters are neither controls nor outside ASCII. -/
def isPrintable (c : Char) : Bool := 32 ≤ c.toNat && c.toNat < 127

theorem isPrintable_of_isWordChar {c : Char} (letter : isWordChar c = true) : isPrintable c = true := by
  simp only [isWordChar, Bool.or_eq_true, decide_eq_true_eq] at letter
  simp only [isPrintable, Bool.and_eq_true, decide_eq_true_eq]
  rcases letter with alphanumeric | sign
  · simp only [Char.isAlphanum, Char.isAlpha, Char.isUpper, Char.isLower, Char.isDigit, Bool.or_eq_true,
      Bool.and_eq_true, decide_eq_true_eq, UInt32.le_iff_toNat_le, ge_iff_le] at alphanumeric
    have code : c.val.toNat = c.toNat := rfl
    have upper : 'A'.val.toNat = 65 ∧ 'Z'.val.toNat = 90 := ⟨rfl, rfl⟩
    have lower : 'a'.val.toNat = 97 ∧ 'z'.val.toNat = 122 := ⟨rfl, rfl⟩
    have digit : '0'.val.toNat = 48 ∧ '9'.val.toNat = 57 := ⟨rfl, rfl⟩
    omega
  · simp only [List.mem_cons, List.not_mem_nil, or_false] at sign
    rcases sign with rfl | rfl | rfl <;> decide

theorem isPrintable_escapeUnit (unit : Nat) : ∀ c ∈ escapeUnit unit, isPrintable c = true := by
  have digits : ∀ value < 16, isPrintable (hexDigit value) = true := by decide
  have small (number : Nat) : number % 16 < 16 := Nat.mod_lt _ (by decide)
  simp [escapeUnit, digits _ (small _)]
  decide

theorem isPrintable_escapeChar (c : Char) : ∀ d ∈ escapeChar c, isPrintable d = true := by
  have slashed {d : Char} (plain : isPrintable d = true) : ∀ e ∈ ['\\', d], isPrintable e = true :=
    List.forall_mem_cons.mpr ⟨by decide, List.forall_mem_cons.mpr ⟨plain, nofun⟩⟩
  unfold escapeChar
  split_ifs with escaped backspace tab newline feed carriage printable basic
  · apply slashed
    rcases List.mem_pair.mp escaped with quote | slash
    · simp [isPrintable, quote]
    · simp [isPrintable, slash]
  · exact slashed (by decide)
  · exact slashed (by decide)
  · exact slashed (by decide)
  · exact slashed (by decide)
  · exact slashed (by decide)
  · simpa [isPrintable] using printable
  · exact isPrintable_escapeUnit _
  · intro d member
    rcases List.mem_append.mp member with high | low
    · exact isPrintable_escapeUnit _ d high
    · exact isPrintable_escapeUnit _ d low

/-- A text is plain where all of its characters are printable. -/
def PrintableText (text : String) : Prop := ∀ c ∈ text.toList, isPrintable c = true

theorem PrintableText.append {first second : String} (front : PrintableText first) (back : PrintableText second) :
    PrintableText (first ++ second) := by
  intro c member
  rw [String.toList_append, List.mem_append] at member
  exact member.elim (front c) (back c)

/-- Each character of a joined text is one of the separator or of a part. -/
theorem part_of_mem_intercalate {separator : String} {texts : List String} {c : Char}
    (member : c ∈ (separator.intercalate texts).toList) : c ∈ separator.toList ∨ ∃ text ∈ texts, c ∈ text.toList := by
  induction texts with
  | nil => cases member
  | cons text rest inductionHypothesis =>
      cases rest with
      | nil =>
          rw [String.intercalate_singleton] at member
          exact .inr ⟨text, List.mem_cons_self, member⟩
      | cons next more =>
          rw [String.intercalate_cons_cons, String.toList_append, String.toList_append, List.mem_append,
            List.mem_append] at member
          rcases member with (first | between) | later
          · exact .inr ⟨text, List.mem_cons_self, first⟩
          · exact .inl between
          · rcases inductionHypothesis later with between | ⟨part, inside, here⟩
            · exact .inl between
            · exact .inr ⟨part, List.mem_cons_of_mem _ inside, here⟩

theorem PrintableText.intercalate {separator : String} (between : PrintableText separator) {texts : List String}
    (each : ∀ text ∈ texts, PrintableText text) : PrintableText (separator.intercalate texts) := by
  intro c member
  rcases part_of_mem_intercalate member with inside | ⟨text, part, here⟩
  · exact between c inside
  · exact each text part c here

theorem plain_dumpsText (text : String) : PrintableText (dumpsText text) := by
  have quote : PrintableText "\"" := by simp [PrintableText, isPrintable]
  refine (quote.append ?_).append quote
  intro c member
  rw [String.toList_ofList, List.mem_flatMap] at member
  obtain ⟨d, _, escaped⟩ := member
  exact isPrintable_escapeChar d c escaped

theorem plain_of_word {text : String} (letter : ∀ c ∈ text.toList, isWordChar c = true) : PrintableText text :=
  fun c member => isPrintable_of_isWordChar (letter c member)

theorem plain_marks : ∀ mark ∈ ["[", "]", "\x7b", "\x7d", ", ", ": "], PrintableText mark := by
  simp [PrintableText, isPrintable]

theorem plain_memberText {key text : String} (plain : PrintableText text) : PrintableText (memberText (key, text)) :=
  ((plain_dumpsText key).append (plain_marks ": " (by simp))).append plain

mutual

/-- The text of a value is plain, whatever characters its strings have. -/
theorem plain_dumpsSpaced : (value : Json) → value.every Json.written = true → PrintableText (dumpsSpaced floats value)
  | .null, _ => plain_of_word isWordChar_null
  | .bool value, _ => plain_of_word (isWordChar_bool value)
  | .integer value, _ => plain_of_word (isWordChar_integer value)
  | .number value, written => plain_of_word (floats.word value (isFinite_of_written written))
  | .string text, _ => plain_dumpsText text
  | .array items, written =>
      ((plain_marks "[" (by simp)).append ((plain_marks ", " (by simp)).intercalate (plain_spacedItems items written))).append
        (plain_marks "]" (by simp))
  | .object members, written =>
      ((plain_marks "\x7b" (by simp)).append
        ((plain_marks ", " (by simp)).intercalate (plain_spacedMembers members written))).append
        (plain_marks "\x7d" (by simp))

theorem plain_spacedItems : (items : List Json) → everyItem Json.written items = true →
    ∀ text ∈ spacedItems floats items, PrintableText text
  | [], _ => nofun
  | item :: rest, written => by
      have parts := Bool.and_eq_true_iff.mp written
      exact List.forall_mem_cons.mpr ⟨plain_dumpsSpaced item parts.1, plain_spacedItems rest parts.2⟩

theorem plain_spacedMembers : (members : List (String × Json)) → everyMember Json.written members = true →
    ∀ text ∈ spacedMembers floats members, PrintableText text
  | [], _ => nofun
  | (_, value) :: rest, written => by
      have parts := Bool.and_eq_true_iff.mp written
      exact List.forall_mem_cons.mpr ⟨plain_memberText (plain_dumpsSpaced value parts.1), plain_spacedMembers rest parts.2⟩

end

/-- The indentation has no carriage return, so the text is read as it was written. -/
theorem return_notMem_dumpsIndented {members : List (String × Json)}
    (plain : ∀ member ∈ members, PrintableText (dumpsSpaced floats member.2)) :
    '\r' ∉ (dumpsIndented floats members).toList := by
  have texts : ∀ text ∈ spacedMembers floats members, PrintableText text := by
    induction members with
    | nil => exact nofun
    | cons member rest inductionHypothesis =>
        have first : PrintableText (memberText (member.1, dumpsSpaced floats member.2)) :=
          plain_memberText (plain member List.mem_cons_self)
        exact List.forall_mem_cons.mpr
          ⟨first, inductionHypothesis fun member inside => plain member (List.mem_cons_of_mem _ inside)⟩
  unfold dumpsIndented
  split
  · decide
  · intro member
    rw [String.toList_append, String.toList_append, List.mem_append, List.mem_append] at member
    rcases member with (opening | inside) | closing
    · exact absurd opening (by decide)
    · rcases part_of_mem_intercalate inside with separator | ⟨text, part, here⟩
      · exact absurd separator (by decide)
      · exact absurd (texts text part _ here) (by decide)
    · exact absurd closing (by decide)

end Printable

section Bits

open Float.Model Float.Model.UnpackedFloat

instance decidableValid (format : Format) (bits : BitVec format.numBits) : Decidable (format.Valid bits) :=
  decidable_of_iff (unpackExponent bits = -1#_ → unpackMantissa bits ≠ 0#_ → bits = packedNaN format)
    ⟨Format.Valid.mk, Format.Valid.eq_packedNaN⟩

/-- The bits of a float stand for it, and the number one has the text that Python writes. -/
def bitText (value : Float) : String :=
  if value = 1 then "1.0" else String.ofList (Nat.toDigits 10 value.toModel.toBits.toNat ++ ['e', '0'])

def readBits (text : String) : Float :=
  let bits := UInt64.ofNat (Nat.ofDigitChars 10 (text.toList.takeWhile Char.isDigit) 0)
  if text = "1.0" then 1
  else if valid : Format.binary64.Valid bits.toBitVec then .ofModel ⟨bits, valid⟩
  else 0

theorem readBits_digits (value : Float) :
    readBits (String.ofList (Nat.toDigits 10 value.toModel.toBits.toNat ++ ['e', '0'])) = value := by
  have front : (Nat.toDigits 10 value.toModel.toBits.toNat ++ ['e', '0']).takeWhile Char.isDigit =
      Nat.toDigits 10 value.toModel.toBits.toNat := by
    rw [List.takeWhile_append_of_pos (isDigit_toDigits _)]
    exact List.append_nil _
  have different : String.ofList (Nat.toDigits 10 value.toModel.toBits.toNat ++ ['e', '0']) ≠ "1.0" := by
    intro same
    have texts := congrArg String.toList same
    rw [String.toList_ofList] at texts
    have point : '.' ∈ Nat.toDigits 10 value.toModel.toBits.toNat ++ ['e', '0'] := by
      rw [texts]
      decide
    rcases List.mem_append.mp point with digit | letter
    · exact absurd (isDigit_toDigits _ _ digit) (by decide)
    · exact absurd letter (by decide)
  rw [readBits, if_neg different, String.toList_ofList, front, Nat.ofDigitChars_ten_toDigits, UInt64.ofNat_toNat,
    dif_pos value.toModel.valid]

theorem readWord_bitText (value : Float) : readWord readBits (bitText value).toList = some (.number value) := by
  rw [bitText]
  split
  · next one =>
      subst one
      rfl
  · have back := readBits_digits value
    have powered : (Nat.toDigits 10 value.toModel.toBits.toNat ++ ['e', '0']).foldlM NumberPhase.step .start =
        some .powerDigits := by
      rw [List.foldlM_append, run_toDigits (.inl rfl)]
      split <;> rfl
    have isDigit := isDigit_toDigits value.toModel.toBits.toNat
    obtain ⟨c, word, digits⟩ := List.exists_cons_of_ne_nil
      (Nat.toDigits_ne_nil (n := value.toModel.toBits.toNat) (b := 10))
    rw [String.toList_ofList]
    rw [digits, List.cons_append] at back powered ⊢
    have bounded : c :: (word ++ ['e', '0']) ≠ "-Infinity".toList := by
      intro same
      have digit := isDigit c (digits ▸ List.mem_cons_self)
      rw [(List.cons.inj same).1] at digit
      exact absurd digit (by decide)
    rw [readWord_of_step (.inl (isDigit c (digits ▸ List.mem_cons_self))) bounded, readNumber, powered]
    exact congrArg (fun read => some (Json.number read)) back

theorem isWordChar_bitText (value : Float) : ∀ c ∈ (bitText value).toList, isWordChar c = true := by
  rw [bitText]
  split
  · simp [isWordChar, Char.isAlphanum, Char.isDigit]
  · rw [String.toList_ofList]
    intro c member
    rcases List.mem_append.mp member with digit | letter
    · exact isWordChar_of_isDigit (isDigit_toDigits _ c digit)
    · simp only [List.mem_cons, List.not_mem_nil, or_false] at letter
      rcases letter with rfl | rfl <;> decide

/-- These texts are read back, though they are those of Python only for the number one. -/
def bitTexts : FloatTexts where
  write := bitText
  read := readBits
  word value _ := isWordChar_bitText value
  read_write value _ := readWord_bitText value

theorem total_bitTexts : bitTexts.Total := ⟨isWordChar_bitText, readWord_bitText⟩

end Bits

end Pxtly.Foundation
