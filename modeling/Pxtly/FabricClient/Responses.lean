/-
This file gives how the client reads the response of an invocation from the output of the peer, and which responses it
returns unchanged.
-/

import Pxtly.Foundation.GoQuotes

namespace Pxtly.Fabric

open Foundation

section Output

variable (readFloat : String → Float)

/-- This is `text.strip('"')`. -/
def stripQuotes (text : List Char) : List Char :=
  ((text.dropWhile (· == '"')).reverse.dropWhile (· == '"')).reverse

def payloadMark : List Char := "payload:".toList

/-- A line without a response is passed over; any other line ends the search, also with an error. -/
def readLine (line : List Char) : Option (Option Json) :=
  if payloadMark.isPrefixOf line then
    some (loads readFloat (replaceText ['\\', '"'] ['"'] (stripQuotes (strip (line.drop payloadMark.length)))))
  else if '\x7b' ∈ line then some (loads readFloat line)
  else none

/-- The search of `submit_transaction` starts at the last line; `None` is read as `null` is. -/
def parseResponse (stdout : List Char) : Except String Json :=
  match (stdout.splitOn '\n').reverse.findSome? (readLine readFloat) with
  | none => .ok .null
  | some (some response) => .ok response
  | some none => .error ("Réponse Fabric illisible: " ++ String.ofList (stdout.take 200))

end Output

/-- The search passes over this line. -/
def Passed (line : List Char) : Prop := ¬ payloadMark <+: line ∧ '\x7b' ∉ line

/-- This is the line that the peer prints for a response. -/
def payloadLine (wide : Char → Bool) (text : List Char) : List Char := payloadMark ++ goQuote wide text

section Lines

variable {wide : Char → Bool} {readFloat : String → Float}

theorem readLine_eq_none_iff (line : List Char) : readLine readFloat line = none ↔ Passed line := by
  unfold readLine Passed
  rw [← List.isPrefixOf_iff_prefix]
  split_ifs with marked braced
  · exact iff_of_false nofun fun passed => passed.1 marked
  · exact iff_of_false nofun fun passed => passed.2 braced
  · exact iff_of_true rfl ⟨marked, braced⟩

/-- The space around a quoted text is no part of it, so nothing is stripped. -/
theorem strip_quoted (body : List Char) : strip ('"' :: (body ++ ['"'])) = '"' :: (body ++ ['"']) :=
  strip_of_ends (by decide) (by decide) body

/-- The quotes around a text that neither begins nor ends with one are the only ones that are stripped. -/
theorem stripQuotes_quoted {body : List Char} (nonempty : body ≠ []) (first : body.head? ≠ some '"')
    (last : body.getLast? ≠ some '"') : stripQuotes ('"' :: (body ++ ['"'])) = body := by
  have begins : ∀ c ∈ (body ++ ['"']).head?, (c == '"') = false := by
    intro c member
    rw [List.head?_append_of_ne_nil _ nonempty] at member
    exact beq_eq_false_iff_ne.mpr fun same => first (same ▸ member)
  have ends : ∀ c ∈ body.reverse.head?, (c == '"') = false := by
    intro c member
    rw [List.head?_reverse] at member
    exact beq_eq_false_iff_ne.mpr fun same => last (same ▸ member)
  rw [stripQuotes, List.dropWhile_cons_of_pos (by decide), dropWhile_of_head begins, List.reverse_append]
  show (List.dropWhile (· == '"') ('"' :: body.reverse)).reverse = body
  rw [List.dropWhile_cons_of_pos (by decide), dropWhile_of_head ends, List.reverse_reverse]

/-- No rune but the quote ends with a quote. -/
theorem getLast_quoteRune {c : Char} (other : c ≠ '"') :
    ∃ front last, quoteRune wide c = front ++ [last] ∧ last ≠ '"' := by
  generalize written : quoteRune wide c = rune
  have shape := rune_quoteRune wide c
  rw [written] at shape
  have digit (value : Nat) : hexDigit (value % 16) ≠ '"' := mark_ne_hexDigit (by decide) (Nat.mod_lt _ (by decide))
  cases shape with
  | mark => exact ⟨['\\'], c, rfl, other⟩
  | self => exact ⟨[], c, rfl, other⟩
  | letter _ _ letter listed =>
      have letters : ∀ escape ∈ goEscapes, escape.2 ≠ '"' := by decide
      exact ⟨['\\'], letter, rfl, letters _ listed⟩
  | byte _ _ _ high low small => exact ⟨['\\', 'x', hexDigit high], _, rfl, mark_ne_hexDigit (by decide) small.2⟩
  | unit => exact ⟨_ :: _ :: _ :: _ :: [_], _, rfl, digit _⟩
  | long => exact ⟨_ :: _ :: _ :: _ :: _ :: _ :: _ :: _ :: [_], _, rfl, digit _⟩

theorem isPrefixOf_payloadLine (text : List Char) : payloadMark.isPrefixOf (payloadLine wide text) = true :=
  List.isPrefixOf_iff_prefix.mpr (List.prefix_append _ _)

/-- The line of an object is read from the restored text of the object. -/
theorem readLine_payloadLine {text : List Char} {members : List (String × Json)}
    (object : loads readFloat text = some (.object members)) :
    readLine readFloat (payloadLine wide text) = some (loads readFloat (text.flatMap (bareRune wide))) := by
  obtain ⟨front, c, split, other⟩ := last_of_loads_object object
  obtain ⟨before, last, written, notQuote⟩ := @getLast_quoteRune wide c other
  have ends : text.flatMap (quoteRune wide) = front.flatMap (quoteRune wide) ++ before ++ [last] := by
    rw [split, List.flatMap_append, List.flatMap_singleton, written, List.append_assoc]
  have stripped : stripQuotes (goQuote wide text) = text.flatMap (quoteRune wide) := by
    apply stripQuotes_quoted
    · rw [ends]
      exact List.append_ne_nil_of_right_ne_nil _ (List.cons_ne_nil _ _)
    · exact head_flatMap_quoteRune text
    · rw [ends, List.getLast?_append]
      exact fun same => notQuote (Option.some.inj same)
  rw [readLine, if_pos (isPrefixOf_payloadLine text), payloadLine, List.drop_left, goQuote, strip_quoted, ← goQuote,
    stripped, replaceText_goQuote]

theorem findSome_reverse_eq_none_iff (lines : List (List Char)) :
    lines.reverse.findSome? (readLine readFloat) = none ↔ ∀ line ∈ lines, Passed line := by
  simp only [List.findSome?_eq_none_iff, List.mem_reverse, readLine_eq_none_iff]

/-- Of some lines, the last one that is not passed over is read. -/
theorem findSome_reverse_eq_some_iff (lines : List (List Char)) (answer : Option Json) :
    lines.reverse.findSome? (readLine readFloat) = some answer ↔
      ∃ front line back, lines = front ++ line :: back ∧ (∀ later ∈ back, Passed later) ∧
        readLine readFloat line = some answer := by
  rw [List.findSome?_eq_some_iff]
  constructor
  · rintro ⟨back, line, front, split, read, passed⟩
    refine ⟨front.reverse, line, back.reverse, ?_, ?_, read⟩
    · rw [← List.reverse_reverse lines, split]
      simp
    · intro later member
      exact (readLine_eq_none_iff later).mp (passed later (List.mem_reverse.mp member))
  · rintro ⟨front, line, back, rfl, passed, read⟩
    refine ⟨back.reverse, line, front.reverse, by simp, read, ?_⟩
    intro later member
    exact (readLine_eq_none_iff later).mpr (passed later (List.mem_reverse.mp member))

theorem parseResponse_eq_ok {stdout : List Char} {response : Json} (object : response ≠ .null) :
    parseResponse readFloat stdout = .ok response ↔
      (stdout.splitOn '\n').reverse.findSome? (readLine readFloat) = some (some response) := by
  unfold parseResponse
  split
  next same =>
    rw [same]
    exact iff_of_false (fun null => object (Except.ok.inj null).symm) nofun
  next answer same =>
    rw [same, Option.some.injEq, Option.some.injEq]
    exact ⟨Except.ok.inj, congrArg Except.ok⟩
  next same =>
    rw [same]
    exact iff_of_false nofun nofun

/-- The object that the peer prints is returned unchanged exactly where no later line is read in its place and its text
has only characters that both levels of escapes keep, or where the last later line is read as that object. -/
theorem response_kept_iff (wide : Char → Bool) (readFloat : String → Float) {stdout : List Char}
    {before after : List (List Char)} {text : List Char} {members : List (String × Json)}
    (object : loads readFloat text = some (.object members))
    (printed : stdout.splitOn '\n' = before ++ payloadLine wide text :: after) :
    parseResponse readFloat stdout = .ok (.object members) ↔
      ((∀ line ∈ after, Passed line) ∧ ∀ c ∈ text, Kept wide c) ∨
        ∃ front line back, after = front ++ line :: back ∧ (∀ later ∈ back, Passed later) ∧
          readLine readFloat line = some (some (.object members)) := by
  have own : readLine readFloat (payloadLine wide text) = some (loads readFloat (text.flatMap (bareRune wide))) :=
    readLine_payloadLine object
  have notNull : Json.object members ≠ .null := nofun
  rw [parseResponse_eq_ok notNull, printed, List.reverse_append, List.reverse_cons, List.append_assoc,
    List.findSome?_append, ← findSome_reverse_eq_some_iff, ← @findSome_reverse_eq_none_iff readFloat after,
    ← loads_restored_iff object]
  cases after.reverse.findSome? (readLine readFloat) with
  | none =>
      rw [Option.none_or, List.singleton_append, List.findSome?_cons_of_isSome (by rw [own]; rfl), own]
      simp
  | some answer => simp

end Lines

section Samples

/-- The samples have no characters beyond ASCII and no fractions. -/
def noneWide (_ : Char) : Bool := false
def noFractions (_ : String) : Float := 0

def frozenText : List Char := "\x7b\"status\":\"GELE\",\"freeze_count\":2\x7d".toList

def frozenMembers : List (String × Json) := [("status", .string "GELE"), ("freeze_count", .integer 2)]

/-- The justification has two lines, which its JSON text separates by an escape. -/
def twoLinesText : List Char := "\x7b\"justification\":\"sale\\nof the bond\"\x7d".toList

def twoLinesMembers : List (String × Json) := [("justification", .string "sale\nof the bond")]

/-- Between two lines of the log, an object without escapes is returned unchanged. -/
theorem response_kept_between_logs :
    parseResponse noFractions ("connected\n".toList ++ payloadLine noneWide frozenText ++ "\ncommitted".toList) =
      .ok (.object frozenMembers) := by
  have object : loads noFractions frozenText = some (.object frozenMembers) := by rfl
  have printed : ("connected\n".toList ++ payloadLine noneWide frozenText ++ "\ncommitted".toList).splitOn '\n' =
      ["connected".toList] ++ payloadLine noneWide frozenText :: ["committed".toList] := by decide
  have passed : ∀ line ∈ ["committed".toList], Passed line := by
    unfold Passed
    decide
  have kept : frozenText.all (fun c => Kept noneWide c) = true := by decide
  exact (response_kept_iff noneWide noFractions object printed).mpr (.inl ⟨passed, fun c member => of_decide_eq_true (List.all_eq_true.mp kept c member)⟩)

/-- The line break comes back as a backslash and a letter, without an error. -/
theorem line_break_lost :
    ¬ ∀ (stdout : List Char) (before after : List (List Char)) (text : List Char) (members : List (String × Json)),
      loads noFractions text = some (.object members) →
        stdout.splitOn '\n' = before ++ payloadLine noneWide text :: after →
          parseResponse noFractions stdout = .ok (.object members) := by
  intro keeps
  have kept := keeps (payloadLine noneWide twoLinesText) [] [] twoLinesText twoLinesMembers (by rfl) (by decide)
  have lost : parseResponse noFractions (payloadLine noneWide twoLinesText) =
      .ok (.object [("justification", .string "sale\\nof the bond")]) := by rfl
  rw [lost, twoLinesMembers, Except.ok.injEq, Json.object.injEq, List.cons.injEq, Prod.mk.injEq, Json.string.injEq] at kept
  exact absurd kept.1.2 (by decide)

end Samples

end Pxtly.Fabric
