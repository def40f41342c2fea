/-
This file gives the local audit log of the command line and what is read back from it.
-/

import Mathlib.Data.List.Induction
import Pxtly.Cli.AuditRedaction
import Pxtly.Foundation.Lines

namespace Pxtly.Cli

open Foundation

section Log

structure AuditCall where
  command : String
  args : Option (List (String × Json)) := none
  actor : Option String := none
  result : String := "ok"
  statusCode : Option Int := none
  extra : Option (List (String × Json)) := none

/-- An entry is a call at a time of the clock. -/
structure AuditEntry where
  ts : Float
  call : AuditCall

variable (lower : String → String) (floats : FloatTexts)

def extraMember (extra : Option (List (String × Json))) : List (String × Json) :=
  let members := extra.getD []
  if members.isEmpty then [] else [("extra", redact lower (.object members))]

/-- Arguments and extras are redacted before they are written. -/
def AuditEntry.members (entry : AuditEntry) : List (String × Json) :=
  [("ts", .number entry.ts), ("actor", .string (entry.call.actor.getD "")), ("command", .string entry.call.command),
    ("args", redact lower (.object (entry.call.args.getD []))), ("result", .string entry.call.result),
    ("status_code", (entry.call.statusCode.map Json.integer).getD .null)] ++ extraMember lower entry.call.extra

def AuditEntry.record (entry : AuditEntry) : Json := .object (entry.members lower)

def AuditEntry.line (entry : AuditEntry) : List Char := (dumpsSpaced floats (entry.record lower)).toList

/-- No error leaves the call: the file is opened before the record is written, and either may fail. -/
def auditEvent (opens : Bool) (log : Option (List Char)) (entry : AuditEntry) : Option (List Char) :=
  if opens then
    if (entry.record lower).every Json.digitsFit then some (log.getD [] ++ (entry.line lower floats ++ ['\n']))
    else some (log.getD [])
  else log

/-- This is `items[start:]`, where a negative start counts from the end. -/
def sliceFrom {A : Type} (start : Int) (items : List A) : List A :=
  items.drop (if start < 0 then (items.length + start).toNat else start.toNat)

/-- A line that is no JSON is left out. -/
def recentEvents (reads : Bool) (log : Option (List Char)) (n : Int) : List Json :=
  match log with
  | none => []
  | some text =>
      if reads then
        (sliceFrom (-n) (splitLines (universalNewlines text))).reverse.filterMap (loads floats.read)
      else []

/-- The calls are made one after the other, on a new log. -/
def logAfter (entries : List AuditEntry) : Option (List Char) := entries.foldl (auditEvent lower floats true) none

end Log

section Records

variable {lower : String → String} {test : Json → Bool}

mutual

/-- The redaction writes no new literal but a text. -/
theorem every_redact (texts : ∀ text, test (.string text) = true) : (value : Json) → value.every test = true →
    (redact lower value).every test = true
  | .array items, each => everyItem_redact texts items each
  | .object members, each => everyMember_redact texts members each
  | .null, each => each
  | .bool _, each => each
  | .integer _, each => each
  | .number _, each => each
  | .string _, each => each

theorem everyItem_redact (texts : ∀ text, test (.string text) = true) : (items : List Json) →
    everyItem test items = true → everyItem test (redactItems lower items) = true
  | [], _ => rfl
  | item :: rest, each => by
      have parts := Bool.and_eq_true_iff.mp each
      exact Bool.and_eq_true_iff.mpr ⟨every_redact texts item parts.1, everyItem_redact texts rest parts.2⟩

theorem everyMember_redact (texts : ∀ text, test (.string text) = true) : (members : List (String × Json)) →
    everyMember test members = true → everyMember test (redactMembers lower members) = true
  | [], _ => rfl
  | (key, value) :: rest, each => by
      have parts := Bool.and_eq_true_iff.mp each
      refine Bool.and_eq_true_iff.mpr ⟨?_, everyMember_redact texts rest parts.2⟩
      split
      · exact texts _
      · exact every_redact texts value parts.1

end

/-- The arguments of a call are JSON, and the clock shows a number. -/
structure AuditEntry.Representable (entry : AuditEntry) : Prop where
  ts : entry.ts.isFinite = true
  args : everyMember Json.written (entry.call.args.getD []) = true
  statusCode : ((entry.call.statusCode.map Json.integer).getD .null).written = true
  extra : everyMember Json.written (entry.call.extra.getD []) = true

theorem everyMember_append (first second : List (String × Json)) :
    everyMember test (first ++ second) = (everyMember test first && everyMember test second) := by
  induction first with
  | nil => rfl
  | cons member first inductionHypothesis =>
      rw [List.cons_append, everyMember, everyMember, inductionHypothesis, Bool.and_assoc]

theorem everyMember_extraMember {extra : Option (List (String × Json))}
    (each : everyMember Json.written (extra.getD []) = true) :
    everyMember Json.written (extraMember lower extra) = true := by
  unfold extraMember
  dsimp only
  split
  · rfl
  · rw [everyMember, everyMember, Bool.and_true]
    exact every_redact (fun _ => rfl) (.object _) each

theorem AuditEntry.Representable.written {entry : AuditEntry} (representable : entry.Representable) :
    (entry.record lower).every Json.written = true := by
  have args : (redact lower (.object (entry.call.args.getD []))).every Json.written = true :=
    every_redact (fun _ => rfl) (.object _) representable.args
  have status : ((entry.call.statusCode.map Json.integer).getD .null).every Json.written = true := by
    have written := representable.statusCode
    cases coded : entry.call.statusCode with
    | none => rfl
    | some code =>
        rw [coded] at written
        exact written
  have ts : (Json.number entry.ts).every Json.written = true := representable.ts
  rw [AuditEntry.record, Json.every, AuditEntry.members, everyMember_append, everyMember_extraMember representable.extra,
    Bool.and_true]
  simp only [everyMember, args, status, ts, Bool.and_true, Bool.true_and]
  rfl

theorem AuditEntry.Representable.digitsFit {entry : AuditEntry} (representable : entry.Representable) :
    (entry.record lower).every Json.digitsFit = true := by
  have both : (entry.record lower).every Json.written = true := representable.written
  unfold Json.written at both
  rw [Json.every_and] at both
  exact (Bool.and_eq_true_iff.mp both).1

end Records

section Reading

variable {lower : String → String} {floats : FloatTexts}

theorem auditEvent_representable {entry : AuditEntry} (representable : entry.Representable) (log : Option (List Char)) :
    auditEvent lower floats true log entry = some (log.getD [] ++ (entry.line lower floats ++ ['\n'])) := by
  rw [auditEvent, if_pos rfl, if_pos representable.digitsFit]

/-- The log holds one line an entry. -/
theorem logAfter_representable {entries : List AuditEntry} (representable : ∀ entry ∈ entries, entry.Representable)
    (written : entries ≠ []) :
    logAfter lower floats entries =
      some ((entries.map (AuditEntry.line lower floats)).flatMap fun line => line ++ ['\n']) := by
  induction entries using List.reverseRecOn with
  | nil => exact absurd rfl written
  | append_singleton front entry inductionHypothesis =>
      have last := representable entry (List.mem_append_right _ List.mem_cons_self)
      have step : logAfter lower floats (front ++ [entry]) =
          auditEvent lower floats true (logAfter lower floats front) entry := by
        rw [logAfter, List.foldl_append]
        rfl
      rw [step, auditEvent_representable last, List.map_append, List.flatMap_append]
      rcases eq_or_ne front [] with rfl | earlier
      · simp [logAfter]
      · rw [inductionHypothesis (fun entry member => representable entry (List.mem_append_left _ member)) earlier]
        simp

theorem AuditEntry.Representable.printable {entry : AuditEntry} (representable : entry.Representable) :
    PrintableText (dumpsSpaced floats (entry.record lower)) := plain_dumpsSpaced _ representable.written

/-- The lines of the log are those that were written, whatever characters the arguments have. -/
theorem splitLines_log {entries : List AuditEntry} (representable : ∀ entry ∈ entries, entry.Representable) :
    splitLines (universalNewlines ((entries.map (AuditEntry.line lower floats)).flatMap fun line => line ++ ['\n'])) =
      entries.map (AuditEntry.line lower floats) := by
  have unbroken : ∀ line ∈ entries.map (AuditEntry.line lower floats), Unbroken line := by
    intro line member
    obtain ⟨entry, listed, rfl⟩ := List.mem_map.mp member
    exact (representable entry listed).printable.unbroken
  have absent : '\r' ∉ (entries.map (AuditEntry.line lower floats)).flatMap fun line => line ++ ['\n'] := by
    intro member
    obtain ⟨line, listed, inside⟩ := List.mem_flatMap.mp member
    rcases List.mem_append.mp inside with body | newline
    · exact absurd (unbroken line listed _ body) (by decide)
    · exact absurd newline (by decide)
  rw [universalNewlines_of_notMem absent, splitLines_lines unbroken]

/-- Each line is read back as the record that was written. -/
theorem filterMap_loads_lines {entries : List AuditEntry} (representable : ∀ entry ∈ entries, entry.Representable) :
    (entries.map (AuditEntry.line lower floats)).filterMap (loads floats.read) =
      entries.map (AuditEntry.record lower) := by
  induction entries with
  | nil => rfl
  | cons entry rest inductionHypothesis =>
      have first : loads floats.read (entry.line lower floats) = some (entry.record lower) :=
        loads_dumpsSpaced (representable entry List.mem_cons_self).written
      rw [List.map_cons, List.filterMap_cons_some first, List.map_cons,
        inductionHypothesis fun other member => representable other (List.mem_cons_of_mem _ member)]

/-- What is read back is a slice of the entries, the newest first. -/
theorem recentEvents_logAfter {entries : List AuditEntry} (representable : ∀ entry ∈ entries, entry.Representable)
    (n : Int) : recentEvents floats true (logAfter lower floats entries) n =
      (sliceFrom (-n) entries).reverse.map (AuditEntry.record lower) := by
  rcases eq_or_ne entries [] with rfl | written
  · simp [logAfter, recentEvents, sliceFrom]
  · have slice : sliceFrom (-n) (entries.map (AuditEntry.line lower floats)) =
        (sliceFrom (-n) entries).map (AuditEntry.line lower floats) := by
      rw [sliceFrom, sliceFrom, List.map_drop, List.length_map]
    rw [logAfter_representable representable written, recentEvents, if_pos rfl, splitLines_log representable, slice,
      ← List.map_reverse, filterMap_loads_lines]
    intro entry member
    exact representable entry (List.mem_of_mem_drop (List.mem_reverse.mp member))

theorem reverse_sliceFrom {A : Type} {n : Nat} (positive : n ≠ 0) (items : List A) :
    (sliceFrom (-(n : Int)) items).reverse = items.reverse.take n := by
  have start : (if -(n : Int) < 0 then ((items.length : Int) + -n).toNat else (-(n : Int)).toNat) = items.length - n := by
    rw [if_pos (by omega)]
    omega
  rw [sliceFrom, start, List.take_reverse]

end Reading

section Secrecy

variable {lower : String → String} {floats : FloatTexts}

/-- Two entries are alike where their arguments differ only below redacted keys. -/
structure AlikeEntries (lower : String → String) (entry other : AuditEntry) : Prop where
  ts : entry.ts = other.ts
  command : entry.call.command = other.call.command
  actor : entry.call.actor = other.call.actor
  result : entry.call.result = other.call.result
  statusCode : entry.call.statusCode = other.call.statusCode
  args : AlikeMembers lower (entry.call.args.getD []) (other.call.args.getD [])
  extra : AlikeMembers lower (entry.call.extra.getD []) (other.call.extra.getD [])

theorem isEmpty_of_alike {members others : List (String × Json)} (alike : AlikeMembers lower members others) :
    members.isEmpty = others.isEmpty := by
  cases members <;> cases others <;> simp_all [AlikeMembers]

theorem AlikeEntries.record {entry other : AuditEntry} (alike : AlikeEntries lower entry other) :
    entry.record lower = other.record lower := by
  have args : redact lower (.object (entry.call.args.getD [])) = redact lower (.object (other.call.args.getD [])) :=
    (redact_eq_iff _ _).mpr alike.args
  have extra : redact lower (.object (entry.call.extra.getD [])) = redact lower (.object (other.call.extra.getD [])) :=
    (redact_eq_iff _ _).mpr alike.extra
  have shown : extraMember lower entry.call.extra = extraMember lower other.call.extra := by
    simp only [extraMember, isEmpty_of_alike alike.extra, extra]
  rw [AuditEntry.record, AuditEntry.record, AuditEntry.members, AuditEntry.members, alike.ts, alike.command, alike.actor,
    alike.result, alike.statusCode, args, shown]

/-- What is below a redacted key leaves no trace in the log. -/
theorem logAfter_of_alike {entries others : List AuditEntry} (alike : List.Forall₂ (AlikeEntries lower) entries others) :
    logAfter lower floats entries = logAfter lower floats others := by
  suffices same : ∀ log, entries.foldl (auditEvent lower floats true) log = others.foldl (auditEvent lower floats true) log
    from same none
  induction alike with
  | nil => exact fun log => rfl
  | @cons entry other rest more first later inductionHypothesis =>
      intro log
      have step : auditEvent lower floats true log entry = auditEvent lower floats true log other := by
        simp only [auditEvent, AuditEntry.line, first.record]
      rw [List.foldl_cons, List.foldl_cons, step, inductionHypothesis]

end Secrecy

section Claims

variable (lower : String → String) (floats : FloatTexts)

/-- The log gives the last entries back, except that a count of zero gives all of them. -/
theorem recent_events_iff (entries : List AuditEntry) (representable : ∀ entry ∈ entries, entry.Representable) (n : Nat) :
    recentEvents floats true (logAfter lower floats entries) n =
        (entries.reverse.take n).map (AuditEntry.record lower) ↔
      n ≠ 0 ∨ entries = [] := by
  rw [recentEvents_logAfter representable]
  rcases eq_or_ne n 0 with rfl | positive
  · have whole : sliceFrom (-((0 : Nat) : Int)) entries = entries := by simp [sliceFrom]
    rw [whole]
    simp
  · rw [reverse_sliceFrom positive]
    exact iff_of_true rfl (.inl positive)

/-- A transfer is recorded at the first second of the clock. -/
def transferEntry : AuditEntry where
  ts := 1
  call := { command := "assets transfer", args := some [("asset_id", .string "RWA-OBL-1"), ("token", .string "abc")] }

theorem transferEntry_representable : transferEntry.Representable where
  ts := by decide +kernel
  args := by decide +kernel
  statusCode := rfl
  extra := rfl

/-- One of one entries is read back. -/
theorem recent_event_read :
    recentEvents bitTexts true (logAfter id bitTexts [transferEntry]) 1 = [transferEntry.record id] :=
  (recent_events_iff id bitTexts [transferEntry] (by simpa using transferEntry_representable) 1).mpr (.inl (by decide))

/-- None of one entries was asked for, and it is given back. -/
theorem zero_recent_events :
    recentEvents bitTexts true (logAfter id bitTexts [transferEntry]) 0 = [transferEntry.record id] ∧
      recentEvents bitTexts true (logAfter id bitTexts [transferEntry]) 0 ≠
        ([transferEntry].reverse.take 0).map (AuditEntry.record id) := by
  have representable : ∀ entry ∈ [transferEntry], entry.Representable := by simpa using transferEntry_representable
  have read : recentEvents bitTexts true (logAfter id bitTexts [transferEntry]) 0 = [transferEntry.record id] :=
    recentEvents_logAfter representable 0
  refine ⟨read, ?_⟩
  rw [read]
  exact List.cons_ne_nil _ _

end Claims

end Pxtly.Cli
