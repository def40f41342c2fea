/-
This file gives when the references of suspicious activity reports are unique, over all interleavings of the reporters.
-/

import Pxtly.Assets.Models
import Pxtly.Compliance.Reports
import Pxtly.Foundation.Interleavings

namespace Pxtly.Compliance

open Foundation Program
open Assets (Uuid)
open Pool (eventsOf traceOf)

section Texts

theorem toList_fourDigits (value : Nat) : (fourDigits value).toList =
    List.replicate (4 - (Nat.toDigits 10 value).length) '0' ++ Nat.toDigits 10 value := by
  have digits : (toString value).toList = Nat.toDigits 10 value := Nat.toList_repr
  have nonneg : ¬ (value : Int) < 0 := by omega
  simp only [fourDigits, if_neg nonneg, Int.natAbs_natCast, digits, String.toList_append, String.toList_ofList]
  rfl

/-- Leading zeros do not change the number that the digits stand for. -/
theorem fourDigits_inj {first second : Nat} (same : fourDigits first = fourDigits second) : first = second := by
  have read (value : Nat) : Nat.ofDigitChars 10 (fourDigits value).toList 0 = value := by
    rw [toList_fourDigits, Nat.ofDigitChars_append, Nat.ofDigitChars_replicate_zero, Nat.mul_zero,
      Nat.ofDigitChars_ten_toDigits]
  rw [← read first, ← read second, same]

theorem length_fourDigits_le_iff (value : Nat) {width : Nat} (wide : 4 ≤ width) :
    (fourDigits value).length ≤ width ↔ value < 10 ^ width := by
  rw [← String.length_toList, toList_fourDigits, List.length_append, List.length_replicate,
    ← Nat.length_toDigits_le_iff (by decide) (by omega)]
  omega

theorem plain_toDigits (value : Nat) : '-' ∉ Nat.toDigits 10 value := by
  intro member
  have digit := Nat.isDigit_of_mem_toDigits (by decide) (by decide) member
  exact absurd digit (by decide)

theorem plain_fourDigits (value : Nat) : '-' ∉ (fourDigits value).toList := by
  rw [toList_fourDigits, List.mem_append, not_or]
  exact ⟨fun member => absurd (List.eq_of_mem_replicate member) (by decide), plain_toDigits value⟩

theorem plain_hex (bytes : Bytes) : '-' ∉ (hex bytes).toList := by
  have plain : ∀ value < 16, hexDigit value ≠ '-' := by decide
  rw [hex, String.toList_ofList]
  induction bytes with
  | nil => exact List.not_mem_nil
  | cons byte bytes inductionHypothesis =>
      have small : byte.toNat < 256 := byte.toNat_lt
      simp only [hexDigits, List.mem_cons, not_or]
      exact ⟨(plain _ (by omega)).symm, (plain _ (by omega)).symm, inductionHypothesis⟩

theorem length_hex (bytes : Bytes) : (hex bytes).length = 2 * bytes.length := by
  rw [hex, String.length_ofList, Assets.length_hexDigits]

theorem toList_year {year : Nat} : (toString (year : Int)).toList = Nat.toDigits 10 year := Nat.toList_repr

theorem toList_sarReference (year : Nat) (tail : String) (counter : Nat) (orgCode : String) :
    (sarReference year tail counter orgCode).toList = "TMA-".toList ++ (Nat.toDigits 10 year ++ '-' ::
      (tail.toList ++ '-' :: ((fourDigits counter).toList ++ '-' :: orgCode.toList))) := by
  have dash : "-".toList = ['-'] := by decide
  simp only [sarReference, String.toList_append, toList_year, dash, List.append_assoc, List.cons_append, List.nil_append]

/-- The parts of a reference are read back from it. -/
theorem sarReference_inj {year otherYear counter otherCounter : Nat} {tail otherTail : Bytes} {orgCode otherCode : String}
    (same : sarReference year (hex tail) counter orgCode = sarReference otherYear (hex otherTail) otherCounter otherCode) :
    year = otherYear ∧ tail = otherTail ∧ counter = otherCounter ∧ orgCode = otherCode := by
  have texts := congrArg String.toList same
  rw [toList_sarReference, toList_sarReference] at texts
  obtain ⟨years, texts⟩ := Pattern.field_inj (plain_toDigits _) (plain_toDigits _) (List.append_cancel_left texts)
  obtain ⟨tails, texts⟩ := Pattern.field_inj (plain_hex _) (plain_hex _) texts
  obtain ⟨counters, codes⟩ := Pattern.field_inj (plain_fourDigits _) (plain_fourDigits _) texts
  have sameYear : year = otherYear := by
    rw [← Nat.ofDigitChars_ten_toDigits (n := year), years, Nat.ofDigitChars_ten_toDigits]
  exact ⟨sameYear, hex_injective (String.toList_inj.mp tails), fourDigits_inj (String.toList_inj.mp counters),
    String.toList_inj.mp codes⟩

theorem length_sarReference (year : Nat) {tail : Bytes} (full : tail.length = 3) (counter : Nat) (orgCode : String) :
    (sarReference year (hex tail) counter orgCode).length =
      13 + (toString (year : Int)).length + (fourDigits counter).length + orgCode.length := by
  have marks : "TMA-".toList.length = 4 := by decide
  rw [← String.length_toList, toList_sarReference]
  simp only [List.length_append, List.length_cons, marks, String.length_toList, length_hex, full]
  rw [← String.length_toList (s := toString (year : Int)), toList_year]
  omega

end Texts

section Reporters

/-- These are the arguments of a call. -/
structure SARRequest where
  participantID : Uuid
  txID : Option Uuid
  reasonCode : String
  amount : Float

def SARRequest.generate (request : SARRequest) : Reporter String :=
  Compliance.generate request.participantID request.txID request.reasonCode request.amount

/-- Redis keeps a counter for each key, beside the tables of the database. -/
structure ReportRegistry where
  tables : ReportTables
  counter : String → Nat

def ReportRegistry.bump (registry : ReportRegistry) (key : String) : ReportRegistry :=
  { registry with counter := Function.update registry.counter key (registry.counter key + 1) }

/-- An increment that fails may have reached Redis, and the clock shows a year of Python's calendar. -/
def registryResponds : (step : ReportStep) → ReportRegistry → step.Result → ReportRegistry → Prop
  | .now, registry, answer, later => later = registry ∧ 1 ≤ yearOf answer ∧ yearOf answer ≤ 9999
  | .incr key, registry, answer, later =>
      (answer = some ((registry.counter key + 1 : Nat) : Int) ∧ registry.counter key + 1 < 2 ^ 63 ∧
          later = registry.bump key) ∨
        (answer = none ∧ (later = registry ∨ later = registry.bump key))
  | .tokenHex count, registry, answer, later => later = registry ∧ ∃ bytes : Bytes, bytes.length = count ∧ answer = hex bytes
  | step, registry, answer, later =>
      reportResponds step registry.tables answer later.tables ∧ later.counter = registry.counter

abbrev ReportEvent := Program.Event reportSignature

variable {C : Type} [DecidableEq C]

abbrev Reporters (C : Type) := Pool reportSignature String String ReportRegistry C

/-- All calls are still to begin, and no report is stored; the counters may have been used before. -/
def Reporters.fresh (request : C → SARRequest) (registry : ReportRegistry) : Reporters C where
  world := registry
  program call := (request call).generate

/-- A reference is composed of these parts. -/
structure Composition where
  year : Int
  tail : String
  counter : Option Int
  orgCode : String
  deriving DecidableEq

def Composition.reference (parts : Composition) : String :=
  sarReference parts.year parts.tail (parts.counter.getD 0) parts.orgCode

/-- A call has composed its reference once it has drawn the random tail. -/
def composition : List ReportEvent → Option Composition
  | ⟨.now, now⟩ :: ⟨.orgCode _, orgCode⟩ :: ⟨.incr _, counter⟩ :: ⟨.tokenHex _, tail⟩ :: _ =>
      some ⟨yearOf now, tail, counter, shortCode orgCode⟩
  | _ => none

def counterKey (year : Int) : String := "sar:counter:" ++ toString year

/-- These events come before a report is committed. -/
def preparation (request : SARRequest) (now : Instant) (orgCode : Option String) (counter : Option Int) (tail : String)
    (officer : Option Uuid) (id : Uuid) : List ReportEvent :=
  [⟨.now, now⟩, ⟨.orgCode request.participantID, orgCode⟩, ⟨.incr (counterKey (yearOf now)), counter⟩,
    ⟨.tokenHex 3, tail⟩, ⟨.complianceOfficer, officer⟩, ⟨.uuid4, id⟩]

def CommitsNothing (events : List ReportEvent) : Prop :=
  ∀ report answer, (⟨.commitReport report, answer⟩ : ReportEvent) ∉ events

theorem preparation_commitsNothing (request : SARRequest) (now : Instant) (orgCode : Option String)
    (counter : Option Int) (tail : String) (officer : Option Uuid) (id : Uuid) :
    CommitsNothing (preparation request now orgCode counter tail officer id) := by
  intro report answer member
  simp only [preparation, List.mem_cons, List.not_mem_nil, or_false] at member
  rcases member with same | same | same | same | same | same <;> cases same

/-- A call that ends commits one report, under the reference that it has composed. -/
theorem executes_generate {request : SARRequest} {events : List ReportEvent} {outcome : Except String String}
    (executed : Executes request.generate events outcome) :
    ∃ now orgCode counter tail officer id report committed rest,
      events = preparation request now orgCode counter tail officer id ++ ⟨.commitReport report, committed⟩ :: rest ∧
      report.sarRef = (Composition.mk (yearOf now) tail counter (shortCode orgCode)).reference ∧ CommitsNothing rest := by
  obtain ⟨now, _, rfl, orgCode, _, rfl, counter, _, rfl, tail, _, rfl, officer, _, rfl, id, _, rfl, committed, rest, rfl,
    ended⟩ := executed
  refine ⟨now, orgCode, counter, tail, officer, id, _, committed, rest, rfl, rfl, fun other answer member => ?_⟩
  cases committed with
  | true =>
      obtain ⟨published, _, rfl, heard, _, rfl, rfl, _⟩ := ended
      rcases List.mem_cons.mp member with same | member
      · cases same
      · rcases List.mem_cons.mp member with same | member
        · cases same
        · cases member
  | false =>
      obtain ⟨rfl, _⟩ := ended
      cases member

theorem answer_nonempty (step : reportSignature.Operation) : Nonempty (reportSignature.Answer step) := by
  obtain ⟨answer, _⟩ := exists_reportResponds step ⟨[], [], [], [], nofun, .nil, .nil⟩
  exact ⟨answer⟩

variable {request : C → SARRequest} {registry : ReportRegistry} {final : Reporters C}
  {moments : List (Moment (Reporters C) (C × ReportEvent))}

/-- The events of a call are the first ones of an execution. -/
theorem events_of_run (run : Runs (Pool.Step registryResponds) (Reporters.fresh request registry) moments final) (call : C) :
    ∃ now orgCode counter tail officer id report committed rest later,
      eventsOf (traceOf moments) call ++ later = preparation (request call) now orgCode counter tail officer id ++
        ⟨.commitReport report, committed⟩ :: rest ∧
      report.sarRef = (Composition.mk (yearOf now) tail counter (shortCode orgCode)).reference ∧ CommitsNothing rest := by
  obtain ⟨later, outcome, ended⟩ := Pool.exists_executes answer_nonempty (final.program call)
  obtain ⟨now, orgCode, counter, tail, officer, id, report, committed, rest, same, reference, last⟩ :=
    executes_generate (Pool.executes_of_runs run ended)
  exact ⟨now, orgCode, counter, tail, officer, id, report, committed, rest, later, same, reference, last⟩

/-- A call that has committed has prepared its report before and commits nothing else. -/
theorem events_of_commit (run : Runs (Pool.Step registryResponds) (Reporters.fresh request registry) moments final)
    {call : C} {report : SARReport} {answer : Bool}
    (committed : (⟨.commitReport report, answer⟩ : ReportEvent) ∈ eventsOf (traceOf moments) call) :
    ∃ now orgCode counter tail officer id rest,
      eventsOf (traceOf moments) call = preparation (request call) now orgCode counter tail officer id ++
        ⟨.commitReport report, answer⟩ :: rest ∧
      report.sarRef = (Composition.mk (yearOf now) tail counter (shortCode orgCode)).reference ∧ CommitsNothing rest := by
  obtain ⟨now, orgCode, counter, tail, officer, id, last, kept, rest, later, same, reference, nothing⟩ :=
    events_of_run run call
  have prepared := preparation_commitsNothing (request call) now orgCode counter tail officer id
  rcases List.append_eq_append_iff.mp same with ⟨missing, whole, _⟩ | ⟨more, whole, others⟩
  · rw [whole] at prepared
    exact absurd (List.mem_append_left _ committed) (prepared report answer)
  · rw [whole] at committed
    have inside := (List.mem_append.mp committed).resolve_left (prepared report answer)
    cases more with
    | nil => cases inside
    | cons event more =>
        obtain ⟨rfl, rfl⟩ := List.cons.inj others
        rcases List.mem_cons.mp inside with first | behind
        · cases first
          exact ⟨now, orgCode, counter, tail, officer, id, more, whole, reference,
            fun other answer member => nothing other answer (List.mem_append_left _ member)⟩
        · exact absurd (List.mem_append_left later behind) (nothing report answer)

theorem composition_eq_some {events : List ReportEvent} {parts : Composition} (composed : composition events = some parts) :
    ∃ now participantID orgCode key counter count tail rest,
      events = ⟨.now, now⟩ :: ⟨.orgCode participantID, orgCode⟩ :: ⟨.incr key, counter⟩ :: ⟨.tokenHex count, tail⟩ :: rest ∧
        parts = ⟨yearOf now, tail, counter, shortCode orgCode⟩ := by
  unfold composition at composed
  split at composed
  · exact ⟨_, _, _, _, _, _, _, _, rfl, (Option.some.inj composed).symm⟩
  · cases composed

/-- A composed reference stands behind an increment of the counter of its year. -/
theorem events_of_composition (run : Runs (Pool.Step registryResponds) (Reporters.fresh request registry) moments final)
    {call : C} {parts : Composition} (composed : composition (eventsOf (traceOf moments) call) = some parts) :
    ∃ now orgCode counter tail rest, parts = ⟨yearOf now, tail, counter, shortCode orgCode⟩ ∧
      eventsOf (traceOf moments) call = ⟨.now, now⟩ :: ⟨.orgCode (request call).participantID, orgCode⟩ ::
        ⟨.incr (counterKey (yearOf now)), counter⟩ :: ⟨.tokenHex 3, tail⟩ :: rest := by
  obtain ⟨now, orgCode, counter, tail, officer, id, last, kept, rest, later, same, reference, nothing⟩ :=
    events_of_run run call
  obtain ⟨first, participantID, code, key, count, width, random, more, whole, rfl⟩ := composition_eq_some composed
  rw [whole] at same
  simp only [preparation, List.cons_append, List.nil_append, List.cons.injEq] at same
  obtain ⟨now, code, counts, random, _⟩ := same
  cases now
  cases code
  cases counts
  cases random
  exact ⟨_, _, _, _, _, rfl, whole⟩

/-- The parts of a reference are as the environment answers them. -/
structure Composition.Answered (parts : Composition) (year : Nat) (tail : Bytes) (counter : Nat) : Prop where
  calendar : parts.year = year
  digits : (toString parts.year).length ≤ 4
  random : parts.tail = hex tail
  full : tail.length = 3
  counted : parts.counter = none ∧ counter = 0 ∨ parts.counter = some (counter : Int) ∧ 0 < counter
  orgCode : parts.orgCode.length ≤ 20

theorem length_shortCode (code : Option String) : (shortCode code).length ≤ 20 := by
  rw [shortCode, String.length_ofList, List.length_take]
  exact Nat.min_le_left _ _

theorem answered_of_composition
    (run : Runs (Pool.Step registryResponds) (Reporters.fresh request registry) moments final) {call : C}
    {parts : Composition} (composed : composition (eventsOf (traceOf moments) call) = some parts) :
    ∃ year tail counter, parts.Answered year tail counter := by
  obtain ⟨now, orgCode, counter, tail, rest, rfl, events⟩ := events_of_composition run composed
  have asked (event : ReportEvent) (member : event ∈ eventsOf (traceOf moments) call) := Pool.exists_answered run member
  rw [events] at asked
  obtain ⟨_, _, _, low, high⟩ := asked ⟨.now, now⟩ (by simp)
  obtain ⟨_, _, _, bytes, full, rfl⟩ := asked ⟨.tokenHex 3, tail⟩ (by simp)
  change 1 ≤ yearOf now at low
  change yearOf now ≤ 9999 at high
  obtain ⟨year, same⟩ := Int.eq_ofNat_of_zero_le (show 0 ≤ yearOf now by omega)
  have digits : (toString (yearOf now)).length ≤ 4 := by
    rw [same, ← String.length_toList, toList_year, Nat.length_toDigits_le_iff (by decide) (by decide)]
    omega
  obtain ⟨_, _, ⟨counted, _, _⟩ | ⟨lost, _⟩⟩ :=
    asked ⟨.incr (counterKey (yearOf now)), counter⟩ (by simp)
  · exact ⟨year, bytes, _, same, digits, rfl, full, .inr ⟨counted, Nat.succ_pos _⟩, length_shortCode orgCode⟩
  · exact ⟨year, bytes, 0, same, digits, rfl, full, .inl ⟨lost, rfl⟩, length_shortCode orgCode⟩

theorem Composition.Answered.reference_eq {parts : Composition} {year counter : Nat} {tail : Bytes}
    (answered : parts.Answered year tail counter) :
    parts.reference = sarReference year (hex tail) counter parts.orgCode := by
  have value : parts.counter.getD 0 = counter := by
    obtain ⟨lost, rfl⟩ | ⟨counted, _⟩ := answered.counted
    · rw [lost]
      rfl
    · rw [counted]
      rfl
  rw [Composition.reference, answered.calendar, answered.random, value]

/-- Two entries are not answered by the same value of one counter. -/
def CountsApart (first second : C × ReportEvent) : Prop :=
  ∀ key (value other : Int), first.2 = ⟨.incr key, some value⟩ → second.2 = ⟨.incr key, some other⟩ → value ≠ other

omit [DecidableEq C] in
theorem countsApart_symm : Std.Symm (@CountsApart C) :=
  ⟨fun _ _ apart key value other same otherSame => (apart key other value otherSame same).symm⟩

/-- No counter value was answered twice, and every stored report was committed by a call. -/
structure Recorded (trace : Pool.Trace reportSignature C) (pool : Reporters C) : Prop where
  below : ∀ call key (value : Int), (call, (⟨.incr key, some value⟩ : ReportEvent)) ∈ trace →
    value ≤ pool.world.counter key
  apart : trace.Pairwise CountsApart
  stored : ∀ report ∈ pool.world.tables.reports, ∃ call, (call, (⟨.commitReport report, true⟩ : ReportEvent)) ∈ trace

/-- A step answers a counter value that is new, and moves no counter back. -/
theorem counters_of_responds {step : ReportStep} {registry later : ReportRegistry} {answer : step.Result}
    (answered : registryResponds step registry answer later) :
    (∀ key, registry.counter key ≤ later.counter key) ∧
      ∀ key (value : Int), (⟨step, answer⟩ : ReportEvent) = ⟨.incr key, some value⟩ →
        registry.counter key < value ∧ value ≤ later.counter key := by
  have bumped (key other : String) : registry.counter other ≤ (registry.bump key).counter other := by
    by_cases same : other = key
    · subst same
      simp [ReportRegistry.bump]
    · simp [ReportRegistry.bump, same]
  have unmoved {other : ReportRegistry} (same : other.counter = registry.counter) (key : String) :
      registry.counter key ≤ other.counter key := by rw [same]
  cases step with
  | incr key =>
      rcases answered with ⟨rfl, _, rfl⟩ | ⟨rfl, rfl | rfl⟩
      · refine ⟨bumped key, fun other value same => ?_⟩
        cases same
        simp [ReportRegistry.bump]
      · exact ⟨fun _ => le_rfl, fun other value same => nomatch same⟩
      · exact ⟨bumped key, fun other value same => nomatch same⟩
  | now => exact ⟨unmoved (congrArg _ answered.1), fun key value same => nomatch same⟩
  | tokenHex count => exact ⟨unmoved (congrArg _ answered.1), fun key value same => nomatch same⟩
  | orgCode participantID => exact ⟨unmoved answered.2, fun key value same => nomatch same⟩
  | complianceOfficer => exact ⟨unmoved answered.2, fun key value same => nomatch same⟩
  | uuid4 => exact ⟨unmoved answered.2, fun key value same => nomatch same⟩
  | commitReport report => exact ⟨unmoved answered.2, fun key value same => nomatch same⟩
  | publish channel payload => exact ⟨unmoved answered.2, fun key value same => nomatch same⟩

/-- Only an accepted commit stores a report. -/
theorem reports_of_responds {step : ReportStep} {registry later : ReportRegistry} {answer : step.Result}
    (answered : registryResponds step registry answer later) :
    ∀ report ∈ later.tables.reports,
      report ∈ registry.tables.reports ∨ (⟨step, answer⟩ : ReportEvent) = ⟨.commitReport report, true⟩ := by
  have unmoved {other : ReportRegistry} (same : other.tables = registry.tables) :
      ∀ report ∈ other.tables.reports,
        report ∈ registry.tables.reports ∨ (⟨step, answer⟩ : ReportEvent) = ⟨.commitReport report, true⟩ := by
    rw [same]
    exact fun report member => .inl member
  cases step with
  | commitReport draft =>
      obtain ⟨⟨admitted, rfl, filed⟩ | ⟨_, _, same⟩, _⟩ := answered
      · intro report member
        rw [filed] at member
        rcases List.mem_append.mp member with old | new
        · exact .inl old
        · rw [List.mem_singleton.mp new]
          exact .inr rfl
      · exact unmoved same
  | incr key =>
      rcases answered with ⟨_, _, rfl⟩ | ⟨_, rfl | rfl⟩
      · exact unmoved rfl
      · exact unmoved rfl
      · exact unmoved rfl
  | now => exact unmoved (congrArg _ answered.1)
  | tokenHex count => exact unmoved (congrArg _ answered.1)
  | orgCode participantID => exact unmoved answered.1.1
  | complianceOfficer => exact unmoved answered.1.1
  | uuid4 => exact unmoved answered.1
  | publish channel payload => exact unmoved answered.1

theorem Recorded.step {trace : Pool.Trace reportSignature C} {pool next : Reporters C} {label : C × ReportEvent}
    (recorded : Recorded trace pool) (taken : Pool.Step registryResponds pool label next) :
    Recorded (trace ++ [label]) next := by
  obtain ⟨caller, step, answer⟩ := label
  have answered := taken.answered
  obtain ⟨grows, fresh⟩ := counters_of_responds answered
  constructor
  · intro call key value member
    rcases List.mem_append.mp member with old | new
    · have before := recorded.below call key value old
      have after := grows key
      omega
    · cases List.mem_singleton.mp new
      exact (fresh key value rfl).2
  · refine List.pairwise_append.mpr ⟨recorded.apart, List.pairwise_singleton _ _, ?_⟩
    intro first member second last key value other one two
    obtain rfl := List.mem_singleton.mp last
    obtain ⟨call, event⟩ := first
    obtain rfl : event = ⟨.incr key, some value⟩ := one
    have before := recorded.below call key value member
    have after := (fresh key other two).1
    omega
  · intro report member
    rcases reports_of_responds answered report member with old | same
    · obtain ⟨call, committed⟩ := recorded.stored report old
      exact ⟨call, List.mem_append_left _ committed⟩
    · exact ⟨caller, by rw [← same]; exact List.mem_append_right _ (List.mem_singleton_self _)⟩

theorem recorded_of_run (run : Runs (Pool.Step registryResponds) (Reporters.fresh request registry) moments final)
    (empty : registry.tables.reports = []) : Recorded (traceOf moments) final ∧
      ∀ earlier moment later, moments = earlier ++ moment :: later → Recorded (traceOf earlier) moment.state := by
  have initial : Recorded ([] : Pool.Trace reportSignature C) (Reporters.fresh request registry) := by
    refine ⟨nofun, .nil, fun report member => ?_⟩
    rw [show (Reporters.fresh request registry).world.tables.reports = [] from empty] at member
    cases member
  exact run.keeps_history Recorded (fun trace pool label next taken held => held.step taken) [] initial

end Reporters

section Uniqueness

variable {C : Type} [DecidableEq C]

abbrev ReporterMoments (C : Type) := List (Moment (Reporters C) (C × ReportEvent))

/-- A call has composed a reference from these parts. -/
def Composes (moments : ReporterMoments C) (call : C) (parts : Composition) : Prop :=
  composition (eventsOf (traceOf moments) call) = some parts

/-- The references differ, no commit meets its reference in the table, and every reference fits its column. -/
structure UniqueReferences (moments : ReporterMoments C) : Prop where
  distinct : ∀ first second, first ≠ second → ∀ parts others, Composes moments first parts →
    Composes moments second others → parts.reference ≠ others.reference
  accepted : ∀ moment ∈ moments, ∀ call report answer, moment.label = (call, ⟨.commitReport report, answer⟩) →
    report.sarRef ∉ moment.state.world.tables.reports.map SARReport.sarRef
  short : ∀ call parts, Composes moments call parts → parts.reference.length ≤ 50

/-- Two calls without a counter never draw the same tail for the same year and the same organisation. -/
def TailsDiffer (moments : ReporterMoments C) : Prop :=
  ∀ first second, first ≠ second → ∀ parts others, Composes moments first parts → Composes moments second others →
    parts.counter = none → others.counter = none →
      ¬ (parts.year = others.year ∧ parts.tail = others.tail ∧ parts.orgCode = others.orgCode)

/-- The counters have as many digits as the year and the code of the organisation leave them. -/
def CountersFit (moments : ReporterMoments C) : Prop :=
  ∀ call parts, Composes moments call parts →
    parts.counter.getD 0 < 10 ^ (37 - (toString parts.year).length - parts.orgCode.length)

variable {request : C → SARRequest} {registry : ReportRegistry} {final : Reporters C} {moments : ReporterMoments C}

/-- The counter of a year tells two calls apart unless both have lost it. -/
theorem references_differ_iff (run : Runs (Pool.Step registryResponds) (Reporters.fresh request registry) moments final)
    (empty : registry.tables.reports = []) {first second : C} (different : first ≠ second) {parts others : Composition}
    (firstComposed : Composes moments first parts) (secondComposed : Composes moments second others) :
    parts.reference ≠ others.reference ↔ (parts.counter = none → others.counter = none →
      ¬ (parts.year = others.year ∧ parts.tail = others.tail ∧ parts.orgCode = others.orgCode)) := by
  obtain ⟨year, tail, counter, answered⟩ := answered_of_composition run firstComposed
  obtain ⟨otherYear, otherTail, otherCounter, otherAnswered⟩ := answered_of_composition run secondComposed
  rw [answered.reference_eq, otherAnswered.reference_eq]
  constructor
  · rintro references lost otherLost ⟨years, tails, codes⟩
    rw [answered.calendar, otherAnswered.calendar] at years
    rw [answered.random, otherAnswered.random] at tails
    have zero : counter = 0 := by
      obtain ⟨_, zero⟩ | ⟨counted, _⟩ := answered.counted
      · exact zero
      · cases lost.symm.trans counted
    have otherZero : otherCounter = 0 := by
      obtain ⟨_, zero⟩ | ⟨counted, _⟩ := otherAnswered.counted
      · exact zero
      · cases otherLost.symm.trans counted
    exact references (by rw [Int.natCast_inj.mp years, tails, codes, zero, otherZero])
  · intro condition same
    obtain ⟨rfl, rfl, rfl, codes⟩ := sarReference_inj same
    obtain ⟨lost, zero⟩ | ⟨counted, positive⟩ := answered.counted
    · obtain ⟨otherLost, _⟩ | ⟨_, positive⟩ := otherAnswered.counted
      · exact condition lost otherLost ⟨answered.calendar.trans otherAnswered.calendar.symm,
          answered.random.trans otherAnswered.random.symm, codes⟩
      · omega
    · obtain ⟨_, zero⟩ | ⟨otherCounted, _⟩ := otherAnswered.counted
      · omega
      · -- Both calls incremented one counter, which never answers twice the same.
        obtain ⟨now, orgCode, _, random, rest, rfl, events⟩ := events_of_composition run firstComposed
        obtain ⟨otherNow, otherOrg, _, otherRandom, others, rfl, otherEvents⟩ := events_of_composition run secondComposed
        obtain rfl := counted
        obtain rfl := otherCounted
        have years : yearOf now = yearOf otherNow := answered.calendar.trans otherAnswered.calendar.symm
        have one : (first, (⟨.incr (counterKey (yearOf now)), some (counter : Int)⟩ : ReportEvent)) ∈ traceOf moments := by
          rw [← Pool.mem_eventsOf, events]
          simp
        have two : (second, (⟨.incr (counterKey (yearOf now)), some (counter : Int)⟩ : ReportEvent)) ∈ traceOf moments := by
          rw [← Pool.mem_eventsOf, otherEvents, years]
          simp
        have symmetric : Std.Symm (@CountsApart C) := countsApart_symm
        exact (recorded_of_run run empty).1.apart.forall one two (fun same => different (congrArg Prod.fst same)) _ _ _
          rfl rfl rfl

/-- A reference has room for the counter that its year and its organisation leave. -/
theorem length_reference_le_iff (run : Runs (Pool.Step registryResponds) (Reporters.fresh request registry) moments final)
    {call : C} {parts : Composition} (composed : Composes moments call parts) :
    parts.reference.length ≤ 50 ↔
      parts.counter.getD 0 < 10 ^ (37 - (toString parts.year).length - parts.orgCode.length) := by
  obtain ⟨year, tail, counter, answered⟩ := answered_of_composition run composed
  have value : parts.counter.getD 0 = counter := by
    obtain ⟨lost, rfl⟩ | ⟨counted, _⟩ := answered.counted
    · rw [lost]
      rfl
    · rw [counted]
      rfl
  have digits := answered.digits
  have orgCode := answered.orgCode
  have wide : 4 ≤ 37 - (toString parts.year).length - parts.orgCode.length := by omega
  rw [value, answered.reference_eq, length_sarReference year answered.full, ← answered.calendar]
  have fits := length_fourDigits_le_iff counter wide
  have cast : (counter : Int) < 10 ^ (37 - (toString parts.year).length - parts.orgCode.length) ↔
      counter < 10 ^ (37 - (toString parts.year).length - parts.orgCode.length) := by exact_mod_cast Iff.rfl
  rw [cast, ← fits]
  omega

/-- A commit meets its reference in the table only where another call has composed it as well. -/
theorem exists_composes_of_refused
    (run : Runs (Pool.Step registryResponds) (Reporters.fresh request registry) moments final)
    (empty : registry.tables.reports = []) {moment : Moment (Reporters C) (C × ReportEvent)} (member : moment ∈ moments)
    {call : C} {report : SARReport} {answer : Bool} (label : moment.label = (call, ⟨.commitReport report, answer⟩))
    (stored : report.sarRef ∈ moment.state.world.tables.reports.map SARReport.sarRef) :
    ∃ other, call ≠ other ∧ ∃ parts others, Composes moments call parts ∧ Composes moments other others ∧
      parts.reference = others.reference := by
  obtain ⟨earlier, later, rfl⟩ := List.append_of_mem member
  obtain ⟨held, listed, same⟩ := List.mem_map.mp stored
  obtain ⟨other, committed⟩ := ((recorded_of_run run empty).2 earlier moment later rfl).stored held listed
  obtain ⟨next, before, _, _⟩ := run.split
  have own : (⟨.commitReport report, answer⟩ : ReportEvent) ∈ eventsOf (traceOf (earlier ++ moment :: later)) call := by
    rw [Pool.mem_eventsOf, ← label]
    exact List.mem_map_of_mem member
  have past : (⟨.commitReport held, true⟩ : ReportEvent) ∈ eventsOf (traceOf earlier) other :=
    Pool.mem_eventsOf.mpr committed
  obtain ⟨now, orgCode, counter, tail, officer, id, rest, events, reference, nothing⟩ := events_of_commit run own
  obtain ⟨otherNow, otherOrg, otherCounter, otherTail, otherOfficer, otherId, others, otherEvents, otherReference, _⟩ :=
    events_of_commit before past
  have whole : eventsOf (traceOf (earlier ++ moment :: later)) other =
      preparation (request other) otherNow otherOrg otherCounter otherTail otherOfficer otherId ++
        ⟨.commitReport held, true⟩ :: (others ++ eventsOf (traceOf (moment :: later)) other) := by
    rw [show traceOf (earlier ++ moment :: later) = traceOf earlier ++ traceOf (moment :: later) from List.map_append,
      Pool.eventsOf_append, otherEvents, List.append_assoc, List.cons_append]
  have different : call ≠ other := by
    -- A call commits once, and this commit is not the one of the past.
    rintro rfl
    have rests := (List.cons.inj (List.append_inj (events.symm.trans whole) rfl).2).2
    refine nothing report answer ?_
    rw [rests]
    refine List.mem_append_right _ (Pool.mem_eventsOf.mpr ?_)
    rw [← label]
    exact List.mem_cons_self
  refine ⟨other, different, ⟨yearOf now, tail, counter, shortCode orgCode⟩,
    ⟨yearOf otherNow, otherTail, otherCounter, shortCode otherOrg⟩, ?_, ?_, ?_⟩
  · rw [Composes, events]
    rfl
  · rw [Composes, whole]
    rfl
  · rw [← reference, ← otherReference, same]

/-- The random tail alone has to tell calls apart that have no counter, over all interleavings of the calls. -/
theorem uniqueReferences_iff (run : Runs (Pool.Step registryResponds) (Reporters.fresh request registry) moments final)
    (empty : registry.tables.reports = []) :
    UniqueReferences moments ↔ TailsDiffer moments ∧ CountersFit moments := by
  constructor
  · intro unique
    constructor
    · intro first second different parts others firstComposed secondComposed
      exact (references_differ_iff run empty different firstComposed secondComposed).mp
        (unique.distinct first second different parts others firstComposed secondComposed)
    · intro call parts composed
      exact (length_reference_le_iff run composed).mp (unique.short call parts composed)
  · intro ⟨tails, counters⟩
    have distinct (first second : C) (different : first ≠ second) (parts others : Composition)
        (firstComposed : Composes moments first parts) (secondComposed : Composes moments second others) :
        parts.reference ≠ others.reference :=
      (references_differ_iff run empty different firstComposed secondComposed).mpr
        (tails first second different parts others firstComposed secondComposed)
    refine ⟨distinct, ?_, fun call parts composed => (length_reference_le_iff run composed).mpr (counters call parts composed)⟩
    intro moment member call report answer label stored
    obtain ⟨other, different, parts, others, composed, otherComposed, same⟩ :=
      exists_composes_of_refused run empty member label stored
    exact distinct call other different parts others composed otherComposed same

end Uniqueness

section Samples

/-- This environment always shows the same time and draws the same tail; Redis is there or not. -/
def steadyRespond (available : Bool) : (step : ReportStep) → ReportRegistry → step.Result × ReportRegistry
  | .now, registry => ((0 : Int), registry)
  | .orgCode participantID, registry =>
      ((registry.tables.members.find? (·.id = participantID)).map Member.orgCode, registry)
  | .incr key, registry =>
      if available ∧ registry.counter key + 1 < 2 ^ 63 then
        (some ((registry.counter key + 1 : Nat) : Int), registry.bump key)
      else ((none : Option Int), registry)
  | .tokenHex count, registry => (hex (List.replicate count 171), registry)
  | .complianceOfficer, registry =>
      ((registry.tables.members.find? fun member => member.role = "COMPLIANCE_OFFICER" ∧ member.isActive).map Member.id,
        registry)
  | .uuid4, registry => (Uuid.ofNat registry.tables.reports.length, registry)
  | .commitReport report, registry =>
      if admitted : registry.tables.admits report = true then
        (true, { registry with tables := registry.tables.file report admitted })
      else (false, registry)
  | .publish _ _, registry => (true, registry)

theorem steadyRespond_possible (available : Bool) (step : ReportStep) (registry : ReportRegistry) :
    registryResponds step registry (steadyRespond available step registry).1 (steadyRespond available step registry).2 := by
  cases step with
  | now =>
      have year : yearOf 0 = 1970 := by decide +kernel
      exact ⟨rfl, by show 1 ≤ yearOf 0; omega, by show yearOf 0 ≤ 9999; omega⟩
  | orgCode participantID => exact ⟨⟨rfl, rfl⟩, rfl⟩
  | incr key =>
      simp only [steadyRespond]
      by_cases counted : available ∧ registry.counter key + 1 < 2 ^ 63
      · rw [if_pos counted]
        exact .inl ⟨rfl, counted.2, rfl⟩
      · rw [if_neg counted]
        exact .inr ⟨rfl, .inl rfl⟩
  | tokenHex count => exact ⟨rfl, List.replicate count 171, List.length_replicate, rfl⟩
  | complianceOfficer =>
      refine ⟨⟨rfl, ?_⟩, rfl⟩
      simp only [steadyRespond]
      cases found : registry.tables.members.find? fun member =>
          decide (member.role = "COMPLIANCE_OFFICER" ∧ member.isActive = true) with
      | none => exact .inl ⟨rfl, fun member listed => by simpa using List.find?_eq_none.mp found member listed⟩
      | some officer =>
          have active := List.find?_some found
          rw [decide_eq_true_eq] at active
          exact .inr ⟨officer, List.mem_of_find?_eq_some found, active.1, active.2, rfl⟩
  | uuid4 => exact ⟨rfl, rfl⟩
  | commitReport report =>
      simp only [steadyRespond]
      by_cases admitted : registry.tables.admits report = true
      · rw [dif_pos admitted]
        exact ⟨.inl ⟨admitted, rfl, rfl⟩, rfl⟩
      · rw [dif_neg admitted]
        exact ⟨.inr ⟨Bool.eq_false_iff.mpr admitted, rfl, rfl⟩, rfl⟩
  | publish channel payload => exact ⟨rfl, rfl⟩

/-- One participant is known, and nothing has been reported or counted. -/
def quietRegistry : ReportRegistry where
  tables := ⟨[⟨Assets.bondUuid, "OPERATOR", true, "BANK"⟩], [], [], [], nofun, .nil, .nil⟩
  counter _ := 0

def sampleRequest : SARRequest := ⟨Assets.bondUuid, none, "AML_SCORE_ELEVE", 1000⟩

/-- Two calls take turns. -/
def sampleMoments (available : Bool) : ReporterMoments Bool :=
  (Pool.record (steadyRespond available) (Reporters.fresh (fun _ => sampleRequest) quietRegistry)
    ((List.replicate 9 [true, false]).flatten)).1

theorem sampleMoments_run (available : Bool) : ∃ final, Runs (Pool.Step registryResponds)
    (Reporters.fresh (fun _ => sampleRequest) quietRegistry) (sampleMoments available) final :=
  ⟨_, Pool.runs_record _ (steadyRespond_possible available) _ _⟩

/-- The counters tell the calls apart although they draw the same tail. -/
theorem counted_unique : UniqueReferences (sampleMoments true) := by
  obtain ⟨final, run⟩ := sampleMoments_run true
  have composed : composition (eventsOf (traceOf (sampleMoments true)) true) = some ⟨1970, "ababab", some 1, "BANK"⟩ ∧
      composition (eventsOf (traceOf (sampleMoments true)) false) = some ⟨1970, "ababab", some 2, "BANK"⟩ := by
    decide +kernel
  have counters (call : Bool) (parts : Composition) (listed : Composes (sampleMoments true) call parts) :
      parts.counter = some 1 ∨ parts.counter = some 2 := by
    cases call with
    | true =>
        obtain rfl := Option.some.inj (composed.1.symm.trans listed)
        exact .inl rfl
    | false =>
        obtain rfl := Option.some.inj (composed.2.symm.trans listed)
        exact .inr rfl
  refine (uniqueReferences_iff run rfl).mpr ⟨?_, ?_⟩
  · intro first second _ parts others listed _ lost
    rcases counters first parts listed with counted | counted <;> cases lost.symm.trans counted
  · intro call parts listed
    cases call with
    | true =>
        obtain rfl := Option.some.inj (composed.1.symm.trans listed)
        decide +kernel
    | false =>
        obtain rfl := Option.some.inj (composed.2.symm.trans listed)
        decide +kernel

/-- Without Redis, two calls that draw the same tail compose the same reference, and the second one is refused. -/
theorem uncounted_collide :
    (∃ final, Runs (Pool.Step registryResponds) (Reporters.fresh (fun _ => sampleRequest) quietRegistry)
      (sampleMoments false) final) ∧
      (∀ call, Composes (sampleMoments false) call ⟨1970, "ababab", none, "BANK"⟩) ∧
      (∃ call report, (call, (⟨.commitReport report, false⟩ : ReportEvent)) ∈ traceOf (sampleMoments false)) ∧
      ¬ UniqueReferences (sampleMoments false) := by
  have composed : ∀ call, Composes (sampleMoments false) call ⟨1970, "ababab", none, "BANK"⟩ := by
    unfold Composes
    decide +kernel
  have refused : ((traceOf (sampleMoments false)).any fun entry =>
      match entry.2 with
      | ⟨.commitReport _, false⟩ => true
      | _ => false) = true := by decide +kernel
  refine ⟨sampleMoments_run false, composed, ?_, fun unique =>
    unique.distinct true false (by decide) _ _ (composed true) (composed false) rfl⟩
  obtain ⟨⟨call, event⟩, member, same⟩ := List.any_eq_true.mp refused
  split at same
  · rename_i report found
    obtain rfl : event = ⟨.commitReport report, false⟩ := found
    exact ⟨call, report, member⟩
  · cases same

end Samples

end Pxtly.Compliance
