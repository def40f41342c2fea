/-
This file tells which failing executions leave a ledger change without a record or a compensation.
-/

import Pxtly.Assets.Executions

namespace Pxtly.Assets

open Foundation Program

def isSubmission : ServiceEvent → Bool
  | ⟨.submitTransaction .., _⟩ => true
  | _ => false

/-- The submission reached the ledger, whatever the caller saw. -/
def appliesSubmission : ServiceEvent → Bool
  | ⟨.submitTransaction .., reply⟩ => Reply.applied reply
  | _ => false

/-- The commit reached the database, whatever the caller saw. -/
def appliesCommit : ServiceEvent → Bool
  | ⟨.commit _, reply⟩ => Reply.applied reply
  | _ => false

def failsCommit : ServiceEvent → Bool
  | ⟨.commit _, reply⟩ => !Reply.applied reply
  | _ => false

def failsRollback : ServiceEvent → Bool
  | ⟨.rollback, .failure _ _⟩ => true
  | _ => false

/-- A response is usable when the function can read its two fields. -/
def usesResponse (invalidResponse : String) : ServiceEvent → Bool
  | ⟨.submitTransaction .., .success payload⟩ => (readResponse invalidResponse payload).isOk
  | _ => false

/-- The first submission of an execution moved the ledger. -/
def MovesLedger (events : List ServiceEvent) : Prop :=
  ∃ event, events.find? isSubmission = some event ∧ appliesSubmission event = true

/-- The database took the change, or a second transaction was submitted. -/
def Covered (events : List ServiceEvent) : Prop :=
  (∃ event ∈ events, appliesCommit event = true) ∨ 2 ≤ events.countP isSubmission

/-- The environment's answers let an execution cover its ledger change. -/
structure Coverable (task : Task) (events : List ServiceEvent) : Prop where
  response : ∀ event, events.find? isSubmission = some event →
    usesResponse task.invalidResponse event = true
  rows : FindsRows events
  settles : (∀ event ∈ events, failsCommit event = false) ∨
    (task.compensation.isSome = true ∧ ∀ event ∈ events, failsRollback event = false)

/-- A read is none of the events that decide a saga. -/
theorem reading_plain {event : ServiceEvent} (reading : event.operation.isReading = true) :
    isSubmission event = false ∧ appliesCommit event = false ∧ failsCommit event = false ∧
      failsRollback event = false := by
  obtain ⟨operation, reply⟩ := event
  cases operation <;> first | exact ⟨rfl, rfl, rfl, rfl⟩ | cases reading

theorem closing_plain {event : ServiceEvent} (closing : event.operation.isClosing = true) :
    isSubmission event = false ∧ missesRow event = false ∧ failsCommit event = false := by
  obtain ⟨operation, reply⟩ := event
  cases operation <;> first | exact ⟨rfl, rfl, rfl⟩ | cases closing

theorem countP_reads {events : List ServiceEvent} (reads : Reads events) :
    events.countP isSubmission = 0 := by
  rw [List.countP_eq_zero]
  intro event member
  simp [(reading_plain (reads event member)).1]

/-- The first submission stands behind the reads. -/
theorem find_submission {before later : List ServiceEvent} {request : Chaincode.Request}
    {identityLabel : String} {reply : Reply Json} (reads : Reads before) :
    (before ++ ⟨.submitTransaction request identityLabel, reply⟩ :: later).find? isSubmission =
      some ⟨.submitTransaction request identityLabel, reply⟩ := by
  have skipped : before.find? isSubmission = none := by
    rw [List.find?_eq_none]
    intro event member
    simp [(reading_plain (reads event member)).1]
  rw [List.find?_append, skipped, Option.none_or]
  rfl

theorem countP_submission {before later : List ServiceEvent} {request : Chaincode.Request}
    {identityLabel : String} {reply : Reply Json} (reads : Reads before) :
    (before ++ ⟨.submitTransaction request identityLabel, reply⟩ :: later).countP isSubmission =
      1 + later.countP isSubmission := by
  rw [List.countP_append, countP_reads reads, List.countP_cons]
  simp [isSubmission, Nat.add_comm]

/-- Up to the commit, nothing decides the saga but the response. -/
theorem approach_plain {identityLabel : String} {task : Task} {before lookups : List ServiceEvent}
    {payload : Json} (readsBefore : Reads before) (readsAfter : Reads lookups) :
    ∀ event ∈ approach identityLabel task before payload lookups,
      appliesCommit event = false ∧ failsCommit event = false ∧ failsRollback event = false := by
  intro event member
  rcases List.mem_append.mp member with inside | inside
  · exact (reading_plain (readsBefore event inside)).2
  · rcases List.mem_cons.mp inside with rfl | inside
    · exact ⟨rfl, rfl, rfl⟩
    · exact (reading_plain (readsAfter event inside)).2

theorem approach_finds {identityLabel : String} {task : Task} {before lookups : List ServiceEvent}
    {payload : Json} (findsBefore : FindsRows before) (findsAfter : FindsRows lookups) :
    FindsRows (approach identityLabel task before payload lookups) := by
  intro event member
  rcases List.mem_append.mp member with inside | inside
  · exact findsBefore event inside
  · rcases List.mem_cons.mp inside with rfl | inside
    · rfl
    · exact findsAfter event inside

/-- A reached commit has used its response. -/
theorem Reached.response {identityLabel : String} {task : Task} {before lookups later : List ServiceEvent}
    {payload : Json} {work : UnitOfWork} (reached : Reached task before payload lookups work) :
    ∀ event, (approach identityLabel task before payload lookups ++ later).find? isSubmission =
      some event → usesResponse task.invalidResponse event = true := by
  intro event first
  rw [approach, List.append_assoc, List.cons_append, find_submission reached.readsBefore] at first
  obtain rfl := Option.some.inj first
  obtain ⟨fabric, read, _⟩ := reached.prepared
  simp [usesResponse, read, Except.isOk, Except.toBool]

/-- The count of submissions from a reached commit on. -/
theorem Reached.countP {identityLabel : String} {task : Task} {before lookups later : List ServiceEvent}
    {payload : Json} {work : UnitOfWork} (reached : Reached task before payload lookups work) :
    (approach identityLabel task before payload lookups ++ later).countP isSubmission =
      1 + later.countP isSubmission := by
  rw [approach, List.append_assoc, List.cons_append, countP_submission reached.readsBefore,
    List.countP_append, countP_reads reached.readsAfter, Nat.zero_add]

/-- From a reached commit on, only the tail decides whether the change is covered. -/
theorem Reached.covered_iff {identityLabel : String} {task : Task}
    {before lookups tail : List ServiceEvent} {payload : Json} {work : UnitOfWork}
    (reached : Reached task before payload lookups work) :
    Covered (approach identityLabel task before payload lookups ++ tail) ↔
      (∃ event ∈ tail, appliesCommit event = true) ∨ 1 ≤ tail.countP isSubmission := by
  unfold Covered
  rw [reached.countP]
  apply or_congr
  · constructor
    · rintro ⟨event, member, applies⟩
      rcases List.mem_append.mp member with inside | inside
      · have plain := (approach_plain reached.readsBefore reached.readsAfter event inside).1
        rw [plain] at applies
        cases applies
      · exact ⟨event, inside, applies⟩
    · rintro ⟨event, member, applies⟩
      exact ⟨event, List.mem_append_right _ member, applies⟩
  · omega

/-- From a reached commit on, only the tail decides whether the change can be covered. -/
theorem Reached.coverable_iff {identityLabel : String} {task : Task}
    {before lookups tail : List ServiceEvent} {payload : Json} {work : UnitOfWork}
    (reached : Reached task before payload lookups work) :
    Coverable task (approach identityLabel task before payload lookups ++ tail) ↔
      FindsRows tail ∧ ((∀ event ∈ tail, failsCommit event = false) ∨
        (task.compensation.isSome = true ∧ ∀ event ∈ tail, failsRollback event = false)) := by
  have plain : ∀ event ∈ approach identityLabel task before payload lookups,
      failsCommit event = false ∧ failsRollback event = false := fun event member =>
    (approach_plain reached.readsBefore reached.readsAfter event member).2
  constructor
  · intro coverable
    refine ⟨fun event member => coverable.rows event (List.mem_append_right _ member), ?_⟩
    rcases coverable.settles with settled | ⟨compensates, rolledBack⟩
    · exact .inl fun event member => settled event (List.mem_append_right _ member)
    · exact .inr ⟨compensates, fun event member => rolledBack event (List.mem_append_right _ member)⟩
  · intro condition
    refine ⟨reached.response, ?_, ?_⟩
    · intro event member
      rcases List.mem_append.mp member with inside | inside
      · exact approach_finds reached.findsBefore reached.findsAfter event inside
      · exact condition.1 event inside
    · rcases condition.2 with settled | ⟨compensates, rolledBack⟩
      · refine .inl ?_
        intro event member
        rcases List.mem_append.mp member with inside | inside
        · exact (plain event inside).1
        · exact settled event inside
      · refine .inr ⟨compensates, ?_⟩
        intro event member
        rcases List.mem_append.mp member with inside | inside
        · exact (plain event inside).2
        · exact rolledBack event inside

/-- An execution that ends before its commit covers nothing. -/
theorem not_covered_approach {identityLabel : String} {task : Task} {before lookups : List ServiceEvent}
    {payload : Json} (readsBefore : Reads before) (readsAfter : Reads lookups) :
    ¬ Covered (approach identityLabel task before payload lookups) := by
  rintro (⟨event, member, applies⟩ | twice)
  · rw [(approach_plain readsBefore readsAfter event member).1] at applies
    cases applies
  · rw [approach, countP_submission readsBefore, countP_reads readsAfter] at twice
    omega

end Pxtly.Assets
