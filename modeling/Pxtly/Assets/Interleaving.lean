/-
This file gives concurrent calls of the service functions on one asset, one step at a time.
-/

import Pxtly.Assets.Delivery

namespace Pxtly.Assets

open Foundation Program
open Chaincode (statusActif statusGele AssetStatus Ledger Proposal Request Response)
open Fabric (FabricClient)

/-- A process is one call of a service function under an identity. -/
structure Process where
  identityLabel : String
  task : Task

/-- The processes share the ledger and the row of the asset; those with an accepted submission wait. -/
structure Shared (I : Type) where
  ledger : Ledger
  row : AssetRow
  waiting : List I

/-- The database answers with the present row, and each user has the e-mail address of the directory. -/
def Observes (emailOf : Uuid → Option String) (row : AssetRow) : ServiceEvent → Prop
  | ⟨.selectAsset assetID, .success found⟩ => assetID = row.assetID → found = some row
  | ⟨.selectUserByEmail email, .success (some user)⟩ => emailOf user.id = some email
  | ⟨.refresh assetID, .success found⟩ => assetID = row.assetID → found = row
  | _ => True

/-- Only these operations change what the processes share. -/
def Operation.moves : Operation → Bool
  | .submitTransaction .. => true
  | .commit _ => true
  | _ => false

/-- A new asset has a row of its own. -/
def UnitOfWork.apply (row : AssetRow) : UnitOfWork → AssetRow
  | .insert _ => row
  | .update loaded change _ => change.apply loaded row

section Runs

variable {I : Type} [DecidableEq I] (client : FabricClient) (emailOf : Uuid → Option String)

/-- One process takes one step; a submission and a commit take effect at once or not at all. -/
inductive Step : Shared I → I × ServiceEvent → Shared I → Prop where
  | observe (state : Shared I) (process : I) (event : ServiceEvent)
      (still : event.operation.moves = false) (observes : Observes emailOf state.row event) :
      Step state (process, event) state
  | accept (state : Shared I) (process : I) (proposal : Proposal) (request : Request)
      (identityLabel : String) (reply : Reply Json) (ledger : Ledger) (response : Response)
      (accepted : client.submitTransaction state.ledger proposal request identityLabel =
        (ledger, .ok response)) (applied : reply.applied = true) :
      Step state (process, ⟨.submitTransaction request identityLabel, reply⟩)
        { state with ledger, waiting := state.waiting ++ [process] }
  | refuse (state : Shared I) (process : I) (request : Request) (identityLabel : String)
      (reply : Reply Json) (unapplied : reply.applied = false) :
      Step state (process, ⟨.submitTransaction request identityLabel, reply⟩) state
  | commit (state : Shared I) (process : I) (work : UnitOfWork) (reply : Reply Unit)
      (applied : reply.applied = true) :
      Step state (process, ⟨.commit work, reply⟩)
        { state with row := work.apply state.row, waiting := state.waiting.erase process }
  | lose (state : Shared I) (process : I) (work : UnitOfWork) (reply : Reply Unit)
      (unapplied : reply.applied = false) :
      Step state (process, ⟨.commit work, reply⟩) state

/-- The steps of a run meet a condition on the state before them. -/
inductive Run (meets : Shared I → I × ServiceEvent → Prop) :
    Shared I → List (I × ServiceEvent) → Shared I → Prop where
  | nil (state : Shared I) : Run meets state [] state
  | cons {state next final : Shared I} {step : I × ServiceEvent} {trace : List (I × ServiceEvent)}
      (moved : Step client emailOf state step next) (met : meets state step)
      (rest : Run meets next trace final) : Run meets state (step :: trace) final

/-- These are the events of one process. -/
def projection (trace : List (I × ServiceEvent)) (process : I) : List ServiceEvent :=
  (trace.filter fun step => step.1 = process).map Prod.snd

theorem mem_projection {trace : List (I × ServiceEvent)} {process : I} {event : ServiceEvent} :
    event ∈ projection trace process ↔ (process, event) ∈ trace := by
  simp [projection]

end Runs

/-- These events begin a call of the process. -/
def Begun (process : Process) (events : List ServiceEvent) : Prop :=
  ∃ later outcome, Executes (perform process.identityLabel process.task) (events ++ later) outcome

/-- The users that these events looked up have the e-mail addresses of the directory. -/
def Directed (emailOf : Uuid → Option String) (events : List ServiceEvent) : Prop :=
  ∀ email user, ⟨.selectUserByEmail email, Reply.success (some user)⟩ ∈ events →
    emailOf user.id = some email

theorem directed_of_run {I : Type} [DecidableEq I] {client : FabricClient}
    {emailOf : Uuid → Option String} {meets : Shared I → I × ServiceEvent → Prop}
    {start final : Shared I} {trace : List (I × ServiceEvent)}
    (run : Run client emailOf meets start trace final) (process : I) :
    Directed emailOf (projection trace process) := by
  intro email user member
  rw [mem_projection] at member
  induction run with
  | nil state => cases member
  | cons moved met rest inductionHypothesis =>
      rcases List.mem_cons.mp member with rfl | member
      · cases moved with
        | observe process event still observes => exact observes
      · exact inductionHypothesis member

/-- A hold writes nothing but the status. -/
structure AssetUpdate.WritesStatus (update : AssetUpdate) (status : AssetStatus) : Prop where
  owner : update.currentOwnerID = none
  value : update.currentValue = none
  status : update.status = some status

/-- A transfer writes its recipient and its price. -/
structure AssetUpdate.WritesOwnership (emailOf : Uuid → Option String) (update : AssetUpdate)
    (request : TransferRequest) : Prop where
  owner : ∃ owner, update.currentOwnerID = some owner ∧ emailOf owner = some request.toOwner
  value : update.currentValue = some request.price
  status : update.status = none

/-- This is what the commit of a task writes. -/
def Task.Commits (emailOf : Uuid → Option String) : Task → UnitOfWork → Prop
  | .tokenize _, .insert _ => True
  | .transfer request _ _, .update _ update _ => update.WritesOwnership emailOf request
  | .freeze _ _ _, .update _ update _ => update.WritesStatus statusGele
  | .unfreezeAsset _ _ _, .update _ update _ => update.WritesStatus statusActif
  | _, _ => False

/-- A prepared unit of work writes what its task commits. -/
theorem commits_of_prepares {emailOf : Uuid → Option String} {task : Task} {seen : List ServiceEvent}
    {fabric : PyText × Option PyInt} {work : UnitOfWork} (directed : Directed emailOf seen)
    (prepares : task.Prepares seen fabric work) : task.Commits emailOf work := by
  cases task with
  | tokenize request =>
      obtain ⟨org, user, _, rfl⟩ := prepares
      trivial
  | transfer request currentUser fresh =>
      obtain ⟨asset, recipient, _, known, _, rfl⟩ := prepares
      exact ⟨⟨recipient.id, rfl, directed _ _ known⟩, rfl, rfl⟩
  | freeze request currentUser fresh =>
      obtain ⟨asset, _, rfl⟩ := prepares
      exact ⟨rfl, rfl, rfl⟩
  | unfreezeAsset request currentUser fresh =>
      obtain ⟨asset, _, rfl⟩ := prepares
      exact ⟨rfl, rfl, rfl⟩

/-- A submission is the call of the process, and a commit writes what its task commits. -/
def Genuine (emailOf : Uuid → Option String) (process : Process) : ServiceEvent → Prop
  | ⟨.submitTransaction request identityLabel, _⟩ =>
      request = process.task.call ∧ identityLabel = process.identityLabel
  | ⟨.commit work, _⟩ => process.task.Commits emailOf work
  | _ => True

theorem genuine_still {emailOf : Uuid → Option String} {process : Process} {event : ServiceEvent}
    (still : event.operation.moves = false) : Genuine emailOf process event := by
  obtain ⟨operation, reply⟩ := event
  cases operation <;> first | cases still; done | trivial

theorem still_of_reading {operation : Operation} (reading : operation.isReading = true) :
    operation.moves = false := by
  cases operation <;> first | rfl | cases reading

theorem still_of_closing {operation : Operation} (closing : operation.isClosing = true) :
    operation.moves = false := by
  cases operation <;> first | rfl | cases closing

theorem genuine_approach {emailOf : Uuid → Option String} {process : Process}
    {before lookups : List ServiceEvent} {payload : Json} (readsBefore : Reads before)
    (readsAfter : Reads lookups) :
    ∀ event ∈ approach process.identityLabel process.task before payload lookups,
      Genuine emailOf process event := by
  intro event member
  rcases List.mem_append.mp member with inside | inside
  · exact genuine_still (still_of_reading (readsBefore event inside))
  · rcases List.mem_cons.mp inside with rfl | inside
    · exact ⟨rfl, rfl⟩
    · exact genuine_still (still_of_reading (readsAfter event inside))

/-- The beginning of a list ends before an entry, or it takes the entry in. -/
theorem beginning_cases {A : Type} {events later first tail : List A} {event : A}
    (same : events ++ later = first ++ event :: tail) :
    (∀ other ∈ events, other ∈ first) ∨
      ∃ rest, events = first ++ event :: rest ∧ ∀ other ∈ rest, other ∈ tail := by
  rcases List.append_eq_append_iff.mp same with ⟨rest, rfl, _⟩ | ⟨rest, rfl, tails⟩
  · exact .inl fun other member => List.mem_append_left _ member
  · cases rest with
    | nil => exact .inl fun other member => by simpa using member
    | cons other rest =>
        obtain ⟨rfl, rfl⟩ := List.cons.inj tails
        exact .inr ⟨rest, rfl, fun other member => List.mem_append_left _ member⟩

/-- Where no commit has failed, every event of a call is genuine. -/
theorem genuine_of_begun {emailOf : Uuid → Option String} {process : Process} {events : List ServiceEvent}
    (begun : Begun process events) (unfailed : ∀ event ∈ events, raisesCommit event = false)
    (directed : Directed emailOf events) : ∀ event ∈ events, Genuine emailOf process event := by
  obtain ⟨later, outcome, executed⟩ := begun
  have run := sagaRun_of_executes executed
  -- A failed commit lies behind the events, so these stay in the approach.
  have failing : ∀ {before lookups tail : List ServiceEvent} {payload : Json} {work : UnitOfWork}
      {fault : ServiceError} {applied : Bool}, Reached process.task before payload lookups work →
      events ++ later = approach process.identityLabel process.task before payload lookups ++
        ⟨.commit work, Reply.failure fault applied⟩ :: tail →
      ∀ event ∈ events, Genuine emailOf process event := by
    intro before lookups tail payload work fault applied reached same event member
    rcases beginning_cases same with inside | ⟨rest, rfl, _⟩
    · exact genuine_approach reached.readsBefore reached.readsAfter event (inside event member)
    · cases unfailed _ (List.mem_append_right _ List.mem_cons_self)
  generalize whole : events ++ later = all at run
  have begins : ∀ event ∈ events, event ∈ all := fun event member =>
    whole ▸ List.mem_append_left later member
  cases run with
  | refused before fault reads =>
      intro event member
      exact genuine_still (still_of_reading (reads event (begins event member)))
  | unsubmitted before fault applied reads =>
      intro event member
      rcases List.mem_append.mp (begins event member) with inside | inside
      · exact genuine_still (still_of_reading (reads event inside))
      · obtain rfl := List.mem_singleton.mp inside
        exact ⟨rfl, rfl⟩
  | unreadable before payload fault reads unread =>
      intro event member
      exact genuine_approach reads (by simp [Reads]) event (begins event member)
  | unfound before payload lookups fault readsBefore readsAfter misses =>
      intro event member
      exact genuine_approach readsBefore readsAfter event (begins event member)
  | stuck before payload lookups work first second applied rolledBack reached => exact failing reached whole
  | abandoned before payload lookups work fault applied reached none => exact failing reached whole
  | compensated before payload lookups work fault applied request reply reached some =>
      exact failing reached whole
  | committed before payload lookups work closing outcome reached closes =>
      intro event member
      rcases beginning_cases whole with inside | ⟨rest, rfl, behind⟩
      · exact genuine_approach reached.readsBefore reached.readsAfter event (inside event member)
      · rcases List.mem_append.mp member with inside | inside
        · exact genuine_approach reached.readsBefore reached.readsAfter event inside
        · rcases List.mem_cons.mp inside with rfl | inside
          · obtain ⟨fabric, _, prepares⟩ := reached.prepared
            refine commits_of_prepares ?_ prepares
            intro email user known
            apply directed email user
            rcases List.mem_append.mp known with known | known <;> simp [approach, known]
          · exact genuine_still (still_of_closing (closes event (behind event inside)))

end Pxtly.Assets
