/-
This file states once which operations each service function performs, and in which order.
-/

import Pxtly.Assets.Service

namespace Pxtly.Assets

open Foundation Program
open Chaincode (Request)

theorem executes_ask (operation : Operation) (events : List ServiceEvent)
    (outcome : Except ServiceError operation.Result) :
    Executes (ask operation) events outcome ↔
      ∃ reply : Reply operation.Result, events = [⟨operation, reply⟩] ∧ outcome = reply.result := by
  change (∃ reply : Reply operation.Result, ∃ later, events = ⟨operation, reply⟩ :: later ∧
    Executes (lift (Reply.result reply)) later outcome) ↔ _
  simp only [executes_lift]
  constructor
  · rintro ⟨reply, _, rfl, rfl, rfl⟩
    exact ⟨reply, rfl, rfl⟩
  · rintro ⟨reply, rfl, rfl⟩
    exact ⟨reply, [], rfl, rfl, rfl⟩

/-- A first operation succeeds and the rest follows, or it decides the outcome. -/
theorem executes_ask_bind {A : Type} (operation : Operation) (next : operation.Result → Service A)
    (events : List ServiceEvent) (outcome : Except ServiceError A) :
    Executes (ask operation >>= next) events outcome ↔
      (∃ fault applied, events = [⟨operation, Reply.failure fault applied⟩] ∧ outcome = .error fault) ∨
      ∃ value later, events = ⟨operation, Reply.success value⟩ :: later ∧
        Executes (next value) later outcome := by
  rw [executes_bind]
  simp only [executes_ask]
  constructor
  · rintro (⟨fault, rfl, reply, rfl, same⟩ | ⟨_, later, value, rfl, ⟨reply, rfl, same⟩, executed⟩)
    · cases reply with
      | success value => cases same
      | failure fault applied =>
          obtain rfl := Except.error.inj same
          exact .inl ⟨_, applied, rfl, rfl⟩
    · cases reply with
      | success value =>
          obtain rfl := Except.ok.inj same
          exact .inr ⟨_, later, rfl, executed⟩
      | failure fault applied => cases same
  · rintro (⟨fault, applied, rfl, rfl⟩ | ⟨value, later, rfl, executed⟩)
    · exact .inl ⟨fault, rfl, _, rfl, rfl⟩
    · exact .inr ⟨_, later, value, rfl, ⟨_, rfl, rfl⟩, executed⟩

theorem executes_lift_bind {A B : Type} (result : Except ServiceError A) (next : A → Service B)
    (events : List ServiceEvent) (outcome : Except ServiceError B) :
    Executes (lift result >>= next) events outcome ↔
      (∃ fault, result = .error fault ∧ events = [] ∧ outcome = .error fault) ∨
      ∃ value, result = .ok value ∧ Executes (next value) events outcome := by
  cases result with
  | error fault =>
      change Executes (raise fault) events outcome ↔ _
      simp
  | ok value =>
      change Executes (next value) events outcome ↔ _
      simp

/-- A best-effort step may do anything before the rest follows. -/
theorem executes_quietly_bind {A : Type} (step : Service Unit) (next : Unit → Service A)
    (events : List ServiceEvent) (outcome : Except ServiceError A) :
    Executes (quietly step >>= next) events outcome ↔
      ∃ first later result, events = first ++ later ∧ Executes step first result ∧
        Executes (next ()) later outcome := by
  rw [executes_bind]
  simp only [quietly, executes_handle, executes_pure]
  constructor
  · rintro (⟨fault, rfl, ⟨_, impossible, _⟩ | ⟨_, _, _, _, _, _, impossible⟩⟩ |
      ⟨first, later, value, rfl, executed, rest⟩)
    · cases impossible
    · cases impossible
    · rcases executed with ⟨_, _, executed⟩ | ⟨inner, _, fault, rfl, executed, rfl, _⟩
      · exact ⟨first, later, _, rfl, executed, rest⟩
      · exact ⟨inner, later, _, by rw [List.append_nil], executed, rest⟩
  · rintro ⟨first, later, result, rfl, executed, rest⟩
    refine .inr ⟨first, later, (), rfl, ?_, rest⟩
    cases result with
    | ok value => exact .inl ⟨(), trivial, executed⟩
    | error fault => exact .inr ⟨first, [], fault, by rw [List.append_nil], executed, rfl, trivial⟩

/-- A guarded commit succeeds and the rest follows, or its handler runs before the rest. -/
theorem executes_commitOr_bind {A : Type} (work : UnitOfWork) (handler : ServiceError → Service Unit)
    (next : Unit → Service A) (events : List ServiceEvent) (outcome : Except ServiceError A) :
    Executes (commitOr work handler >>= next) events outcome ↔
      (∃ later, events = ⟨.commit work, Reply.success ()⟩ :: later ∧ Executes (next ()) later outcome) ∨
      ∃ fault applied later, events = ⟨.commit work, Reply.failure fault applied⟩ :: later ∧
        Executes (handler fault >>= next) later outcome := by
  change (∃ reply : Reply Unit, ∃ later, events = ⟨.commit work, reply⟩ :: later ∧
    Executes (((lift reply.result).handle handler) >>= next) later outcome) ↔ _
  constructor
  · rintro ⟨reply, later, rfl, executed⟩
    cases reply with
    | success value => exact .inl ⟨later, rfl, executed⟩
    | failure fault applied => exact .inr ⟨fault, applied, later, rfl, executed⟩
  · rintro (⟨later, rfl, executed⟩ | ⟨fault, applied, later, rfl, executed⟩)
    · exact ⟨.success (), later, rfl, executed⟩
    · exact ⟨.failure fault applied, later, rfl, executed⟩

/-- The reads and the compliance check move nothing that a commit could write. -/
def Operation.isReading : Operation → Bool
  | .selectAsset _ => true
  | .selectUserByEmail _ => true
  | .selectOrganization _ => true
  | .selectUserOfOrganization _ => true
  | .fullCheck _ => true
  | _ => false

/-- These operations follow a successful commit. -/
def Operation.isClosing : Operation → Bool
  | .refresh _ => true
  | .connectGraph => true
  | .ingestTransaction .. => true
  | .ingestFreeze .. => true
  | .publish .. => true
  | _ => false

def Reads (events : List ServiceEvent) : Prop := ∀ event ∈ events, event.operation.isReading = true

def Closes (events : List ServiceEvent) : Prop := ∀ event ∈ events, event.operation.isClosing = true

/-- A look-up misses its row when it fails or finds nothing; only an organisation may have no user. -/
def missesRow : ServiceEvent → Bool
  | ⟨.selectAsset _, .success (some _)⟩ => false
  | ⟨.selectAsset _, _⟩ => true
  | ⟨.selectUserByEmail _, .success (some _)⟩ => false
  | ⟨.selectUserByEmail _, _⟩ => true
  | ⟨.selectOrganization _, .success (some _)⟩ => false
  | ⟨.selectOrganization _, _⟩ => true
  | ⟨.selectUserOfOrganization _, .failure _ _⟩ => true
  | _ => false

def FindsRows (events : List ServiceEvent) : Prop := ∀ event ∈ events, missesRow event = false

/-- This is the request that each function submits first. -/
def Task.call : Task → Request
  | .tokenize request => tokenizeCall request
  | .transfer request _ _ => transferCall request
  | .freeze request _ _ => (freezeChange request).call
  | .unfreezeAsset request _ _ => (unfreezeChange request).call

/-- This is the request that each function submits behind a failed commit. -/
def Task.compensation : Task → Option Request
  | .tokenize _ => none
  | .transfer _ none _ => none
  | .transfer request (some user) _ =>
      if user.email = "" then none else some (transferCompensation request user.email)
  | .freeze request _ _ => some (freezeChange request).compensation
  | .unfreezeAsset request _ _ => some (unfreezeChange request).compensation

def Task.invalidResponse : Task → String
  | .tokenize _ => tokenizeInvalid
  | .transfer _ _ _ => transferInvalid
  | .freeze request _ _ => (freezeChange request).invalidResponse
  | .unfreezeAsset request _ _ => (unfreezeChange request).invalidResponse

/-- A freeze or an unfreeze prepares its change of the row that it read. -/
def PreparesHold (change : HoldChange) (currentUser : Option User) (fresh : Uuid)
    (seen : List ServiceEvent) (fabric : PyText × Option PyInt) (work : UnitOfWork) : Prop :=
  ∃ asset, ⟨.selectAsset change.assetID, Reply.success (some asset)⟩ ∈ seen ∧
    work = .update asset (change.update fabric) (change.transaction currentUser fresh asset fabric)

/-- The unit of work is made of the rows that the task saw. -/
def Task.Prepares (seen : List ServiceEvent) (fabric : PyText × Option PyInt) (work : UnitOfWork) :
    Task → Prop
  | .tokenize request => ∃ org user,
      ⟨.selectOrganization request.issuerLEI, Reply.success (some org)⟩ ∈ seen ∧
        work = .insert (request.newAsset org user fabric)
  | .transfer request currentUser fresh => ∃ asset recipient,
      ⟨.selectAsset request.assetID, Reply.success (some asset)⟩ ∈ seen ∧
        ⟨.selectUserByEmail request.toOwner, Reply.success (some recipient)⟩ ∈ seen ∧
        asset.status ≠ Chaincode.statusGele ∧
        work = .update asset (request.update recipient fabric)
          (request.transaction currentUser fresh asset recipient fabric)
  | .freeze request currentUser fresh =>
      PreparesHold (freezeChange request) currentUser fresh seen fabric work
  | .unfreezeAsset request currentUser fresh =>
      PreparesHold (unfreezeChange request) currentUser fresh seen fabric work

/-- The events up to the commit: reads, the submission, and more reads. -/
def approach (identityLabel : String) (task : Task) (before : List ServiceEvent) (payload : Json)
    (lookups : List ServiceEvent) : List ServiceEvent :=
  before ++ ⟨.submitTransaction task.call identityLabel, Reply.success payload⟩ :: lookups

/-- A task has reached its commit when it has read a response and found its rows. -/
structure Reached (task : Task) (before : List ServiceEvent) (payload : Json)
    (lookups : List ServiceEvent) (work : UnitOfWork) : Prop where
  readsBefore : Reads before
  findsBefore : FindsRows before
  readsAfter : Reads lookups
  findsAfter : FindsRows lookups
  prepared : ∃ fabric, readResponse task.invalidResponse payload = .ok fabric ∧
    task.Prepares (before ++ lookups) fabric work

/-- Every execution of a service function is one of these runs. -/
inductive SagaRun (identityLabel : String) (task : Task) :
    List ServiceEvent → Except ServiceError AssetResponse → Prop where
  | refused (before : List ServiceEvent) (fault : ServiceError) (reads : Reads before) :
      SagaRun identityLabel task before (.error fault)
  | unsubmitted (before : List ServiceEvent) (fault : ServiceError) (applied : Bool)
      (reads : Reads before) :
      SagaRun identityLabel task
        (before ++ [⟨.submitTransaction task.call identityLabel, Reply.failure fault applied⟩])
        (.error fault)
  | unreadable (before : List ServiceEvent) (payload : Json) (fault : ServiceError)
      (reads : Reads before) (unread : readResponse task.invalidResponse payload = .error fault) :
      SagaRun identityLabel task (approach identityLabel task before payload []) (.error fault)
  | unfound (before : List ServiceEvent) (payload : Json) (lookups : List ServiceEvent)
      (fault : ServiceError) (readsBefore : Reads before) (readsAfter : Reads lookups)
      (misses : ∃ event ∈ lookups, missesRow event = true) :
      SagaRun identityLabel task (approach identityLabel task before payload lookups) (.error fault)
  | stuck (before : List ServiceEvent) (payload : Json) (lookups : List ServiceEvent)
      (work : UnitOfWork) (first second : ServiceError) (applied rolledBack : Bool)
      (reached : Reached task before payload lookups work) :
      SagaRun identityLabel task (approach identityLabel task before payload lookups ++
        [⟨.commit work, Reply.failure first applied⟩, ⟨.rollback, Reply.failure second rolledBack⟩])
        (.error second)
  | abandoned (before : List ServiceEvent) (payload : Json) (lookups : List ServiceEvent)
      (work : UnitOfWork) (fault : ServiceError) (applied : Bool)
      (reached : Reached task before payload lookups work) (none : task.compensation = none) :
      SagaRun identityLabel task (approach identityLabel task before payload lookups ++
        [⟨.commit work, Reply.failure fault applied⟩, ⟨.rollback, Reply.success ()⟩]) (.error fault)
  | compensated (before : List ServiceEvent) (payload : Json) (lookups : List ServiceEvent)
      (work : UnitOfWork) (fault : ServiceError) (applied : Bool) (request : Request)
      (reply : Reply Json) (reached : Reached task before payload lookups work)
      (some : task.compensation = some request) :
      SagaRun identityLabel task (approach identityLabel task before payload lookups ++
        [⟨.commit work, Reply.failure fault applied⟩, ⟨.rollback, Reply.success ()⟩,
          ⟨.submitTransaction request identityLabel, reply⟩]) (.error fault)
  | committed (before : List ServiceEvent) (payload : Json) (lookups : List ServiceEvent)
      (work : UnitOfWork) (later : List ServiceEvent) (outcome : Except ServiceError AssetResponse)
      (reached : Reached task before payload lookups work) (closes : Closes later) :
      SagaRun identityLabel task (approach identityLabel task before payload lookups ++
        ⟨.commit work, Reply.success ()⟩ :: later) outcome

/-- A program of closing operations leaves closing events. -/
def ClosingOnly {A : Type} (program : Service A) : Prop :=
  program.Within fun operation : Operation => operation.isClosing = true

theorem closing_ask {operation : Operation} (closing : operation.isClosing = true) :
    ClosingOnly (ask operation) :=
  ⟨closing, fun _ => within_lift _ _⟩

theorem closing_bind {A B : Type} {program : Service A} {next : A → Service B}
    (first : ClosingOnly program) (later : ∀ value, ClosingOnly (next value)) :
    ClosingOnly (program >>= next) :=
  Within.bind first later

theorem closing_quietly {step : Service Unit} (closing : ClosingOnly step) : ClosingOnly (quietly step) :=
  Within.handle closing fun _ => within_pure _ _

theorem finishTokenize_closing (request : TokenizeRequest) : ClosingOnly (finishTokenize request) := by
  apply closing_bind (closing_ask rfl)
  intro row
  apply closing_bind (closing_quietly (closing_ask rfl))
  intro _
  exact within_pure _ _

theorem finishTransfer_closing (request : TransferRequest) (currentUser : Option User) (asset : AssetRow)
    (fabricTxID : PyText) : ClosingOnly (finishTransfer request currentUser asset fabricTxID) := by
  apply closing_bind (closing_ask rfl)
  intro row
  apply closing_bind
  · exact closing_quietly (closing_bind (closing_ask rfl) fun _ => closing_ask rfl)
  intro _
  apply closing_bind (closing_quietly (closing_ask rfl))
  intro _
  exact within_pure _ _

theorem finishHold_closing (change : HoldChange) (currentUser : Option User) (asset : AssetRow)
    (fabricTxID : PyText) : ClosingOnly (finishHold change currentUser asset fabricTxID) := by
  apply closing_bind (closing_ask rfl)
  intro row
  apply closing_bind
  · apply closing_quietly
    split
    · exact closing_bind (closing_ask rfl) fun _ => closing_ask rfl
    · exact within_pure _ _
  intro _
  apply closing_bind (closing_quietly (closing_ask rfl))
  intro _
  exact within_pure _ _

/-- A handler that submits a compensation rolls back first and raises the fault in the end. -/
theorem executes_compensating {request : Request} {identityLabel : String} {fault : ServiceError}
    {events : List ServiceEvent} {outcome : Except ServiceError Unit}
    (executed : Executes (do
      ask .rollback
      quietly do
        let _ ← ask (.submitTransaction request identityLabel)
      raise fault) events outcome) :
    (∃ second rolledBack, events = [⟨.rollback, Reply.failure second rolledBack⟩] ∧
      outcome = .error second) ∨
    ∃ reply : Reply Json, events = [⟨.rollback, Reply.success ()⟩,
      ⟨.submitTransaction request identityLabel, reply⟩] ∧ outcome = .error fault := by
  rw [executes_ask_bind] at executed
  rcases executed with ⟨second, rolledBack, rfl, rfl⟩ | ⟨_, later, rfl, executed⟩
  · exact .inl ⟨second, rolledBack, rfl, rfl⟩
  · rw [executes_quietly_bind] at executed
    obtain ⟨first, _, result, rfl, step, rfl, rfl⟩ := executed
    rw [executes_ask_bind] at step
    rcases step with ⟨third, applied, rfl, _⟩ | ⟨payload, _, rfl, rfl, _⟩
    · exact .inr ⟨.failure third applied, rfl, rfl⟩
    · exact .inr ⟨.success payload, rfl, rfl⟩

theorem executes_abandon {fault : ServiceError} {events : List ServiceEvent}
    {outcome : Except ServiceError Unit} (executed : Executes (abandon fault) events outcome) :
    (∃ second rolledBack, events = [⟨.rollback, Reply.failure second rolledBack⟩] ∧
      outcome = .error second) ∨
    events = [⟨.rollback, Reply.success ()⟩] ∧ outcome = .error fault := by
  rw [abandon, executes_ask_bind] at executed
  rcases executed with ⟨second, rolledBack, rfl, rfl⟩ | ⟨_, _, rfl, rfl, rfl⟩
  · exact .inl ⟨second, rolledBack, rfl, rfl⟩
  · exact .inr ⟨rfl, rfl⟩

/-- A handler of a task rolls back, submits the compensation of the task if there is one, and raises. -/
def Handles (identityLabel : String) (task : Task) (handler : ServiceError → Service Unit) : Prop :=
  ∀ fault events outcome, Executes (handler fault) events outcome →
    (∃ second rolledBack, events = [⟨.rollback, Reply.failure second rolledBack⟩] ∧
      outcome = .error second) ∨
    (task.compensation = none ∧ events = [⟨.rollback, Reply.success ()⟩] ∧ outcome = .error fault) ∨
    ∃ request, ∃ reply : Reply Json, task.compensation = some request ∧
      events = [⟨.rollback, Reply.success ()⟩, ⟨.submitTransaction request identityLabel, reply⟩] ∧
      outcome = .error fault

/-- From a reached commit on, every execution is a saga run. -/
theorem sagaRun_of_commit {identityLabel : String} {task : Task} {before lookups later : List ServiceEvent}
    {payload : Json} {work : UnitOfWork} {handler : ServiceError → Service Unit}
    {finish : Service AssetResponse} {outcome : Except ServiceError AssetResponse}
    (reached : Reached task before payload lookups work) (handles : Handles identityLabel task handler)
    (closing : ClosingOnly finish)
    (executed : Executes (commitOr work handler >>= fun _ => finish) later outcome) :
    SagaRun identityLabel task (approach identityLabel task before payload lookups ++ later) outcome := by
  rw [executes_commitOr_bind] at executed
  rcases executed with ⟨later, rfl, executed⟩ | ⟨fault, applied, later, rfl, executed⟩
  · exact .committed before payload lookups work later outcome reached (closing.events executed)
  · rw [executes_bind] at executed
    rcases executed with ⟨raised, rfl, handled⟩ | ⟨_, _, _, _, handled, _⟩
    · rcases handles fault _ _ handled with ⟨second, rolledBack, rfl, same⟩ | ⟨none, rfl, same⟩ |
        ⟨request, reply, some, rfl, same⟩
      · obtain rfl := Except.error.inj same
        exact .stuck before payload lookups work fault _ applied rolledBack reached
      · obtain rfl := Except.error.inj same
        exact .abandoned before payload lookups work _ applied reached none
      · obtain rfl := Except.error.inj same
        exact .compensated before payload lookups work _ applied request reply reached some
    · rcases handles fault _ _ handled with ⟨_, _, _, same⟩ | ⟨_, _, same⟩ | ⟨_, _, _, _, same⟩
      · cases same
      · cases same
      · cases same

theorem executes_changeHold {change : HoldChange} {identityLabel : String} {currentUser : Option User}
    {fresh : Uuid} {task : Task} {events : List ServiceEvent}
    {outcome : Except ServiceError AssetResponse} (call : task.call = change.call)
    (compensation : task.compensation = some change.compensation)
    (invalid : task.invalidResponse = change.invalidResponse)
    (prepares : ∀ seen fabric work, PreparesHold change currentUser fresh seen fabric work →
      task.Prepares seen fabric work)
    (executed : Executes (changeHold change identityLabel currentUser fresh) events outcome) :
    SagaRun identityLabel task events outcome := by
  unfold changeHold at executed
  rw [executes_ask_bind] at executed
  rcases executed with ⟨fault, applied, rfl, rfl⟩ | ⟨payload, events, rfl, executed⟩
  · rw [← call]
    exact .unsubmitted [] fault applied (by simp [Reads])
  rw [executes_lift_bind] at executed
  rcases executed with ⟨fault, unread, rfl, rfl⟩ | ⟨fabric, read, executed⟩
  · rw [← call]
    exact .unreadable [] payload fault (by simp [Reads]) (invalid ▸ unread)
  rw [executes_ask_bind] at executed
  rcases executed with ⟨fault, applied, rfl, rfl⟩ | ⟨found, events, rfl, executed⟩
  · rw [← call]
    exact .unfound [] payload [_] fault (by simp [Reads]) (by simp [Reads, Operation.isReading])
      ⟨_, List.mem_singleton_self _, rfl⟩
  cases found with
  | none =>
      obtain ⟨rfl, rfl⟩ := executed
      rw [← call]
      exact .unfound [] payload [_] _ (by simp [Reads]) (by simp [Reads, Operation.isReading])
        ⟨_, List.mem_singleton_self _, rfl⟩
  | some asset =>
      have reached : Reached task [] payload [⟨.selectAsset change.assetID, Reply.success (some asset)⟩]
          (.update asset (change.update fabric) (change.transaction currentUser fresh asset fabric)) := by
        refine ⟨by simp [Reads], by simp [FindsRows], by simp [Reads, Operation.isReading],
          by simp [FindsRows, missesRow], fabric, invalid ▸ read, ?_⟩
        exact prepares _ _ _ ⟨asset, List.mem_singleton_self _, rfl⟩
      have handles : Handles identityLabel task (compensateHold change identityLabel) := by
        intro fault events outcome handled
        rcases executes_compensating handled with unrolled | ⟨reply, events, outcome⟩
        · exact .inl unrolled
        · exact .inr (.inr ⟨_, reply, compensation, events, outcome⟩)
      rw [← call]
      exact sagaRun_of_commit reached handles (finishHold_closing _ _ _ _) executed

theorem executes_tokenize {request : TokenizeRequest} {identityLabel : String}
    {events : List ServiceEvent} {outcome : Except ServiceError AssetResponse}
    (executed : Executes (tokenize request identityLabel) events outcome) :
    SagaRun identityLabel (.tokenize request) events outcome := by
  unfold tokenize at executed
  rw [executes_ask_bind] at executed
  rcases executed with ⟨fault, applied, rfl, rfl⟩ | ⟨payload, events, rfl, executed⟩
  · exact .unsubmitted [] fault applied (by simp [Reads])
  rw [executes_lift_bind] at executed
  rcases executed with ⟨fault, unread, rfl, rfl⟩ | ⟨fabric, read, executed⟩
  · exact .unreadable [] payload fault (by simp [Reads]) unread
  rw [executes_ask_bind] at executed
  rcases executed with ⟨fault, applied, rfl, rfl⟩ | ⟨found, events, rfl, executed⟩
  · exact .unfound [] payload [_] fault (by simp [Reads]) (by simp [Reads, Operation.isReading])
      ⟨_, List.mem_singleton_self _, rfl⟩
  cases found with
  | none =>
      obtain ⟨rfl, rfl⟩ := executed
      exact .unfound [] payload [_] _ (by simp [Reads]) (by simp [Reads, Operation.isReading])
        ⟨_, List.mem_singleton_self _, rfl⟩
  | some org =>
      simp only at executed
      rw [executes_ask_bind] at executed
      rcases executed with ⟨fault, applied, rfl, rfl⟩ | ⟨user, events, rfl, executed⟩
      · exact .unfound [] payload [_, _] fault (by simp [Reads]) (by simp [Reads, Operation.isReading])
          ⟨_, List.mem_cons_of_mem _ (List.mem_singleton_self _), rfl⟩
      have reached : Reached (.tokenize request) [] payload
          [⟨.selectOrganization request.issuerLEI, Reply.success (some org)⟩,
            ⟨.selectUserOfOrganization org.id, Reply.success user⟩]
          (.insert (request.newAsset org user fabric)) := by
        refine ⟨by simp [Reads], by simp [FindsRows], by simp [Reads, Operation.isReading],
          by simp [FindsRows, missesRow], fabric, read, ?_⟩
        exact ⟨org, user, List.mem_cons_self, rfl⟩
      have handles : Handles identityLabel (.tokenize request) abandon := by
        intro fault events outcome handled
        rcases executes_abandon handled with unrolled | ⟨events, outcome⟩
        · exact .inl unrolled
        · exact .inr (.inl ⟨rfl, events, outcome⟩)
      exact sagaRun_of_commit reached handles (finishTokenize_closing request) executed

theorem handles_compensateTransfer (request : TransferRequest) (identityLabel : String)
    (currentUser : Option User) (fresh : Uuid) :
    Handles identityLabel (.transfer request currentUser fresh)
      (compensateTransfer request identityLabel currentUser) := by
  intro fault events outcome handled
  cases currentUser with
  | none =>
      rcases executes_abandon handled with unrolled | ⟨events, outcome⟩
      · exact .inl unrolled
      · exact .inr (.inl ⟨rfl, events, outcome⟩)
  | some user =>
      by_cases nameless : user.email = ""
      · simp only [compensateTransfer, nameless, if_true] at handled
        rcases executes_abandon handled with unrolled | ⟨events, outcome⟩
        · exact .inl unrolled
        · exact .inr (.inl ⟨by simp [Task.compensation, nameless], events, outcome⟩)
      · simp only [compensateTransfer, nameless, if_false] at handled
        rcases executes_compensating handled with unrolled | ⟨reply, events, outcome⟩
        · exact .inl unrolled
        · exact .inr (.inr ⟨_, reply, by simp only [Task.compensation, nameless, if_false], events,
            outcome⟩)

theorem executes_transfer {request : TransferRequest} {identityLabel : String} {currentUser : Option User}
    {fresh : Uuid} {events : List ServiceEvent} {outcome : Except ServiceError AssetResponse}
    (executed : Executes (transfer request identityLabel currentUser fresh) events outcome) :
    SagaRun identityLabel (.transfer request currentUser fresh) events outcome := by
  unfold transfer at executed
  rw [executes_ask_bind] at executed
  rcases executed with ⟨fault, applied, rfl, rfl⟩ | ⟨found, events, rfl, executed⟩
  · exact .refused [_] fault (by simp [Reads, Operation.isReading])
  cases found with
  | none =>
      obtain ⟨rfl, rfl⟩ := executed
      exact .refused [_] _ (by simp [Reads, Operation.isReading])
  | some asset =>
      simp only at executed
      split at executed
      · obtain ⟨rfl, rfl⟩ := executed
        exact .refused [_] _ (by simp [Reads, Operation.isReading])
      next free =>
        rw [executes_ask_bind] at executed
        rcases executed with ⟨fault, applied, rfl, rfl⟩ | ⟨known, events, rfl, executed⟩
        · exact .refused [_, _] fault (by simp [Reads, Operation.isReading])
        cases known with
        | none =>
            obtain ⟨rfl, rfl⟩ := executed
            exact .refused [_, _] _ (by simp [Reads, Operation.isReading])
        | some recipient =>
            simp only at executed
            rw [executes_ask_bind] at executed
            rcases executed with ⟨fault, applied, rfl, rfl⟩ | ⟨verdict, events, rfl, executed⟩
            · exact .refused [_, _, _] fault (by simp [Reads, Operation.isReading])
            obtain ⟨isBlocked, reason, blockedBy⟩ := verdict
            simp only at executed
            split at executed
            · obtain ⟨rfl, rfl⟩ := executed
              exact .refused [_, _, _] _ (by simp [Reads, Operation.isReading])
            rw [executes_ask_bind] at executed
            rcases executed with ⟨fault, applied, rfl, rfl⟩ | ⟨payload, events, rfl, executed⟩
            · exact .unsubmitted [_, _, _] fault applied (by simp [Reads, Operation.isReading])
            rw [executes_lift_bind] at executed
            rcases executed with ⟨fault, unread, rfl, rfl⟩ | ⟨fabric, read, executed⟩
            · exact .unreadable [_, _, _] payload fault (by simp [Reads, Operation.isReading]) unread
            have reached : Reached (.transfer request currentUser fresh)
                [⟨.selectAsset request.assetID, Reply.success (some asset)⟩,
                  ⟨.selectUserByEmail request.toOwner, Reply.success (some recipient)⟩,
                  ⟨.fullCheck (request.check currentUser asset recipient),
                    Reply.success (isBlocked, reason, blockedBy)⟩] payload []
                (.update asset (request.update recipient fabric)
                  (request.transaction currentUser fresh asset recipient fabric)) := by
              refine ⟨by simp [Reads, Operation.isReading], by simp [FindsRows, missesRow],
                by simp [Reads], by simp [FindsRows], fabric, read, ?_⟩
              exact ⟨asset, recipient, by simp, by simp, free, rfl⟩
            exact sagaRun_of_commit reached (handles_compensateTransfer _ _ _ _)
              (finishTransfer_closing _ _ _ _) executed

/-- Every execution of every task is a saga run. -/
theorem sagaRun_of_executes {identityLabel : String} {task : Task} {events : List ServiceEvent}
    {outcome : Except ServiceError AssetResponse}
    (executed : Executes (perform identityLabel task) events outcome) :
    SagaRun identityLabel task events outcome := by
  cases task with
  | tokenize request => exact executes_tokenize executed
  | transfer request currentUser fresh => exact executes_transfer executed
  | freeze request currentUser fresh =>
      exact executes_changeHold rfl rfl rfl (fun _ _ _ prepared => prepared) executed
  | unfreezeAsset request currentUser fresh =>
      exact executes_changeHold rfl rfl rfl (fun _ _ _ prepared => prepared) executed

/-- The answers of a transfer up to a failing commit. -/
def transferApproach (request : TransferRequest) (identityLabel : String) (currentUser : Option User)
    (fresh : Uuid) : List ServiceEvent :=
  [⟨.selectAsset request.assetID, Reply.success (some bondRow)⟩,
    ⟨.selectUserByEmail request.toOwner, Reply.success (some bondUser)⟩,
    ⟨.fullCheck (request.check currentUser bondRow bondUser), Reply.success (false, "", "")⟩,
    ⟨.submitTransaction (transferCall request) identityLabel, Reply.success (.object [])⟩,
    ⟨.commit (.update bondRow (request.update bondUser (pyStr (.string ""), none))
      (request.transaction currentUser fresh bondRow bondUser (pyStr (.string ""), none))),
      Reply.failure .conversion false⟩]

theorem executes_transferApproach (request : TransferRequest) (identityLabel : String)
    (currentUser : Option User) (fresh : Uuid) {later : List ServiceEvent}
    {outcome : Except ServiceError AssetResponse}
    (handled : Executes (compensateTransfer request identityLabel currentUser .conversion >>=
      fun _ => finishTransfer request currentUser bondRow (pyStr (.string ""))) later outcome) :
    Executes (transfer request identityLabel currentUser fresh)
      (transferApproach request identityLabel currentUser fresh ++ later) outcome :=
  ⟨Reply.success (some bondRow), _, rfl, Reply.success (some bondUser), _, rfl,
    Reply.success (false, "", ""), _, rfl, Reply.success (.object []), _, rfl,
    Reply.failure .conversion false, _, rfl, handled⟩

/-- The answers of a handler that rolls back and submits its compensation, if it has one. -/
def compensationAnswers (identityLabel : String) (compensation : Option Request) : List ServiceEvent :=
  ⟨.rollback, Reply.success ()⟩ ::
    compensation.toList.map fun request =>
      ⟨.submitTransaction request identityLabel, Reply.failure .conversion false⟩

theorem executes_compensateTransfer {A : Type} (request : TransferRequest) (identityLabel : String)
    (currentUser : Option User) (fresh : Uuid) (fault : ServiceError) (next : Unit → Service A) :
    Executes (compensateTransfer request identityLabel currentUser fault >>= next)
      (compensationAnswers identityLabel (Task.transfer request currentUser fresh).compensation)
      (.error fault) := by
  cases currentUser with
  | none => exact ⟨Reply.success (), [], rfl, rfl, rfl⟩
  | some user =>
      by_cases unknown : user.email = ""
      · simp only [compensateTransfer, Task.compensation, if_pos unknown]
        exact ⟨Reply.success (), [], rfl, rfl, rfl⟩
      · simp only [compensateTransfer, Task.compensation, if_neg unknown]
        exact ⟨Reply.success (), _, rfl, Reply.failure .conversion false, [], rfl, rfl, rfl⟩

/-- The answers of a freeze or an unfreeze that fails to commit and submits its compensation. -/
def failedHold (identityLabel : String) (change : HoldChange) (currentUser : Option User) (fresh : Uuid)
    (payload : Json) (fabric : PyText × Option PyInt) (reply : Reply Json) : List ServiceEvent :=
  [⟨.submitTransaction change.call identityLabel, Reply.success payload⟩,
    ⟨.selectAsset change.assetID, Reply.success (some bondRow)⟩,
    ⟨.commit (.update bondRow (change.update fabric)
      (change.transaction currentUser fresh bondRow fabric)), Reply.failure .conversion false⟩,
    ⟨.rollback, Reply.success ()⟩,
    ⟨.submitTransaction change.compensation identityLabel, reply⟩]

theorem executes_failedHold (identityLabel : String) (change : HoldChange) (currentUser : Option User)
    (fresh : Uuid) {payload : Json} {fabric : PyText × Option PyInt} (reply : Reply Json)
    (read : readResponse change.invalidResponse payload = .ok fabric) :
    Executes (changeHold change identityLabel currentUser fresh)
      (failedHold identityLabel change currentUser fresh payload fabric reply) (.error .conversion) := by
  rw [changeHold, executes_ask_bind]
  refine .inr ⟨payload, _, rfl, ?_⟩
  rw [read]
  refine ⟨Reply.success (some bondRow), _, rfl, Reply.failure .conversion false, _, rfl, Reply.success (),
    _, rfl, reply, [], rfl, ?_⟩
  cases reply <;> exact ⟨rfl, rfl⟩

/-- A dictionary without the two keys is read as an empty text and no number. -/
def unknownFabric : PyText × Option PyInt := (.text "", none)

end Pxtly.Assets
