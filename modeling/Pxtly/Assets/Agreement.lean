/-
This file tells when concurrent calls on one asset leave the row and the ledger in agreement.
-/

import Pxtly.Assets.Interleaving
import Pxtly.Assets.Saga
import Pxtly.Foundation.Replica

namespace Pxtly.Assets

open Foundation Program Relation
open Chaincode (statusActif statusGele FinancialAsset Ledger Proposal Response)
open Fabric (FabricClient)

/-- A transfer and a hold write different parts of an asset. -/
inductive Part where
  | ownership
  | hold
  deriving DecidableEq, Repr

def Task.part : Task → Part
  | .transfer _ _ _ => .ownership
  | _ => .hold

/-- A task is about an asset that is there already. -/
def Task.Concerns (assetID : String) : Task → Prop
  | .tokenize _ => False
  | .transfer request _ _ => request.assetID = assetID
  | .freeze request _ _ => request.assetID = assetID
  | .unfreezeAsset request _ _ => request.assetID = assetID

/-- The chaincode reads the price from the justification, so this one must read as the price of the row. -/
def Task.Priced : Task → Prop
  | .transfer request _ _ => parseFloat request.justification = .ok (Numeric.round request.price).toFloat
  | _ => True

/-- The row and the ledger hold the same asset. -/
def Synchronised {I : Type} (emailOf : Uuid → Option String) (assetID : String) (state : Shared I) : Prop :=
  ∃ asset, state.ledger.find assetID = some asset ∧ Agrees emailOf state.row asset

/-- Only a priced task is accepted; a commit comes from the oldest waiting process of its part. -/
def Orderly {I : Type} (process : I → Process) (state : Shared I) : I × ServiceEvent → Prop
  | (chosen, ⟨.submitTransaction _ _, reply⟩) => reply.applied = true → (process chosen).task.Priced
  -- The columns that the statement leaves out must still have their new values.
  | (chosen, ⟨.commit (.update loaded update _), _⟩) =>
      state.waiting.find? (fun other => (process other).task.part = (process chosen).task.part) =
          some chosen ∧
        update.Current loaded state.row
  | _ => True

/-- An aspect is a part of an asset as the ledger holds it, as the row holds it, and as a task writes it. -/
structure Aspect (emailOf : Uuid → Option String) (assetID : String) where
  Cell : Type
  part : Part
  ofAsset : FinancialAsset → Cell
  ofRow : AssetRow → Option Cell
  ofTask : Task → Option Cell
  written : ∀ task, (ofTask task).isSome = true ↔ task.part = part
  accepted : ∀ (client : FabricClient) (ledger final : Ledger) (proposal : Proposal) (task : Task)
    (identityLabel : String) (response : Response), task.Concerns assetID → task.Priced →
    client.submitTransaction ledger proposal task.call identityLabel = (final, .ok response) →
    ∃ before after, ledger.find assetID = some before ∧ final.find assetID = some after ∧
      ofAsset after = (ofTask task).getD (ofAsset before)
  committed : ∀ (task : Task) (loaded row : AssetRow) (update : AssetUpdate)
    (transaction : TransactionRow), task.Commits emailOf (.update loaded update transaction) →
    update.Current loaded row →
    ofRow (update.apply loaded row) = ((ofTask task).map some).getD (ofRow row)

/-- The owner is compared by e-mail address and the value as a float. -/
def ownershipOfRow (emailOf : Uuid → Option String) (row : AssetRow) : Option (String × Float) :=
  (row.currentOwnerID.bind emailOf).map fun email => (email, row.currentValue.toFloat)

def ownershipOfTask : Task → Option (String × Float)
  | .transfer request _ _ => some (request.toOwner, (Numeric.round request.price).toFloat)
  | _ => none

def statusOfTask : Task → Option Chaincode.AssetStatus
  | .transfer _ _ _ => none
  | .unfreezeAsset _ _ _ => some statusActif
  | .freeze _ _ _ => some statusGele
  | .tokenize _ => some statusActif

/-- A hold leaves the ownership of the row. -/
theorem ownershipOfRow_hold {emailOf : Uuid → Option String} {loaded row : AssetRow}
    {update : AssetUpdate} {status : Chaincode.AssetStatus} (writes : update.WritesStatus status)
    (current : update.Current loaded row) :
    ownershipOfRow emailOf (update.apply loaded row) = ownershipOfRow emailOf row := by
  rw [ownershipOfRow, AssetUpdate.apply_owner current, AssetUpdate.apply_value current, writes.owner,
    writes.value]
  rfl

theorem status_hold {loaded row : AssetRow} {update : AssetUpdate} {status : Chaincode.AssetStatus}
    (writes : update.WritesStatus status) (current : update.Current loaded row) :
    (update.apply loaded row).status = status := by
  rw [AssetUpdate.apply_status current, writes.status]
  rfl

def ownershipAspect (emailOf : Uuid → Option String) (assetID : String) : Aspect emailOf assetID where
  Cell := String × Float
  part := .ownership
  ofAsset := ownership
  ofRow := ownershipOfRow emailOf
  ofTask := ownershipOfTask
  written task := by cases task <;> simp [ownershipOfTask, Task.part]
  accepted client ledger final proposal task identityLabel response concerns priced accepted := by
    cases task with
    | tokenize request => cases concerns
    | transfer request currentUser fresh =>
        obtain rfl : request.assetID = assetID := concerns
        obtain ⟨before, record, found, _, owner, price, moved⟩ := accepted_transferAsset accepted
        have amount : record.amount = (Numeric.round request.price).toFloat :=
          Except.ok.inj (price.symm.trans priced)
        refine ⟨before, _, found, moved, ?_⟩
        rw [ownershipOfTask, ← owner, ← amount]
        rfl
    | freeze request currentUser fresh =>
        obtain rfl : request.assetID = assetID := concerns
        obtain ⟨_, before, record, _, found, _, _, _, _, moved⟩ := accepted_freezeAsset accepted
        exact ⟨before, _, found, moved, rfl⟩
    | unfreezeAsset request currentUser fresh =>
        obtain rfl : request.assetID = assetID := concerns
        obtain ⟨before, record, found, _, moved⟩ := accepted_unfreezeAsset accepted
        exact ⟨before, _, found, moved, rfl⟩
  committed task loaded row update transaction commits current := by
    cases task with
    | tokenize request => cases commits
    | transfer request currentUser fresh =>
        obtain ⟨⟨owner, written, known⟩, value, _⟩ := commits
        rw [ownershipOfRow, AssetUpdate.apply_owner current, AssetUpdate.apply_value current, written,
          value]
        simp [ownershipOfTask, known]
    | freeze request currentUser fresh => exact ownershipOfRow_hold commits current
    | unfreezeAsset request currentUser fresh => exact ownershipOfRow_hold commits current

def holdAspect (emailOf : Uuid → Option String) (assetID : String) : Aspect emailOf assetID where
  Cell := Chaincode.AssetStatus
  part := .hold
  ofAsset := FinancialAsset.status
  ofRow row := some row.status
  ofTask := statusOfTask
  written task := by cases task <;> simp [statusOfTask, Task.part]
  accepted client ledger final proposal task identityLabel response concerns priced accepted := by
    cases task with
    | tokenize request => cases concerns
    | transfer request currentUser fresh =>
        obtain rfl : request.assetID = assetID := concerns
        obtain ⟨before, record, found, _, _, _, moved⟩ := accepted_transferAsset accepted
        exact ⟨before, _, found, moved, rfl⟩
    | freeze request currentUser fresh =>
        obtain rfl : request.assetID = assetID := concerns
        obtain ⟨_, before, record, _, found, _, _, _, _, moved⟩ := accepted_freezeAsset accepted
        exact ⟨before, _, found, moved, rfl⟩
    | unfreezeAsset request currentUser fresh =>
        obtain rfl : request.assetID = assetID := concerns
        obtain ⟨before, record, found, _, moved⟩ := accepted_unfreezeAsset accepted
        exact ⟨before, _, found, moved, rfl⟩
  committed task loaded row update transaction commits current := by
    cases task with
    | tokenize request => cases commits
    | transfer request currentUser fresh =>
        rw [AssetUpdate.apply_status current, commits.status]
        rfl
    | freeze request currentUser fresh => exact congrArg some (status_hold commits current)
    | unfreezeAsset request currentUser fresh => exact congrArg some (status_hold commits current)

/-- An entry without a value may be erased. -/
theorem filterMap_erase_none {A B : Type} [DecidableEq A] (value : A → Option B) {entry : A}
    (absent : value entry = none) (entries : List A) :
    (entries.erase entry).filterMap value = entries.filterMap value := by
  induction entries with
  | nil => rfl
  | cons first rest inductionHypothesis =>
      by_cases same : first = entry
      · rw [same, List.erase_cons_head, List.filterMap_cons_none absent]
      · rw [List.erase_cons_tail (by simpa using same), List.filterMap_cons, List.filterMap_cons,
          inductionHypothesis]

/-- The first entry with a value gives the first value. -/
theorem filterMap_erase_first {A B : Type} [DecidableEq A] (value : A → Option B) {chosen : A → Bool}
    (valued : ∀ entry, (value entry).isSome = chosen entry) {entry : A} {given : B}
    (present : value entry = some given) {entries : List A} (first : entries.find? chosen = some entry) :
    entries.filterMap value = given :: (entries.erase entry).filterMap value := by
  induction entries with
  | nil => cases first
  | cons head rest inductionHypothesis =>
      cases taken : chosen head with
      | true =>
          rw [List.find?_cons_of_pos taken] at first
          obtain rfl := Option.some.inj first
          rw [List.filterMap_cons_some present, List.erase_cons_head]
      | false =>
          rw [List.find?_cons_of_neg (by simp [taken])] at first
          have absent : value head = none := by
            rw [← Option.not_isSome_iff_eq_none, valued, taken]
            exact Bool.false_ne_true
          have different : head ≠ entry := by
            intro same
            rw [same, present] at absent
            cases absent
          rw [List.erase_cons_tail (by simpa using different), List.filterMap_cons_none absent,
            List.filterMap_cons_none absent, inductionHypothesis first]

section Simulation

variable {I : Type} {client : FabricClient} {emailOf : Uuid → Option String} {assetID : String}
  {process : I → Process}

def overwrite {Cell : Type} (_ : Option Cell) (cell : Cell) : Option Cell := some cell

/-- For one aspect, the row is a replica of the ledger and the waiting processes are its pending updates. -/
def Aspect.view (aspect : Aspect emailOf assetID) (process : I → Process) (state : Shared I) :
    Replica (Option aspect.Cell) aspect.Cell where
  primary := (state.ledger.find assetID).map aspect.ofAsset
  replica := aspect.ofRow state.row
  pending := state.waiting.filterMap fun waiting => aspect.ofTask (process waiting).task

theorem Aspect.consistent_of_idle (aspect : Aspect emailOf assetID) {state : Shared I}
    (idle : state.waiting = [])
    (same : aspect.ofRow state.row = (state.ledger.find assetID).map aspect.ofAsset) :
    Replica.Consistent overwrite (aspect.view process state) :=
  Replica.consistent_of_settled same (by rw [view, idle, List.filterMap_nil])

theorem Aspect.same_of_consistent (aspect : Aspect emailOf assetID) {state : Shared I}
    (idle : state.waiting = []) (consistent : Replica.Consistent overwrite (aspect.view process state)) :
    aspect.ofRow state.row = (state.ledger.find assetID).map aspect.ofAsset :=
  consistent.settled (by rw [view, idle, List.filterMap_nil])

/-- The two aspects together are the agreement. -/
theorem synchronised_iff {state : Shared I} :
    Synchronised emailOf assetID state ↔
      (ownershipAspect emailOf assetID).ofRow state.row =
          (state.ledger.find assetID).map (ownershipAspect emailOf assetID).ofAsset ∧
        (holdAspect emailOf assetID).ofRow state.row =
          (state.ledger.find assetID).map (holdAspect emailOf assetID).ofAsset := by
  constructor
  · rintro ⟨asset, found, agrees⟩
    rw [found]
    refine ⟨?_, congrArg some agrees.status⟩
    change ownershipOfRow emailOf state.row = some (ownership asset)
    rw [ownershipOfRow, agrees.owner, agrees.value]
    rfl
  · rintro ⟨owned, held⟩
    obtain ⟨asset, found, status⟩ := Option.map_eq_some_iff.mp held.symm
    rw [found] at owned
    obtain ⟨email, known, pair⟩ := Option.map_eq_some_iff.mp owned
    obtain ⟨owner, value⟩ := Prod.mk.inj pair
    exact ⟨asset, found, known.trans (congrArg some owner), value, status.symm⟩

/-- An accepted submission is a step of the replica or leaves it. -/
theorem Aspect.view_accept (aspect : Aspect emailOf assetID) {state : Shared I} {chosen : I}
    {ledger : Ledger} {proposal : Proposal} {response : Response}
    (concerns : (process chosen).task.Concerns assetID) (priced : (process chosen).task.Priced)
    (accepted : client.submitTransaction state.ledger proposal (process chosen).task.call
      (process chosen).identityLabel = (ledger, .ok response)) :
    ReflTransGen (Replica.Step overwrite) (aspect.view process state)
      (aspect.view process { state with ledger, waiting := state.waiting ++ [chosen] }) := by
  obtain ⟨before, after, found, moved, cell⟩ :=
    aspect.accepted client state.ledger ledger proposal _ _ response concerns priced accepted
  cases writes : aspect.ofTask (process chosen).task with
  | none =>
      rw [writes, Option.getD_none] at cell
      have same : aspect.view process { state with ledger, waiting := state.waiting ++ [chosen] } =
          aspect.view process state := by
        simp [view, found, moved, cell, writes]
      rw [same]
  | some given =>
      rw [writes, Option.getD_some] at cell
      apply ReflTransGen.single
      apply Replica.Step.of_submit given
      · simp [view, moved, cell, overwrite]
      · rfl
      · simp [view, writes]

variable [DecidableEq I]

/-- An orderly commit is a step of the replica or leaves it. -/
theorem Aspect.view_commit (aspect : Aspect emailOf assetID) {state : Shared I} {chosen : I}
    {loaded : AssetRow} {update : AssetUpdate} {transaction : TransactionRow} {reply : Reply Unit}
    (commits : (process chosen).task.Commits emailOf (.update loaded update transaction))
    (orderly : Orderly process state (chosen, ⟨.commit (.update loaded update transaction), reply⟩)) :
    ReflTransGen (Replica.Step overwrite) (aspect.view process state)
      (aspect.view process { state with
        row := update.apply loaded state.row, waiting := state.waiting.erase chosen }) := by
  obtain ⟨oldest, current⟩ := orderly
  have cell := aspect.committed _ loaded state.row update transaction commits current
  cases writes : aspect.ofTask (process chosen).task with
  | none =>
      rw [writes] at cell
      have same : aspect.view process { state with
          row := update.apply loaded state.row, waiting := state.waiting.erase chosen } =
            aspect.view process state := by
        rw [view, filterMap_erase_none (fun other => aspect.ofTask (process other).task) writes, cell]
        rfl
      rw [same]
  | some given =>
      rw [writes] at cell
      have part : (process chosen).task.part = aspect.part :=
        (aspect.written _).mp (by rw [writes]; rfl)
      have pending : (aspect.view process state).pending =
          given :: (aspect.view process { state with
            row := update.apply loaded state.row, waiting := state.waiting.erase chosen }).pending := by
        apply filterMap_erase_first (fun other => aspect.ofTask (process other).task) ?_ writes oldest
        intro other
        rw [part, Bool.eq_iff_iff, decide_eq_true_iff]
        exact aspect.written _
      exact .single (.of_commit rfl cell pending)

/-- Each step of an orderly run is a step of the replica or leaves it. -/
theorem Aspect.view_step (aspect : Aspect emailOf assetID) {state next : Shared I} {chosen : I}
    {event : ServiceEvent} (concerns : (process chosen).task.Concerns assetID)
    (genuine : Genuine emailOf (process chosen) event) (orderly : Orderly process state (chosen, event))
    (step : Step client emailOf state (chosen, event) next) :
    ReflTransGen (Replica.Step overwrite) (aspect.view process state) (aspect.view process next) := by
  cases step with
  | observe _ _ still observes => exact .refl
  | accept _ proposal request identityLabel reply ledger response accepted applied =>
      obtain ⟨rfl, rfl⟩ := genuine
      exact aspect.view_accept concerns (orderly applied) accepted
  | refuse _ request identityLabel reply unapplied => exact .refl
  | commit _ work reply applied =>
      cases work with
      | insert asset =>
          cases task : (process chosen).task with
          | tokenize request => simp [task, Task.Concerns] at concerns
          | transfer request currentUser fresh => simp [Genuine, task, Task.Commits] at genuine
          | freeze request currentUser fresh => simp [Genuine, task, Task.Commits] at genuine
          | unfreezeAsset request currentUser fresh => simp [Genuine, task, Task.Commits] at genuine
      | update loaded update transaction => exact aspect.view_commit genuine orderly
  | lose _ work reply unapplied => exact .refl

/-- A run of genuine and orderly steps keeps every aspect consistent. -/
theorem Aspect.consistent_of_run (aspect : Aspect emailOf assetID)
    (concerns : ∀ chosen, (process chosen).task.Concerns assetID) {start final : Shared I}
    {trace : List (I × ServiceEvent)}
    (genuine : ∀ step ∈ trace, Genuine emailOf (process step.1) step.2)
    (run : Run client emailOf (Orderly process) start trace final)
    (consistent : Replica.Consistent overwrite (aspect.view process start)) :
    Replica.Consistent overwrite (aspect.view process final) := by
  induction run with
  | nil state => exact consistent
  | @cons state next final step trace moved orderly rest inductionHypothesis =>
      have reached := aspect.view_step (concerns step.1) (genuine step List.mem_cons_self) orderly
        moved
      exact inductionHypothesis (fun later member => genuine later (List.mem_cons_of_mem _ member))
        (Replica.consistent_of_reached reached consistent)

/-- Where every step is orderly and no process waits in the end, the row and the ledger agree. -/
theorem synchronised_of_run (concerns : ∀ chosen, (process chosen).task.Concerns assetID)
    {start final : Shared I} {trace : List (I × ServiceEvent)}
    (synchronised : Synchronised emailOf assetID start) (idle : start.waiting = [])
    (begun : ∀ chosen, Begun (process chosen) (projection trace chosen))
    (unfailed : ∀ step ∈ trace, raisesCommit step.2 = false)
    (run : Run client emailOf (Orderly process) start trace final) (settled : final.waiting = []) :
    Synchronised emailOf assetID final := by
  have genuine : ∀ step ∈ trace, Genuine emailOf (process step.1) step.2 := by
    rintro ⟨chosen, event⟩ member
    apply genuine_of_begun (begun chosen) _ (directed_of_run run chosen) event (mem_projection.mpr member)
    intro other inside
    exact unfailed _ (mem_projection.mp inside)
  obtain ⟨owned, held⟩ := synchronised_iff.mp synchronised
  have ownership := Aspect.consistent_of_run _ concerns genuine run (Aspect.consistent_of_idle _ idle owned)
  have hold := Aspect.consistent_of_run _ concerns genuine run (Aspect.consistent_of_idle _ idle held)
  exact synchronised_iff.mpr
    ⟨Aspect.same_of_consistent _ settled ownership, Aspect.same_of_consistent _ settled hold⟩

end Simulation

/-- Alice and Carol each buy the bond. -/
inductive Buyer where
  | alice
  | carol
  deriving DecidableEq, Repr

def Buyer.user : Buyer → User
  | .alice => { bondUser with id := ⟨"22222222-2222-4222-8222-222222222222", by decide⟩ }
  | .carol => { bondUser with
      id := ⟨"33333333-3333-4333-8333-333333333333", by decide⟩
      email := "carol@bank01.com" }

def saleDirectory (id : Uuid) : Option String :=
  if id = bondUuid then some "bob@bank01.com"
  else if id = Buyer.alice.user.id then some Buyer.alice.user.email
  else if id = Buyer.carol.user.id then some Buyer.carol.user.email
  else none

/-- The justification of each sale reads as its price. -/
def Buyer.request (buyer : Buyer) : TransferRequest :=
  numberedTransfer buyer.user.email "120.000000" (by cases buyer <;> decide) (by decide)

def Buyer.process (buyer : Buyer) : Process := ⟨"bank01", .transfer buyer.request none buyer.user.id⟩

def Buyer.fabricTxID : Buyer → String
  | .alice => "t3"
  | .carol => "t4"

def Buyer.fabric (buyer : Buyer) : PyText × Option PyInt :=
  (.text buyer.fabricTxID, some ⟨.integer 7, rfl⟩)

def Buyer.work (buyer : Buyer) : UnitOfWork :=
  .update bondRow (buyer.request.update buyer.user buyer.fabric)
    (buyer.request.transaction none buyer.user.id bondRow buyer.user buyer.fabric)

def Buyer.reads (buyer : Buyer) : List ServiceEvent := [
  ⟨.selectAsset buyer.request.assetID, Reply.success (some bondRow)⟩,
  ⟨.selectUserByEmail buyer.request.toOwner, Reply.success (some buyer.user)⟩,
  ⟨.fullCheck (buyer.request.check none bondRow buyer.user), Reply.success (false, "", "")⟩]

def Buyer.submission (buyer : Buyer) : ServiceEvent :=
  ⟨.submitTransaction (transferCall buyer.request) "bank01", Reply.success
    (.object [("txID", .string buyer.fabricTxID), ("blockNumber", .integer 7)])⟩

def Buyer.commitment (buyer : Buyer) : ServiceEvent := ⟨.commit buyer.work, Reply.success ()⟩

/-- The graph is out of reach, which a transfer only logs. -/
def Buyer.closing (buyer : Buyer) (row : AssetRow) : List ServiceEvent := [
  ⟨.refresh buyer.request.assetID, Reply.success row⟩,
  ⟨.connectGraph, Reply.failure .conversion false⟩,
  ⟨.publish "asset:events" ("TRANSFER:" ++ buyer.request.assetID), Reply.success ()⟩]

theorem Buyer.process_concerns (buyer : Buyer) :
    buyer.process.task.Concerns "RWA-BANK-BOND-2026-001" := rfl

theorem Buyer.executes (buyer : Buyer) (row : AssetRow) :
    Executes (perform buyer.process.identityLabel buyer.process.task)
      (buyer.reads ++ buyer.submission :: buyer.commitment :: buyer.closing row) (.ok row.response) :=
  ⟨_, _, rfl, _, _, rfl, _, _, rfl, _, _, rfl, _, _, rfl, _, _, rfl, _, _, rfl, _, _, rfl, rfl, rfl⟩

/-- Events that only observe leave the shared state. -/
theorem run_observed {I : Type} [DecidableEq I] {client : FabricClient} {emailOf : Uuid → Option String}
    {meets : Shared I → I × ServiceEvent → Prop} {state final : Shared I} {chosen : I}
    {events : List ServiceEvent} {trace : List (I × ServiceEvent)}
    (still : ∀ event ∈ events, event.operation.moves = false)
    (observes : ∀ event ∈ events, Observes emailOf state.row event)
    (met : ∀ event ∈ events, meets state (chosen, event))
    (rest : Run client emailOf meets state trace final) :
    Run client emailOf meets state (events.map (Prod.mk chosen) ++ trace) final := by
  induction events with
  | nil => exact rest
  | cons event events inductionHypothesis =>
      simp only [List.forall_mem_cons] at still observes met
      exact .cons (.observe state chosen event still.1 observes.1) met.1
        (inductionHypothesis still.2 observes.2 met.2)

theorem Buyer.reads_observe (buyer : Buyer) : ∀ event ∈ buyer.reads, Observes saleDirectory bondRow event := by
  have known : saleDirectory buyer.user.id = some buyer.request.toOwner := by cases buyer <;> rfl
  intro event member
  simp only [reads, List.mem_cons, List.not_mem_nil, or_false] at member
  rcases member with rfl | rfl | rfl
  · exact fun _ => rfl
  · exact known
  · trivial

theorem Buyer.closing_observe (buyer : Buyer) (row : AssetRow) :
    ∀ event ∈ buyer.closing row, Observes saleDirectory row event := by
  intro event member
  simp only [closing, List.mem_cons, List.not_mem_nil, or_false] at member
  rcases member with rfl | rfl | rfl
  · exact fun _ => rfl
  · trivial
  · trivial

theorem Buyer.reads_still (buyer : Buyer) : ∀ event ∈ buyer.reads, event.operation.moves = false := by
  simp [reads, Operation.moves]

theorem Buyer.closing_still (buyer : Buyer) (row : AssetRow) :
    ∀ event ∈ buyer.closing row, event.operation.moves = false := by
  simp [closing, Operation.moves]

/-- The submissions are accepted in one order, and the commits follow in a given order. -/
def sales (first second : Buyer) : List (Buyer × ServiceEvent) :=
  Buyer.alice.reads.map (Prod.mk .alice) ++ (Buyer.carol.reads.map (Prod.mk .carol) ++
    ((.alice, Buyer.alice.submission) :: (.carol, Buyer.carol.submission) ::
      (first, first.commitment) :: ((first.closing (first.work.apply bondRow)).map (Prod.mk first) ++
        (second, second.commitment) ::
          ((second.closing (second.work.apply (first.work.apply bondRow))).map (Prod.mk second) ++ []))))

/-- A ledger that agrees with the row accepts both sales. -/
theorem sales_accepted : ∃ start middle ledger response answer,
    Synchronised saleDirectory "RWA-BANK-BOND-2026-001" (⟨start, bondRow, []⟩ : Shared Buyer) ∧
      Fabric.defaultClient.submitTransaction start (healthyProposals 0)
        (transferCall Buyer.alice.request) "bank01" = (middle, .ok response) ∧
      Fabric.defaultClient.submitTransaction middle (healthyProposals 1)
        (transferCall Buyer.carol.request) "bank01" = (ledger, .ok answer) := by
  obtain ⟨before, found, owner, value, status⟩ := soldLedger_bond
  have price : bondRow.currentValue.toFloat = before.currentValue := by
    rw [value]
    decide +kernel
  have served : (Fabric.defaultClient.submitTransaction soldLedger (healthyProposals 0)
      (transferCall Buyer.alice.request) "bank01").2.isOk = true := by decide +kernel
  have servedNext : (Fabric.defaultClient.submitTransaction (Fabric.defaultClient.submitTransaction
      soldLedger (healthyProposals 0) (transferCall Buyer.alice.request) "bank01").1 (healthyProposals 1)
      (transferCall Buyer.carol.request) "bank01").2.isOk = true := by decide +kernel
  generalize soldLedger = start at found served servedNext
  obtain ⟨middle, response, accepted⟩ := FabricClient.exists_of_isOk served
  rw [accepted] at servedNext
  obtain ⟨ledger, answer, acceptedNext⟩ := FabricClient.exists_of_isOk servedNext
  exact ⟨start, middle, ledger, response, answer,
    ⟨before, found, congrArg some owner.symm, price, status.symm⟩, accepted, acceptedNext⟩

/-- Two sales run when their submissions and their commits meet the condition. -/
theorem run_sales {meets : Shared Buyer → Buyer × ServiceEvent → Prop} {first second : Buyer}
    {start middle ledger : Ledger} {response answer : Response}
    (accepted : Fabric.defaultClient.submitTransaction start (healthyProposals 0)
      (transferCall Buyer.alice.request) "bank01" = (middle, .ok response))
    (acceptedNext : Fabric.defaultClient.submitTransaction middle (healthyProposals 1)
      (transferCall Buyer.carol.request) "bank01" = (ledger, .ok answer))
    (observing : ∀ state chosen event, event.operation.moves = false → meets state (chosen, event))
    (submitting : ∀ state chosen, meets state (chosen, chosen.submission))
    (committing : meets ⟨ledger, bondRow, [.alice, .carol]⟩ (first, first.commitment))
    (committingNext : meets ⟨ledger, first.work.apply bondRow, [Buyer.alice, .carol].erase first⟩
      (second, second.commitment)) :
    Run Fabric.defaultClient saleDirectory meets ⟨start, bondRow, []⟩ (sales first second)
      ⟨ledger, second.work.apply (first.work.apply bondRow),
        ([Buyer.alice, .carol].erase first).erase second⟩ := by
  have sold : Step Fabric.defaultClient saleDirectory ⟨start, bondRow, []⟩
      (Buyer.alice, Buyer.alice.submission) ⟨middle, bondRow, [.alice]⟩ :=
    .accept _ _ _ _ _ _ _ _ accepted rfl
  have resold : Step Fabric.defaultClient saleDirectory ⟨middle, bondRow, [.alice]⟩
      (Buyer.carol, Buyer.carol.submission) ⟨ledger, bondRow, [.alice, .carol]⟩ :=
    .accept _ _ _ _ _ _ _ _ acceptedNext rfl
  have written : Step Fabric.defaultClient saleDirectory ⟨ledger, bondRow, [.alice, .carol]⟩
      (first, first.commitment) ⟨ledger, first.work.apply bondRow, [Buyer.alice, .carol].erase first⟩ :=
    .commit _ _ _ _ rfl
  apply run_observed Buyer.alice.reads_still Buyer.alice.reads_observe
  · exact fun event member => observing _ _ _ (Buyer.alice.reads_still event member)
  apply run_observed Buyer.carol.reads_still Buyer.carol.reads_observe
  · exact fun event member => observing _ _ _ (Buyer.carol.reads_still event member)
  apply Run.cons sold (submitting _ _)
  apply Run.cons resold (submitting _ _)
  apply Run.cons written committing
  apply run_observed (first.closing_still _) (first.closing_observe _)
  · exact fun event member => observing _ _ _ (first.closing_still _ event member)
  apply Run.cons (.commit _ _ _ _ rfl) committingNext
  apply run_observed (second.closing_still _) (second.closing_observe _)
  · exact fun event member => observing _ _ _ (second.closing_still _ event member)
  exact .nil _

theorem sales_unfailed (first second : Buyer) : ∀ step ∈ sales first second, raisesCommit step.2 = false := by
  simp [sales, Buyer.reads, Buyer.closing, Buyer.submission, Buyer.commitment, raisesCommit]

/-- Each process runs through its call, whichever buyer commits first. -/
theorem executes_sales (first second : Buyer) (different : first ≠ second) (buyer : Buyer) :
    ∃ outcome, Executes (perform buyer.process.identityLabel buyer.process.task)
      (projection (sales first second) buyer) outcome := by
  have events : ∃ row, projection (sales first second) buyer =
      buyer.reads ++ buyer.submission :: buyer.commitment :: buyer.closing row := by
    cases first <;> cases second
    · exact absurd rfl different
    · cases buyer <;> exact ⟨_, rfl⟩
    · cases buyer <;> exact ⟨_, rfl⟩
    · exact absurd rfl different
  obtain ⟨row, same⟩ := events
  rw [same]
  exact ⟨_, buyer.executes row⟩

/-- Carol commits before Alice, and in the end the row names Alice where the ledger names Carol. -/
theorem sales_diverge : ∃ start final,
    (∀ buyer : Buyer, buyer.process.task.Concerns "RWA-BANK-BOND-2026-001") ∧
      Synchronised saleDirectory "RWA-BANK-BOND-2026-001" start ∧ start.waiting = [] ∧
      (∀ buyer : Buyer, ∃ outcome,
        Executes (perform buyer.process.identityLabel buyer.process.task)
          (projection (sales .carol .alice) buyer) outcome) ∧
      (∀ step ∈ sales .carol .alice, raisesCommit step.2 = false) ∧
      Run Fabric.defaultClient saleDirectory (fun _ _ => True) start (sales .carol .alice) final ∧
      final.waiting = [] ∧ ¬ Synchronised saleDirectory "RWA-BANK-BOND-2026-001" final := by
  obtain ⟨start, middle, ledger, response, answer, synchronised, accepted, acceptedNext⟩ := sales_accepted
  have run : Run Fabric.defaultClient saleDirectory (fun _ _ => True) ⟨start, bondRow, []⟩
      (sales .carol .alice) ⟨ledger, Buyer.alice.work.apply (Buyer.carol.work.apply bondRow), []⟩ :=
    run_sales accepted acceptedNext (fun _ _ _ _ => trivial) (fun _ _ => trivial) trivial trivial
  refine ⟨_, _, Buyer.process_concerns, synchronised, rfl, executes_sales _ _ (by decide),
    sales_unfailed _ _, run, rfl, ?_⟩
  · rintro ⟨asset, found, agrees⟩
    obtain ⟨before, record, _, _, owner, _, moved⟩ := accepted_transferAsset acceptedNext
    obtain rfl := Option.some.inj (found.symm.trans moved)
    have named : some "alice@bank01.com" = some record.toOwner := agrees.owner
    rw [owner] at named
    exact absurd named (by decide)

/-- The columns of a sale differ from the loaded ones, so none is left out. -/
theorem Buyer.work_current (buyer : Buyer) (row : AssetRow) :
    (buyer.request.update buyer.user buyer.fabric).Current bondRow row := by
  refine ⟨?_, ?_, nofun⟩
  · intro owner given same
    obtain rfl := Option.some.inj given
    cases buyer <;> exact absurd same (by decide)
  · intro value given same
    obtain rfl := Option.some.inj given
    cases buyer <;> exact absurd same (by decide)

theorem Buyer.priced (buyer : Buyer) : buyer.process.task.Priced := by
  change parseFloat "120.000000" = .ok (Numeric.round bondTransfer.price).toFloat
  decide +kernel

/-- Where Alice commits first, both sales are in the row as they are on the ledger. -/
theorem synchronised_of_run_sales : ∃ start final,
    Run Fabric.defaultClient saleDirectory (Orderly Buyer.process) start (sales .alice .carol) final ∧
      Synchronised saleDirectory "RWA-BANK-BOND-2026-001" final := by
  obtain ⟨start, middle, ledger, response, answer, synchronised, accepted, acceptedNext⟩ := sales_accepted
  have run : Run Fabric.defaultClient saleDirectory (Orderly Buyer.process) ⟨start, bondRow, []⟩
      (sales .alice .carol) ⟨ledger, Buyer.carol.work.apply (Buyer.alice.work.apply bondRow), []⟩ := by
    apply run_sales accepted acceptedNext
    · rintro state chosen ⟨operation, reply⟩ still
      cases operation <;> first | exact True.intro | cases still
    · exact fun state chosen _ => chosen.priced
    · exact ⟨rfl, Buyer.work_current _ _⟩
    · exact ⟨rfl, Buyer.work_current _ _⟩
  refine ⟨_, _, run,
    synchronised_of_run Buyer.process_concerns synchronised rfl ?_ (sales_unfailed _ _) run rfl⟩
  intro buyer
  obtain ⟨outcome, executed⟩ := executes_sales .alice .carol (by decide) buyer
  exact ⟨[], outcome, by rwa [List.append_nil]⟩

end Pxtly.Assets
