/-
This file gives the retry decorator with its circuit breaker, and what its attempts can commit.
-/

import Mathlib.Data.Rat.Defs
import Pxtly.Chaincode.Provenance
import Pxtly.FabricClient.Network
import Pxtly.Foundation.Program

namespace Pxtly.Fabric

open Foundation Program
open Chaincode (Call FinancialAsset Ledger Proposal ProvenanceRecord Request)

structure FabricSettings where
  fabricGrpcTimeout : Int
  fabricRetryMaxAttempts : Int
  fabricRetryBaseDelay : Rat
  fabricRetryFactor : Rat
  fabricRetryJitter : Rat
  fabricRetryCircuitBreakerThreshold : Int
  fabricRetryCircuitBreakerTimeout : Rat

/-- An argument of the decorator replaces a setting. -/
structure RetryOverrides where
  maxAttempts : Option Int := none
  baseDelay : Option Rat := none
  factor : Option Rat := none
  jitter : Option Rat := none
  cbThreshold : Option Int := none
  cbTimeout : Option Rat := none

structure RetryPolicy where
  maxAttempts : Int
  baseDelay : Rat
  factor : Rat
  jitter : Rat
  cbThreshold : Int
  cbTimeout : Rat
  grpcTimeout : Int

/-- The breaker is shared by all calls of one decorated function. -/
structure BreakerState where
  failureCount : Int := 0
  firstFailureTime : Rat := 0
  circuitOpen : Bool := false
  circuitOpenTime : Rat := 0

/-- These faults of an attempt are retried. -/
inductive Transient where
  | timeout
  | rpcError (exceptionType : String)
  | connectionError (exceptionType : String)

/-- These exceptions leave the wrapper. -/
inductive RetryFault (F : Type) where
  | runtimeError (message : String)
  | attributeError
  | circuitBreakerOpen (message : String)
  | endorsement (latest : Transient)
  | raised (fault : F)

/-- An attempt that the client gave up can still land on the ledger, and so can one whose answer was lost. -/
inductive AttemptOutcome (A F : Type) where
  | success (value : A)
  | timeout (landed : Bool)
  | rpcError (exceptionType : String)
  | connectionError (exceptionType : String)
  | raised (fault : F) (landed : Bool)

inductive RetryOperation where
  | time
  | breaker
  | setBreaker (state : BreakerState)
  | attempt (number : Nat) (timeout : Int)
  | uniform (high : Rat)
  | sleep (delay : Rat)

abbrev RetryOperation.Result (A F : Type) : RetryOperation → Type
  | .time => Rat
  | .breaker => BreakerState
  | .setBreaker _ => Unit
  | .attempt _ _ => AttemptOutcome A F
  | .uniform _ => Rat
  | .sleep _ => Unit

def retrySignature (A F : Type) : Signature where
  Operation := RetryOperation
  Answer operation := operation.Result A F

abbrev Retry (A F B : Type) := Program (retrySignature A F) (RetryFault F) B

abbrev RetryEvent (A F : Type) := Event (retrySignature A F)

variable {A F : Type}

def consult (operation : RetryOperation) : Retry A F (operation.Result A F) :=
  Program.call (S := retrySignature A F) operation

/-- Without settings, every argument of the decorator is needed. -/
def RetryOverrides.policy (overrides : RetryOverrides) (settings : Option FabricSettings) :
    Except (RetryFault F) RetryPolicy :=
  match settings with
  | some settings => .ok {
      maxAttempts := overrides.maxAttempts.getD settings.fabricRetryMaxAttempts
      baseDelay := overrides.baseDelay.getD settings.fabricRetryBaseDelay
      factor := overrides.factor.getD settings.fabricRetryFactor
      jitter := overrides.jitter.getD settings.fabricRetryJitter
      cbThreshold := overrides.cbThreshold.getD settings.fabricRetryCircuitBreakerThreshold
      cbTimeout := overrides.cbTimeout.getD settings.fabricRetryCircuitBreakerTimeout
      grpcTimeout := settings.fabricGrpcTimeout }
  | none =>
      match overrides with
      | ⟨none, _, _, _, _, _⟩ =>
          .error (.runtimeError "Settings non injecté dans l'instance ni overrides fournis.")
      | ⟨some maxAttempts, some baseDelay, some factor, some jitter, some cbThreshold, some cbTimeout⟩ =>
          .ok ⟨maxAttempts, baseDelay, factor, jitter, cbThreshold, cbTimeout, 30⟩
      | _ => .error .attributeError

/-- A failure starts a new count when there is none or when the old one is too old. -/
def BreakerState.recordFailure (state : BreakerState) (policy : RetryPolicy) (failTime : Rat) :
    BreakerState :=
  if state.failureCount = 0 ∨ (failTime - state.firstFailureTime > policy.cbTimeout ∧
      state.circuitOpen = false) then
    { state with failureCount := 1, firstFailureTime := failTime }
  else { state with failureCount := state.failureCount + 1 }

/-- An open breaker refuses the call until its timeout is over. -/
def enter (policy : RetryPolicy) (name : String) : Retry A F Unit := do
  let now ← consult .time
  let state ← consult .breaker
  if state.circuitOpen then
    if now - state.circuitOpenTime ≥ policy.cbTimeout then
      consult (.setBreaker { state with circuitOpen := false, failureCount := 0 })
    else .raise (.circuitBreakerOpen ("Circuit breaker actif pour " ++ name))

/-- A failure is counted, and the next attempt follows unless the breaker trips or this was the last one. -/
def afterFailure (policy : RetryPolicy) (name : String) (latest : Transient) (isLast : Bool)
    (currentDelay : Rat) (next : Retry A F A) : Retry A F A := do
  let failTime ← consult .time
  let state ← consult .breaker
  let counted := state.recordFailure policy failTime
  if counted.failureCount ≥ policy.cbThreshold then do
    consult (.setBreaker { counted with circuitOpen := true, circuitOpenTime := failTime })
    .raise (.circuitBreakerOpen ("Circuit breaker déclenché pour " ++ name))
  else do
    consult (.setBreaker counted)
    if isLast then .raise (.endorsement latest)
    else do
      let jitter ← consult (.uniform policy.jitter)
      consult (.sleep (currentDelay + jitter))
      next

/-- This is the loop over the attempts; the first number is the count of attempts left. -/
def attempts (policy : RetryPolicy) (name : String) : Nat → Nat → Rat → Retry A F A
  | 0, _, _ => .raise (.runtimeError "Toutes les tentatives épuisées sans résultat.")
  | remaining + 1, attempt, currentDelay => do
      let outcome ← consult (.attempt attempt policy.grpcTimeout)
      let again latest := afterFailure policy name latest (remaining == 0) currentDelay
        (attempts policy name remaining (attempt + 1) (currentDelay * policy.factor))
      match outcome with
      | .success value => do
          let state ← consult .breaker
          consult (.setBreaker { state with failureCount := 0, circuitOpen := false })
          return value
      | .timeout _ => again .timeout
      | .rpcError exceptionType => again (.rpcError exceptionType)
      | .connectionError exceptionType => again (.connectionError exceptionType)
      | .raised fault _ => .raise (.raised fault)

/-- This is one call of a function under the decorator. -/
def fabricRetry (overrides : RetryOverrides) (settings : Option FabricSettings) (name : String) :
    Retry A F A := do
  let policy ← Program.lift (overrides.policy settings)
  enter policy name
  attempts policy name policy.maxAttempts.toNat 1 policy.baseDelay

/-- The client decorates its method without arguments. -/
def submitTransactionRetried (settings : FabricSettings) : Retry A F A :=
  fabricRetry {} (some settings) "submit_transaction"

theorem executes_consult_bind {B : Type} (operation : RetryOperation)
    (next : operation.Result A F → Retry A F B) (events : List (RetryEvent A F))
    (outcome : Except (RetryFault F) B) :
    Executes (consult operation >>= next) events outcome ↔
      ∃ answer later, events = ⟨operation, answer⟩ :: later ∧ Executes (next answer) later outcome := Iff.rfl

def attemptOutcome : RetryEvent A F → Option (AttemptOutcome A F)
  | ⟨.attempt _ _, outcome⟩ => some outcome
  | _ => none

/-- These are the outcomes of the attempts of one call, in order. -/
def outcomes (events : List (RetryEvent A F)) : List (AttemptOutcome A F) := events.filterMap attemptOutcome

def AttemptOutcome.retried : AttemptOutcome A F → Bool
  | .success _ => false
  | .timeout _ => true
  | .rpcError _ => true
  | .connectionError _ => true
  | .raised _ _ => false

def AttemptOutcome.timedOut : AttemptOutcome A F → Bool
  | .timeout _ => true
  | _ => false

/-- The attempt put one transaction on the ledger, at once or later. -/
def AttemptOutcome.committed : AttemptOutcome A F → Bool
  | .success _ => true
  | .timeout landed => landed
  | .rpcError _ => false
  | .connectionError _ => false
  | .raised _ landed => landed

/-- So many attempts are allowed, and an attempt follows only a retried one. -/
structure Attempted (allowed : Nat) (tried : List (AttemptOutcome A F)) : Prop where
  within : tried.length ≤ allowed
  retried : ∀ outcome ∈ tried.dropLast, outcome.retried = true

theorem attempted_nil (allowed : Nat) : Attempted allowed ([] : List (AttemptOutcome A F)) :=
  ⟨Nat.zero_le allowed, by simp⟩

theorem attempted_singleton (allowed : Nat) (outcome : AttemptOutcome A F) :
    Attempted (allowed + 1) [outcome] :=
  ⟨by simp, by simp⟩

/-- One more attempt in front must be a retried one. -/
theorem Attempted.cons {allowed : Nat} {outcome : AttemptOutcome A F} {tried : List (AttemptOutcome A F)}
    (attempted : Attempted allowed tried) (retried : outcome.retried = true) :
    Attempted (allowed + 1) (outcome :: tried) := by
  constructor
  · have within := attempted.within
    simp only [List.length_cons]
    omega
  · intro other member
    cases tried with
    | nil => simp at member
    | cons next later =>
        rw [List.dropLast_cons_cons] at member
        rcases List.mem_cons.mp member with rfl | inside
        · exact retried
        · exact attempted.retried other inside

/-- After a failure, no attempt is made before the next program runs. -/
theorem afterFailure_outcomes {policy : RetryPolicy} {name : String} {latest : Transient} {isLast : Bool}
    {currentDelay : Rat} {next : Retry A F A} {events : List (RetryEvent A F)}
    {outcome : Except (RetryFault F) A}
    (executed : Executes (afterFailure policy name latest isLast currentDelay next) events outcome) :
    outcomes events = [] ∨ ∃ later, outcomes events = outcomes later ∧ Executes next later outcome := by
  rw [afterFailure, executes_consult_bind] at executed
  obtain ⟨failTime, events, rfl, executed⟩ := executed
  rw [executes_consult_bind] at executed
  obtain ⟨state, events, rfl, executed⟩ := executed
  simp only at executed
  split at executed
  next trips =>
    rw [executes_consult_bind] at executed
    obtain ⟨_, events, rfl, rfl, _⟩ := executed
    exact .inl rfl
  next counts =>
    rw [executes_consult_bind] at executed
    obtain ⟨_, events, rfl, executed⟩ := executed
    cases isLast with
    | true =>
        obtain ⟨rfl, _⟩ := executed
        exact .inl rfl
    | false =>
        obtain ⟨jitter, _, rfl, _, later, rfl, executed⟩ := executed
        exact .inr ⟨later, rfl, executed⟩

/-- The loop makes at most the attempts that are left. -/
theorem attempts_outcomes {policy : RetryPolicy} {name : String} {remaining attempt : Nat}
    {currentDelay : Rat} {events : List (RetryEvent A F)} {outcome : Except (RetryFault F) A}
    (executed : Executes (attempts policy name remaining attempt currentDelay) events outcome) :
    Attempted remaining (outcomes events) := by
  induction remaining generalizing attempt currentDelay events with
  | zero =>
      obtain ⟨rfl, _⟩ := executed
      exact attempted_nil 0
  | succ remaining inductionHypothesis =>
      rw [attempts, executes_consult_bind] at executed
      obtain ⟨answer, later, rfl, executed⟩ := executed
      have again : ∀ latest, answer.retried = true →
          Executes (afterFailure policy name latest (remaining == 0) currentDelay
            (attempts policy name remaining (attempt + 1) (currentDelay * policy.factor))) later outcome →
          Attempted (remaining + 1) (answer :: outcomes later) := by
        intro latest retried failed
        rcases afterFailure_outcomes failed with none | ⟨events, same, rest⟩
        · rw [none]
          exact attempted_singleton remaining answer
        · rw [same]
          exact (inductionHypothesis rest).cons retried
      cases answer with
      | success value =>
          obtain ⟨state, _, rfl, _, _, rfl, rfl, _⟩ := executed
          exact attempted_singleton remaining _
      | timeout landed => exact again _ rfl executed
      | rpcError exceptionType => exact again _ rfl executed
      | connectionError exceptionType => exact again _ rfl executed
      | raised fault landed =>
          obtain ⟨rfl, _⟩ := executed
          exact attempted_singleton remaining _

theorem outcomes_append (first second : List (RetryEvent A F)) :
    outcomes (first ++ second) = outcomes first ++ outcomes second :=
  List.filterMap_append

/-- No attempt is made at the breaker. -/
theorem enter_outcomes {policy : RetryPolicy} {name : String} {events : List (RetryEvent A F)}
    {outcome : Except (RetryFault F) Unit}
    (executed : Executes (enter policy name) events outcome) : outcomes events = [] := by
  rw [enter, executes_consult_bind] at executed
  obtain ⟨now, events, rfl, executed⟩ := executed
  rw [executes_consult_bind] at executed
  obtain ⟨state, events, rfl, executed⟩ := executed
  split at executed
  · split at executed
    · obtain ⟨_, _, rfl, rfl, _⟩ := executed
      rfl
    · obtain ⟨rfl, _⟩ := executed
      rfl
  · obtain ⟨rfl, _⟩ := executed
    rfl

/-- One call makes no more attempts than its policy allows, and stops at the first that is not retried. -/
theorem fabricRetry_outcomes {overrides : RetryOverrides} {settings : Option FabricSettings} {name : String}
    {events : List (RetryEvent A F)} {outcome : Except (RetryFault F) A} {policy : RetryPolicy}
    (executed : Executes (fabricRetry overrides settings name) events outcome)
    (chosen : (overrides.policy settings : Except (RetryFault F) RetryPolicy) = .ok policy) :
    Attempted policy.maxAttempts.toNat (outcomes events) := by
  rw [fabricRetry, chosen] at executed
  change Executes (enter policy name >>= fun _ =>
    attempts policy name policy.maxAttempts.toNat 1 policy.baseDelay) events outcome at executed
  rcases (executes_bind _ _ _ _).mp executed with ⟨fault, rfl, refused⟩ | ⟨first, second, _, rfl, entered, rest⟩
  · rw [enter_outcomes refused]
    exact attempted_nil _
  · rw [outcomes_append, enter_outcomes entered, List.nil_append]
    exact attempts_outcomes rest

/-- Up to the last of them, the attempts that committed had timed out. -/
theorem Attempted.countP_committed {allowed : Nat} {tried : List (AttemptOutcome A F)}
    (attempted : Attempted allowed tried) :
    tried.countP AttemptOutcome.committed ≤ tried.countP AttemptOutcome.timedOut + 1 := by
  have earlier : tried.dropLast.countP AttemptOutcome.committed ≤
      tried.dropLast.countP AttemptOutcome.timedOut := by
    apply List.countP_mono_left
    intro outcome member committed
    have retried := attempted.retried outcome member
    cases outcome with
    | success value => cases retried
    | timeout landed => rfl
    | rpcError exceptionType => cases committed
    | connectionError exceptionType => cases committed
    | raised fault landed => cases retried
  rcases List.eq_nil_or_concat tried with rfl | ⟨front, last, rfl⟩
  · simp
  · rw [List.concat_eq_append, List.dropLast_concat] at earlier
    simp only [List.concat_eq_append, List.countP_append]
    have single := List.countP_le_length (p := AttemptOutcome.committed) (l := [last])
    simp only [List.length_singleton] at single
    omega

/-- This is the number of transactions that one call put on the ledger. -/
def commits (events : List (RetryEvent A F)) : Nat := (outcomes events).countP AttemptOutcome.committed

def timeouts (events : List (RetryEvent A F)) : Nat := (outcomes events).countP AttemptOutcome.timedOut

/-- This is the number of transfers in the trail under a key. -/
def transfers (ledger : Ledger) (key : String) : Nat :=
  ((ledger.find key).map fun asset => asset.provenance.countP Chaincode.isTransfer).getD 0

theorem transfers_concat {ledger : Ledger} {key : String} {before : FinancialAsset}
    (found : ledger.find key = some before) (record : ProvenanceRecord) :
    (before.provenance ++ [record]).countP Chaincode.isTransfer ≤ transfers ledger key + 1 := by
  have single := List.countP_le_length (p := Chaincode.isTransfer) (l := [record])
  rw [transfers, found, Option.map_some, Option.getD_some, List.countP_append]
  simp only [List.length_singleton] at single
  omega

/-- One call adds at most one transfer to a trail. -/
theorem transfers_submit (ledger : Ledger) (call : Call) (key : String) :
    transfers (ledger.submit call).1 key ≤ transfers ledger key + 1 := by
  rcases ledger.find_submit call key with same | ⟨asset, change, found⟩
  · rw [transfers, same, ← transfers]
    omega
  · rw [transfers, found, Option.map_some, Option.getD_some]
    cases change with
    | tokenised asset record absent identifier stored signed role action trail =>
        have single := List.countP_le_length (p := Chaincode.isTransfer) (l := [record])
        rw [trail]
        simp only [List.length_singleton] at single
        omega
    | transferred before record read => exact transfers_concat (Chaincode.find_of_readAsset read) record
    | frozen before record regulatoryRef read =>
        exact transfers_concat (Chaincode.find_of_readAsset read) record
    | unfrozen before record read => exact transfers_concat (Chaincode.find_of_readAsset read) record

/-- One attempt adds at most one transfer to a trail. -/
theorem transfers_submitTransaction (client : FabricClient) (ledger : Ledger) (proposal : Proposal)
    (request : Request) (identityLabel key : String) :
    transfers (client.submitTransaction ledger proposal request identityLabel).1 key ≤
      transfers ledger key + 1 := by
  unfold FabricClient.submitTransaction
  cases client.prepare request identityLabel with
  | error fault => exact Nat.le_succ _
  | ok creator =>
      show transfers (ledger.deliver { proposal with creator } request).1 key ≤ _
      unfold Ledger.deliver
      cases Chaincode.dispatch request with
      | error err => exact Nat.le_succ _
      | ok invocation => exact transfers_submit ledger ⟨{ proposal with creator }, invocation⟩ key

/-- The committed attempts of one request land among the calls of others. -/
inductive Landing where
  | attempt (proposal : Proposal)
  | other (call : Call)

def Landing.isAttempt : Landing → Bool
  | .attempt _ => true
  | .other _ => false

/-- This is the number of transfers that the landing attempts append under a key. -/
def appended (client : FabricClient) (request : Request) (identityLabel key : String) :
    Ledger → List Landing → Nat
  | _, [] => 0
  | ledger, .attempt proposal :: later =>
      let landed := (client.submitTransaction ledger proposal request identityLabel).1
      (transfers landed key - transfers ledger key) + appended client request identityLabel key landed later
  | ledger, .other call :: later =>
      appended client request identityLabel key (ledger.submit call).1 later

/-- Each landing attempt appends at most one transfer. -/
theorem appended_le (client : FabricClient) (request : Request) (identityLabel key : String)
    (ledger : Ledger) (landings : List Landing) :
    appended client request identityLabel key ledger landings ≤ landings.countP Landing.isAttempt := by
  induction landings generalizing ledger with
  | nil => exact Nat.zero_le _
  | cons landing later inductionHypothesis =>
      cases landing with
      | attempt proposal =>
          have step := transfers_submitTransaction client ledger proposal request identityLabel key
          have rest := inductionHypothesis
            (client.submitTransaction ledger proposal request identityLabel).1
          have counted : (Landing.attempt proposal :: later).countP Landing.isAttempt =
              later.countP Landing.isAttempt + 1 := List.countP_cons_of_pos rfl
          rw [appended, counted]
          omega
      | other call =>
          have counted : (Landing.other call :: later).countP Landing.isAttempt =
              later.countP Landing.isAttempt := List.countP_cons_of_neg (by simp [Landing.isAttempt])
          rw [appended, counted]
          exact inductionHypothesis (ledger.submit call).1

/-- One call commits at most one transaction more than its attempts that timed out, and its request
appends at most as many transfers. -/
theorem submitTransactionRetried_commits {settings : FabricSettings} {events : List (RetryEvent A F)}
    {outcome : Except (RetryFault F) A}
    (executed : Executes (submitTransactionRetried settings) events outcome) :
    (outcomes events).length ≤ settings.fabricRetryMaxAttempts.toNat ∧
      commits events ≤ timeouts events + 1 ∧
      ∀ client request identityLabel key ledger landings,
        landings.countP Landing.isAttempt = commits events →
        appended client request identityLabel key ledger landings ≤ timeouts events + 1 := by
  have attempted := fabricRetry_outcomes executed rfl
  have bound := attempted.countP_committed
  refine ⟨attempted.within, bound, ?_⟩
  intro client request identityLabel key ledger landings landed
  have steps := appended_le client request identityLabel key ledger landings
  rw [landed] at steps
  exact steps.trans bound

def sampleSettings : FabricSettings where
  fabricGrpcTimeout := 30
  fabricRetryMaxAttempts := 5
  fabricRetryBaseDelay := 1
  fabricRetryFactor := 2
  fabricRetryJitter := 1
  fabricRetryCircuitBreakerThreshold := 5
  fabricRetryCircuitBreakerTimeout := 60

/-- The first attempt times out and lands, and the second one succeeds. -/
def timedOutOnce : List (RetryEvent Unit Unit) := [
  ⟨.time, (0 : Rat)⟩, ⟨.breaker, ({} : BreakerState)⟩,
  ⟨.attempt 1 30, AttemptOutcome.timeout true⟩,
  ⟨.time, (30 : Rat)⟩, ⟨.breaker, ({} : BreakerState)⟩,
  ⟨.setBreaker { failureCount := 1, firstFailureTime := 30 }, ()⟩,
  ⟨.uniform 1, (0 : Rat)⟩, ⟨.sleep (1 + 0), ()⟩,
  ⟨.attempt 2 30, AttemptOutcome.success ()⟩,
  ⟨.breaker, ({ failureCount := 1, firstFailureTime := 30 } : BreakerState)⟩,
  ⟨.setBreaker { failureCount := 0, firstFailureTime := 30 }, ()⟩]

theorem executes_timedOutOnce : Executes (submitTransactionRetried sampleSettings) timedOutOnce (.ok ()) := by
  refine ⟨(0 : Rat), _, rfl, ({} : BreakerState), _, rfl, ?_⟩
  refine ⟨AttemptOutcome.timeout true, _, rfl, (30 : Rat), _, rfl, ({} : BreakerState), _, rfl, ?_⟩
  refine ⟨(), _, rfl, (0 : Rat), _, rfl, (), _, rfl, ?_⟩
  exact ⟨AttemptOutcome.success (), _, rfl,
    ({ failureCount := 1, firstFailureTime := 30 } : BreakerState), _, rfl, (), [], rfl, rfl, rfl⟩

/-- A sale whose justification is a number is accepted by the contract. -/
def numberedSale : Request :=
  ⟨"TransferAsset", ["RWA-BANK-BOND-2026-001", "alice@bank01.com", "120", "1234567890"]⟩

def issuedLedger : Ledger := Ledger.empty.run [
  ⟨.healthy Chaincode.bank "t1", .tokenizeAsset "RWA-BANK-BOND-2026-001" "FR0000000001" "OBLIGATION" "Bond"
    "BANK0100000000000000" 100.0 "EUR" "2026-01-01" "issue"⟩]

def twoLandings : List Landing :=
  [.attempt (.healthy Chaincode.bank "t2"), .attempt (.healthy Chaincode.bank "t3")]

theorem submitTransactionRetried_commits_timedOutOnce :
    Executes (submitTransactionRetried sampleSettings) timedOutOnce (.ok ()) ∧
      commits timedOutOnce ≤ timeouts timedOutOnce + 1 :=
  ⟨executes_timedOutOnce, (submitTransactionRetried_commits executes_timedOutOnce).2.1⟩

/-- One call of the retried client appends two transfers to one trail. -/
theorem transferred_twice :
    Executes (submitTransactionRetried sampleSettings) timedOutOnce (.ok ()) ∧
      commits timedOutOnce = 2 ∧ twoLandings.countP Landing.isAttempt = commits timedOutOnce ∧
      appended defaultClient numberedSale "bank01" "RWA-BANK-BOND-2026-001" issuedLedger twoLandings = 2 := by
  refine ⟨executes_timedOutOnce, by decide, by decide, ?_⟩
  decide +kernel

end Pxtly.Fabric
