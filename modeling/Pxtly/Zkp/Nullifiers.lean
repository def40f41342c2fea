/-
This file gives how often a nullifier can be used by verifications that interleave.
-/

import Pxtly.Foundation.UniqueKeys
import Pxtly.Zkp.Verifier

namespace Pxtly.Zkp

open Foundation Foundation.Database
open Program (Executes)
open Assets (Uuid)

section Keys

/-- A nullifier wants its primary key and its text. -/
def Write.Wants : Write → Uuid ⊕ String → Prop
  | .insertNullifier row, .inl id => row.id = id
  | .insertNullifier row, .inr nullifierHex => row.nullifierHex = nullifierHex

def Tables.Taken (tables : Tables) : Uuid ⊕ String → Prop
  | .inl id => id ∈ tables.nullifiers.map ZKPNullifier.id
  | .inr nullifierHex => nullifierHex ∈ tables.nullifiers.map ZKPNullifier.nullifierHex

theorem mem_apply {tables : Tables} {row other : ZKPNullifier} :
    other ∈ (tables.apply (.insertNullifier row)).nullifiers ↔
      other ∈ tables.nullifiers ∨ (tables.Fresh row ∧ other = row) := by
  rw [Tables.apply]
  split
  · next fresh => simp [fresh]
  · next stale => simp [stale]

theorem taken_inl {tables : Tables} {id : Uuid} : tables.Taken (.inl id) ↔ ∃ row ∈ tables.nullifiers, row.id = id :=
  List.mem_map

theorem taken_inr {tables : Tables} {nullifierHex : String} :
    tables.Taken (.inr nullifierHex) ↔ ∃ row ∈ tables.nullifiers, row.nullifierHex = nullifierHex := List.mem_map

/-- A write takes its keys where they are new, and it frees none. -/
theorem taken_apply {tables : Tables} {row : ZKPNullifier} {k : Uuid ⊕ String} :
    (tables.apply (.insertNullifier row)).Taken k ↔
      tables.Taken k ∨ (tables.Fresh row ∧ (Write.insertNullifier row).Wants k) := by
  cases k with
  | inl id =>
      simp only [taken_inl, mem_apply, Write.Wants]
      grind
  | inr nullifierHex =>
      simp only [taken_inr, mem_apply, Write.Wants]
      grind

theorem fresh_iff {tables : Tables} {row : ZKPNullifier} :
    tables.Fresh row ↔ ∀ k, (Write.insertNullifier row).Wants k → ¬ tables.Taken k := by
  constructor
  · intro fresh k wanted
    cases k with
    | inl id => exact wanted ▸ fresh.1
    | inr nullifierHex => exact wanted ▸ fresh.2
  · exact fun free => ⟨free (.inl row.id) rfl, free (.inr row.nullifierHex) rfl⟩

def nullifierKeys : UniqueKey database Drifts (Uuid ⊕ String) where
  wants := Write.Wants
  taken := Tables.Taken
  not_taken := by
    intro tables ⟨row⟩ k admitted wanted
    exact fresh_iff.mp (of_decide_eq_true admitted) k wanted
  taken_cases := by
    intro tables ⟨row⟩ k taken
    exact (taken_apply.mp taken).imp id And.right
  taken_apply := by
    intro tables k ⟨row⟩ taken
    exact taken_apply.mpr (.inl taken)
  taken_of_wants := by
    intro tables ⟨row⟩ k free wanted
    exact taken_apply.mpr (.inr ⟨fresh_iff.mpr free, wanted⟩)
  taken_drift := by
    intro tables drifted k ⟨clock, credentials, _, same⟩
    subst same
    cases k <;> rfl
  clashes := by
    intro ⟨first⟩ ⟨second⟩ k firstWants secondWants
    cases k with
    | inl id =>
        have same : first.id = second.id := firstWants.trans secondWants.symm
        simp [Write.clashes, same]
    | inr nullifierHex =>
        have same : first.nullifierHex = second.nullifierHex := firstWants.trans secondWants.symm
        simp [Write.clashes, same]

end Keys

section Steps

abbrev Event := Database.Event database

variable {platform : Platform} {request : ProofRequest} {nullifierID : Uuid}

/-- The checks before the nullifier read the clock and the revoked credentials of the key. -/
theorem checkRequest_within {allowed : Operation database → Prop} (platform : Platform) (request : ProofRequest)
    (clock : allowed (.read .now)) (credentials : allowed (.read (.revokedCredential request.publicKeyX))) :
    (checkRequest platform request).Within allowed := by
  rw [checkRequest]
  split
  · exact True.intro
  refine (Program.within_lift _ _).bind fun expiry => ?_
  cases expiry with
  | none => exact True.intro
  | some expiresAt =>
      refine (within_ask clock _).bind fun now => ?_
      split
      · exact True.intro
      refine (Program.within_lift _ _).bind fun claimX => (Program.within_lift _ _).bind fun claimY => ?_
      split
      · exact True.intro
      refine (within_ask credentials _).bind fun revoked => ?_
      split
      · exact True.intro
      refine (Program.within_lift _ _).bind fun credential => (Program.within_lift _ _).bind fun checked => ?_
      split
      split
      · exact True.intro
      · exact Program.within_lift _ _

theorem checkRequest_reads (platform : Platform) (request : ProofRequest) :
    (checkRequest platform request).Within Reads := checkRequest_within platform request ⟨_, rfl⟩ ⟨_, rfl⟩

/-- A verification that commits has written its own nullifier, and it returns true. -/
theorem events_before_commit {events later : List Event} {outcome : Except Fault (Bool × Reason)}
    (executed : Executes (verifyProof platform request nullifierID) (events ++ committed :: later) outcome) :
    events.foldl saveEvent [] = [.insertNullifier (request.row nullifierID)] ∧ later = [] ∧
      outcome = .ok (true, [.text "Proof accepted"]) := by
  rw [verifyProof] at executed
  obtain ⟨first, second, refused, rfl, nothing, looksUp⟩ :=
    reads_before_commit (checkRequest_reads platform request) executed
  cases refused with
  | some reason => exact absurd looksUp.1 (by simp)
  | none =>
      rw [consumeNullifier] at looksUp
      obtain ⟨existing, third, rfl, inserts⟩ := ask_before_commit looksUp (by simp)
      cases existing with
      | some row => exact absurd inserts.1 (by simp)
      | none =>
          obtain ⟨_, fourth, rfl, saved⟩ := ask_before_commit inserts (by simp)
          obtain ⟨rfl, rfl, rfl⟩ := committed_of_last saved
          refine ⟨?_, rfl, rfl⟩
          rw [List.foldl_append, nothing]
          rfl

/-- A verification that returns true ends with its commit. -/
theorem commits_of_accepted {events : List Event} {reason : Reason}
    (executed : Executes (verifyProof platform request nullifierID) events (.ok (true, reason))) :
    ∃ earlier, events = earlier ++ [committed] := by
  rw [verifyProof] at executed
  obtain ⟨first, second, refused, rfl, _, looksUp⟩ := Program.executes_bind_ok executed
  cases refused with
  | some reason => exact absurd looksUp.2 (by simp)
  | none =>
      rw [consumeNullifier] at looksUp
      obtain ⟨existing, third, rfl, inserts⟩ := executes_ask_ok looksUp
      cases existing with
      | some row => exact absurd inserts.2 (by simp)
      | none =>
          obtain ⟨_, fourth, rfl, saves⟩ := executes_ask_ok inserts
          obtain ⟨_, last, rfl, ended⟩ := executes_ask_ok saves
          obtain ⟨rfl, _⟩ := ended
          exact ⟨first ++ [⟨.read (.nullifier request.nullifier), some none⟩,
            ⟨.write (.insertNullifier (request.row nullifierID)), some ()⟩], by simp [committed]⟩

end Steps

section Runs

/-- A verification carries a request and the primary key that its nullifier would get. -/
structure Verification where
  request : ProofRequest
  nullifierID : Uuid

def Verification.program (platform : Platform) (verification : Verification) : Service (Bool × Reason) :=
  verifyProof platform verification.request verification.nullifierID

def Verification.row (verification : Verification) : ZKPNullifier := verification.request.row verification.nullifierID

variable {C : Type} [DecidableEq C] {platform : Platform} {calls : C → Verification} {tables : Tables}
  {trace : List (C × Event)} {state : Store database C} {call : C}

/-- The call has returned true. -/
def Accepted (platform : Platform) (calls : C → Verification) (trace : List (C × Event)) (call : C) : Prop :=
  ∃ reason, Returned (fun call => (calls call).program platform) trace call (true, reason)

/-- A call that has returned true has taken its nullifier. -/
theorem takes_of_accepted (accepted : Accepted platform calls trace call) :
    Takes nullifierKeys.wants trace call (.inr (calls call).request.nullifier) := by
  obtain ⟨reason, returned⟩ := accepted
  obtain ⟨earlier, same⟩ := commits_of_accepted returned
  obtain ⟨before, after, split, events, _⟩ := exists_split_of_eventsOf same
  have executed : Executes ((calls call).program platform) (earlier ++ [committed]) (.ok (true, reason)) :=
    same ▸ returned
  obtain ⟨pending, _, _⟩ := events_before_commit executed
  refine ⟨before, after, split, .insertNullifier (calls call).row, ?_, rfl⟩
  rw [events, pending]
  exact List.mem_singleton_self _

/-- A call that has committed a nullifier has committed its own one, and it has returned true. -/
theorem accepted_of_takes (begun : Begun (fun call => (calls call).program platform) trace) {row : ZKPNullifier}
    (takes : Takes (fun write row => write = Write.insertNullifier row) trace call row) :
    Accepted platform calls trace call ∧ row = (calls call).row := by
  obtain ⟨before, after, rfl, write, member, rfl⟩ := takes
  obtain ⟨later, outcome, executed⟩ := begun call
  have events : eventsOf (before ++ (call, committed) :: after) call =
      eventsOf before call ++ committed :: eventsOf after call := by
    rw [eventsOf_append]
    simp [eventsOf]
  rw [events, List.append_assoc, List.cons_append] at executed
  obtain ⟨pending, ended, rfl⟩ := events_before_commit executed
  rw [pending, List.mem_singleton] at member
  have returned : Returned (fun call => (calls call).program platform) (before ++ (call, committed) :: after) call
      (true, [.text "Proof accepted"]) := by
    rw [Returned, events, (List.append_eq_nil_iff.mp ended).1]
    rwa [ended] at executed
  exact ⟨⟨_, returned⟩, Write.insertNullifier.inj member⟩

/-- Two calls that have returned true had two nullifiers. -/
theorem accepted_once (run : Concurrent Drifts tables trace state) {first second : C}
    (firstAccepted : Accepted platform calls trace first) (secondAccepted : Accepted platform calls trace second)
    (same : (calls first).request.nullifier = (calls second).request.nullifier) : first = second := by
  have firstTakes := takes_of_accepted firstAccepted
  rw [same] at firstTakes
  exact run.takes_once firstTakes (takes_of_accepted secondAccepted)

/-- A nullifier is used by one verification at most, and only verifications that return true leave nullifiers. -/
theorem nullifier_single_use (run : Concurrent Drifts tables trace state)
    (begun : Begun (fun call => (calls call).program platform) trace) :
    (∀ first second, Accepted platform calls trace first → Accepted platform calls trace second →
      (calls first).request.nullifier = (calls second).request.nullifier → first = second) ∧
    ∀ row ∈ Tables.nullifiers state.tables, row ∈ tables.nullifiers ∨
      ∃ call, Accepted platform calls trace call ∧ row = (calls call).row := by
  constructor
  · exact fun first second firstAccepted secondAccepted same => accepted_once run firstAccepted secondAccepted same
  · intro row present
    have applied : ∀ (tables : Tables) (write : Write) (row : ZKPNullifier), row ∈ (tables.apply write).nullifiers →
        row ∈ tables.nullifiers ∨ write = .insertNullifier row := by
      intro tables ⟨other⟩ row member
      exact (mem_apply.mp member).imp id fun own => by rw [own.2]
    have drifted : ∀ (tables drifted : Tables) (row : ZKPNullifier), Drifts tables drifted →
        row ∈ drifted.nullifiers → row ∈ tables.nullifiers := by
      intro tables drifted row ⟨clock, credentials, _, same⟩ member
      subst same
      exact member
    rcases run.taken_cases applied drifted present with initial | ⟨call, takes⟩
    · exact .inl initial
    · exact .inr ⟨call, accepted_of_takes begun takes⟩

end Runs

section Schedules

/-- The holder and a thief present one proof, each with a nullifier. -/
def gateCalls (nullifiers : Bool → String) (thief : Bool) : Verification where
  request := { gateRequest with nullifier := nullifiers thief }
  nullifierID := if thief then thiefUuid else holderUuid

def gateProgram (nullifiers : Bool → String) (thief : Bool) : Service (Bool × Reason) := do
  let refused ← gateChecks
  consumeNullifier (gateCalls nullifiers thief).request (gateCalls nullifiers thief).nullifierID refused

theorem program_gate (nullifiers : Bool → String) :
    (fun call => (gateCalls nullifiers call).program devPlatform) = gateProgram nullifiers := by
  funext thief
  rw [Verification.program, verifyProof, gateCalls, checkRequest_gate]
  rfl

theorem accepted_gate (nullifiers : Bool → String) (schedule : List Bool) (thief : Bool)
    (ended : ∃ verdict ∈ (remaining (gateProgram nullifiers) ⟨newTables, fun _ => []⟩ schedule thief).value,
      verdict.1 = true) :
    Accepted devPlatform (gateCalls nullifiers)
      (advance (gateProgram nullifiers) ⟨newTables, fun _ => []⟩ schedule).1 thief := by
  obtain ⟨⟨verdict, reason⟩, member, rfl⟩ := ended
  refine ⟨reason, ?_⟩
  rw [program_gate]
  exact returned_advance member

/-- Both calls look the nullifier up before the first one inserts it, and the second one waits for the commit. -/
def crossing : List Bool := [false, false, false, true, true, true, false, true, false, true]

/-- One of two calls with one nullifier is accepted, and only its nullifier is in the tables. -/
theorem gate_opens_once :
    ∃ trace state, Concurrent Drifts newTables trace state ∧
      Accepted devPlatform (gateCalls fun _ => gateRequest.nullifier) trace false ∧
      (∀ thief, Accepted devPlatform (gateCalls fun _ => gateRequest.nullifier) trace thief → thief = false) ∧
      ∀ row ∈ Tables.nullifiers state.tables, row = (gateCalls (fun _ => gateRequest.nullifier) false).row := by
  have accepted := accepted_gate (fun _ => gateRequest.nullifier) crossing false (by decide +kernel)
  have run : Concurrent Drifts newTables _ _ := concurrent_advance (gateProgram fun _ => gateRequest.nullifier) crossing
  have begun := begun_advance (gateProgram fun _ => gateRequest.nullifier) ⟨newTables, fun _ => []⟩ crossing
  rw [← program_gate] at begun run accepted
  obtain ⟨once, owned⟩ := nullifier_single_use run begun
  have only (thief : Bool) (other : Accepted devPlatform (gateCalls fun _ => gateRequest.nullifier) _ thief) :
      thief = false := once thief false other accepted rfl
  refine ⟨_, _, run, accepted, only, fun row present => ?_⟩
  rcases owned row present with initial | ⟨thief, other, same⟩
  · cases initial
  · rw [same, only thief other]

end Schedules

end Pxtly.Zkp
