/-
This file gives how many votes an auditor can cast in calls that interleave.
-/

import Pxtly.Foundation.CheckedInserts
import Pxtly.Tribunal.Votes

namespace Pxtly.Tribunal

open Foundation Foundation.Database
open Program (Executes)
open Assets (Uuid)

section Rows

/-- The write inserts a vote of the auditor into the session. -/
def Write.Casts (sessionID auditorID : Uuid) (write : Write) : Prop :=
  ∃ row, write = .insertVote row ∧ row.sessionID = sessionID ∧ row.auditorID = auditorID

theorem votesOfAuditor_updateVote (tables : Tables) (id : Uuid) (change : TribunalVote → TribunalVote)
    (keeps : ∀ row, (change row).id = row.id)
    (same : ∀ row, (change row).sessionID = row.sessionID ∧ (change row).auditorID = row.auditorID)
    (sessionID auditorID : Uuid) :
    ((tables.updateVote id change keeps).votesOfAuditor sessionID auditorID).length =
      (tables.votesOfAuditor sessionID auditorID).length := by
  rw [Tables.votesOfAuditor, Tables.updateVote, List.filter_map, List.length_map, Tables.votesOfAuditor]
  congr 2
  funext row
  by_cases chosen : row.id = id
  · simp [chosen, same]
  · simp [chosen]

/-- A write that is no vote of the auditor keeps the number of his votes. -/
theorem votesOfAuditor_apply_of_not_casts {tables : Tables} {write : Write} {sessionID auditorID : Uuid}
    (other : ¬ write.Casts sessionID auditorID) :
    ((tables.apply write).votesOfAuditor sessionID auditorID).length =
      (tables.votesOfAuditor sessionID auditorID).length := by
  cases write with
  | insertVote row =>
      have foreign : ¬ (row.sessionID = sessionID ∧ row.auditorID = auditorID) := fun own => other ⟨row, rfl, own⟩
      rw [Tables.apply]
      split
      · rfl
      · simp [Tables.votesOfAuditor, foreign]
  | reveal id vote salt =>
      rw [Tables.apply]
      refine votesOfAuditor_updateVote _ _ _ _ ?_ _ _
      exact fun _ => ⟨rfl, rfl⟩
  | settle id rewarded slashed stake =>
      rw [Tables.apply]
      refine votesOfAuditor_updateVote _ _ _ _ ?_ _ _
      exact fun _ => ⟨rfl, rfl⟩
  | resolve => rfl

/-- A vote adds at most one row. -/
theorem votesOfAuditor_insertVote (tables : Tables) (row : TribunalVote) (sessionID auditorID : Uuid) :
    (tables.votesOfAuditor sessionID auditorID).length ≤
        ((tables.apply (.insertVote row)).votesOfAuditor sessionID auditorID).length ∧
      ((tables.apply (.insertVote row)).votesOfAuditor sessionID auditorID).length ≤
        (tables.votesOfAuditor sessionID auditorID).length + 1 := by
  rw [Tables.apply]
  split
  · simp
  · by_cases own : row.sessionID = sessionID ∧ row.auditorID = auditorID
    · simp [Tables.votesOfAuditor, own]
    · simp [Tables.votesOfAuditor, own]

/-- This counts the votes of an auditor in a session. -/
def voteCounter (sessionID auditorID : Uuid) : Counter database where
  count tables := (tables.votesOfAuditor sessionID auditorID).length
  Adds := Write.Casts sessionID auditorID
  keeps _ _ other := votesOfAuditor_apply_of_not_casts other
  grows tables write := by
    by_cases casts : write.Casts sessionID auditorID
    · obtain ⟨row, rfl, _⟩ := casts
      exact votesOfAuditor_insertVote tables row sessionID auditorID
    · have same := @votesOfAuditor_apply_of_not_casts tables _ _ _ casts
      show (tables.votesOfAuditor sessionID auditorID).length ≤
          ((tables.apply write).votesOfAuditor sessionID auditorID).length ∧
        ((tables.apply write).votesOfAuditor sessionID auditorID).length ≤
          (tables.votesOfAuditor sessionID auditorID).length + 1
      omega

end Rows

section Steps

abbrev Event := Database.Event database

/-- The look-up found no vote of the auditor. -/
def foundNoVote (sessionID auditorID : Uuid) : Event :=
  ⟨.read (.votesOfAuditor sessionID auditorID), some ([] : List TribunalVote)⟩

/-- The look-up of the session only reads. -/
theorem getActiveSession_reads (sessionID : Uuid) (expectedStatus : String) :
    (getActiveSession sessionID expectedStatus).Within Reads := by
  refine (within_ask ⟨_, rfl⟩ _).bind fun rows => (Program.within_lift _ _).bind fun found => ?_
  cases found with
  | none => exact True.intro
  | some sess =>
      by_cases status : sess.status = expectedStatus
      · simp only [ne_eq, status, not_true_eq_false, if_false]
        refine (within_ask ⟨_, rfl⟩ _).bind fun now => ?_
        split <;> exact True.intro
      · simp only [ne_eq, status, not_false_eq_true, if_true]
        exact True.intro

/-- A call commits after it has found no vote of the auditor, and it commits one vote. -/
theorem events_before_commit {voteID sessionID auditorID : Uuid} {commitHash : String}
    {events later : List Event} {outcome : Except Fault TribunalVote}
    (executed : Executes (commitVote voteID sessionID auditorID commitHash) (events ++ committed :: later) outcome) :
    foundNoVote sessionID auditorID ∈ events ∧
      events.foldl saveEvent [] = [.insertVote (castVote voteID sessionID auditorID commitHash)] := by
  rw [commitVote] at executed
  obtain ⟨first, second, sess, rfl, nothing, looksUp⟩ :=
    reads_before_commit (getActiveSession_reads sessionID "COMMIT") executed
  obtain ⟨rows, third, rfl, found⟩ := ask_before_commit looksUp (by simp)
  cases lookup : scalarOneOrNone rows with
  | error fault =>
      rw [lookup, Program.lift_error_bind] at found
      exact absurd found.1 (by simp)
  | ok existing =>
      rw [lookup, Program.lift_ok_bind] at found
      cases existing with
      | some row => exact absurd found.1 (by simp)
      | none =>
          obtain rfl : rows = [] := scalarOneOrNone_eq_none.mp lookup
          simp only [Option.isSome_none, Bool.false_eq_true, if_false] at found
          obtain ⟨_, fourth, rfl, saved⟩ := ask_before_commit found (by simp)
          obtain ⟨rfl, _, _⟩ := committed_of_last saved
          refine ⟨by simp [foundNoVote], ?_⟩
          rw [List.foldl_append, nothing]
          rfl

/-- The call casts a vote of the auditor in the session. -/
def Call.CastsFor (sessionID auditorID : Uuid) (call : Call) : Prop :=
  ∃ voteID commitHash, call = .commitVote voteID sessionID auditorID commitHash

/-- The operation inserts no vote of the auditor. -/
def Abstains (sessionID auditorID : Uuid) (operation : Operation database) : Prop :=
  ∀ write, operation = .write write → ¬ write.Casts sessionID auditorID

theorem abstains_of_reads {sessionID auditorID : Uuid} {operation : Operation database} (reads : Reads operation) :
    Abstains sessionID auditorID operation := by
  obtain ⟨query, rfl⟩ := reads
  exact fun write wrong => nomatch wrong

theorem saveAll_abstains {sessionID auditorID : Uuid} {writes : List Write}
    (others : ∀ write ∈ writes, ¬ write.Casts sessionID auditorID) :
    (saveAll writes).Within (Abstains sessionID auditorID) := by
  induction writes with
  | nil => exact True.intro
  | cons write rest inductionHypothesis =>
      have first : Abstains sessionID auditorID (.write write) := by
        intro other same
        obtain rfl := Operation.write.inj same
        exact others write List.mem_cons_self
      exact (within_ask first _).bind fun _ =>
        inductionHypothesis fun later member => others later (List.mem_cons_of_mem _ member)

theorem settlements_not_casts {sessionID auditorID other : Uuid} {decision : String} {votes : List TribunalVote} :
    ∀ write ∈ settlements other decision votes, ¬ write.Casts sessionID auditorID := by
  rintro write member ⟨row, rfl, _⟩
  rcases List.mem_cons.mp member with same | member
  · cases same
  · obtain ⟨loaded, _, same⟩ := List.mem_map.mp member
    unfold settlement at same
    split at same <;> cases same

/-- Only the calls of an auditor insert his votes. -/
theorem program_abstains {sessionID auditorID : Uuid} {call : Call} (other : ¬ call.CastsFor sessionID auditorID) :
    call.program.Within (Abstains sessionID auditorID) := by
  have fetched (query : Query) : (fetch query).Within (Abstains sessionID auditorID) :=
    within_ask (abstains_of_reads ⟨query, rfl⟩) _
  have committing : commit.Within (Abstains sessionID auditorID) := within_ask nofun _
  cases call with
  | commitVote voteID otherSession otherAuditor commitHash =>
      refine Program.Within.bind ?_ fun row => True.intro
      refine (Program.Within.mono (getActiveSession_reads _ _) fun _ => abstains_of_reads).bind fun sess => ?_
      refine (fetched _).bind fun rows => (Program.within_lift _ _).bind fun existing => ?_
      split
      · exact True.intro
      refine (within_ask ?_ _).bind fun _ => committing.bind fun _ => True.intro
      rintro write same ⟨row, rfl, rfl, rfl⟩
      cases same
      exact other ⟨voteID, commitHash, rfl⟩
  | revealVote voteID vote salt =>
      refine Program.Within.bind ?_ fun accepted => True.intro
      refine (fetched _).bind fun rows => (Program.within_lift _ _).bind fun found => ?_
      cases found with
      | none => exact True.intro
      | some record =>
          simp only
          split
          · exact True.intro
          refine (fetched _).bind fun sessions => (Program.within_lift _ _).bind fun session => ?_
          cases session with
          | none => exact True.intro
          | some sess =>
              simp only
              split
              · exact True.intro
              split
              · exact True.intro
              refine (within_ask ?_ _).bind fun _ => committing.bind fun _ => True.intro
              rintro write same ⟨row, rfl, _⟩
              cases same
  | tallyAndSlash otherSession =>
      refine Program.Within.bind ?_ fun decision => True.intro
      refine (fetched _).bind fun votes => ?_
      split
      · exact True.intro
      split
      · exact committing.bind fun _ => True.intro
      · refine (fetched _).bind fun sessions => (Program.within_lift _ _).bind fun sess => ?_
        exact (saveAll_abstains settlements_not_casts).bind fun _ => committing.bind fun _ => True.intro

end Steps

section Runs

variable {C : Type} [DecidableEq C] {calls : C → Call} {tables : Tables} {trace : List (C × Event)}
  {state : Store database C} {sessionID auditorID : Uuid}

/-- Between the look-up of a call and its commit, no call of the same auditor commits. -/
def Undisturbed (calls : C → Call) (sessionID auditorID : Uuid) (trace : List (C × Event)) : Prop :=
  ∀ before middle after voter other,
    trace = before ++ (voter, foundNoVote sessionID auditorID) :: middle ++ (voter, committed) :: after →
      (calls other).CastsFor sessionID auditorID → (other, committed) ∉ middle

theorem findsNone_votesOfAuditor (sessionID auditorID : Uuid) :
    FindsNone (voteCounter sessionID auditorID) (foundNoVote sessionID auditorID) := by
  refine ⟨.votesOfAuditor sessionID auditorID, _, rfl, fun tables answer => ?_⟩
  exact congrArg List.length answer.symm

omit [DecidableEq C] in
/-- Only the calls of the auditor add his votes: one for each commit, after a look-up that has found none. -/
theorem checksFirst (calls : C → Call) (sessionID auditorID : Uuid) :
    ChecksFirst (voteCounter sessionID auditorID) (foundNoVote sessionID auditorID)
      (fun call => (calls call).CastsFor sessionID auditorID) (fun call => (calls call).program) where
  findsNone := findsNone_votesOfAuditor sessionID auditorID
  foreign _ other := program_abstains other
  checked call casts events later outcome executed := by
    obtain ⟨voteID, commitHash, same⟩ := casts
    simp only [same] at executed
    obtain ⟨_, cast⟩ := Program.executes_of_map executed
    obtain ⟨lookedUp, pending⟩ := events_before_commit cast
    exact .inr ⟨lookedUp, [], _, [], pending, nofun⟩

/-- An auditor has at most one vote in a session, where no two of his calls overlap. -/
theorem one_vote_of_undisturbed (run : Concurrent Drifts tables trace state)
    (begun : Begun (fun call => (calls call).program) trace)
    (initial : (tables.votesOfAuditor sessionID auditorID).length ≤ 1)
    (undisturbed : Undisturbed calls sessionID auditorID trace) :
    (Tables.votesOfAuditor state.tables sessionID auditorID).length ≤ 1 := by
  have fewer (before after : Tables) (moved : Drifts before after) :
      (voteCounter sessionID auditorID).count after ≤ (voteCounter sessionID auditorID).count before := by
    obtain ⟨clock, _, rfl⟩ := moved
    exact le_refl _
  exact (checksFirst calls sessionID auditorID).count_le_one fewer run begun initial undisturbed

end Runs

section Schedules

def aliceOtherVoteUuid : Uuid := ⟨"00000000-0000-4000-8000-0000000000a2", by decide⟩

/-- Alice sends two commitments, for a vote of each kind. -/
def aliceTwice : Bool → Call
  | false => aliceCommits
  | true => .commitVote aliceOtherVoteUuid disputeUuid aliceUuid (computeCommitHash "LEGITIMATE" "pepper-3")

/-- Both look-ups come before the first commit. -/
def overlap : List Bool := [false, false, false, true, true, true, false, false, true, true]

def Event.commits (event : Event) : Bool :=
  match event.operation, event.answer with
  | .commit, some _ => true
  | _, _ => false

theorem alice_votes_once :
    (Tables.votesOfAuditor
      (advance (fun call => (aliceTwice call).program) ⟨newDispute, fun _ => []⟩
        [false, false, false, false, false, true, true, true]).2.2.tables disputeUuid aliceUuid).length ≤ 1 :=
  one_vote_of_undisturbed (concurrent_advance _ _) (begun_advance _ _ _) (by decide)
    (@undisturbed_of_one_commit database _ _ _ _ Event.commits rfl (by decide +kernel))

/-- Two calls that overlap are both accepted, and Alice has two votes. -/
theorem two_votes_of_one_auditor :
    ∃ trace state, Concurrent Drifts newDispute trace state ∧
      Begun (fun call => (aliceTwice call).program) trace ∧
      (∀ call, ∃ answer, Returned (fun call => (aliceTwice call).program) trace call answer ∧ Accepted (.ok answer)) ∧
      newDispute.votesOfAuditor disputeUuid aliceUuid = [] ∧
      (Tables.votesOfAuditor state.tables disputeUuid aliceUuid).length = 2 := by
  have accepted : ∀ call, ∃ answer ∈ (remaining (fun call => (aliceTwice call).program)
      ⟨newDispute, fun _ => []⟩ overlap call).value, Accepted (.ok answer) := by decide +kernel
  refine ⟨_, _, concurrent_advance _ overlap, begun_advance _ _ _, ?_, rfl, by decide +kernel⟩
  intro call
  obtain ⟨answer, ended, holds⟩ := accepted call
  exact ⟨answer, returned_advance ended, holds⟩

end Schedules

end Pxtly.Tribunal
