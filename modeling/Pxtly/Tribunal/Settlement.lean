/-
This file gives what a second tally does to a session that the first one has settled.
-/

import Pxtly.Tribunal.Votes
import Pxtly.Tribunal.PhaseOrder

namespace Pxtly.Tribunal

open Foundation Foundation.Database
open Assets (Uuid)

section Stakes

/-- Every vote of the session still has the stake of its commitment. -/
def Tables.Unsettled (tables : Tables) (sessionID : Uuid) : Prop :=
  ∀ row ∈ tables.votes, row.sessionID = sessionID → row.reputationStaked = 100.0

theorem Effect.unchanged {tables next : Tables} {call : Call} {outcome : Except Fault Answer}
    (effect : Effect tables call outcome next) (unaccepted : ¬ Accepted outcome) : next = tables := by
  cases effect with
  | refused => rfl
  | committed => exact absurd trivial unaccepted
  | revealed => exact absurd rfl unaccepted
  | settled => exact absurd nofun unaccepted

/-- Only a decision on the session settles its votes. -/
theorem unsettled_of_leads {turn : Turn} {next : Tables} {sessionID : Uuid}
    (leads : Leads Call.program turn.request turn.tables turn.outcome next)
    (undecided : ¬ Resolves sessionID turn) (unsettled : turn.tables.Unsettled sessionID) :
    next.Unsettled sessionID := by
  have effect := effect_of_leads leads
  by_cases accepted : Accepted turn.outcome
  swap
  · rwa [effect.unchanged accepted]
  intro row member same
  have origin := effect.origin row member
  have request : turn.request ≠ .tallyAndSlash sessionID := fun tally => undecided ⟨tally, accepted⟩
  generalize turn.request = call at origin request
  cases origin with
  | kept call row known => exact unsettled row known same
  | cast => rfl
  | revealed voteID vote salt before sess known opens => exact unsettled before known same
  | settled other decision before known inside =>
      rw [settledFrom_sessionID] at same
      exact absurd (same ▸ inside ▸ rfl) request

theorem unsettled_of_run {start tables : Tables} {turns : List Turn} (run : Run start turns tables)
    {sessionID : Uuid} (fresh : ∀ row ∈ start.votes, row.sessionID ≠ sessionID)
    (undecided : ∀ turn ∈ turns, ¬ Resolves sessionID turn) : tables.Unsettled sessionID := by
  refine (run.keeps (fun tables => Tables.Unsettled tables sessionID) ?_ ?_ ?_).1
  · rintro tables _ ⟨clock, _, rfl⟩ unsettled
    exact unsettled
  · exact fun turn member next leads => unsettled_of_leads leads (undecided turn member)
  · exact fun row member same => absurd same (fresh row member)

end Stakes

section Repetition

theorem revealedVotes_settled (tables : Tables) (sessionID : Uuid) (decision : String) :
    (tables.settled sessionID decision).revealedVotes sessionID =
      (tables.revealedVotes sessionID).map fun row => settledFrom decision row row := by
  rw [Tables.revealedVotes, settled_votes, List.filter_map, Tables.revealedVotes]
  have same : ((fun row : TribunalVote => decide (row.sessionID = sessionID ∧ row.revealedVote ≠ none)) ∘
      fun row => if row.sessionID = sessionID ∧ row.revealedVote ≠ none then settledFrom decision row row else row) =
        fun row => decide (row.sessionID = sessionID ∧ row.revealedVote ≠ none) := by
    funext row
    by_cases chosen : row.sessionID = sessionID ∧ row.revealedVote ≠ none
    · simp only [Function.comp_apply, if_pos chosen, settledFrom_sessionID, settledFrom_revealedVote]
    · simp only [Function.comp_apply, if_neg chosen]
  rw [same]
  apply List.map_congr_left
  intro row member
  rw [if_pos (of_decide_eq_true (List.mem_filter.mp member).2)]

theorem decisionOf_settled (votes : List TribunalVote) (decision : String) :
    decisionOf (votes.map fun row => settledFrom decision row row) = decisionOf votes := by
  have counted (option : String) :
      countOf (votes.map fun row => settledFrom decision row row) option = countOf votes option := by
    simp [countOf, List.countP_map, Function.comp_def]
  simp only [decisionOf, counted, List.length_map]

theorem sessionWithID_settled {tables : Tables} {sessionID : Uuid} {decision : String} {sess : TribunalSession}
    (found : tables.sessionWithID sessionID = [sess]) :
    (tables.settled sessionID decision).sessionWithID sessionID =
      [{ sess with status := "RESOLVED", finalDecision := some decision }] := by
  rw [Tables.sessionWithID, (settled_sessions tables sessionID decision).2, List.filter_map]
  have same : ((fun row : TribunalSession => decide (row.id = sessionID)) ∘
      fun row => if row.id = sessionID then { row with status := "RESOLVED", finalDecision := decision }
        else row) = fun row => decide (row.id = sessionID) := by
    funext row
    by_cases chosen : row.id = sessionID
    · simp only [Function.comp_apply, if_pos chosen]
    · simp only [Function.comp_apply, if_neg chosen]
  rw [same]
  change (tables.sessionWithID sessionID).map _ = _
  rw [found, List.map_singleton, if_pos (sessionWithID_id found)]

/-- A second tally on settled votes reaches the same decision and settles them again. -/
theorem tally_of_settled {tables : Tables} {sessionID : Uuid} {decision : String} {sess : TribunalSession}
    (revealed : tables.revealedVotes sessionID ≠ [])
    (decided : decisionOf (tables.revealedVotes sessionID) = some decision)
    (found : tables.sessionWithID sessionID = [sess]) :
    (alone (Call.tallyAndSlash sessionID).program (tables.settled sessionID decision)).2 =
      (tables.settled sessionID decision).settled sessionID decision := by
  have again : decisionOf ((tables.settled sessionID decision).revealedVotes sessionID) = some decision := by
    rw [revealedVotes_settled, decisionOf_settled, decided]
  have nonempty : (tables.settled sessionID decision).revealedVotes sessionID ≠ [] := by
    rw [revealedVotes_settled]
    simpa using revealed
  rw [Call.program, alone_map, tallyAndSlash_of_decision nonempty again (sessionWithID_settled found),
    ← sessionWithID_id found]
  rfl

/-- This is what a tally decides about a session and its votes. -/
def Tables.settlementOf (tables : Tables) (sessionID : Uuid) :
    List (Uuid × Float × Bool × Bool) × List (String × Option String) :=
  ((tables.votes.filter fun row => row.sessionID = sessionID).map
      fun row => (row.id, row.reputationStaked, row.slashed, row.rewarded),
    (tables.sessionWithID sessionID).map fun sess => (sess.status, sess.finalDecision))

theorem ne_of_beq_false {first second : Float} (different : (first == second) = false)
    (reflexive : (second == second) = true) : first ≠ second := by
  rintro rfl
  rw [reflexive] at different
  cases different

/-- A stake of the first settlement changes in the second one. -/
theorem stake_settled_again (decision : String) (row : TribunalVote) (unsettled : row.reputationStaked = 100.0) :
    (settledFrom decision (settledFrom decision row row) (settledFrom decision row row)).reputationStaked ≠
      (settledFrom decision row row).reputationStaked := by
  by_cases winning : row.revealedVote = some decision
  · simp only [settledFrom, winning, if_true, unsettled]
    exact ne_of_beq_false (by decide +kernel) (by decide +kernel)
  · simp only [settledFrom, winning, if_false, unsettled]
    exact ne_of_beq_false (by decide +kernel) (by decide +kernel)

theorem mem_settled {tables : Tables} {sessionID : Uuid} {row : TribunalVote} (decision : String)
    (member : row ∈ tables.revealedVotes sessionID) :
    settledFrom decision row row ∈ (tables.settled sessionID decision).revealedVotes sessionID := by
  rw [revealedVotes_settled]
  exact List.mem_map_of_mem member

/-- Tables with one settlement have a vote with the same key and the same stake. -/
theorem stake_of_settlementOf {first second : Tables} {sessionID : Uuid} {row : TribunalVote}
    (same : first.settlementOf sessionID = second.settlementOf sessionID)
    (member : row ∈ first.revealedVotes sessionID) :
    ∃ other ∈ second.votes, other.id = row.id ∧ other.reputationStaked = row.reputationStaked := by
  obtain ⟨inside, revealed⟩ := List.mem_filter.mp member
  have chosen := (of_decide_eq_true revealed).1
  have listed : (row.id, row.reputationStaked, row.slashed, row.rewarded) ∈
      (first.settlementOf sessionID).1 :=
    List.mem_map.mpr ⟨row, List.mem_filter.mpr ⟨inside, decide_eq_true chosen⟩, rfl⟩
  rw [same] at listed
  obtain ⟨other, found, equal⟩ := List.mem_map.mp listed
  exact ⟨other, List.mem_of_mem_filter found, congrArg Prod.fst equal,
    congrArg (fun entry => entry.2.1) equal⟩

/-- The next tally after the first decision always changes what the first one has settled. -/
theorem settlement_repeats {start tables drifted next : Tables} {turns : List Turn} {sessionID : Uuid}
    {outcome : Except Fault Answer} (run : Run start turns tables)
    (fresh : ∀ row ∈ start.votes, row.sessionID ≠ sessionID)
    (undecided : ∀ turn ∈ turns, ¬ Resolves sessionID turn) (drift : Drifts tables drifted)
    (first : Leads Call.program (.tallyAndSlash sessionID) drifted outcome next) (decided : Accepted outcome) :
    ¬ ∀ later final, Run next later final → (∀ turn ∈ later, turn.request = .tallyAndSlash sessionID) →
      final.settlementOf sessionID = next.settlementOf sessionID := by
  intro once
  have effect := effect_of_leads first
  obtain ⟨decision, revealed, decidedOf, ⟨sess, found⟩, rfl⟩ := effect.of_tallyAndSlash decided
  have unsettled : drifted.Unsettled sessionID := by
    obtain ⟨clock, _, rfl⟩ := drift
    exact unsettled_of_run run fresh undecided
  have same := once [⟨.tallyAndSlash sessionID, _, _⟩] _ (.turn _ _ (drifts_refl _) .serve .nil) (by simp)
  rw [tally_of_settled revealed decidedOf found] at same
  -- Any revealed vote shows the difference: its stake moves in the first settlement and again in the second.
  obtain ⟨row, member⟩ := List.exists_mem_of_ne_nil _ revealed
  obtain ⟨known, chosen⟩ := List.mem_filter.mp member
  have settledOnce := mem_settled decision member
  obtain ⟨other, otherMember, sameID, sameStake⟩ := stake_of_settlementOf same (mem_settled decision settledOnce)
  have equal : other = settledFrom decision row row :=
    Tables.eq_of_id _ otherMember (List.mem_of_mem_filter settledOnce) (by rw [sameID, settledFrom_id])
  rw [equal] at sameStake
  exact stake_settled_again decision row (unsettled row known (of_decide_eq_true chosen).1) sameStake.symm

/-- Alice has revealed the only vote of the new dispute. -/
def revealedDispute : Tables := (serve newDispute [(1, aliceCommits), (2, aliceReveals)]).2

/-- The stake of alice's vote changes in the second tally. -/
theorem second_tally_settles_again :
    ¬ ∀ later final, Run (alone (Call.tallyAndSlash disputeUuid).program revealedDispute).2 later final →
      (∀ turn ∈ later, turn.request = .tallyAndSlash disputeUuid) →
      final.settlementOf disputeUuid =
        Tables.settlementOf (alone (Call.tallyAndSlash disputeUuid).program revealedDispute).2 disputeUuid := by
  have run : Run newDispute (serve newDispute [(1, aliceCommits), (2, aliceReveals)]).1 revealedDispute :=
    run_serve newDispute _
  refine settlement_repeats run nofun ?_ (drifts_refl _) .serve (by decide +kernel)
  intro turn member ⟨request, _⟩
  simp only [serve, List.mem_cons, List.not_mem_nil, or_false] at member
  rcases member with rfl | rfl
  · cases request
  · cases request

/-- The first tally leaves a stake of 110, and the second one leaves 120. -/
theorem stakes_of_two_tallies :
    (∃ turn ∈ (serve newDispute [(1, aliceCommits), (2, aliceReveals), (3, .tallyAndSlash disputeUuid)]).1,
      Resolves disputeUuid turn) ∧
    ((serve newDispute [(1, aliceCommits), (2, aliceReveals), (3, .tallyAndSlash disputeUuid)]).2.votes.map
      (·.reputationStaked) == [110.0]) = true ∧
    ((serve newDispute [(1, aliceCommits), (2, aliceReveals), (3, .tallyAndSlash disputeUuid),
      (4, .tallyAndSlash disputeUuid)]).2.votes.map (·.reputationStaked) == [120.0]) = true := by
  refine ⟨⟨_, .tail _ (.tail _ (.head _)), rfl, ?_⟩, ?_, ?_⟩
  · decide +kernel
  · decide +kernel
  · decide +kernel

end Repetition

end Pxtly.Tribunal
