/-
This file gives what each tribunal call does to the votes.
-/

import Mathlib.Data.List.Nodup
import Pxtly.Tribunal.Sessions

namespace Pxtly.Tribunal

open Foundation Foundation.Database
open Assets (Uuid)

section Keys

/-- Votes with one key are one vote. -/
theorem Tables.eq_of_id (tables : Tables) {first second : TribunalVote} (firstMember : first ∈ tables.votes)
    (secondMember : second ∈ tables.votes) (same : first.id = second.id) : first = second :=
  List.inj_on_of_nodup_map tables.voteKey firstMember secondMember same

/-- The row with a key is found by its key. -/
theorem find_of_mem {rows : List TribunalVote} (distinct : (rows.map TribunalVote.id).Nodup)
    {row : TribunalVote} (member : row ∈ rows) : (rows.find? fun entry => entry.id = row.id) = some row := by
  cases found : rows.find? fun entry => entry.id = row.id with
  | none =>
      rw [List.find?_eq_none] at found
      exact absurd (decide_eq_true rfl) (found row member)
  | some entry =>
      have same : entry.id = row.id := by simpa using List.find?_some found
      rw [List.inj_on_of_nodup_map distinct (List.mem_of_find?_eq_some found) member same]

end Keys

section Settled

/-- The row takes its settlement from the row that the tally loaded. -/
def settledFrom (decision : String) (loaded row : TribunalVote) : TribunalVote :=
  if loaded.revealedVote = some decision then
    { row with rewarded := true, slashed := false, reputationStaked := loaded.reputationStaked + 10.0 }
  else { row with rewarded := false, slashed := true, reputationStaked := loaded.reputationStaked - 50.0 }

@[simp] theorem settledFrom_id (decision : String) (loaded row : TribunalVote) :
    (settledFrom decision loaded row).id = row.id := by
  rw [settledFrom]
  split <;> rfl

@[simp] theorem settledFrom_sessionID (decision : String) (loaded row : TribunalVote) :
    (settledFrom decision loaded row).sessionID = row.sessionID := by
  rw [settledFrom]
  split <;> rfl

@[simp] theorem settledFrom_auditorID (decision : String) (loaded row : TribunalVote) :
    (settledFrom decision loaded row).auditorID = row.auditorID := by
  rw [settledFrom]
  split <;> rfl

@[simp] theorem settledFrom_commitHash (decision : String) (loaded row : TribunalVote) :
    (settledFrom decision loaded row).commitHash = row.commitHash := by
  rw [settledFrom]
  split <;> rfl

@[simp] theorem settledFrom_revealedVote (decision : String) (loaded row : TribunalVote) :
    (settledFrom decision loaded row).revealedVote = row.revealedVote := by
  rw [settledFrom]
  split <;> rfl

@[simp] theorem settledFrom_revealedSalt (decision : String) (loaded row : TribunalVote) :
    (settledFrom decision loaded row).revealedSalt = row.revealedSalt := by
  rw [settledFrom]
  split <;> rfl

theorem apply_settlement_votes (tables : Tables) (decision : String) (loaded : TribunalVote) :
    (tables.apply (settlement decision loaded)).votes = tables.votes.map fun row =>
      if row.id = loaded.id then settledFrom decision loaded row else row := by
  by_cases winning : loaded.revealedVote = some decision
  · simp only [settlement, settledFrom, if_pos winning]
    rfl
  · simp only [settlement, settledFrom, if_neg winning]
    rfl

/-- Each row is settled from the loaded row with its key. -/
theorem foldl_settlement_votes (decision : String) (loaded : List TribunalVote)
    (distinct : (loaded.map TribunalVote.id).Nodup) (tables : Tables) :
    ((loaded.map (settlement decision)).foldl Tables.apply tables).votes = tables.votes.map fun row =>
      ((loaded.find? fun entry => entry.id = row.id).map fun entry => settledFrom decision entry row).getD row := by
  induction loaded generalizing tables with
  | nil => simp
  | cons entry rest inductionHypothesis =>
      obtain ⟨absent, distinct⟩ := List.nodup_cons.mp distinct
      rw [List.map_cons, List.foldl_cons, inductionHypothesis distinct, apply_settlement_votes, List.map_map]
      apply List.map_congr_left
      intro row _
      by_cases chosen : row.id = entry.id
      · have missing : (rest.find? fun other => other.id = row.id) = none := by
          rw [List.find?_eq_none]
          intro other member same
          exact absent (chosen ▸ of_decide_eq_true same ▸ List.mem_map_of_mem member)
        simp [chosen, chosen ▸ missing]
      · simp [chosen, Ne.symm chosen]

/-- A decision settles the revealed votes of its session, and no other. -/
theorem settled_votes (tables : Tables) (sessionID : Uuid) (decision : String) :
    (tables.settled sessionID decision).votes = tables.votes.map fun row =>
      if row.sessionID = sessionID ∧ row.revealedVote ≠ none then settledFrom decision row row else row := by
  have distinct : ((tables.revealedVotes sessionID).map TribunalVote.id).Nodup :=
    (List.filter_sublist.map _).nodup tables.voteKey
  rw [Tables.settled, settlements, List.foldl_cons, foldl_settlement_votes decision _ distinct]
  apply List.map_congr_left
  intro row member
  by_cases chosen : row.sessionID = sessionID ∧ row.revealedVote ≠ none
  · have revealed : row ∈ tables.revealedVotes sessionID :=
      List.mem_filter.mpr ⟨member, decide_eq_true chosen⟩
    rw [if_pos chosen, find_of_mem distinct revealed]
    rfl
  · have missing : ((tables.revealedVotes sessionID).find? fun entry => entry.id = row.id) = none := by
      rw [List.find?_eq_none]
      intro entry known same
      obtain ⟨inside, revealed⟩ := List.mem_filter.mp known
      obtain rfl := tables.eq_of_id inside member (of_decide_eq_true same)
      exact chosen (of_decide_eq_true revealed)
    rw [if_neg chosen, missing]
    rfl

end Settled

section Origins

/-- A vote after a call is an old one, a new one, or an old one that the call revealed or settled. -/
inductive Origin (tables : Tables) : Call → TribunalVote → Prop where
  | kept (call : Call) (row : TribunalVote) (member : row ∈ tables.votes) : Origin tables call row
  | cast (voteID sessionID auditorID : Uuid) (commitHash : String) :
      Origin tables (.commitVote voteID sessionID auditorID commitHash)
        (castVote voteID sessionID auditorID commitHash)
  | revealed (voteID : Uuid) (vote salt : String) (row : TribunalVote) (sess : TribunalSession)
      (member : row ∈ tables.votes) (opens : tables.Opens voteID vote salt row sess) :
      Origin tables (.revealVote voteID vote salt)
        { row with revealedVote := some vote, revealedSalt := some salt }
  | settled (sessionID : Uuid) (decision : String) (row : TribunalVote) (member : row ∈ tables.votes)
      (same : row.sessionID = sessionID) :
      Origin tables (.tallyAndSlash sessionID) (settledFrom decision row row)

theorem apply_insertVote_votes {tables : Tables} {row : TribunalVote}
    (admitted : tables.admits (.insertVote row) = true) :
    (tables.apply (.insertVote row)).votes = tables.votes ++ [row] := by
  have fresh : row.id ∉ tables.votes.map TribunalVote.id := by
    simp only [Tables.admits, Bool.and_eq_true, decide_eq_true_eq] at admitted
    exact admitted.1
  rw [Tables.apply, dif_neg fresh]

/-- Every vote after a call has one of the four origins. -/
theorem Effect.origin {tables next : Tables} {call : Call} {outcome : Except Fault Answer}
    (effect : Effect tables call outcome next) : ∀ row ∈ next.votes, Origin tables call row := by
  intro row member
  cases effect with
  | refused => exact .kept call row member
  | committed voteID sessionID auditorID commitHash sess active fresh admitted =>
      rw [apply_insertVote_votes admitted, List.mem_append, List.mem_singleton] at member
      rcases member with old | rfl
      · exact .kept _ row old
      · exact .cast voteID sessionID auditorID commitHash
  | revealed voteID vote salt record sess opens =>
      obtain ⟨before, known, rfl⟩ := List.mem_map.mp member
      by_cases chosen : before.id = voteID
      · rw [if_pos chosen]
        have only : before ∈ tables.voteWithID voteID := List.mem_filter.mpr ⟨known, decide_eq_true chosen⟩
        rw [opens.found, List.mem_singleton] at only
        exact .revealed voteID vote salt before sess known (only ▸ opens)
      · rw [if_neg chosen]
        exact .kept _ before known
  | settled sessionID decision sess revealed decided found =>
      rw [settled_votes] at member
      obtain ⟨before, known, rfl⟩ := List.mem_map.mp member
      by_cases chosen : before.sessionID = sessionID ∧ before.revealedVote ≠ none
      · rw [if_pos chosen]
        exact .settled sessionID decision before known chosen.1
      · rw [if_neg chosen]
        exact .kept _ before known

end Origins

end Pxtly.Tribunal
