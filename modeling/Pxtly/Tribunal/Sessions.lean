/-
This file gives runs of tribunal calls, one after the other, and what each call does to the tables.
-/

import Pxtly.Tribunal.Phases

namespace Pxtly.Tribunal

open Foundation Foundation.Database
open Assets (Uuid)

/-- A call of one of the three phases carries its arguments; a commitment also carries its new primary key. -/
inductive Call where
  | commitVote (voteID sessionID auditorID : Uuid) (commitHash : String)
  | revealVote (voteID : Uuid) (vote salt : String)
  | tallyAndSlash (sessionID : Uuid)

inductive Answer where
  | vote (row : TribunalVote)
  | revealed (accepted : Bool)
  | decision (decision : Option String)

def Call.program : Call → Service Answer
  | .commitVote voteID sessionID auditorID commitHash => do
      return .vote (← Tribunal.commitVote voteID sessionID auditorID commitHash)
  | .revealVote voteID vote salt => do return .revealed (← Tribunal.revealVote voteID vote salt)
  | .tallyAndSlash sessionID => do return .decision (← Tribunal.tallyAndSlash sessionID)

/-- The call took effect. -/
def Accepted : Except Fault Answer → Prop
  | .ok (.vote _) => True
  | .ok (.revealed accepted) => accepted = true
  | .ok (.decision decision) => decision ≠ none
  | .error _ => False

/-- The tables after a decision have a resolved session and settled votes. -/
def Tables.settled (tables : Tables) (sessionID : Uuid) (decision : String) : Tables :=
  (settlements sessionID decision (tables.revealedVotes sessionID)).foldl Tables.apply tables

/-- A call is refused, or it takes the effect of its phase. -/
inductive Effect (tables : Tables) : Call → Except Fault Answer → Tables → Prop where
  | refused (call : Call) (outcome : Except Fault Answer) (unaccepted : ¬ Accepted outcome) :
      Effect tables call outcome tables
  | committed (voteID sessionID auditorID : Uuid) (commitHash : String) (sess : TribunalSession)
      (active : tables.Active sessionID "COMMIT" sess)
      (fresh : tables.votesOfAuditor sessionID auditorID = [])
      (admitted : tables.admits (.insertVote (castVote voteID sessionID auditorID commitHash)) = true) :
      Effect tables (.commitVote voteID sessionID auditorID commitHash)
        (.ok (.vote (castVote voteID sessionID auditorID commitHash)))
        (tables.apply (.insertVote (castVote voteID sessionID auditorID commitHash)))
  | revealed (voteID : Uuid) (vote salt : String) (record : TribunalVote) (sess : TribunalSession)
      (opens : tables.Opens voteID vote salt record sess) :
      Effect tables (.revealVote voteID vote salt) (.ok (.revealed true))
        (tables.apply (.reveal voteID vote salt))
  | settled (sessionID : Uuid) (decision : String) (sess : TribunalSession)
      (revealed : tables.revealedVotes sessionID ≠ [])
      (decided : decisionOf (tables.revealedVotes sessionID) = some decision)
      (found : tables.sessionWithID sessionID = [sess]) :
      Effect tables (.tallyAndSlash sessionID) (.ok (.decision (some decision)))
        (tables.settled sessionID decision)

/-- Every call alone has one of the four effects. -/
theorem effect_of_alone (call : Call) (tables : Tables) :
    Effect tables call (alone call.program tables).1 (alone call.program tables).2 := by
  cases call with
  | commitVote voteID sessionID auditorID commitHash =>
      rw [Call.program, alone_map]
      rcases commitVote_cases voteID sessionID auditorID commitHash tables with
        ⟨fault, refused⟩ | ⟨sess, active, fresh, admitted, accepted⟩
      · rw [refused]
        exact .refused _ _ nofun
      · rw [accepted]
        exact .committed voteID sessionID auditorID commitHash sess active fresh admitted
  | revealVote voteID vote salt =>
      rw [Call.program, alone_map]
      rcases revealVote_cases voteID vote salt tables with
        ⟨outcome, unaccepted, refused⟩ | ⟨record, sess, opens, accepted⟩
      · rw [refused]
        refine .refused _ _ ?_
        match outcome with
        | .error fault => exact nofun
        | .ok false => exact nofun
        | .ok true => exact absurd rfl unaccepted
      · rw [accepted]
        exact .revealed voteID vote salt record sess opens
  | tallyAndSlash sessionID =>
      rw [Call.program, alone_map]
      rcases tallyAndSlash_cases sessionID tables with
        ⟨outcome, undecided, refused⟩ | ⟨decision, sess, revealed, decided, found, accepted⟩
      · rw [refused]
        refine .refused _ _ ?_
        match outcome with
        | .error fault => exact nofun
        | .ok none => exact fun decided => decided rfl
        | .ok (some decision) => exact absurd rfl (undecided decision)
      · rw [accepted]
        rw [sessionWithID_id found]
        exact .settled sessionID decision sess revealed decided found

section Inversion

variable {tables next : Tables} {outcome : Except Fault Answer}

theorem Effect.of_commitVote {voteID sessionID auditorID : Uuid} {commitHash : String}
    (effect : Effect tables (.commitVote voteID sessionID auditorID commitHash) outcome next)
    (accepted : Accepted outcome) :
    (∃ sess, tables.Active sessionID "COMMIT" sess) ∧ tables.votesOfAuditor sessionID auditorID = [] ∧
      next = tables.apply (.insertVote (castVote voteID sessionID auditorID commitHash)) := by
  cases effect with
  | refused _ _ unaccepted => exact absurd accepted unaccepted
  | committed _ _ _ _ sess active fresh admitted => exact ⟨⟨sess, active⟩, fresh, rfl⟩

theorem Effect.of_revealVote {voteID : Uuid} {vote salt : String}
    (effect : Effect tables (.revealVote voteID vote salt) outcome next) (accepted : Accepted outcome) :
    (∃ record sess, tables.Opens voteID vote salt record sess) ∧
      next = tables.apply (.reveal voteID vote salt) := by
  cases effect with
  | refused _ _ unaccepted => exact absurd accepted unaccepted
  | revealed _ _ _ record sess opens => exact ⟨⟨record, sess, opens⟩, rfl⟩

theorem Effect.of_tallyAndSlash {sessionID : Uuid}
    (effect : Effect tables (.tallyAndSlash sessionID) outcome next) (accepted : Accepted outcome) :
    ∃ decision, tables.revealedVotes sessionID ≠ [] ∧
      decisionOf (tables.revealedVotes sessionID) = some decision ∧
      (∃ sess, tables.sessionWithID sessionID = [sess]) ∧ next = tables.settled sessionID decision := by
  cases effect with
  | refused _ _ unaccepted => exact absurd accepted unaccepted
  | settled _ decision sess revealed decided found => exact ⟨decision, revealed, decided, ⟨sess, found⟩, rfl⟩

end Inversion

section Turns

/-- A turn is one call with the tables that it met and its outcome. -/
abbrev Turn := Database.Turn database Call Fault Answer

abbrev Run : Tables → List Turn → Tables → Prop := Serial Drifts Call.program

theorem effect_of_leads {call : Call} {tables next : Tables} {outcome : Except Fault Answer}
    (leads : Leads Call.program call tables outcome next) : Effect tables call outcome next := by
  match leads with
  | .serve => exact effect_of_alone call tables
  | .fail fault => exact .refused call _ nofun

/-- A commitment in the session was accepted. -/
def Commits (sessionID : Uuid) (turn : Turn) : Prop :=
  ∃ voteID auditorID commitHash, turn.request = .commitVote voteID sessionID auditorID commitHash ∧
    Accepted turn.outcome

/-- The vote with this key belongs to the session. -/
def Tables.Holds (tables : Tables) (sessionID voteID : Uuid) : Prop :=
  ∃ record ∈ tables.voteWithID voteID, record.sessionID = sessionID

instance (tables : Tables) (sessionID voteID : Uuid) : Decidable (tables.Holds sessionID voteID) :=
  inferInstanceAs (Decidable (∃ record ∈ _, _))

/-- A reveal in the session was accepted. -/
def Reveals (sessionID : Uuid) (turn : Turn) : Prop :=
  ∃ voteID vote salt, turn.request = .revealVote voteID vote salt ∧
    turn.tables.Holds sessionID voteID ∧ Accepted turn.outcome

/-- A tally of the session reached a decision. -/
def Resolves (sessionID : Uuid) (turn : Turn) : Prop :=
  turn.request = .tallyAndSlash sessionID ∧ Accepted turn.outcome

end Turns

section Schedules

/-- A schedule serves each call at its time, or at once where that time has passed. -/
def serve : Tables → List (Instant × Call) → List Turn × Tables
  | tables, [] => ([], tables)
  | tables, (time, call) :: rest =>
      let drifted : Tables := { tables with clock := max tables.clock time }
      let served := alone call.program drifted
      let later := serve served.2 rest
      (⟨call, drifted, served.1⟩ :: later.1, later.2)

theorem run_serve (tables : Tables) (schedule : List (Instant × Call)) :
    Run tables (serve tables schedule).1 (serve tables schedule).2 := by
  induction schedule generalizing tables with
  | nil => exact .nil
  | cons entry rest inductionHypothesis =>
      obtain ⟨time, call⟩ := entry
      exact .turn call _ ⟨_, le_max_left _ _, rfl⟩ .serve (inductionHypothesis _)

instance : DecidablePred Accepted
  | .ok (.vote _) => inferInstanceAs (Decidable True)
  | .ok (.revealed accepted) => inferInstanceAs (Decidable (accepted = true))
  | .ok (.decision decision) => inferInstanceAs (Decidable (decision ≠ none))
  | .error _ => inferInstanceAs (Decidable False)

def disputeUuid : Uuid := ⟨"00000000-0000-4000-8000-000000000000", by decide⟩
def aliceUuid : Uuid := ⟨"00000000-0000-4000-8000-00000000000a", by decide⟩
def bobUuid : Uuid := ⟨"00000000-0000-4000-8000-00000000000b", by decide⟩
def aliceVoteUuid : Uuid := ⟨"00000000-0000-4000-8000-0000000000a1", by decide⟩
def bobVoteUuid : Uuid := ⟨"00000000-0000-4000-8000-0000000000b1", by decide⟩

/-- A new dispute has no votes yet. -/
def newDispute : Tables where
  clock := 0
  sessions := [{ id := disputeUuid, expiresAt := 100 }]
  votes := []
  voteKey := List.nodup_nil

def aliceCommits : Call :=
  .commitVote aliceVoteUuid disputeUuid aliceUuid (computeCommitHash "FRAUD" "pepper-1")

def aliceReveals : Call := .revealVote aliceVoteUuid "FRAUD" "pepper-1"

def bobCommits : Call :=
  .commitVote bobVoteUuid disputeUuid bobUuid (computeCommitHash "LEGITIMATE" "pepper-2")

end Schedules

end Pxtly.Tribunal
