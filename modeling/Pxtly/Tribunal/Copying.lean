/-
This file gives when an auditor can reveal the vote of another auditor as his own.
-/

import Pxtly.Tribunal.Votes

namespace Pxtly.Tribunal

open Foundation Foundation.Database
open Assets (Uuid)

/-- This is the text of a revealed pair. -/
def TribunalVote.revealedText (row : TribunalVote) : Option String := do
  let vote ← row.revealedVote
  let salt ← row.revealedSalt
  return vote ++ ":" ++ salt

/-- Revealed pairs open their hashes, and different auditors have committed different hashes. -/
structure Tables.Genuine (tables : Tables) (sessionID : Uuid) : Prop where
  opened : ∀ row ∈ tables.votes, row.sessionID = sessionID → ∀ text, row.revealedText = some text →
    row.commitHash = hex (sha256 (encode text))
  distinct : ∀ row ∈ tables.votes, row.sessionID = sessionID → ∀ other ∈ tables.votes,
    other.sessionID = sessionID → row.auditorID ≠ other.auditorID → row.commitHash ≠ other.commitHash

/-- A call commits no hash that another auditor has committed in the session. -/
def CommitsOwnHash (sessionID : Uuid) (turn : Turn) : Prop :=
  ∀ voteID auditorID commitHash, turn.request = .commitVote voteID sessionID auditorID commitHash →
    ∀ row ∈ turn.tables.votes, row.sessionID = sessionID → row.auditorID ≠ auditorID →
      row.commitHash ≠ commitHash

/-- A free-rider presents for his vote what another auditor has revealed in the session. -/
def FreeRides (sessionID : Uuid) (turn : Turn) : Prop :=
  ∃ voteID vote salt, turn.request = .revealVote voteID vote salt ∧
    ∃ own ∈ turn.tables.voteWithID voteID, own.sessionID = sessionID ∧
      ∃ other ∈ turn.tables.votes, other.sessionID = sessionID ∧ other.auditorID ≠ own.auditorID ∧
        other.revealedText = some (vote ++ ":" ++ salt)

theorem genuine_of_drifts {tables drifted : Tables} {sessionID : Uuid} (drift : Drifts tables drifted)
    (genuine : tables.Genuine sessionID) : drifted.Genuine sessionID := by
  obtain ⟨clock, _, rfl⟩ := drift
  exact ⟨genuine.opened, genuine.distinct⟩

/-- A row keeps its session, its auditor and its hash. -/
theorem Origin.commitment {tables : Tables} {call : Call} {row : TribunalVote} (origin : Origin tables call row) :
    (∃ before ∈ tables.votes, before.sessionID = row.sessionID ∧ before.auditorID = row.auditorID ∧
      before.commitHash = row.commitHash) ∨
    ∃ voteID, call = .commitVote voteID row.sessionID row.auditorID row.commitHash := by
  cases origin with
  | kept call row member => exact .inl ⟨row, member, rfl, rfl, rfl⟩
  | cast voteID sessionID auditorID commitHash => exact .inr ⟨voteID, rfl⟩
  | revealed voteID vote salt before sess member opens => exact .inl ⟨before, member, rfl, rfl, rfl⟩
  | settled sessionID decision before member same => exact .inl ⟨before, member, by simp⟩

/-- A call that commits its own hash keeps the session genuine. -/
theorem genuine_of_leads {turn : Turn} {next : Tables} {sessionID : Uuid}
    (leads : Leads Call.program turn.request turn.tables turn.outcome next)
    (own : CommitsOwnHash sessionID turn) (genuine : turn.tables.Genuine sessionID) :
    next.Genuine sessionID where
  opened := by
    intro row member same text revealed
    have origin := (effect_of_leads leads).origin row member
    generalize turn.request = call at origin
    cases origin with
    | kept call row known => exact genuine.opened row known same text revealed
    | cast => cases revealed
    | revealed voteID vote salt before sess known opens =>
        cases revealed
        exact opens.commitment
    | settled other decision before known =>
        have sameText : (settledFrom decision before before).revealedText = before.revealedText := by
          simp [TribunalVote.revealedText]
        rw [settledFrom_sessionID] at same
        rw [settledFrom_commitHash]
        exact genuine.opened before known same text (sameText ▸ revealed)
  distinct := by
    intro row member rfl other otherMember otherSame different
    have effect := effect_of_leads leads
    rcases (effect.origin row member).commitment with
      ⟨before, known, session, auditor, hash⟩ | ⟨voteID, request⟩ <;>
    rcases (effect.origin other otherMember).commitment with
      ⟨otherBefore, otherKnown, otherSession, otherAuditor, otherHash⟩ | ⟨otherID, otherRequest⟩
    · rw [← hash, ← otherHash]
      refine genuine.distinct before known session otherBefore otherKnown (otherSession.trans otherSame) ?_
      rwa [auditor, otherAuditor]
    · rw [otherSame] at otherRequest
      rw [← hash]
      exact own _ _ _ otherRequest before known session (auditor ▸ different)
    · rw [← otherHash]
      refine (own _ _ _ request otherBefore otherKnown (otherSession.trans otherSame) ?_).symm
      rw [otherAuditor]
      exact different.symm
    · rw [request] at otherRequest
      injection otherRequest with _ _ sameAuditor _
      exact absurd sameAuditor different

/-- Bob commits the hash that alice has committed. -/
def bobCopies : Call :=
  .commitVote bobVoteUuid disputeUuid bobUuid (computeCommitHash "FRAUD" "pepper-1")

/-- Bob reveals the pair that alice has revealed. -/
def bobRepeats : Call := .revealVote bobVoteUuid "FRAUD" "pepper-1"

end Pxtly.Tribunal
