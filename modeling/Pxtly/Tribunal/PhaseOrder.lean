/-
This file gives in which order the phases of a session can be accepted, and until when.
-/

import Pxtly.Tribunal.Sessions

namespace Pxtly.Tribunal

open Foundation Foundation.Database
open Assets (Uuid)

section Rows

/-- A session keeps its deadline, and its status changes to `RESOLVED` only. -/
structure TribunalSession.Succeeds (sess before : TribunalSession) : Prop where
  expiresAt : sess.expiresAt = before.expiresAt
  status : sess.status = before.status ∨ sess.status = "RESOLVED"

theorem TribunalSession.Succeeds.refl (sess : TribunalSession) : sess.Succeeds sess := ⟨rfl, .inl rfl⟩

/-- Every session of the new tables succeeds one of the old tables. -/
def Tables.Continues (next tables : Tables) : Prop :=
  next.clock = tables.clock ∧
    ∀ sessionID, ∀ sess ∈ next.sessionWithID sessionID, ∃ before ∈ tables.sessionWithID sessionID,
      sess.Succeeds before

theorem continues_of_same {next tables : Tables} (clock : next.clock = tables.clock)
    (sessions : next.sessions = tables.sessions) : next.Continues tables := by
  refine ⟨clock, fun sessionID sess member => ⟨sess, ?_, .refl sess⟩⟩
  rwa [Tables.sessionWithID, sessions] at member

theorem apply_insertVote_sessions (tables : Tables) (row : TribunalVote) :
    (tables.apply (.insertVote row)).clock = tables.clock ∧
      (tables.apply (.insertVote row)).sessions = tables.sessions := by
  rw [Tables.apply]
  split <;> exact ⟨rfl, rfl⟩

theorem apply_settlement_sessions (tables : Tables) (decision : String) (row : TribunalVote) :
    (tables.apply (settlement decision row)).clock = tables.clock ∧
      (tables.apply (settlement decision row)).sessions = tables.sessions := by
  rw [settlement]
  split <;> exact ⟨rfl, rfl⟩

theorem foldl_settlement_sessions (decision : String) (votes : List TribunalVote) (tables : Tables) :
    ((votes.map (settlement decision)).foldl Tables.apply tables).clock = tables.clock ∧
      ((votes.map (settlement decision)).foldl Tables.apply tables).sessions = tables.sessions := by
  induction votes generalizing tables with
  | nil => exact ⟨rfl, rfl⟩
  | cons row rest inductionHypothesis =>
      obtain ⟨clock, sessions⟩ := inductionHypothesis (tables.apply (settlement decision row))
      obtain ⟨sameClock, sameSessions⟩ := apply_settlement_sessions tables decision row
      exact ⟨clock.trans sameClock, sessions.trans sameSessions⟩

/-- A decision resolves its session and keeps every other one. -/
theorem settled_sessions (tables : Tables) (sessionID : Uuid) (decision : String) :
    (tables.settled sessionID decision).clock = tables.clock ∧
      (tables.settled sessionID decision).sessions = tables.sessions.map fun row =>
        if row.id = sessionID then { row with status := "RESOLVED", finalDecision := decision } else row :=
  foldl_settlement_sessions decision _ _

theorem resolved_of_settled {tables : Tables} {sessionID : Uuid} {decision : String} :
    ∀ sess ∈ (tables.settled sessionID decision).sessionWithID sessionID, sess.status = "RESOLVED" := by
  intro sess member
  obtain ⟨inside, same⟩ := List.mem_filter.mp member
  rw [(settled_sessions tables sessionID decision).2] at inside
  obtain ⟨before, _, rfl⟩ := List.mem_map.mp inside
  by_cases chosen : before.id = sessionID
  · rw [if_pos chosen]
  · rw [if_neg chosen] at same
    exact absurd (of_decide_eq_true same) chosen

theorem continues_settled (tables : Tables) (sessionID : Uuid) (decision : String) :
    (tables.settled sessionID decision).Continues tables := by
  obtain ⟨clock, sessions⟩ := settled_sessions tables sessionID decision
  refine ⟨clock, fun other sess member => ?_⟩
  obtain ⟨inside, same⟩ := List.mem_filter.mp member
  rw [sessions] at inside
  obtain ⟨before, known, rfl⟩ := List.mem_map.mp inside
  by_cases chosen : before.id = sessionID
  · rw [if_pos chosen] at same ⊢
    exact ⟨before, List.mem_filter.mpr ⟨known, same⟩, rfl, .inr rfl⟩
  · rw [if_neg chosen] at same ⊢
    exact ⟨before, List.mem_filter.mpr ⟨known, same⟩, .refl before⟩

/-- No call moves a deadline, and no call reopens a session. -/
theorem Effect.continues {tables next : Tables} {call : Call} {outcome : Except Fault Answer}
    (effect : Effect tables call outcome next) : next.Continues tables := by
  cases effect with
  | refused => exact continues_of_same rfl rfl
  | committed =>
      obtain ⟨clock, sessions⟩ := apply_insertVote_sessions tables _
      exact continues_of_same clock sessions
  | revealed => exact continues_of_same rfl rfl
  | settled => exact continues_settled tables _ _

end Rows

section Closing

/-- No commitment is possible any more: the phase is over, or the deadline has passed. -/
def Tables.CommitsClosed (tables : Tables) (sessionID : Uuid) : Prop :=
  ∀ sess ∈ tables.sessionWithID sessionID, sess.status ≠ "COMMIT" ∨ sess.expiresAt < tables.clock

def Tables.Resolved (tables : Tables) (sessionID : Uuid) : Prop :=
  ∀ sess ∈ tables.sessionWithID sessionID, sess.status = "RESOLVED"

variable {tables next : Tables} {sessionID : Uuid}

theorem commitsClosed_of_drifts (drift : Drifts tables next) (closed : tables.CommitsClosed sessionID) :
    next.CommitsClosed sessionID := by
  obtain ⟨clock, later, rfl⟩ := drift
  intro sess member
  exact (closed sess member).imp_right fun passed => lt_of_lt_of_le passed later

theorem Tables.Continues.commitsClosed (continues : next.Continues tables)
    (closed : tables.CommitsClosed sessionID) : next.CommitsClosed sessionID := by
  intro sess member
  obtain ⟨before, known, succeeds⟩ := continues.2 sessionID sess member
  rcases succeeds.status with same | resolved
  · rw [same, succeeds.expiresAt, continues.1]
    exact closed before known
  · left
    rw [resolved]
    decide

theorem resolved_of_drifts (drift : Drifts tables next) (resolved : tables.Resolved sessionID) :
    next.Resolved sessionID := by
  obtain ⟨clock, later, rfl⟩ := drift
  exact resolved

theorem Tables.Continues.resolved (continues : next.Continues tables)
    (resolved : tables.Resolved sessionID) : next.Resolved sessionID := by
  intro sess member
  obtain ⟨before, known, succeeds⟩ := continues.2 sessionID sess member
  rcases succeeds.status with same | resolvedNow
  · rw [same]
    exact resolved before known
  · exact resolvedNow

end Closing

section Order

variable {start final : Tables} {turns : List Turn} {sessionID : Uuid}

/-- An accepted reveal opens a commitment of the session, which is the only one with its key. -/
theorem opens_of_reveals {turn : Turn} {next : Tables}
    (leads : Leads Call.program turn.request turn.tables turn.outcome next) (reveals : Reveals sessionID turn) :
    ∃ voteID vote salt record sess, turn.request = .revealVote voteID vote salt ∧
      turn.tables.Opens voteID vote salt record sess ∧ record.sessionID = sessionID ∧
      next = turn.tables.apply (.reveal voteID vote salt) := by
  obtain ⟨voteID, vote, salt, request, ⟨held, member, same⟩, accepted⟩ := reveals
  have effect := effect_of_leads leads
  rw [request] at effect
  obtain ⟨⟨record, sess, opens⟩, rfl⟩ := effect.of_revealVote accepted
  rw [opens.found, List.mem_singleton] at member
  exact ⟨voteID, vote, salt, record, sess, request, opens, member ▸ same, rfl⟩

/-- An accepted commitment finds its session open. -/
theorem active_of_commits {turn : Turn} {next : Tables}
    (leads : Leads Call.program turn.request turn.tables turn.outcome next) (commits : Commits sessionID turn) :
    ∃ sess, turn.tables.Active sessionID "COMMIT" sess := by
  obtain ⟨voteID, auditorID, commitHash, request, accepted⟩ := commits
  have effect := effect_of_leads leads
  rw [request] at effect
  exact (effect.of_commitVote accepted).1

/-- A pair that opens a commitment of the session comes when commitments are closed. -/
def RevealsAfterCommits (sessionID : Uuid) (turn : Turn) : Prop :=
  ∀ voteID vote salt record sess, turn.request = .revealVote voteID vote salt →
    turn.tables.Opens voteID vote salt record sess → record.sessionID = sessionID →
    sess.status ≠ "COMMIT" ∨ sess.expiresAt < turn.tables.clock

/-- Where reveals wait for the end of the commitments, no commitment follows a reveal. -/
theorem no_commit_after_reveal (run : Run start turns final) (sessionID : Uuid)
    (waits : ∀ turn ∈ turns, RevealsAfterCommits sessionID turn) :
    turns.Pairwise fun earlier later => Reveals sessionID earlier → ¬ Commits sessionID later := by
  apply run.pairwise fun tables => Tables.CommitsClosed tables sessionID
  · exact fun tables drifted drift closed => commitsClosed_of_drifts drift closed
  · exact fun turn member next leads closed => (effect_of_leads leads).continues.commitsClosed closed
  · intro turn member next leads reveals
    obtain ⟨voteID, vote, salt, record, sess, request, opens, same, rfl⟩ := opens_of_reveals leads reveals
    have closed := waits turn member voteID vote salt record sess request opens same
    have only : turn.tables.sessionWithID sessionID = [sess] := same ▸ opens.session
    intro other known
    obtain rfl : other = sess := by simpa [only] using (show other ∈ turn.tables.sessionWithID sessionID from known)
    exact closed
  · intro turn member next leads closed commits
    obtain ⟨sess, active⟩ := active_of_commits leads commits
    rcases closed sess (active.found ▸ List.mem_singleton_self _) with finished | passed
    · exact finished active.status
    · exact absurd active.timely (not_le.mpr passed)

/-- The reveal waits for the deadline of the new dispute. -/
theorem no_commit_after_late_reveal :
    (serve newDispute [(1, aliceCommits), (101, aliceReveals), (102, bobCommits)]).1.Pairwise
      fun earlier later => Reveals disputeUuid earlier → ¬ Commits disputeUuid later := by
  refine no_commit_after_reveal (run_serve newDispute _) disputeUuid ?_
  intro turn member voteID vote salt record sess request opens _
  have known : sess ∈ turn.tables.sessions :=
    List.mem_of_mem_filter (opens.session ▸ List.mem_singleton_self sess)
  simp only [serve, List.mem_cons, List.not_mem_nil, or_false] at member
  rcases member with rfl | rfl | rfl
  · cases request
  · right
    refine (show ∀ sess ∈ Tables.sessions _, sess.expiresAt < Tables.clock _ from ?_) sess known
    decide +kernel
  · cases request

/-- A vote is committed after another one was revealed. -/
theorem commit_after_reveal :
    ∃ turns final, Run newDispute turns final ∧
      ¬ turns.Pairwise fun earlier later => Reveals disputeUuid earlier → ¬ Commits disputeUuid later := by
  refine ⟨_, _, run_serve newDispute [(1, aliceCommits), (2, aliceReveals), (3, bobCommits)], ?_⟩
  intro ordered
  simp only [serve, List.pairwise_cons] at ordered
  refine ordered.2.1 _ List.mem_cons_self ⟨aliceVoteUuid, _, _, rfl, ?_, ?_⟩ ⟨bobVoteUuid, _, _, rfl, ?_⟩
  · decide +kernel
  · decide +kernel
  · decide +kernel

/-- A pair that opens a commitment of the session comes before the deadline. -/
def RevealsInTime (sessionID : Uuid) (turn : Turn) : Prop :=
  ∀ voteID vote salt record sess, turn.request = .revealVote voteID vote salt →
    turn.tables.Opens voteID vote salt record sess → record.sessionID = sessionID →
    turn.tables.clock ≤ sess.expiresAt

/-- Where reveals keep the deadline, nothing is accepted behind it or after the session is resolved. -/
theorem deadline_kept (run : Run start turns final) (sessionID : Uuid)
    (timely : ∀ turn ∈ turns, RevealsInTime sessionID turn) :
    (∀ turn ∈ turns, Commits sessionID turn ∨ Reveals sessionID turn →
        ∀ sess ∈ turn.tables.sessionWithID sessionID,
          turn.tables.clock ≤ sess.expiresAt ∧ sess.status ≠ "RESOLVED") ∧
      turns.Pairwise fun earlier later =>
        Resolves sessionID earlier → ¬ (Commits sessionID later ∨ Reveals sessionID later) := by
  constructor
  · intro turn member accepted sess known
    obtain ⟨next, leads⟩ := run.leads turn member
    rcases accepted with commits | reveals
    · obtain ⟨active, isActive⟩ := active_of_commits leads commits
      rw [isActive.found, List.mem_singleton] at known
      rw [known]
      exact ⟨isActive.timely, isActive.status ▸ by decide⟩
    · obtain ⟨voteID, vote, salt, record, opened, request, opens, same, _⟩ := opens_of_reveals leads reveals
      have inTime := timely turn member voteID vote salt record opened request opens same
      rw [← same, opens.session, List.mem_singleton] at known
      rw [known]
      refine ⟨inTime, fun resolved => ?_⟩
      have allowed := opens.status
      rw [resolved] at allowed
      exact absurd allowed (by decide)
  · apply run.pairwise fun tables => Tables.Resolved tables sessionID
    · exact fun tables drifted drift resolved => resolved_of_drifts drift resolved
    · exact fun turn member next leads resolved => (effect_of_leads leads).continues.resolved resolved
    · intro turn member next leads ⟨request, accepted⟩
      have effect := effect_of_leads leads
      rw [request] at effect
      obtain ⟨decision, _, _, _, rfl⟩ := effect.of_tallyAndSlash accepted
      exact resolved_of_settled
    · intro turn member next leads resolved accepted
      rcases accepted with commits | reveals
      · obtain ⟨sess, active⟩ := active_of_commits leads commits
        have status := resolved sess (active.found ▸ List.mem_singleton_self _)
        rw [active.status] at status
        exact absurd status (by decide)
      · obtain ⟨voteID, vote, salt, record, sess, request, opens, same, _⟩ := opens_of_reveals leads reveals
        have status := resolved sess (same ▸ opens.session ▸ List.mem_singleton_self _)
        have allowed := opens.status
        rw [status] at allowed
        exact absurd allowed (by decide)

/-- The dispute is settled in time, and bob's later commitment is not accepted. -/
theorem deadline_kept_in_time :
    (serve newDispute [(1, aliceCommits), (2, aliceReveals), (3, .tallyAndSlash disputeUuid),
      (4, bobCommits)]).1.Pairwise fun earlier later =>
        Resolves disputeUuid earlier → ¬ (Commits disputeUuid later ∨ Reveals disputeUuid later) := by
  refine (deadline_kept (run_serve newDispute _) disputeUuid ?_).2
  intro turn member voteID vote salt record sess request opens _
  have known : sess ∈ turn.tables.sessions :=
    List.mem_of_mem_filter (opens.session ▸ List.mem_singleton_self sess)
  simp only [serve, List.mem_cons, List.not_mem_nil, or_false] at member
  rcases member with rfl | rfl | rfl | rfl
  · cases request
  · refine (show ∀ sess ∈ Tables.sessions _, Tables.clock _ ≤ sess.expiresAt from ?_) sess known
    decide +kernel
  · cases request
  · cases request

/-- A reveal is accepted behind the deadline of the dispute. -/
theorem reveal_after_deadline :
    ∃ turns final, Run newDispute turns final ∧
      ¬ ∀ turn ∈ turns, Commits disputeUuid turn ∨ Reveals disputeUuid turn →
        ∀ sess ∈ turn.tables.sessionWithID disputeUuid,
          turn.tables.clock ≤ sess.expiresAt ∧ sess.status ≠ "RESOLVED" := by
  refine ⟨_, _, run_serve newDispute [(1, aliceCommits), (101, aliceReveals)], ?_⟩
  intro kept
  simp only [serve, List.forall_mem_cons] at kept
  refine absurd (kept.2.1 (.inr ⟨aliceVoteUuid, _, _, rfl, ?_, ?_⟩) { id := disputeUuid, expiresAt := 100 } ?_) ?_
  · decide +kernel
  · decide +kernel
  · decide +kernel
  · decide +kernel

end Order

end Pxtly.Tribunal
