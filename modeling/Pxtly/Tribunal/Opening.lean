/-
This file gives which commitments can be opened.
-/

import Pxtly.Tribunal.PhaseOrder
import Pxtly.Tribunal.Votes

namespace Pxtly.Tribunal

open Foundation Foundation.Database
open Assets (Uuid)

/-- The router accepts these bodies. -/
structure RevealVoteRequest where
  voteID : Uuid
  vote : String
  salt : String
  knownVote : vote = "FRAUD" ∨ vote = "LEGITIMATE"
  saltLength : 8 ≤ salt.length ∧ salt.length ≤ 128

/-- The texts of the row fit their columns. -/
structure TribunalVote.Fits (row : TribunalVote) : Prop where
  commitHash : fitsColumn row.commitHash 64
  revealedVote : ∀ vote, row.revealedVote = some vote → fitsColumn vote 20
  revealedSalt : ∀ salt, row.revealedSalt = some salt → fitsColumn salt 64

/-- The request reveals its pair, and the row that records it fits the table. -/
structure Tables.CanOpen (tables : Tables) (request : RevealVoteRequest) : Prop where
  accepted : (alone (revealVote request.voteID request.vote request.salt) tables).1 = .ok true
  recorded : ∃ row,
    (alone (revealVote request.voteID request.vote request.salt) tables).2.voteWithID request.voteID = [row] ∧
      row.revealedVote = some request.vote ∧ row.revealedSalt = some request.salt ∧ row.Fits

/-- The session is open, and the vote has not been revealed yet. -/
structure Tables.Awaits (tables : Tables) (sessionID voteID : Uuid) : Prop where
  session : ∀ sess ∈ tables.sessionWithID sessionID, sess.status ∈ ["COMMIT", "REVEAL"]
  unrevealed : ∀ row ∈ tables.voteWithID voteID, row.revealedVote = none

section Commitments

/-- The vote is committed in a session that has its own row. -/
structure Tables.Committed (tables : Tables) (voteID sessionID : Uuid) (commitHash : String) : Prop where
  vote : ∃ record, tables.voteWithID voteID = [record] ∧ record.sessionID = sessionID ∧
    record.commitHash = commitHash
  session : ∃ sess, tables.sessionWithID sessionID = [sess]

variable {tables next : Tables} {voteID sessionID : Uuid} {commitHash : String}

theorem voteWithID_of_map {change : TribunalVote → TribunalVote} (mapped : next.votes = tables.votes.map change)
    (keeps : ∀ row, (change row).id = row.id) (voteID : Uuid) :
    next.voteWithID voteID = (tables.voteWithID voteID).map change := by
  rw [Tables.voteWithID, mapped, List.filter_map, Tables.voteWithID]
  congr 2
  funext row
  rw [Function.comp_apply, keeps]

theorem sessionWithID_of_map {change : TribunalSession → TribunalSession}
    (mapped : next.sessions = tables.sessions.map change) (keeps : ∀ row, (change row).id = row.id)
    (sessionID : Uuid) : next.sessionWithID sessionID = (tables.sessionWithID sessionID).map change := by
  rw [Tables.sessionWithID, mapped, List.filter_map, Tables.sessionWithID]
  congr 2
  funext row
  rw [Function.comp_apply, keeps]

/-- A row that is changed keeps its commitment. -/
theorem Tables.Committed.of_map {change : TribunalVote → TribunalVote} {alter : TribunalSession → TribunalSession}
    (committed : tables.Committed voteID sessionID commitHash) (votes : next.votes = tables.votes.map change)
    (sessions : next.sessions = tables.sessions.map alter)
    (keeps : ∀ row, (change row).id = row.id ∧ (change row).sessionID = row.sessionID ∧
      (change row).commitHash = row.commitHash)
    (keepsSession : ∀ row, (alter row).id = row.id) : next.Committed voteID sessionID commitHash := by
  obtain ⟨⟨record, found, inside, hash⟩, ⟨sess, foundSession⟩⟩ := committed
  constructor
  · refine ⟨change record, ?_, (keeps record).2.1.trans inside, (keeps record).2.2.trans hash⟩
    rw [voteWithID_of_map votes (fun row => (keeps row).1), found, List.map_singleton]
  · refine ⟨alter sess, ?_⟩
    rw [sessionWithID_of_map sessions keepsSession, foundSession, List.map_singleton]

theorem voteWithID_insertVote {row : TribunalVote} (admitted : tables.admits (.insertVote row) = true)
    (voteID : Uuid) :
    (tables.apply (.insertVote row)).voteWithID voteID =
      tables.voteWithID voteID ++ [row].filter fun entry => entry.id = voteID := by
  rw [Tables.voteWithID, apply_insertVote_votes admitted, List.filter_append, Tables.voteWithID]

/-- A row that is inserted has a key of its own. -/
theorem voteWithID_of_admits {row : TribunalVote} (admitted : tables.admits (.insertVote row) = true) :
    tables.voteWithID row.id = [] := by
  simp only [Tables.admits, Bool.and_eq_true, decide_eq_true_eq] at admitted
  rw [Tables.voteWithID, List.filter_eq_nil_iff]
  intro entry member same
  exact admitted.1 (of_decide_eq_true same ▸ List.mem_map_of_mem member)

/-- No call takes a commitment back. -/
theorem Effect.keeps_commitment {call : Call} {outcome : Except Fault Answer} (effect : Effect tables call outcome next)
    (committed : tables.Committed voteID sessionID commitHash) : next.Committed voteID sessionID commitHash := by
  cases effect with
  | refused => exact committed
  | committed newID otherID auditorID otherHash sess active fresh admitted =>
      obtain ⟨⟨record, found, inside, hash⟩, ⟨own, foundSession⟩⟩ := committed
      constructor
      · refine ⟨record, ?_, inside, hash⟩
        have different : newID ≠ voteID := by
          rintro rfl
          have absent := voteWithID_of_admits admitted
          rw [castVote] at absent
          rw [absent] at found
          cases found
        rw [voteWithID_insertVote admitted, found]
        simp [castVote, different]
      · refine ⟨own, ?_⟩
        rw [Tables.sessionWithID, (apply_insertVote_sessions tables _).2]
        exact foundSession
  | revealed otherID vote salt record sess opens =>
      have sessions : (tables.apply (.reveal otherID vote salt)).sessions = tables.sessions.map id :=
        (List.map_id _).symm
      refine committed.of_map rfl sessions ?_ fun _ => rfl
      intro row
      split
      · exact ⟨rfl, rfl, rfl⟩
      · exact ⟨rfl, rfl, rfl⟩
  | settled otherID decision sess revealed decided found =>
      refine committed.of_map (settled_votes tables otherID decision) (settled_sessions tables otherID decision).2 ?_ ?_
      · intro row
        split
        · exact ⟨settledFrom_id .., settledFrom_sessionID .., settledFrom_commitHash ..⟩
        · exact ⟨rfl, rfl, rfl⟩
      · intro row
        split
        · rfl
        · rfl

theorem committed_of_run {turns : List Turn} (run : Run tables turns next)
    (committed : tables.Committed voteID sessionID commitHash) : next.Committed voteID sessionID commitHash := by
  refine (run.keeps (fun tables => Tables.Committed tables voteID sessionID commitHash) ?_ ?_ committed).1
  · rintro tables _ ⟨clock, _, rfl⟩ committed
    exact ⟨committed.vote, committed.session⟩
  · exact fun turn _ next leads => (effect_of_leads leads).keeps_commitment

/-- A session awaits a vote that has just been committed. -/
theorem awaits_of_commitVote {auditorID : Uuid} {row : TribunalVote}
    (accepted : alone (commitVote voteID sessionID auditorID commitHash) tables = (.ok row, next)) :
    next.Awaits sessionID voteID := by
  rcases commitVote_cases voteID sessionID auditorID commitHash tables with
    ⟨fault, refused⟩ | ⟨sess, active, fresh, admitted, served⟩
  · rw [refused] at accepted
    cases accepted
  · rw [served] at accepted
    cases accepted
    have absent := voteWithID_of_admits admitted
    rw [castVote] at absent
    constructor
    · intro own member
      rw [Tables.sessionWithID, (apply_insertVote_sessions tables _).2] at member
      rw [← Tables.sessionWithID, active.found, List.mem_singleton] at member
      rw [member, active.status]
      decide
    · intro record member
      rw [voteWithID_insertVote admitted, absent] at member
      obtain ⟨own, _⟩ := List.mem_filter.mp member
      rw [List.mem_singleton.mp own]
      rfl

/-- A commitment that is accepted is in the table and fits it. -/
theorem committed_of_commitVote {auditorID : Uuid} {row : TribunalVote}
    (accepted : alone (commitVote voteID sessionID auditorID commitHash) tables = (.ok row, next)) :
    next.Committed voteID sessionID commitHash ∧ fitsColumn commitHash 64 := by
  rcases commitVote_cases voteID sessionID auditorID commitHash tables with
    ⟨fault, refused⟩ | ⟨sess, active, fresh, admitted, served⟩
  · rw [refused] at accepted
    cases accepted
  · rw [served] at accepted
    cases accepted
    have absent := voteWithID_of_admits admitted
    constructor
    · constructor
      · refine ⟨castVote voteID sessionID auditorID commitHash, ?_, rfl, rfl⟩
        rw [castVote] at absent
        rw [voteWithID_insertVote admitted, absent]
        simp [castVote]
      · refine ⟨sess, ?_⟩
        rw [Tables.sessionWithID, (apply_insertVote_sessions tables _).2]
        exact active.found
    · simp only [Tables.admits, Bool.and_eq_true, decide_eq_true_eq] at admitted
      exact admitted.2

end Commitments

section Openings

variable {tables : Tables} {voteID : Uuid} {vote salt : String}

/-- A pair that opens a commitment is accepted. -/
theorem revealVote_of_opens {record : TribunalVote} {sess : TribunalSession}
    (opens : tables.Opens voteID vote salt record sess) :
    alone (revealVote voteID vote salt) tables = (.ok true, tables.apply (.reveal voteID vote salt)) := by
  rw [alone, revealVote, evaluate_fetch, Tables.answer, opens.found, scalarOneOrNone_eq_some.mpr rfl,
    Program.lift_ok_bind]
  simp only [ne_eq, opens.unrevealed, not_true_eq_false, if_false]
  rw [evaluate_fetch, Tables.answer, opens.session, scalarOneOrNone_eq_some.mpr rfl, Program.lift_ok_bind]
  simp only [opens.status, not_true_eq_false, if_false]
  rw [if_neg (not_not.mpr opens.commitment), evaluate_save_commit, if_pos opens.admitted]

theorem opens_of_revealVote (accepted : (alone (revealVote voteID vote salt) tables).1 = .ok true) :
    ∃ record sess, tables.Opens voteID vote salt record sess := by
  rcases revealVote_cases voteID vote salt tables with ⟨outcome, unaccepted, refused⟩ | ⟨record, sess, opens, _⟩
  · rw [refused] at accepted
    exact absurd accepted unaccepted
  · exact ⟨record, sess, opens⟩

theorem voteWithID_reveal {record : TribunalVote} (found : tables.voteWithID voteID = [record]) :
    (tables.apply (.reveal voteID vote salt)).voteWithID voteID =
      [{ record with revealedVote := some vote, revealedSalt := some salt }] := by
  have same : record.id = voteID := by
    have member : record ∈ tables.voteWithID voteID := found ▸ List.mem_singleton_self record
    exact of_decide_eq_true (List.mem_filter.mp member).2
  have mapped : (tables.apply (.reveal voteID vote salt)).votes = tables.votes.map fun row =>
      if row.id = voteID then { row with revealedVote := some vote, revealedSalt := some salt } else row := rfl
  rw [voteWithID_of_map mapped ?_, found, List.map_singleton, if_pos same]
  intro row
  split
  · rfl
  · rfl

theorem RevealVoteRequest.vote_fits (request : RevealVoteRequest) : fitsColumn request.vote 20 := by
  rcases request.knownVote with fraud | legitimate
  · rw [fraud]
    decide
  · rw [legitimate]
    decide

variable {request : RevealVoteRequest} {sessionID : Uuid}

/-- A request with the committed pair opens the commitment as long as the session awaits it, and the column of the
salt has room for it. -/
theorem canOpen_of_committed
    (committed : tables.Committed request.voteID sessionID (computeCommitHash request.vote request.salt))
    (hash : fitsColumn (computeCommitHash request.vote request.salt) 64) :
    tables.CanOpen request ↔ tables.Awaits sessionID request.voteID ∧ fitsColumn request.salt 64 := by
  obtain ⟨⟨record, found, rfl, commitment⟩, ⟨sess, session⟩⟩ := committed
  constructor
  · rintro ⟨accepted, _⟩
    obtain ⟨entry, own, opens⟩ := opens_of_revealVote accepted
    obtain rfl : record = entry := List.singleton_inj.mp (found.symm.trans opens.found)
    obtain rfl : sess = own := List.singleton_inj.mp (session.symm.trans opens.session)
    have admitted : (fitsColumn request.vote 20 && fitsColumn request.salt 64) = true := opens.admitted
    refine ⟨⟨?_, ?_⟩, (Bool.and_eq_true_iff.mp admitted).2⟩
    · rw [session, List.forall_mem_singleton]
      exact opens.status
    · rw [found, List.forall_mem_singleton]
      exact opens.unrevealed
  · rintro ⟨⟨status, unrevealed⟩, room⟩
    rw [session, List.forall_mem_singleton] at status
    rw [found, List.forall_mem_singleton] at unrevealed
    have admitted : tables.admits (.reveal request.voteID request.vote request.salt) = true :=
      Bool.and_eq_true_iff.mpr ⟨request.vote_fits, room⟩
    have served := revealVote_of_opens ⟨found, unrevealed, session, status, commitment, admitted⟩
    constructor
    · rw [served]
    · rw [served]
      refine ⟨_, voteWithID_reveal found, rfl, rfl, ?_, ?_, ?_⟩
      · exact commitment ▸ hash
      · rintro _ ⟨⟩
        exact request.vote_fits
      · rintro _ ⟨⟩
        exact room

/-- An honest commitment can be opened exactly as long as the session awaits it and the salt fits its column. -/
theorem canOpen_iff {before after tables : Tables} {later : List Turn} {request : RevealVoteRequest}
    {sessionID auditorID : Uuid} {row : TribunalVote}
    (committed : alone (commitVote request.voteID sessionID auditorID
      (computeCommitHash request.vote request.salt)) before = (.ok row, after))
    (run : Run after later tables) :
    tables.CanOpen request ↔ tables.Awaits sessionID request.voteID ∧ fitsColumn request.salt 64 := by
  obtain ⟨commitment, hash⟩ := committed_of_commitVote committed
  exact canOpen_of_committed (committed_of_run run commitment) hash

def aliceRequest : RevealVoteRequest where
  voteID := aliceVoteUuid
  vote := "FRAUD"
  salt := "pepper-1"
  knownVote := .inl rfl
  saltLength := by decide

/-- The salt has one character more than its column. -/
def longRequest : RevealVoteRequest where
  voteID := aliceVoteUuid
  vote := "FRAUD"
  salt := String.ofList (List.replicate 65 's')
  knownVote := .inl rfl
  saltLength := by
    rw [String.length_ofList, List.length_replicate]
    decide

theorem commits_of_isOk {commitHash : String}
    (served : (alone (commitVote aliceVoteUuid disputeUuid aliceUuid commitHash) newDispute).1.isOk = true) :
    ∃ row, alone (commitVote aliceVoteUuid disputeUuid aliceUuid commitHash) newDispute =
      (.ok row, (alone (commitVote aliceVoteUuid disputeUuid aliceUuid commitHash) newDispute).2) := by
  cases outcome : (alone (commitVote aliceVoteUuid disputeUuid aliceUuid commitHash) newDispute).1 with
  | error fault =>
      rw [outcome] at served
      cases served
  | ok row => exact ⟨row, Prod.ext outcome rfl⟩

/-- Alice can open her commitment. -/
theorem aliceRequest_canOpen :
    let committed := (alone (commitVote aliceVoteUuid disputeUuid aliceUuid
      (computeCommitHash aliceRequest.vote aliceRequest.salt)) newDispute).2
    committed.CanOpen aliceRequest ↔
      committed.Awaits disputeUuid aliceVoteUuid ∧ fitsColumn aliceRequest.salt 64 := by
  have served : (alone (commitVote aliceVoteUuid disputeUuid aliceUuid
      (computeCommitHash aliceRequest.vote aliceRequest.salt)) newDispute).1.isOk = true := by decide +kernel
  obtain ⟨row, committed⟩ := commits_of_isOk served
  exact canOpen_iff committed .nil

/-- A salt that the router accepts is committed and awaited, and cannot be revealed. -/
theorem longRequest_unopened :
    let committed := alone (commitVote aliceVoteUuid disputeUuid aliceUuid
      (computeCommitHash longRequest.vote longRequest.salt)) newDispute
    committed.1.isOk = true ∧ committed.2.Awaits disputeUuid aliceVoteUuid ∧
      (∀ sess ∈ committed.2.sessionWithID disputeUuid, committed.2.clock ≤ sess.expiresAt) ∧
      ¬ committed.2.CanOpen longRequest := by
  have served : (alone (commitVote aliceVoteUuid disputeUuid aliceUuid
      (computeCommitHash longRequest.vote longRequest.salt)) newDispute).1.isOk = true := by decide +kernel
  obtain ⟨row, committed⟩ := commits_of_isOk served
  refine ⟨served, awaits_of_commitVote committed, by decide +kernel, ?_⟩
  rintro ⟨accepted, _⟩
  obtain ⟨record, sess, opens⟩ := opens_of_revealVote accepted
  have admitted : (fitsColumn longRequest.vote 20 && fitsColumn longRequest.salt 64) = true := opens.admitted
  exact absurd (Bool.and_eq_true_iff.mp admitted).2 (by decide +kernel)

end Openings

end Pxtly.Tribunal
