/-
This file gives what each phase of the tribunal does when it runs alone.
-/

import Pxtly.Tribunal.Service

namespace Pxtly.Tribunal

open Foundation Foundation.Database
open Assets (Uuid)

section Lookups

theorem scalarOneOrNone_eq_some {A : Type} {rows : List A} {row : A} :
    scalarOneOrNone rows = .ok (some row) ↔ rows = [row] := by
  match rows with
  | [] => simp [scalarOneOrNone]
  | [first] => simp [scalarOneOrNone]
  | first :: second :: rest => simp [scalarOneOrNone]

theorem scalarOneOrNone_eq_none {A : Type} {rows : List A} : scalarOneOrNone rows = .ok none ↔ rows = [] := by
  match rows with
  | [] => simp [scalarOneOrNone]
  | [first] => simp [scalarOneOrNone]
  | first :: second :: rest => simp [scalarOneOrNone]

/-- A session is found by its own key. -/
theorem sessionWithID_id {tables : Tables} {sessionID : Uuid} {sess : TribunalSession}
    (found : tables.sessionWithID sessionID = [sess]) : sess.id = sessionID := by
  have member : sess ∈ tables.sessionWithID sessionID := found ▸ List.mem_singleton_self sess
  exact of_decide_eq_true (List.mem_filter.mp member).2

/-- A look-up reads the committed tables as long as nothing is pending. -/
theorem evaluate_fetch {A : Type} (query : Query) (next : query.Result → Service A) (tables : Tables) :
    (fetch query >>= next).evaluate respond (tables, []) =
      (next (tables.answer query)).evaluate respond (tables, []) := rfl

/-- A write that the constraints admit is committed. -/
theorem evaluate_save_commit {A : Type} (write : Write) (value : A) (tables : Tables) :
    (do
      save write
      commit
      return value : Service A).evaluate respond (tables, []) =
      if tables.admits write then (.ok value, tables.apply write, [])
      else (.error .databaseError, tables, []) := by
  rw [evaluate_write]
  rfl

end Lookups

section Commit

/-- The session has the expected status, and its deadline has not passed. -/
structure Tables.Active (tables : Tables) (sessionID : Uuid) (expectedStatus : String)
    (sess : TribunalSession) : Prop where
  found : tables.sessionWithID sessionID = [sess]
  status : sess.status = expectedStatus
  timely : tables.clock ≤ sess.expiresAt

theorem getActiveSession_cases (sessionID : Uuid) (expectedStatus : String) (tables : Tables) :
    (∃ fault, (getActiveSession sessionID expectedStatus).evaluate respond (tables, []) =
      (.error fault, tables, [])) ∨
    ∃ sess, tables.Active sessionID expectedStatus sess ∧
      (getActiveSession sessionID expectedStatus).evaluate respond (tables, []) = (.ok sess, tables, []) := by
  rw [getActiveSession, evaluate_fetch, Tables.answer]
  cases lookup : scalarOneOrNone (tables.sessionWithID sessionID) with
  | error fault => exact .inl ⟨fault, rfl⟩
  | ok found =>
      rw [Program.lift_ok_bind]
      cases found with
      | none => exact .inl ⟨_, rfl⟩
      | some sess =>
          by_cases status : sess.status = expectedStatus
          · by_cases late : sess.expiresAt < tables.clock
            · left
              refine ⟨.tribunalError "Session has expired", ?_⟩
              simp only [ne_eq, status, not_true_eq_false, if_false]
              rw [evaluate_fetch, Tables.answer, if_pos late, Program.evaluate_raise]
            · right
              refine ⟨sess, ⟨scalarOneOrNone_eq_some.mp lookup, status, not_lt.mp late⟩, ?_⟩
              simp only [ne_eq, status, not_true_eq_false, if_false]
              rw [evaluate_fetch, Tables.answer, if_neg late, Program.evaluate_pure]
          · left
            simp only [ne_eq, status, not_false_eq_true, if_true]
            exact ⟨_, rfl⟩

/-- The row that an accepted call inserts. -/
def castVote (voteID sessionID auditorID : Uuid) (commitHash : String) : TribunalVote :=
  { id := voteID, sessionID, auditorID, commitHash }

/-- A call that is not accepted changes nothing. -/
theorem commitVote_cases (voteID sessionID auditorID : Uuid) (commitHash : String) (tables : Tables) :
    (∃ fault, alone (commitVote voteID sessionID auditorID commitHash) tables = (.error fault, tables)) ∨
    ∃ sess, tables.Active sessionID "COMMIT" sess ∧ tables.votesOfAuditor sessionID auditorID = [] ∧
      tables.admits (.insertVote (castVote voteID sessionID auditorID commitHash)) = true ∧
      alone (commitVote voteID sessionID auditorID commitHash) tables =
        (.ok (castVote voteID sessionID auditorID commitHash),
          tables.apply (.insertVote (castVote voteID sessionID auditorID commitHash))) := by
  rw [alone, commitVote, Program.evaluate_bind]
  rcases getActiveSession_cases sessionID "COMMIT" tables with ⟨fault, refused⟩ | ⟨sess, active, found⟩
  · rw [refused]
    exact .inl ⟨fault, rfl⟩
  · rw [found]
    simp only []
    rw [evaluate_fetch, Tables.answer]
    cases lookup : scalarOneOrNone (tables.votesOfAuditor sessionID auditorID) with
    | error fault => exact .inl ⟨fault, rfl⟩
    | ok existing =>
        rw [Program.lift_ok_bind]
        cases existing with
        | some row => exact .inl ⟨_, rfl⟩
        | none =>
            simp only [Option.isSome_none, Bool.false_eq_true, if_false]
            rw [evaluate_save_commit]
            split
            · rename_i admitted
              exact .inr ⟨sess, active, scalarOneOrNone_eq_none.mp lookup, admitted, rfl⟩
            · exact .inl ⟨_, rfl⟩

end Commit

section Reveal

/-- The pair opens the unrevealed commitment of a vote whose session is not resolved. -/
structure Tables.Opens (tables : Tables) (voteID : Uuid) (vote salt : String) (record : TribunalVote)
    (sess : TribunalSession) : Prop where
  found : tables.voteWithID voteID = [record]
  unrevealed : record.revealedVote = none
  session : tables.sessionWithID record.sessionID = [sess]
  status : sess.status ∈ ["COMMIT", "REVEAL"]
  commitment : record.commitHash = computeCommitHash vote salt
  admitted : tables.admits (.reveal voteID vote salt) = true

/-- A reveal that is not accepted changes nothing. -/
theorem revealVote_cases (voteID : Uuid) (vote salt : String) (tables : Tables) :
    (∃ outcome, outcome ≠ .ok true ∧ alone (revealVote voteID vote salt) tables = (outcome, tables)) ∨
    ∃ record sess, tables.Opens voteID vote salt record sess ∧
      alone (revealVote voteID vote salt) tables = (.ok true, tables.apply (.reveal voteID vote salt)) := by
  rw [alone, revealVote, evaluate_fetch, Tables.answer]
  cases lookup : scalarOneOrNone (tables.voteWithID voteID) with
  | error fault => exact .inl ⟨.error fault, by simp, rfl⟩
  | ok found =>
      rw [Program.lift_ok_bind]
      cases found with
      | none => exact .inl ⟨.ok false, by simp, rfl⟩
      | some record =>
          by_cases unrevealed : record.revealedVote = none
          swap
          · simp only [ne_eq, unrevealed, not_false_eq_true, if_true]
            exact .inl ⟨.error _, by simp, rfl⟩
          simp only [ne_eq, unrevealed, not_true_eq_false, if_false]
          rw [evaluate_fetch, Tables.answer]
          cases sessionLookup : scalarOneOrNone (tables.sessionWithID record.sessionID) with
          | error fault => exact .inl ⟨.error fault, by simp, rfl⟩
          | ok session =>
              rw [Program.lift_ok_bind]
              cases session with
              | none => exact .inl ⟨.error _, by simp, rfl⟩
              | some sess =>
                  by_cases status : sess.status ∈ ["COMMIT", "REVEAL"]
                  swap
                  · simp only [status, not_false_eq_true, if_true]
                    exact .inl ⟨.error _, by simp, rfl⟩
                  simp only [status, not_true_eq_false, if_false]
                  by_cases commitment : record.commitHash = computeCommitHash vote salt
                  swap
                  · rw [if_pos commitment]
                    exact .inl ⟨.ok false, by simp, rfl⟩
                  rw [if_neg (not_not.mpr commitment), evaluate_save_commit]
                  by_cases admitted : tables.admits (.reveal voteID vote salt)
                  · rw [if_pos admitted]
                    exact .inr ⟨record, sess, ⟨scalarOneOrNone_eq_some.mp lookup, unrevealed,
                      scalarOneOrNone_eq_some.mp sessionLookup, status, commitment, admitted⟩, rfl⟩
                  · rw [if_neg admitted]
                    exact .inl ⟨.error _, by simp, rfl⟩

end Reveal

section Tally

theorem decision_known {votes : List TribunalVote} {decision : String}
    (decided : decisionOf votes = some decision) : decision = "FRAUD" ∨ decision = "LEGITIMATE" := by
  simp only [decisionOf, Option.ite_none_right_eq_some, Option.some.injEq] at decided
  obtain ⟨_, rfl⟩ := decided
  split
  · exact .inr rfl
  · exact .inl rfl

theorem admits_settlements {sessionID : Uuid} {decision : String} {votes : List TribunalVote}
    (known : decision = "FRAUD" ∨ decision = "LEGITIMATE") :
    ∀ write ∈ settlements sessionID decision votes, ∀ tables : Tables, tables.admits write = true := by
  intro write member tables
  rcases List.mem_cons.mp member with rfl | member
  · rcases known with rfl | rfl <;> rfl
  · obtain ⟨row, _, rfl⟩ := List.mem_map.mp member
    unfold settlement
    split <;> rfl

theorem evaluate_saveAll {writes : List Write}
    (admitted : ∀ write ∈ writes, ∀ tables : Tables, tables.admits write = true) (tables : Tables)
    (pending : List Write) :
    (saveAll writes).evaluate respond (tables, pending) = (.ok (), tables, pending ++ writes) := by
  induction writes generalizing pending with
  | nil =>
      rw [List.append_nil]
      rfl
  | cons write rest inductionHypothesis =>
      have first : Tables.admits (pending.foldl Tables.apply tables) write = true :=
        admitted write List.mem_cons_self _
      have later : ∀ write ∈ rest, ∀ tables : Tables, tables.admits write = true :=
        fun later member => admitted later (List.mem_cons_of_mem _ member)
      rw [saveAll, evaluate_write, view, if_pos first, inductionHypothesis later, List.append_assoc]
      rfl

/-- A tally with a decision writes all settlements at once, and any other one changes nothing. -/
theorem alone_tallyAndSlash (sessionID : Uuid) (tables : Tables) :
    alone (tallyAndSlash sessionID) tables =
      if tables.revealedVotes sessionID = [] then (.ok none, tables)
      else match decisionOf (tables.revealedVotes sessionID) with
        | none => (.ok none, tables)
        | some decision => match scalarOne (tables.sessionWithID sessionID) with
          | .error fault => (.error fault, tables)
          | .ok sess => (.ok (some decision),
              (settlements sess.id decision (tables.revealedVotes sessionID)).foldl Tables.apply tables) := by
  rw [alone, tallyAndSlash, evaluate_fetch, Tables.answer]
  by_cases revealed : tables.revealedVotes sessionID = []
  · rw [if_pos revealed, revealed]
    rfl
  · have nonempty : (tables.revealedVotes sessionID).isEmpty = false := by simpa using revealed
    rw [if_neg revealed, nonempty]
    simp only [Bool.false_eq_true, if_false]
    cases decided : decisionOf (tables.revealedVotes sessionID) with
    | none => rfl
    | some decision =>
        simp only
        rw [evaluate_fetch, Tables.answer]
        cases scalarOne (tables.sessionWithID sessionID) with
        | error fault => rfl
        | ok sess =>
            rw [Program.lift_ok_bind, Program.evaluate_bind,
              evaluate_saveAll (admits_settlements (decision_known decided))]
            rfl

theorem tallyAndSlash_of_decision {sessionID : Uuid} {tables : Tables} {decision : String}
    {sess : TribunalSession} (revealed : tables.revealedVotes sessionID ≠ [])
    (decided : decisionOf (tables.revealedVotes sessionID) = some decision)
    (found : tables.sessionWithID sessionID = [sess]) :
    alone (tallyAndSlash sessionID) tables =
      (.ok (some decision),
        (settlements sess.id decision (tables.revealedVotes sessionID)).foldl Tables.apply tables) := by
  rw [alone_tallyAndSlash, if_neg revealed, decided, found]
  rfl

/-- A tally without a decision changes nothing. -/
theorem tallyAndSlash_cases (sessionID : Uuid) (tables : Tables) :
    (∃ outcome, (∀ decision, outcome ≠ .ok (some decision)) ∧
      alone (tallyAndSlash sessionID) tables = (outcome, tables)) ∨
    ∃ decision sess, tables.revealedVotes sessionID ≠ [] ∧
      decisionOf (tables.revealedVotes sessionID) = some decision ∧
      tables.sessionWithID sessionID = [sess] ∧
      alone (tallyAndSlash sessionID) tables =
        (.ok (some decision),
          (settlements sess.id decision (tables.revealedVotes sessionID)).foldl Tables.apply tables) := by
  rw [alone_tallyAndSlash]
  by_cases revealed : tables.revealedVotes sessionID = []
  · rw [if_pos revealed]
    exact .inl ⟨.ok none, by simp, rfl⟩
  · rw [if_neg revealed]
    cases decided : decisionOf (tables.revealedVotes sessionID) with
    | none => exact .inl ⟨.ok none, by simp, rfl⟩
    | some decision =>
        cases found : tables.sessionWithID sessionID with
        | nil => exact .inl ⟨.error .noResultFound, by simp, rfl⟩
        | cons sess rest =>
            cases rest with
            | nil => exact .inr ⟨decision, sess, revealed, rfl, rfl, rfl⟩
            | cons second others => exact .inl ⟨.error .multipleResultsFound, by simp, rfl⟩

end Tally

end Pxtly.Tribunal
