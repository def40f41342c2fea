/-
This file gives the three phases of the tribunal as programs over its database.
-/

import Pxtly.Foundation.Sha256
import Pxtly.Tribunal.Models

namespace Pxtly.Tribunal

open Foundation Foundation.Database
open Assets (Uuid)

/-- These exceptions leave a service function. -/
inductive Fault where
  | tribunalError (message : String)
  | multipleResultsFound
  | noResultFound
  | databaseError
  deriving DecidableEq

abbrev Service (A : Type) := Program database.signature Fault A

/-- A failed operation of the database leaves the function with its error. -/
abbrev perform (operation : database.Operation) : Service operation.Result := ask Fault.databaseError operation

abbrev fetch (query : Query) : Service query.Result := perform (.read query)

abbrev save (write : Write) : Service Unit := perform (.write write)

abbrev commit : Service Unit := perform .commit

def scalarOneOrNone {A : Type} : List A → Except Fault (Option A)
  | [] => .ok none
  | [row] => .ok (some row)
  | _ => .error .multipleResultsFound

def scalarOne {A : Type} : List A → Except Fault A
  | [] => .error .noResultFound
  | [row] => .ok row
  | _ => .error .multipleResultsFound

def computeCommitHash (vote salt : String) : String := hex (sha256 (encode (vote ++ ":" ++ salt)))

def getActiveSession (sessionID : Uuid) (expectedStatus : String) : Service TribunalSession := do
  let found ← Program.lift (scalarOneOrNone (← fetch (.sessionWithID sessionID)))
  match found with
  | none => .raise (.tribunalError "Tribunal session does not exist")
  | some sess =>
      if sess.status ≠ expectedStatus then
        .raise (.tribunalError s!"Session is in status {sess.status}; expected {expectedStatus}")
      else do
        let now ← fetch .now
        if sess.expiresAt < now then .raise (.tribunalError "Session has expired") else return sess

/-- The vote takes its primary key from the request. -/
def commitVote (voteID sessionID auditorID : Uuid) (commitHash : String) : Service TribunalVote := do
  let _ ← getActiveSession sessionID "COMMIT"
  let existing ← Program.lift (scalarOneOrNone (← fetch (.votesOfAuditor sessionID auditorID)))
  if existing.isSome then
    .raise (.tribunalError "Auditor has already committed a vote for this session")
  else do
    let vote : TribunalVote :=
      { id := voteID, sessionID, auditorID, commitHash, reputationStaked := 100.0 }
    save (.insertVote vote)
    commit
    return vote

def revealVote (voteID : Uuid) (vote salt : String) : Service Bool := do
  let found ← Program.lift (scalarOneOrNone (← fetch (.voteWithID voteID)))
  match found with
  | none => return false
  | some record =>
      if record.revealedVote ≠ none then .raise (.tribunalError "Vote has already been revealed")
      else do
        let session ← Program.lift (scalarOneOrNone (← fetch (.sessionWithID record.sessionID)))
        match session with
        | none => .raise (.tribunalError "Tribunal session does not exist")
        | some sess =>
            if sess.status ∉ ["COMMIT", "REVEAL"] then
              .raise (.tribunalError s!"Session is in status {sess.status}; reveal is not allowed")
            else if record.commitHash ≠ computeCommitHash vote salt then return false
            else do
              save (.reveal voteID vote salt)
              commit
              return true

def countOf (votes : List TribunalVote) (option : String) : Nat :=
  votes.countP fun row => row.revealedVote = some option

/-- The first of two equal counts wins, and two thirds of the votes are needed. -/
def decisionOf (votes : List TribunalVote) : Option String :=
  let fraud := countOf votes "FRAUD"
  let legitimate := countOf votes "LEGITIMATE"
  let winning := if fraud < legitimate then ("LEGITIMATE", legitimate) else ("FRAUD", fraud)
  let threshold := Float.ofNat (votes.length * 2) / 3
  if threshold ≤ Float.ofNat winning.2 then some winning.1 else none

/-- A vote for the decision earns ten, and every other one loses fifty. -/
def settlement (decision : String) (row : TribunalVote) : Write :=
  if row.revealedVote = some decision then .settle row.id true false (row.reputationStaked + 10.0)
  else .settle row.id false true (row.reputationStaked - 50.0)

/-- The session row is written before the votes. -/
def settlements (sessionID : Uuid) (decision : String) (votes : List TribunalVote) : List Write :=
  .resolve sessionID "RESOLVED" decision :: votes.map (settlement decision)

/-- The pending changes are written when the transaction commits. -/
def saveAll : List Write → Service Unit
  | [] => return ()
  | write :: rest => do
      save write
      saveAll rest

def tallyAndSlash (sessionID : Uuid) : Service (Option String) := do
  let votes ← fetch (.revealedVotes sessionID)
  if votes.isEmpty then return none
  else match decisionOf votes with
    | none => do
        commit
        return none
    | some decision => do
        let sess ← Program.lift (scalarOne (← fetch (.sessionWithID sessionID)))
        saveAll (settlements sess.id decision votes)
        commit
        return some decision

end Pxtly.Tribunal
