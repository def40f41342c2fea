/-
This file gives the tables of the tribunal, the queries on them, and their constraints.
-/

import Pxtly.Assets.Models
import Pxtly.Foundation.Transactions

namespace Pxtly.Tribunal

open Foundation
open Assets (Uuid)

/-- An instant counts microseconds in UTC. -/
abbrev Instant := Int

structure TribunalSession where
  id : Uuid
  status : String := "COMMIT"
  finalDecision : Option String := none
  expiresAt : Instant
  deriving DecidableEq

structure TribunalVote where
  id : Uuid
  sessionID : Uuid
  auditorID : Uuid
  commitHash : String
  revealedVote : Option String := none
  revealedSalt : Option String := none
  reputationStaked : Float := 100.0
  slashed : Bool := false
  rewarded : Bool := false

/-- The primary key of the votes is unique. -/
structure Tables where
  clock : Instant
  sessions : List TribunalSession
  votes : List TribunalVote
  voteKey : (votes.map TribunalVote.id).Nodup

inductive Query where
  | now
  | sessionWithID (id : Uuid)
  | voteWithID (id : Uuid)
  | votesOfAuditor (sessionID auditorID : Uuid)
  | revealedVotes (sessionID : Uuid)

abbrev Query.Result : Query → Type
  | .now => Instant
  | .sessionWithID _ => List TribunalSession
  | .voteWithID _ => List TribunalVote
  | .votesOfAuditor .. => List TribunalVote
  | .revealedVotes _ => List TribunalVote

namespace Tables

variable (tables : Tables)

def sessionWithID (id : Uuid) : List TribunalSession := tables.sessions.filter fun row => row.id = id

def voteWithID (id : Uuid) : List TribunalVote := tables.votes.filter fun row => row.id = id

def votesOfAuditor (sessionID auditorID : Uuid) : List TribunalVote :=
  tables.votes.filter fun row => row.sessionID = sessionID ∧ row.auditorID = auditorID

def revealedVotes (sessionID : Uuid) : List TribunalVote :=
  tables.votes.filter fun row => row.sessionID = sessionID ∧ row.revealedVote ≠ none

end Tables

def Tables.answer : (query : Query) → Tables → query.Result
  | .now, tables => tables.clock
  | .sessionWithID id, tables => tables.sessionWithID id
  | .voteWithID id, tables => tables.voteWithID id
  | .votesOfAuditor sessionID auditorID, tables => tables.votesOfAuditor sessionID auditorID
  | .revealedVotes sessionID, tables => tables.revealedVotes sessionID

/-- An update writes the attributes that a function sets. -/
inductive Write where
  | insertVote (row : TribunalVote)
  | reveal (id : Uuid) (revealedVote revealedSalt : String)
  | settle (id : Uuid) (rewarded slashed : Bool) (reputationStaked : Float)
  | resolve (id : Uuid) (status finalDecision : String)

/-- An update keeps the primary key. -/
def Tables.updateVote (tables : Tables) (id : Uuid) (change : TribunalVote → TribunalVote)
    (keeps : ∀ row, (change row).id = row.id) : Tables where
  clock := tables.clock
  sessions := tables.sessions
  votes := tables.votes.map fun row => if row.id = id then change row else row
  voteKey := by
    have same : (TribunalVote.id ∘ fun row => if row.id = id then change row else row) = TribunalVote.id := by
      funext row
      by_cases chosen : row.id = id
      · simp [chosen, keeps]
      · simp [chosen]
    rw [List.map_map, same]
    exact tables.voteKey

def Tables.apply (tables : Tables) : Write → Tables
  | .insertVote row =>
      if fresh : row.id ∈ tables.votes.map TribunalVote.id then tables
      else { tables with
        votes := tables.votes ++ [row]
        voteKey := by simpa [List.nodup_append, tables.voteKey] using fresh }
  | .reveal id revealedVote revealedSalt =>
      tables.updateVote id (fun row => { row with revealedVote, revealedSalt }) fun _ => rfl
  | .settle id rewarded slashed reputationStaked =>
      tables.updateVote id (fun row => { row with rewarded, slashed, reputationStaked }) fun _ => rfl
  | .resolve id status finalDecision =>
      { tables with sessions := tables.sessions.map fun row =>
          if row.id = id then { row with status, finalDecision } else row }

/-- A column refuses texts that are too long, and the database has no NUL characters. -/
def fitsColumn (text : String) (width : Nat) : Bool := text.length ≤ width && '\x00' ∉ text.toList

/-- The primary key refuses a second row, and the columns refuse texts that do not fit. -/
def Tables.admits (tables : Tables) : Write → Bool
  | .insertVote row => row.id ∉ tables.votes.map TribunalVote.id && fitsColumn row.commitHash 64
  | .reveal _ revealedVote revealedSalt => fitsColumn revealedVote 20 && fitsColumn revealedSalt 64
  | .settle .. => true
  | .resolve _ status finalDecision => fitsColumn status 20 && fitsColumn finalDecision 20

/-- The primary key lets a second insertion wait for the first. -/
def Write.clashes : Write → Write → Bool
  | .insertVote first, .insertVote second => first.id = second.id
  | _, _ => false

abbrev database : Database where
  Tables := Tables
  Query := Query
  Result := Query.Result
  Write := Write
  answer := Tables.answer
  apply := Tables.apply
  admits := Tables.admits
  clashes := Write.clashes

/-- Only the clock moves by itself, and it never goes back. -/
def Drifts (tables drifted : Tables) : Prop :=
  ∃ clock, tables.clock ≤ clock ∧ drifted = { tables with clock }

theorem drifts_refl (tables : Tables) : Drifts tables tables := ⟨tables.clock, le_refl _, rfl⟩

end Pxtly.Tribunal
