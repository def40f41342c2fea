/-
This file gives the tally over stakes of any kind, and what it decides over exact rational numbers.
-/

import Pxtly.Foundation.Arithmetic
import Pxtly.Foundation.Binary64
import Pxtly.Tribunal.PhaseOrder
import Pxtly.Tribunal.Votes

namespace Pxtly.Tribunal

open Foundation Foundation.Database
open Assets (Uuid)

/-- A ballot is a vote whose stake is a number of some kind. -/
structure Ballot (R : Type) where
  id : Uuid
  sessionID : Uuid
  auditorID : Uuid
  commitHash : String
  revealedVote : Option String
  revealedSalt : Option String
  reputationStaked : R
  slashed : Bool
  rewarded : Bool

/-- A court holds the rows that a tally reads and writes. -/
structure Court (R : Type) where
  sessions : List TribunalSession
  ballots : List (Ballot R)

section Tally

variable {R : Type}

def votesFor (ballots : List (Ballot R)) (option : String) : Nat :=
  ballots.countP fun ballot => ballot.revealedVote = some option

/-- The ballot is revealed in the session. -/
def Ballot.Revealed (ballot : Ballot R) (sessionID : Uuid) : Prop :=
  ballot.sessionID = sessionID ∧ ballot.revealedVote ≠ none

instance (ballot : Ballot R) (sessionID : Uuid) : Decidable (ballot.Revealed sessionID) :=
  inferInstanceAs (Decidable (_ ∧ _))

def Court.revealed (court : Court R) (sessionID : Uuid) : List (Ballot R) :=
  court.ballots.filter fun ballot => ballot.Revealed sessionID

def Court.sessionWithID (court : Court R) (sessionID : Uuid) : List TribunalSession :=
  court.sessions.filter fun row => row.id = sessionID

variable [PyNumber R] [Add R] [Sub R] [Div R] [LE R] [DecidableLE R] [OfScientific R]

/-- The first of two equal counts wins, and two thirds of the ballots are needed. -/
def verdict (ballots : List (Ballot R)) : Option String :=
  let fraud := votesFor ballots "FRAUD"
  let legitimate := votesFor ballots "LEGITIMATE"
  let winning := if fraud < legitimate then ("LEGITIMATE", legitimate) else ("FRAUD", fraud)
  let threshold : R := PyNumber.ofNat (ballots.length * 2) / PyNumber.ofNat 3
  if threshold ≤ PyNumber.ofNat winning.2 then some winning.1 else none

def Ballot.settle (decision : String) (ballot : Ballot R) : Ballot R :=
  if ballot.revealedVote = some decision then
    { ballot with rewarded := true, slashed := false, reputationStaked := ballot.reputationStaked + 10.0 }
  else { ballot with rewarded := false, slashed := true, reputationStaked := ballot.reputationStaked - 50.0 }

/-- The decision settles the revealed ballots of the session and resolves it. -/
def Court.settle (court : Court R) (sessionID : Uuid) (decision : String) : Court R where
  sessions := court.sessions.map fun row =>
    if row.id = sessionID then { row with status := "RESOLVED", finalDecision := decision } else row
  ballots := court.ballots.map fun ballot =>
    if ballot.Revealed sessionID then ballot.settle decision else ballot

def Court.tallyAndSlash (court : Court R) (sessionID : Uuid) : Except Fault (Option String) × Court R :=
  if court.revealed sessionID = [] then (.ok none, court)
  else match verdict (court.revealed sessionID) with
    | none => (.ok none, court)
    | some decision => match scalarOne (court.sessionWithID sessionID) with
      | .error fault => (.error fault, court)
      | .ok _ => (.ok (some decision), court.settle sessionID decision)

end Tally

section Order

variable {R : Type}

theorem revealed_perm {court : Court R} {ballots : List (Ballot R)} (order : ballots.Perm court.ballots)
    (sessionID : Uuid) :
    ({ court with ballots := ballots }.revealed sessionID).Perm (court.revealed sessionID) :=
  order.filter _

variable [PyNumber R] [Div R] [LE R] [DecidableLE R]

/-- The counts do not depend on the order of the ballots. -/
theorem verdict_perm {first second : List (Ballot R)} (order : first.Perm second) :
    verdict first = verdict second := by
  have counted (option : String) : votesFor first option = votesFor second option := order.countP_eq _
  simp only [verdict, counted, order.length_eq]

variable [Add R] [Sub R] [OfScientific R]

/-- A tally of the ballots in another order decides the same and settles the same ballots. -/
theorem tallyAndSlash_perm (court : Court R) (sessionID : Uuid) {ballots : List (Ballot R)}
    (order : ballots.Perm court.ballots) :
    ({ court with ballots := ballots }.tallyAndSlash sessionID).1 = (court.tallyAndSlash sessionID).1 ∧
      ({ court with ballots := ballots }.tallyAndSlash sessionID).2.sessions =
        (court.tallyAndSlash sessionID).2.sessions ∧
      ({ court with ballots := ballots }.tallyAndSlash sessionID).2.ballots.Perm
        (court.tallyAndSlash sessionID).2.ballots := by
  have revealed := revealed_perm order sessionID
  have same : { court with ballots := ballots }.sessionWithID sessionID = court.sessionWithID sessionID := rfl
  unfold Court.tallyAndSlash
  rw [verdict_perm revealed, same]
  by_cases empty : court.revealed sessionID = []
  · have none : { court with ballots := ballots }.revealed sessionID = [] := (empty ▸ revealed).eq_nil
    rw [if_pos empty, if_pos none]
    exact ⟨rfl, rfl, order⟩
  · have some : { court with ballots := ballots }.revealed sessionID ≠ [] := fun none =>
      empty (none ▸ revealed).symm.eq_nil
    rw [if_neg empty, if_neg some]
    cases verdict (court.revealed sessionID) with
    | none => exact ⟨rfl, rfl, order⟩
    | some decision =>
        cases scalarOne (court.sessionWithID sessionID) with
        | error fault => exact ⟨rfl, rfl, order⟩
        | ok sess => exact ⟨rfl, rfl, order.map _⟩

end Order

section Floats

/-- The program stakes floats. -/
def TribunalVote.ballot (row : TribunalVote) : Ballot Float where
  id := row.id
  sessionID := row.sessionID
  auditorID := row.auditorID
  commitHash := row.commitHash
  revealedVote := row.revealedVote
  revealedSalt := row.revealedSalt
  reputationStaked := row.reputationStaked
  slashed := row.slashed
  rewarded := row.rewarded

def Tables.court (tables : Tables) : Court Float where
  sessions := tables.sessions
  ballots := tables.votes.map TribunalVote.ballot

theorem revealed_court (tables : Tables) (sessionID : Uuid) :
    tables.court.revealed sessionID = (tables.revealedVotes sessionID).map TribunalVote.ballot := by
  rw [Court.revealed, Tables.court, List.filter_map]
  rfl

theorem verdict_ballots (votes : List TribunalVote) : verdict (votes.map TribunalVote.ballot) = decisionOf votes := by
  have counted (option : String) : votesFor (votes.map TribunalVote.ballot) option = countOf votes option := by
    rw [votesFor, countOf, List.countP_map]
    rfl
  simp only [verdict, decisionOf, counted, List.length_map]
  rfl

theorem settle_court (tables : Tables) (sessionID : Uuid) (decision : String) :
    (tables.settled sessionID decision).court = tables.court.settle sessionID decision := by
  rw [Tables.court, settled_votes, (settled_sessions tables sessionID decision).2, Court.settle, Tables.court]
  simp only [List.map_map, Court.mk.injEq, true_and]
  apply List.map_congr_left
  intro row _
  by_cases chosen : row.sessionID = sessionID ∧ row.revealedVote ≠ none
  · have revealed : row.ballot.Revealed sessionID := chosen
    simp only [Function.comp_apply, if_pos chosen, if_pos revealed, settledFrom, Ballot.settle]
    by_cases winning : row.revealedVote = some decision
    · have same : row.ballot.revealedVote = some decision := winning
      rw [if_pos winning, if_pos same]
      rfl
    · have different : row.ballot.revealedVote ≠ some decision := winning
      rw [if_neg winning, if_neg different]
      rfl
  · have concealed : ¬ row.ballot.Revealed sessionID := chosen
    simp only [Function.comp_apply, if_neg chosen, if_neg concealed]

theorem scalarOne_eq_ok {A : Type} {rows : List A} {row : A} : scalarOne rows = .ok row ↔ rows = [row] := by
  match rows with
  | [] => simp [scalarOne]
  | [first] => simp [scalarOne]
  | first :: second :: rest => simp [scalarOne]

/-- The tally of the program is the one over floats. -/
theorem court_alone (tables : Tables) (sessionID : Uuid) :
    ((alone (tallyAndSlash sessionID) tables).1, (alone (tallyAndSlash sessionID) tables).2.court) =
      tables.court.tallyAndSlash sessionID := by
  have sessions : tables.court.sessionWithID sessionID = tables.sessionWithID sessionID := rfl
  rw [Court.tallyAndSlash, revealed_court, verdict_ballots, sessions, alone_tallyAndSlash]
  by_cases revealed : tables.revealedVotes sessionID = []
  · rw [if_pos revealed, if_pos (by rw [revealed, List.map_nil])]
  · rw [if_neg revealed, if_neg (by simpa using revealed)]
    cases decisionOf (tables.revealedVotes sessionID) with
    | none => rfl
    | some decision =>
        cases found : scalarOne (tables.sessionWithID sessionID) with
        | error fault => rfl
        | ok sess =>
            simp only
            rw [sessionWithID_id (scalarOne_eq_ok.mp found), ← settle_court]
            rfl

end Floats

section Exact

variable {ballots : List (Ballot Rat)} {sessionID : Uuid}

/-- Every revealed ballot names one of the two options. -/
def Known (ballots : List (Ballot Rat)) : Prop :=
  ∀ ballot ∈ ballots, ballot.revealedVote = some "FRAUD" ∨ ballot.revealedVote = some "LEGITIMATE"

theorem votes_add (known : Known ballots) :
    votesFor ballots "FRAUD" + votesFor ballots "LEGITIMATE" = ballots.length := by
  induction ballots with
  | nil => rfl
  | cons ballot rest inductionHypothesis =>
      obtain ⟨own, others⟩ := List.forall_mem_cons.mp known
      have later := inductionHypothesis others
      unfold votesFor at later ⊢
      rw [List.countP_cons, List.countP_cons, List.length_cons]
      rcases own with fraud | legitimate
      · simp only [fraud, decide_true, if_true, Option.some.injEq, String.reduceEq, decide_false, Bool.false_eq_true,
          if_false]
        omega
      · simp only [legitimate, decide_true, if_true, Option.some.injEq, String.reduceEq, decide_false,
          Bool.false_eq_true, if_false]
        omega

theorem votesFor_eq_zero (known : Known ballots) {option : String} (fraud : option ≠ "FRAUD")
    (legitimate : option ≠ "LEGITIMATE") : votesFor ballots option = 0 := by
  rw [votesFor, List.countP_eq_zero]
  intro ballot member chosen
  have named : ballot.revealedVote = some option := of_decide_eq_true chosen
  rcases known ballot member with same | same
  · exact fraud (Option.some.inj (named.symm.trans same))
  · exact legitimate (Option.some.inj (named.symm.trans same))

/-- An option wins exactly when it has two thirds of the ballots. -/
theorem verdict_iff (known : Known ballots) (nonempty : ballots ≠ []) (decision : String) :
    verdict ballots = some decision ↔ 2 * ballots.length ≤ 3 * votesFor ballots decision := by
  have total := votes_add known
  have positive : 0 < ballots.length := List.length_pos_iff.mpr nonempty
  have enough (count : Nat) : (PyNumber.ofNat (ballots.length * 2) : Rat) / PyNumber.ofNat 3 ≤ PyNumber.ofNat count ↔
      2 * ballots.length ≤ 3 * count := by
    change ((ballots.length * 2 : Nat) : Rat) / (3 : Nat) ≤ count ↔ _
    rw [div_le_iff₀ (by norm_num)]
    norm_cast
    omega
  simp only [verdict, enough, Option.ite_none_right_eq_some, Option.some.injEq]
  -- The winner is compared with the threshold, and an option with two thirds is always the winner.
  by_cases less : votesFor ballots "FRAUD" < votesFor ballots "LEGITIMATE"
  · rw [if_pos less]
    constructor
    · rintro ⟨won, rfl⟩
      exact won
    · intro won
      by_cases fraud : decision = "FRAUD"
      · rw [fraud] at won
        omega
      by_cases legitimate : decision = "LEGITIMATE"
      · exact ⟨legitimate ▸ won, legitimate.symm⟩
      · rw [votesFor_eq_zero known fraud legitimate] at won
        omega
  · rw [if_neg less]
    constructor
    · rintro ⟨won, rfl⟩
      exact won
    · intro won
      by_cases legitimate : decision = "LEGITIMATE"
      · rw [legitimate] at won
        omega
      by_cases fraud : decision = "FRAUD"
      · exact ⟨fraud ▸ won, fraud.symm⟩
      · rw [votesFor_eq_zero known fraud legitimate] at won
        omega

/-- This is what a decision of the session does to a ballot. -/
inductive Settles (sessionID : Uuid) (decision : String) (ballot : Ballot Rat) : Ballot Rat → Prop where
  | won (inside : ballot.sessionID = sessionID) (revealed : ballot.revealedVote = some decision) :
      Settles sessionID decision ballot
        { ballot with rewarded := true, slashed := false, reputationStaked := ballot.reputationStaked + 10 }
  | lost (vote : String) (inside : ballot.sessionID = sessionID) (revealed : ballot.revealedVote = some vote)
      (different : vote ≠ decision) :
      Settles sessionID decision ballot
        { ballot with rewarded := false, slashed := true, reputationStaked := ballot.reputationStaked - 50 }
  | kept (untouched : ballot.sessionID ≠ sessionID ∨ ballot.revealedVote = none) :
      Settles sessionID decision ballot ballot

theorem settles_settle (sessionID : Uuid) (decision : String) (ballot : Ballot Rat) :
    Settles sessionID decision ballot
      (if ballot.Revealed sessionID then ballot.settle decision else ballot) := by
  by_cases revealed : ballot.Revealed sessionID
  · rw [if_pos revealed, Ballot.settle]
    by_cases winning : ballot.revealedVote = some decision
    · rw [if_pos winning, show (10.0 : Rat) = 10 by norm_num]
      exact .won revealed.1 winning
    · obtain ⟨vote, named⟩ := Option.ne_none_iff_exists'.mp revealed.2
      rw [if_neg winning, show (50.0 : Rat) = 50 by norm_num]
      exact .lost vote revealed.1 named fun same => winning (same ▸ named)
  · rw [if_neg revealed]
    refine .kept ?_
    by_contra neither
    rw [not_or] at neither
    exact revealed ⟨not_not.mp neither.1, neither.2⟩

/-- A tally of a session returns a decision and leaves a court. -/
structure TallyExact (court : Court Rat) (sessionID : Uuid) (decision : Option String) (settled : Court Rat) :
    Prop where
  decided : ∀ option, decision = some option ↔
    court.revealed sessionID ≠ [] ∧
      2 * (court.revealed sessionID).length ≤ 3 * votesFor (court.revealed sessionID) option
  ballots : ∀ option, decision = some option →
    List.Forall₂ (Settles sessionID option) court.ballots settled.ballots
  sessions : ∀ option, decision = some option →
    settled.sessions = court.sessions.map fun row =>
      if row.id = sessionID then { row with status := "RESOLVED", finalDecision := option } else row
  unsettled : decision = none → settled = court

/-- The session is tallied without an error. -/
theorem tallyAndSlash_exact {court : Court Rat} {sess : TribunalSession}
    (found : court.sessionWithID sessionID = [sess]) (known : Known (court.revealed sessionID)) :
    ∃ decision settled, court.tallyAndSlash sessionID = (.ok decision, settled) ∧
      TallyExact court sessionID decision settled := by
  unfold Court.tallyAndSlash
  by_cases empty : court.revealed sessionID = []
  · rw [if_pos empty]
    refine ⟨none, court, rfl, ?_, ?_, ?_, fun _ => rfl⟩
    · intro option
      simp [empty]
    · intro option impossible
      cases impossible
    · intro option impossible
      cases impossible
  · rw [if_neg empty, found]
    have decided (option : String) : verdict (court.revealed sessionID) = some option ↔
        court.revealed sessionID ≠ [] ∧
          2 * (court.revealed sessionID).length ≤ 3 * votesFor (court.revealed sessionID) option := by
      rw [verdict_iff known empty, and_iff_right empty]
    cases named : verdict (court.revealed sessionID) with
    | none =>
        rw [named] at decided
        refine ⟨none, court, rfl, decided, ?_, ?_, fun _ => rfl⟩
        · intro option impossible
          cases impossible
        · intro option impossible
          cases impossible
    | some decision =>
        rw [named] at decided
        refine ⟨some decision, court.settle sessionID decision, rfl, decided, ?_, ?_, ?_⟩
        · rintro option ⟨⟩
          rw [Court.settle, List.forall₂_map_right_iff, List.forall₂_same]
          intro ballot _
          exact settles_settle sessionID decision ballot
        · rintro option ⟨⟩
          rfl
        · intro impossible
          cases impossible

/-- The first tally of a session decides for two thirds of the revealed ballots exactly, in whatever order they
are. -/
theorem tally_exact (court : Court Rat) (sessionID : Uuid) (sess : TribunalSession)
    (found : court.sessionWithID sessionID = [sess]) (known : Known (court.revealed sessionID)) :
    ∃ decision settled, court.tallyAndSlash sessionID = (.ok decision, settled) ∧
      TallyExact court sessionID decision settled ∧
      ∀ ballots, ballots.Perm court.ballots → ∃ others : List (Ballot Rat),
        { court with ballots := ballots }.tallyAndSlash sessionID =
          (.ok decision, { settled with ballots := others }) ∧ others.Perm settled.ballots := by
  obtain ⟨decision, settled, tallied, exact⟩ := tallyAndSlash_exact found known
  refine ⟨decision, settled, tallied, exact, fun ballots order => ?_⟩
  obtain ⟨sameAnswer, sameSessions, sameBallots⟩ := tallyAndSlash_perm court sessionID order
  rw [tallied] at sameAnswer sameSessions sameBallots
  refine ⟨({ court with ballots := ballots }.tallyAndSlash sessionID).2.ballots, Prod.ext sameAnswer ?_, sameBallots⟩
  simp only at sameSessions ⊢
  rw [← sameSessions]

/-- The stake of the exact ballot is the number that the float stands for. -/
def TribunalVote.exactBallot (row : TribunalVote) : Ballot Rat where
  id := row.id
  sessionID := row.sessionID
  auditorID := row.auditorID
  commitHash := row.commitHash
  revealedVote := row.revealedVote
  revealedSalt := row.revealedSalt
  reputationStaked := exactValue row.reputationStaked
  slashed := row.slashed
  rewarded := row.rewarded

/-- The float threshold decides as the exact one does, for as many votes as there can be. -/
theorem decisionOf_exact {votes : List TribunalVote} (nonempty : votes ≠ [])
    (known : Known (votes.map TribunalVote.exactBallot)) (few : votes.length < 2 ^ 50) :
    decisionOf votes = verdict (votes.map TribunalVote.exactBallot) := by
  have counted (option : String) : votesFor (votes.map TribunalVote.exactBallot) option = countOf votes option := by
    rw [votesFor, countOf, List.countP_map]
    rfl
  have total := votes_add known
  have positive : 0 < votes.length := List.length_pos_iff.mpr nonempty
  simp only [counted, List.length_map] at total
  have enough (count : Nat) (most : votes.length ≤ 2 * count) (least : count ≤ votes.length) :
      Float.ofNat (votes.length * 2) / 3 ≤ Float.ofNat count ↔
        (PyNumber.ofNat (votes.length * 2) : Rat) / PyNumber.ofNat 3 ≤ PyNumber.ofNat count := by
    change Float.ofNat (votes.length * 2) / Float.ofNat 3 ≤ Float.ofNat count ↔ _
    rw [ofNat_div_le_iff (by omega) (by decide) (by decide) (by omega) (by omega) (by omega)]
    change _ ↔ ((votes.length * 2 : Nat) : Rat) / (3 : Nat) ≤ count
    rw [div_le_iff₀ (by norm_num)]
    norm_cast
    omega
  simp only [verdict, decisionOf, counted, List.length_map]
  by_cases less : countOf votes "FRAUD" < countOf votes "LEGITIMATE"
  · simp only [if_pos less, enough (countOf votes "LEGITIMATE") (by omega) (by omega)]
  · simp only [if_neg less, enough (countOf votes "FRAUD") (by omega) (by omega)]

def ballotOf (id auditorID : Uuid) (revealedVote : Option String) : Ballot Rat where
  id := id
  sessionID := disputeUuid
  auditorID := auditorID
  commitHash := ""
  revealedVote := revealedVote
  revealedSalt := none
  reputationStaked := 100
  slashed := false
  rewarded := false

/-- Alice has revealed her vote, and Bob has not. -/
def openDispute : Court Rat where
  sessions := newDispute.sessions
  ballots := [ballotOf aliceVoteUuid aliceUuid (some "FRAUD"), ballotOf bobVoteUuid bobUuid none]

theorem openDispute_known : Known (openDispute.revealed disputeUuid) := by
  simp [Known, Court.revealed, openDispute, ballotOf, Ballot.Revealed]

theorem openDispute_exact : ∃ decision settled,
    openDispute.tallyAndSlash disputeUuid = (.ok decision, settled) ∧
      TallyExact openDispute disputeUuid decision settled ∧
      ∀ ballots, ballots.Perm openDispute.ballots → ∃ others : List (Ballot Rat),
        { openDispute with ballots := ballots }.tallyAndSlash disputeUuid =
          (.ok decision, { settled with ballots := others }) ∧ others.Perm settled.ballots :=
  tally_exact openDispute disputeUuid { id := disputeUuid, expiresAt := 100 } rfl openDispute_known

end Exact

end Pxtly.Tribunal
