/-
This file gives when a proof that was accepted once can be accepted again.
-/

import Pxtly.Zkp.Nullifiers

namespace Pxtly.Zkp

open Foundation Foundation.Database
open Assets (Uuid)

section Alone

variable {platform : Platform} {request : ProofRequest} {nullifierID : Uuid} {tables : Tables}

/-- The checks depend on the clock and on the credentials only. -/
theorem evaluate_checkRequest_of_same {first second : Tables} (clock : first.clock = second.clock)
    (credentials : first.credentials = second.credentials) :
    ((checkRequest platform request).evaluate respond (first, [])).1 =
      ((checkRequest platform request).evaluate respond (second, [])).1 := by
  apply evaluate_of_same_answers
  apply checkRequest_within
  · exact ⟨⟨_, rfl⟩, congrArg some clock⟩
  · refine ⟨⟨_, rfl⟩, congrArg some ?_⟩
    change first.credentials.find? _ = second.credentials.find? _
    rw [credentials]

theorem alone_verifyProof : alone (verifyProof platform request nullifierID) tables =
    match ((checkRequest platform request).evaluate respond (tables, [])).1 with
    | .error fault => (.error fault, tables)
    | .ok refused => alone (consumeNullifier request nullifierID refused) tables := by
  have kept := evaluate_of_reads (checkRequest_reads platform request) (tables, [])
  rw [alone, verifyProof, Program.evaluate_bind]
  generalize (checkRequest platform request).evaluate respond (tables, []) = checked at kept
  obtain ⟨outcome, session⟩ := checked
  obtain rfl : session = (tables, []) := kept
  cases outcome with
  | error fault => rfl
  | ok refused => rfl

/-- A look-up reads the committed tables as long as nothing is pending. -/
theorem evaluate_fetch {A : Type} (query : Query) (next : query.Result → Service A) (tables : Tables) :
    (fetch query >>= next).evaluate respond (tables, []) =
      (next (tables.answer query)).evaluate respond (tables, []) := rfl

/-- A nullifier that the constraints admit is committed. -/
theorem evaluate_insert_commit {A : Type} (row : ZKPNullifier) (value : A) (tables : Tables) :
    (do
      perform (.write (.insertNullifier row))
      perform .commit
      return value : Service A).evaluate respond (tables, []) =
      if tables.Fresh row then (.ok value, tables.apply (.insertNullifier row), [])
      else (.error .databaseError, tables, []) := by
  rw [evaluate_write]
  by_cases fresh : tables.Fresh row
  · rw [if_pos fresh]
    exact if_pos (decide_eq_true fresh)
  · rw [if_neg fresh]
    exact if_neg fun admitted => fresh (of_decide_eq_true admitted)

theorem alone_consumeNullifier : alone (consumeNullifier request nullifierID none) tables =
    if (tables.answer (.nullifier request.nullifier)).isSome then
      (.ok (false, [.text "Nullifier already used — proof replayed"]), tables)
    else if tables.Fresh (request.row nullifierID) then
      (.ok (true, [.text "Proof accepted"]), tables.apply (.insertNullifier (request.row nullifierID)))
    else (.error .databaseError, tables) := by
  rw [alone, consumeNullifier, evaluate_fetch]
  cases tables.answer (.nullifier request.nullifier) with
  | some used => rfl
  | none =>
      simp only [Option.isSome_none, Bool.false_eq_true, if_false]
      rw [evaluate_insert_commit]
      split <;> rfl

theorem apply_keeps (row : ZKPNullifier) :
    (tables.apply (.insertNullifier row)).clock = tables.clock ∧
      (tables.apply (.insertNullifier row)).credentials = tables.credentials := by
  rw [Tables.apply]
  split <;> exact ⟨rfl, rfl⟩

/-- The text of a fresh row has not been used. -/
theorem not_used_of_fresh {row : ZKPNullifier} (fresh : tables.Fresh row) :
    tables.answer (.nullifier row.nullifierHex) = none := by
  rw [Tables.answer, List.find?_eq_none]
  intro other member same
  exact fresh.2 (List.mem_map.mpr ⟨other, member, of_decide_eq_true same⟩)

/-- Whoever repeats an accepted request with a new nullifier is accepted again. -/
theorem replay_accepted {reason : Reason} {next : Tables}
    (accepted : alone (verifyProof platform request nullifierID) tables = (.ok (true, reason), next))
    (nullifier : String) (otherID : Uuid) (fresh : next.Fresh ({ request with nullifier }.row otherID)) :
    (alone (verifyProof platform { request with nullifier } otherID) next).1 =
      .ok (true, [.text "Proof accepted"]) := by
  rw [alone_verifyProof] at accepted ⊢
  have kept : next.clock = tables.clock ∧ next.credentials = tables.credentials ∧
      ((checkRequest platform request).evaluate respond (tables, [])).1 = .ok none := by
    cases checked : ((checkRequest platform request).evaluate respond (tables, [])).1 with
    | error fault =>
        rw [checked] at accepted
        cases accepted
    | ok refused =>
        rw [checked] at accepted
        cases refused with
        | some text => cases accepted
        | none =>
            simp only [alone_consumeNullifier] at accepted
            split at accepted
            · cases accepted
            · split at accepted
              · obtain ⟨_, rfl⟩ := Prod.mk.inj accepted
                exact ⟨(apply_keeps _).1, (apply_keeps _).2, rfl⟩
              · cases accepted
  obtain ⟨clock, credentials, checked⟩ := kept
  have again : ((checkRequest platform { request with nullifier }).evaluate respond (next, [])).1 = .ok none :=
    (evaluate_checkRequest_of_same clock credentials).trans checked
  rw [again]
  simp only [alone_consumeNullifier]
  have unused : next.answer (.nullifier nullifier) = none := not_used_of_fresh fresh
  rw [unused, if_neg (by simp), if_pos fresh]

end Alone

/-- Both requests present one proof for one key, one purpose and one context. -/
def SameProof (first second : ProofRequest) : Prop :=
  (∃ key proof, first.parse = some (key, proof) ∧ second.parse = some (key, proof)) ∧
    first.purpose = second.purpose ∧ first.context = second.context

variable {C : Type} [DecidableEq C] {platform : Platform} {calls : C → Verification} {tables : Tables}
  {trace : List (C × Event)} {state : Store database C}

/-- Where a proof always comes with one nullifier, it is accepted once. -/
theorem proof_accepted_once (run : Concurrent Drifts tables trace state)
    (bound : ∀ first second, SameProof (calls first).request (calls second).request →
      (calls first).request.nullifier = (calls second).request.nullifier) :
    ∀ first second, Accepted platform calls trace first → Accepted platform calls trace second →
      SameProof (calls first).request (calls second).request → first = second := by
  intro first second firstAccepted secondAccepted same
  exact accepted_once run firstAccepted secondAccepted (bound first second same)

theorem sameProof_gate (nullifiers : Bool → String) (first second : Bool) :
    SameProof (gateCalls nullifiers first).request (gateCalls nullifiers second).request := by
  have parsed : gateRequest.parse.isSome = true := by decide +kernel
  obtain ⟨⟨key, proof⟩, same⟩ := Option.isSome_iff_exists.mp parsed
  exact ⟨⟨key, proof, same, same⟩, rfl, rfl⟩

/-- The thief repeats the proof with the nullifier of the holder, and he is refused. -/
theorem thief_refused :
    ∃ trace state, Concurrent Drifts newTables trace state ∧
      Accepted devPlatform (gateCalls fun _ => gateRequest.nullifier) trace false ∧
      ¬ Accepted devPlatform (gateCalls fun _ => gateRequest.nullifier) trace true := by
  have accepted := accepted_gate (fun _ => gateRequest.nullifier) crossing false (by decide +kernel)
  have run : Concurrent Drifts newTables _ _ := concurrent_advance (gateProgram fun _ => gateRequest.nullifier) crossing
  refine ⟨_, _, run, accepted, fun repeated => ?_⟩
  have same := proof_accepted_once run (fun _ _ _ => rfl) false true accepted repeated (sameProof_gate _ _ _)
  cases same

/-- The thief makes up a nullifier. -/
def ownNullifier : Bool → String
  | false => gateRequest.nullifier
  | true => "d9298a10d1b0735837dc4bd85dac641b0f3cef27a47e5d53a54f2f3f5b2fcffa"

/-- The thief repeats the proof with a nullifier of his own, and he is accepted. -/
theorem proof_accepted_twice :
    ∃ trace state, Concurrent Drifts newTables trace state ∧
      ¬ ∀ first second, Accepted devPlatform (gateCalls ownNullifier) trace first →
        Accepted devPlatform (gateCalls ownNullifier) trace second →
          SameProof (gateCalls ownNullifier first).request (gateCalls ownNullifier second).request →
            first = second := by
  let turns := [false, false, false, false, false, true, true, true, true, true]
  have first := accepted_gate ownNullifier turns false (by decide +kernel)
  have second := accepted_gate ownNullifier turns true (by decide +kernel)
  refine ⟨_, _, concurrent_advance (gateProgram ownNullifier) turns, fun once => ?_⟩
  cases once false true first second (sameProof_gate _ _ _)

end Pxtly.Zkp
