/-
This file gives the verdicts about a request that presents the claim of a stored credential.
-/

import Pxtly.Zkp.Issuer
import Pxtly.Zkp.Replay

namespace Pxtly.Zkp

open Foundation Foundation.Database
open Assets (Uuid)

def revokedReason : Reason := [.text "Credential has been revoked"]

/-- The request carries the claim of the row with a signature that the platform verifies, and the expiry of the claim
is read as it was written. -/
structure Carries (platform : Platform) (row : ZKPCredential) (request : ProofRequest) : Prop where
  claim : request.credentialClaim = row.claim
  signed : verifyIssuerSig platform row.claim request.credentialSig = true
  expiry : platform.fromIsoFormat (isoformat row.expiresAt) = some (.aware row.expiresAt)

/-- The request carries the claim of the row and proves its key. -/
structure Presents (platform : Platform) (row : ZKPCredential) (request : ProofRequest) : Prop
    extends Carries platform row request where
  publicKeyX : request.publicKeyX = row.publicKeyX
  publicKeyY : request.publicKeyY = row.publicKeyY

section Verdicts

variable {platform : Platform} {row : ZKPCredential} {request : ProofRequest}

/-- These attributes of its claim stand for the row. -/
def ZKPCredential.fakeCred (row : ZKPCredential) : FakeCred :=
  ⟨.bool row.ageOk, .bool row.kycOk, .bool row.notSanctioned, .integer row.kycLevel⟩

/-- These are the checks behind the look-up of a revocation. -/
def checkPurpose (platform : Platform) (request : ProofRequest) (row : ZKPCredential) :
    Except Fault (Option Reason) := do
  let (ok, reason) ← checkPurposeClaims row.fakeCred request.purpose
  if !ok then return some reason else checkSchnorr platform request

/-- These are the checks of a request that carries the claim of a row. -/
def checkRow (platform : Platform) (request : ProofRequest) (row : ZKPCredential) : Service (Option Reason) := do
  let now ← fetch .now
  if row.expiresAt < now then return some [.text "Credential has expired"]
  else if row.publicKeyX = request.publicKeyX ∧ row.publicKeyY = request.publicKeyY then
    let revoked ← fetch (.revokedCredential request.publicKeyX)
    if revoked.isSome then return some revokedReason else Program.lift (checkPurpose platform request row)
  else return some [.text "Public key mismatch between credential and proof"]

theorem checkRequest_carried (carries : Carries platform row request) :
    checkRequest platform request = checkRow platform request row := by
  obtain ⟨claim, signed, read⟩ := carries
  have expiry : (claimGet row.claim "expires_at" (.string "") >>= expiryOf platform) = .ok (some row.expiresAt) := by
    change Except.ok ((platform.fromIsoFormat (isoformat row.expiresAt)).map IsoTime.instant) = _
    rw [read]
    rfl
  have claimX : claimGet row.claim "Y_x" .null = .ok (.string row.publicKeyX) := rfl
  have claimY : claimGet row.claim "Y_y" .null = .ok (.string row.publicKeyY) := rfl
  have credential : fakeCredOf row.claim = .ok row.fakeCred := rfl
  have keys : (!isText (.string row.publicKeyX) request.publicKeyX ||
      !isText (.string row.publicKeyY) request.publicKeyY) =
      !decide (row.publicKeyX = request.publicKeyX ∧ row.publicKeyY = request.publicKeyY) := by
    rw [Bool.decide_and, Bool.not_and]
    rfl
  have purpose : (do
      let (ok, reason) ← Program.lift (checkPurposeClaims row.fakeCred request.purpose)
      if !ok then return some reason else Program.lift (checkSchnorr platform request) : Service (Option Reason)) =
      Program.lift (checkPurpose platform request row) := by
    rw [checkPurpose]
    cases checkPurposeClaims row.fakeCred request.purpose with
    | error fault => rfl
    | ok verdict =>
        obtain ⟨ok, reason⟩ := verdict
        cases ok with
        | false => rfl
        | true => rfl
  simp only [checkRequest, claim, signed, expiry, claimX, claimY, keys, credential, purpose, Program.lift_ok_bind,
    Bool.not_true, Bool.false_eq_true, if_false]
  unfold checkRow
  by_cases same : row.publicKeyX = request.publicKeyX ∧ row.publicKeyY = request.publicKeyY
  · simp only [same]
    rfl
  · simp only [same]
    rfl

/-- Only a revocation has a reason that starts like this. -/
def firstLetter : Reason → Option Char
  | .text text :: _ => text.toList.head?
  | _ => none

theorem checkPurposeClaims_reason {credential : FakeCred} {purpose : String} {reason : Reason}
    (checked : checkPurposeClaims credential purpose = .ok (false, reason)) : firstLetter reason ≠ some 'C' := by
  unfold checkPurposeClaims at checked
  split at checked
  · cases checked
    have unknown : (toString "Unknown purpose: ").toList.head? = some 'U' := rfl
    simp [firstLetter, unknown]
  · split at checked
    · cases checked
      decide
    · split at checked
      · cases checked
        decide
      · split at checked
        · cases checked
          decide
        · simp only [bind_eq_ok] at checked
          obtain ⟨low, _, checked⟩ := checked
          cases low with
          | true =>
              cases checked
              simp [firstLetter]
          | false => cases checked

theorem checkSchnorr_reason {reason : Reason} (checked : checkSchnorr platform request = .ok (some reason)) :
    firstLetter reason ≠ some 'C' := by
  unfold checkSchnorr at checked
  split at checked
  · cases checked
    decide
  · split at checked
    · cases checked
      decide
    · split at checked
      · cases checked
      · cases checked
        decide
      · cases checked

/-- No check behind the look-up has the text of a revocation as its reason. -/
theorem checkPurpose_reason {reason : Reason} (checked : checkPurpose platform request row = .ok (some reason)) :
    reason ≠ revokedReason := by
  have different : firstLetter reason ≠ some 'C' := by
    simp only [checkPurpose, bind_eq_ok] at checked
    obtain ⟨⟨ok, text⟩, claims, checked⟩ := checked
    cases ok with
    | false =>
        obtain rfl := Option.some.inj (Except.ok.inj checked)
        exact checkPurposeClaims_reason claims
    | true => exact checkSchnorr_reason checked
  rintro rfl
  exact different rfl

/-- The checks of an unexpired row see the stored credentials only through the look-up of a revocation. -/
theorem evaluate_presented (presents : Presents platform row request) {tables : Tables}
    (unexpired : ¬ row.expiresAt < tables.clock) :
    ((checkRequest platform request).evaluate respond (tables, [])).1 =
      if (tables.answer (.revokedCredential request.publicKeyX)).isSome then .ok (some revokedReason)
      else checkPurpose platform request row := by
  rw [checkRequest_carried presents.toCarries, checkRow, evaluate_fetch, Tables.answer, if_neg unexpired,
    if_pos ⟨presents.publicKeyX.symm, presents.publicKeyY.symm⟩, evaluate_fetch]
  split
  · rfl
  · cases checkPurpose platform request row <;> rfl

/-- A revoked row has the abscissa. -/
def Tables.Strikes (tables : Tables) (publicKeyX : String) : Prop :=
  ∃ other ∈ tables.credentials, other.publicKeyX = publicKeyX ∧ other.revoked = true

instance (tables : Tables) (publicKeyX : String) : Decidable (tables.Strikes publicKeyX) :=
  inferInstanceAs (Decidable (∃ row ∈ _, _))

theorem answer_revokedCredential (tables : Tables) (publicKeyX : String) :
    (tables.answer (.revokedCredential publicKeyX)).isSome = true ↔ tables.Strikes publicKeyX := by
  rw [Tables.answer, List.find?_isSome, Tables.Strikes]
  simp

/-- A presented row that has not expired is refused as revoked when some row of its abscissa is. -/
theorem verdict_presented (presents : Presents platform row request) {tables : Tables} (nullifierID : Uuid)
    (unexpired : ¬ row.expiresAt < tables.clock) :
    (alone (verifyProof platform request nullifierID) tables).1 = .ok (false, revokedReason) ↔
      tables.Strikes row.publicKeyX := by
  rw [← presents.publicKeyX, ← answer_revokedCredential, alone_verifyProof, evaluate_presented presents unexpired]
  by_cases revoked : (tables.answer (.revokedCredential request.publicKeyX)).isSome = true
  · rw [if_pos revoked]
    exact iff_of_true rfl revoked
  · rw [if_neg revoked]
    refine iff_of_false (fun refused => ?_) revoked
    cases checked : checkPurpose platform request row with
    | error fault =>
        rw [checked] at refused
        cases refused
    | ok reason =>
        rw [checked] at refused
        cases reason with
        | some text => exact checkPurpose_reason checked (Prod.mk.inj (Except.ok.inj refused)).2
        | none =>
            simp only [alone_consumeNullifier] at refused
            split at refused
            · exact absurd refused (by simp [revokedReason])
            · split at refused
              · cases refused
              · cases refused

/-- Tables with the same clock, nullifiers and struck abscissas have the same verdict for a presented row. -/
theorem verdict_of_same (presents : Presents platform row request) {first second : Tables} (nullifierID : Uuid)
    (unexpired : ¬ row.expiresAt < first.clock)
    (struck : second.Strikes row.publicKeyX ↔ first.Strikes row.publicKeyX) (clock : second.clock = first.clock)
    (nullifiers : second.nullifiers = first.nullifiers) :
    (alone (verifyProof platform request nullifierID) second).1 =
      (alone (verifyProof platform request nullifierID) first).1 := by
  have same : (second.answer (.revokedCredential request.publicKeyX)).isSome =
      (first.answer (.revokedCredential request.publicKeyX)).isSome := by
    rw [Bool.eq_iff_iff, answer_revokedCredential, answer_revokedCredential, presents.publicKeyX]
    exact struck
  have fresh : second.Fresh (request.row nullifierID) ↔ first.Fresh (request.row nullifierID) := by
    rw [Tables.Fresh, Tables.Fresh, nullifiers]
  have used : second.answer (.nullifier request.nullifier) = first.answer (.nullifier request.nullifier) := by
    rw [Tables.answer, Tables.answer, nullifiers]
  rw [alone_verifyProof, alone_verifyProof, evaluate_presented presents unexpired,
    evaluate_presented presents (clock ▸ unexpired), same]
  generalize (if (first.answer (.revokedCredential request.publicKeyX)).isSome then _ else _) = checked
  cases checked with
  | error fault => rfl
  | ok reason =>
      cases reason with
      | some text => rfl
      | none =>
          simp only [alone_consumeNullifier, used, fresh]
          split
          · rfl
          · split <;> rfl

/-- The row has the attributes that the purpose asks for. -/
def ZKPCredential.Meets (row : ZKPCredential) (purpose : String) : Prop :=
  ∃ required ∈ purposeClaims purpose, (required.ageOk = true → row.ageOk = true) ∧
    (required.kycOk = true → row.kycOk = true) ∧ (required.notSanctioned = true → row.notSanctioned = true) ∧
      required.kycLevel ≤ row.kycLevel

/-- A requirement that is not met gives its own reason. -/
theorem requirement_accepts (required given : Bool) (refusal : Reason) (rest : Except Fault (Bool × Reason)) :
    (∃ reason, (if (required && !given) = true then pure (false, refusal) else rest) = .ok (true, reason)) ↔
      (required = true → given = true) ∧ ∃ reason, rest = .ok (true, reason) := by
  cases required <;> cases given <;> simp [pure, Except.pure]

theorem checkPurposeClaims_accepts (row : ZKPCredential) (purpose : String) :
    (∃ reason, checkPurposeClaims row.fakeCred purpose = .ok (true, reason)) ↔ row.Meets purpose := by
  unfold ZKPCredential.Meets checkPurposeClaims
  cases purposeClaims purpose with
  | none => simp [pure, Except.pure]
  | some required =>
      have level : (∃ reason, (do
          if ← lessThan row.fakeCred.kycLevel required.kycLevel then
            return (false, [.text "KYC level ", pyStr row.fakeCred.kycLevel,
              .text s!" below required {required.kycLevel}"])
          else return (true, [.text "ok"]) : Except Fault (Bool × Reason)) = .ok (true, reason)) ↔
          (required.kycLevel : Int) ≤ row.kycLevel := by
        rw [ZKPCredential.fakeCred, lessThan, ok_bind, ← Int.not_lt]
        by_cases low : row.kycLevel < required.kycLevel <;> simp [low, pure, Except.pure]
      simp only [Option.mem_def, Option.some.injEq, exists_eq_left']
      rw [← level]
      exact (requirement_accepts _ _ _ _).trans (and_congr Iff.rfl ((requirement_accepts _ _ _ _).trans
        (and_congr Iff.rfl (requirement_accepts _ _ _ _))))

/-- The claim of the row passes every check of a verification. -/
structure Acceptable (platform : Platform) (row : ZKPCredential) (request : ProofRequest) (nullifierID : Uuid)
    (tables : Tables) : Prop where
  unexpired : ¬ row.expiresAt < tables.clock
  keys : row.publicKeyX = request.publicKeyX ∧ row.publicKeyY = request.publicKeyY
  unrevoked : ¬ tables.Strikes request.publicKeyX
  meets : row.Meets request.purpose
  proved : checkSchnorr platform request = .ok none
  fresh : tables.Fresh (request.row nullifierID)

theorem checkPurpose_eq_ok_none :
    checkPurpose platform request row = .ok none ↔
      row.Meets request.purpose ∧ checkSchnorr platform request = .ok none := by
  rw [checkPurpose, ← checkPurposeClaims_accepts]
  cases checkPurposeClaims row.fakeCred request.purpose with
  | error fault => simp [bind, Except.bind]
  | ok verdict =>
      obtain ⟨ok, reason⟩ := verdict
      cases ok <;> simp [bind, Except.bind, pure, Except.pure]

/-- A carried claim passes the checks before the nullifier under these conditions. -/
theorem evaluate_carried (carries : Carries platform row request) (tables : Tables) :
    ((checkRequest platform request).evaluate respond (tables, [])).1 = .ok none ↔
      ¬ row.expiresAt < tables.clock ∧
        (row.publicKeyX = request.publicKeyX ∧ row.publicKeyY = request.publicKeyY) ∧
          ¬ tables.Strikes request.publicKeyX ∧ checkPurpose platform request row = .ok none := by
  rw [checkRequest_carried carries, checkRow, evaluate_fetch, Tables.answer]
  by_cases expired : row.expiresAt < tables.clock
  · simp [expired]
  · by_cases keys : row.publicKeyX = request.publicKeyX ∧ row.publicKeyY = request.publicKeyY
    · rw [if_neg expired, if_pos keys, evaluate_fetch, ← answer_revokedCredential]
      cases tables.answer (.revokedCredential request.publicKeyX) with
      | some other => simp
      | none =>
          cases checkPurpose platform request row <;> simp [expired, keys, Program.lift, Program.evaluate]
    · simp [expired, keys]

theorem accepted_iff (carries : Carries platform row request) (nullifierID : Uuid) (tables : Tables) :
    (∃ reason, (alone (verifyProof platform request nullifierID) tables).1 = .ok (true, reason)) ↔
      Acceptable platform row request nullifierID tables := by
  have checks := evaluate_carried carries tables
  rw [checkPurpose_eq_ok_none] at checks
  rw [alone_verifyProof]
  constructor
  · intro ⟨reason, accepted⟩
    cases checked : ((checkRequest platform request).evaluate respond (tables, [])).1 with
    | error fault =>
        rw [checked] at accepted
        cases accepted
    | ok refused =>
        rw [checked] at accepted
        cases refused with
        | some text => cases accepted
        | none =>
            obtain ⟨unexpired, keys, unrevoked, meets, proved⟩ := checks.mp checked
            simp only [alone_consumeNullifier] at accepted
            split at accepted
            · cases accepted
            · split at accepted
              · next fresh => exact ⟨unexpired, keys, unrevoked, meets, proved, fresh⟩
              · cases accepted
  · intro acceptable
    have passed := checks.mpr ⟨acceptable.unexpired, acceptable.keys, acceptable.unrevoked, acceptable.meets,
      acceptable.proved⟩
    have unused : tables.answer (.nullifier request.nullifier) = none := not_used_of_fresh acceptable.fresh
    refine ⟨[.text "Proof accepted"], ?_⟩
    simp only [passed, alone_consumeNullifier, unused, acceptable.fresh]
    rfl

end Verdicts

end Pxtly.Zkp
