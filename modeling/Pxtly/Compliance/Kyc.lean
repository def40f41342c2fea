/-
This file gives the check of a participant's KYC record and compares it with the check of the issuer.
-/

import Pxtly.Compliance.Records
import Pxtly.Compliance.Service
import Pxtly.Zkp.Issuance

namespace Pxtly.Compliance

open Foundation Foundation.Database
open Assets (Uuid)
open Zkp (Registry Eligibility checkEligibility)

def kycRenewalDays : Int := 30

/-- These are the first ten characters of the ISO text. -/
def dateText (instant : Instant) : String := String.ofList ((isoformat instant).toList.take 10)

def noRecord (userID : Uuid) : Fault := .valueError ("Aucun dossier KYC trouvé pour l'utilisateur " ++ userID.text)

/-- The verdict compares the expiry and the level, and does not look at the status. -/
def verdict (record : ComplianceRecord) (requiredLevel now : Int) : KYCResult :=
  let needsRenewal : Bool := record.expiresAt < now + kycRenewalDays * microsPerDay
  if record.expiresAt < now then
    { approved := false
      level := record.kycLevel
      kycStatus := record.kycStatus
      expiresAt := record.expiresAt
      reason := "KYC expiré le " ++ dateText record.expiresAt
      needsRenewal := true }
  else if record.kycLevel < requiredLevel then
    { approved := false
      level := record.kycLevel
      kycStatus := record.kycStatus
      expiresAt := record.expiresAt
      reason := s!"Niveau {record.kycLevel} insuffisant (requis: {requiredLevel})"
      needsRenewal }
  else
    { approved := true
      level := record.kycLevel
      kycStatus := record.kycStatus
      expiresAt := record.expiresAt
      reason := "Score et niveau conformes."
      needsRenewal }

variable {status : StatusColumn}

/-- This is `KYCVerifier.verify`. -/
def verify (userID : Uuid) (requiredLevel : Int) : RecordService status KYCResult := do
  let found ← fetch (.newestRecord userID)
  let now ← fetch .now
  match found with
  | none => .raise (noRecord userID)
  | some record => return verdict record requiredLevel now

/-- A look-up reads the committed rows as long as nothing is pending. -/
theorem evaluate_fetch {A : Type} (tables : Tables status) (query : Query)
    (next : query.Result → RecordService status A) :
    (fetch query >>= next).evaluate respond (tables, []) =
      (next (tables.answer query)).evaluate respond (tables, []) := rfl

theorem evaluate_verify (tables : Tables status) (userID : Uuid) (requiredLevel : Int) :
    (verify userID requiredLevel).evaluate respond (tables, []) =
      match newestRecord tables.records userID with
      | none => (.error (noRecord userID), tables, [])
      | some record => (.ok (verdict record requiredLevel tables.clock), tables, []) := by
  rw [verify, evaluate_fetch, evaluate_fetch, Tables.answer, Tables.answer]
  cases newestRecord tables.records userID <;> rfl

/-- A call that runs alone decides about the newest record at the time of the tables. -/
theorem alone_verify (tables : Tables status) (userID : Uuid) (requiredLevel : Int) :
    (alone (verify userID requiredLevel) tables).1 =
      match newestRecord tables.records userID with
      | none => .error (noRecord userID)
      | some record => .ok (verdict record requiredLevel tables.clock) := by
  rw [alone, evaluate_verify]
  cases newestRecord tables.records userID <;> rfl

theorem verdict_approved (record : ComplianceRecord) (requiredLevel now : Int) :
    (verdict record requiredLevel now).approved = true ↔ now ≤ record.expiresAt ∧ requiredLevel ≤ record.kycLevel := by
  unfold verdict
  by_cases expired : record.expiresAt < now
  · simp only [expired, if_true, Bool.false_eq_true, false_iff]
    omega
  · by_cases low : record.kycLevel < requiredLevel
    · simp only [expired, if_false, low, if_true, Bool.false_eq_true, false_iff]
      omega
    · simp only [expired, if_false, low, true_iff]
      omega

section Gates

/-- The registry of the issuer and the tables hold the same records at the same time. -/
structure SameMoment (registry : Registry) (tables : Tables status) : Prop where
  records : registry.records = tables.records
  clock : registry.clock = tables.clock

theorem alone_checkEligibility (registry : Registry) (userID : Uuid) :
    (alone (checkEligibility userID) registry).1 = .ok (registry.eligibility userID) := by
  rw [alone, checkEligibility, Zkp.evaluate_fetchIn, Registry.answer, Registry.eligibility]
  cases newestRecord registry.records userID with
  | none => rfl
  | some record =>
      by_cases approved : record.kycStatus ∈ ["APPROUVE", "VALIDE"]
      · simp only [approved, if_true]
        rfl
      · simp only [approved, if_false, Zkp.eligibilityOf]
        rfl

def approvedStatuses : List String := ["APPROUVE", "VALIDE"]

theorem eligibilityOf_kycOk (record : ComplianceRecord) (now : Int) :
    (Zkp.eligibilityOf record now).kycOk = true ↔ record.kycStatus ∈ approvedStatuses ∧ now < record.expiresAt := by
  simp [Zkp.eligibilityOf, approvedStatuses, ComplianceRecord.isExpired]

/-- The verifier approves at a level only what the issuer attests at this level, and neither approves a record that was
not approved. -/
structure GatesAgree (registry : Registry) (tables : Tables status) (userID : Uuid) (requiredLevel : Int) : Prop where
  attested : ∀ result, (alone (verify userID requiredLevel) tables).1 = .ok result → result.approved = true →
    ∃ eligibility, (alone (checkEligibility userID) registry).1 = .ok eligibility ∧ eligibility.kycOk = true ∧
      requiredLevel ≤ eligibility.kycLevel
  unapproved : ∀ record, newestRecord tables.records userID = some record → record.kycStatus ∉ approvedStatuses →
    (∀ result, (alone (verify userID requiredLevel) tables).1 = .ok result → result.approved = false) ∧
      ∀ eligibility, (alone (checkEligibility userID) registry).1 = .ok eligibility → eligibility.kycOk = false

/-- A newest record that is high enough and not expired has an approved status, and does not expire at this instant. -/
def ApprovedInTime (tables : Tables status) (userID : Uuid) (requiredLevel : Int) : Prop :=
  ∀ record, newestRecord tables.records userID = some record → requiredLevel ≤ record.kycLevel →
    tables.clock ≤ record.expiresAt → record.kycStatus ∈ approvedStatuses ∧ record.expiresAt ≠ tables.clock

/-- The two gates agree exactly where the status and the instant of the expiry make no difference. -/
theorem gates_agree_iff {registry : Registry} {tables : Tables status} (same : SameMoment registry tables)
    (userID : Uuid) (requiredLevel : Int) :
    GatesAgree registry tables userID requiredLevel ↔ ApprovedInTime tables userID requiredLevel := by
  have decided := alone_verify tables userID requiredLevel
  have attestation := alone_checkEligibility registry userID
  rw [Registry.eligibility, same.records, same.clock] at attestation
  constructor
  · intro agree record found high unexpired
    simp only [found] at decided attestation
    have approved := (verdict_approved record requiredLevel tables.clock).mpr ⟨unexpired, high⟩
    obtain ⟨eligibility, attested, kycOk, _⟩ := agree.attested _ decided approved
    rw [attestation] at attested
    rw [← Except.ok.inj attested, eligibilityOf_kycOk] at kycOk
    exact ⟨kycOk.1, by omega⟩
  · intro inTime
    cases found : newestRecord tables.records userID with
    | none =>
        simp only [found] at decided
        constructor
        · intro result ended
          rw [decided] at ended
          cases ended
        · intro record newest
          rw [found] at newest
          cases newest
    | some record =>
        simp only [found] at decided attestation
        have approval (result : KYCResult) (ended : (alone (verify userID requiredLevel) tables).1 = .ok result)
            (approved : result.approved = true) :
            (Zkp.eligibilityOf record tables.clock).kycOk = true ∧ requiredLevel ≤ record.kycLevel := by
          rw [decided] at ended
          rw [← Except.ok.inj ended, verdict_approved] at approved
          obtain ⟨listed, different⟩ := inTime record found approved.2 approved.1
          exact ⟨(eligibilityOf_kycOk record tables.clock).mpr ⟨listed, by omega⟩, approved.2⟩
        refine ⟨fun result ended approved => ⟨_, attestation, approval result ended approved⟩, ?_⟩
        intro newest same unlisted
        obtain rfl : record = newest := Option.some.inj (found.symm.trans same)
        have refused : (Zkp.eligibilityOf record tables.clock).kycOk = false := by
          rw [← Bool.not_eq_true, eligibilityOf_kycOk]
          exact fun attested => unlisted attested.1
        constructor
        · intro result ended
          by_contra approved
          have attested := (approval result ended (by simpa using approved)).1
          rw [refused] at attested
          cases attested
        · intro eligibility attested
          rw [attestation] at attested
          rw [← Except.ok.inj attested, refused]

end Gates

section Samples

open Zkp (aliceUuid holderUuid newRegistry)

/-- Alice has one record of the required level. -/
def aliceFile (kycStatus : String) (expiresAt : Instant) : ComplianceRecord where
  id := holderUuid
  participantID := aliceUuid
  kycStatus
  kycLevel := 3
  expiresAt
  createdAt := 1767225600000000

def fileTables (kycStatus : String) (expiresAt : Instant)
    (legal : legalRecord sqlStatus [aliceUuid] (aliceFile kycStatus expiresAt) = true) : Tables sqlStatus where
  clock := newRegistry.clock
  users := [aliceUuid]
  records := [aliceFile kycStatus expiresAt]
  documents := []
  recordKey := List.nodup_singleton _
  documentKey := List.nodup_nil
  recordsLegal := by simpa using legal
  documentsLegal := by simp

def fileRegistry (kycStatus : String) (expiresAt : Instant) : Registry :=
  { newRegistry with records := [aliceFile kycStatus expiresAt] }

theorem approved_file_gates_agree :
    GatesAgree (fileRegistry "APPROUVE" 4102444800000000) (fileTables "APPROUVE" 4102444800000000 (by decide +kernel))
      aliceUuid 3 := by
  rw [gates_agree_iff ⟨rfl, rfl⟩]
  intro record found _ _
  obtain rfl : aliceFile "APPROUVE" 4102444800000000 = record := Option.some.inj found
  decide +kernel

/-- A suspended record passes the first gate only, and so does an approved one at the instant of its expiry. -/
theorem suspended_file_gates_disagree :
    ¬ GatesAgree (fileRegistry "SUSPENDU" 4102444800000000)
        (fileTables "SUSPENDU" 4102444800000000 (by decide +kernel)) aliceUuid 3 ∧
      ¬ GatesAgree (fileRegistry "APPROUVE" newRegistry.clock)
        (fileTables "APPROUVE" newRegistry.clock (by decide +kernel)) aliceUuid 3 := by
  constructor
  · rw [gates_agree_iff ⟨rfl, rfl⟩]
    intro inTime
    have listed := (inTime (aliceFile "SUSPENDU" 4102444800000000) rfl (by decide) (by decide +kernel)).1
    exact absurd listed (by decide)
  · rw [gates_agree_iff ⟨rfl, rfl⟩]
    intro inTime
    exact (inTime (aliceFile "APPROUVE" newRegistry.clock) rfl (by decide) (le_refl _)).2 rfl

end Samples

end Pxtly.Compliance
