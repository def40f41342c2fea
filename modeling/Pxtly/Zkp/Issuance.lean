/-
This file gives when a call of the issuer returns a credential that can be used.
-/

import Pxtly.Zkp.Issuer

namespace Pxtly.Zkp

open Foundation Foundation.Database
open Assets (Uuid)
open Compliance (newestRecord)

/-- The clock of the registry is the clock of its tables. -/
abbrev Registry.clock (registry : Registry) : Instant := registry.tables.clock

abbrev Registry.credentials (registry : Registry) : List ZKPCredential := registry.tables.credentials

/-- The stored row is a credential of the user and the abscissa that is neither revoked nor expired. -/
structure Registry.Active (registry : Registry) (userID : Uuid) (publicKeyX : String) (row : ZKPCredential) : Prop where
  stored : row ∈ registry.credentials
  holder : row.holder = (userID, publicKeyX)
  unrevoked : row.revoked = false
  unexpired : registry.clock < row.expiresAt

def Registry.eligibility (registry : Registry) (userID : Uuid) : Eligibility :=
  match newestRecord registry.records userID with
  | none => {}
  | some record => eligibilityOf record registry.clock

/-- This is the row of a new credential. -/
def Registry.newRow (registry : Registry) (platform : Platform) (call : Issue) : ZKPCredential :=
  call.row platform (registry.eligibility call.userID) registry.clock

/-- Two stored rows with one holder are the same row. -/
theorem Registry.eq_of_holder {registry : Registry} {first second : ZKPCredential}
    (firstStored : first ∈ registry.credentials) (secondStored : second ∈ registry.credentials)
    (same : first.holder = second.holder) : first = second :=
  List.inj_on_of_nodup_map registry.holderKey firstStored secondStored same

theorem Registry.eq_of_id {registry : Registry} {first second : ZKPCredential}
    (firstStored : first ∈ registry.credentials) (secondStored : second ∈ registry.credentials)
    (same : first.id = second.id) : first = second :=
  List.inj_on_of_nodup_map registry.primaryKey firstStored secondStored same

section Evaluation

variable (registry : Registry)

/-- A look-up reads the committed rows as long as nothing is pending. -/
theorem evaluate_fetchIn {A : Type} (query : Registry.Query) (next : query.Result → RegistryService A) :
    (fetchIn query >>= next).evaluate respond (registry, []) =
      (next (registry.answer query)).evaluate respond (registry, []) := rfl

theorem evaluate_checkEligibility {A : Type} (userID : Uuid) (next : Eligibility → RegistryService A) :
    (checkEligibility userID >>= next).evaluate respond (registry, []) =
      (next (registry.eligibility userID)).evaluate respond (registry, []) := by
  rw [Program.evaluate_bind, checkEligibility, evaluate_fetchIn, Registry.answer, Registry.eligibility]
  cases newestRecord registry.records userID with
  | none => rfl
  | some record =>
      by_cases approved : record.kycStatus ∈ ["APPROUVE", "VALIDE"]
      · simp only [approved, if_true]
        rfl
      · simp only [approved, if_false, eligibilityOf]
        rfl

/-- The stored rows of a new row are followed by it. -/
theorem Registry.credentials_insert {registry : Registry} {row : ZKPCredential} (fresh : registry.Fresh row) :
    (registry.apply (.insertCredential row)).credentials = registry.credentials ++ [row] := by
  rw [Registry.apply, dif_pos fresh]

/-- A row that the constraints admit is stored and returned. -/
theorem evaluate_registerCredential (row : ZKPCredential) :
    (registerCredential row).evaluate respond (registry, []) =
      if registry.Fresh row then (.ok row, registry.apply (.insertCredential row), [])
      else (.error .databaseError, registry, []) := by
  rw [registerCredential, evaluate_write]
  by_cases fresh : registry.Fresh row
  · have admitted : Registry.database.admits registry (.insertCredential row) = true := decide_eq_true fresh
    have absent : registry.credentials.find? (fun other => other.id = row.id) = none := by
      rw [List.find?_eq_none]
      intro other member same
      exact fresh.2.1 (List.mem_map.mpr ⟨other, member, of_decide_eq_true same⟩)
    have found : (registry.apply (.insertCredential row)).answer (.credentialWithID row.id) = some row := by
      change List.find? _ (registry.apply (.insertCredential row)).credentials = _
      rw [Registry.credentials_insert fresh, List.find?_append, absent]
      simp
    rw [if_pos fresh]
    refine (if_pos admitted).trans ?_
    refine (evaluate_fetchIn (registry.apply (.insertCredential row)) (.credentialWithID row.id) _).trans ?_
    rw [found]
    rfl
  · rw [if_neg fresh]
    exact if_neg fun admitted => fresh (of_decide_eq_true admitted)

/-- The issuer looks for the active row of its user and abscissa. -/
theorem answer_activeCredential (userID : Uuid) (publicKeyX : String) :
    (∃ row ∈ registry.credentials, row.holder = (userID, publicKeyX) ∧ row.revoked = false ∧
      registry.answer (.activeCredential userID publicKeyX) = some row) ∨
    (∀ row ∈ registry.credentials, row.holder = (userID, publicKeyX) → row.revoked = true) ∧
      registry.answer (.activeCredential userID publicKeyX) = none := by
  rw [Registry.answer]
  cases found : registry.tables.credentials.find? fun row => row.holder = (userID, publicKeyX) ∧ ¬ row.revoked with
  | some row =>
      have holds := List.find?_some found
      simp only [decide_eq_true_eq, Bool.not_eq_true] at holds
      exact .inl ⟨row, List.mem_of_find?_eq_some found, holds.1, holds.2, rfl⟩
  | none =>
      refine .inr ⟨fun row member holder => ?_, rfl⟩
      have refused := List.find?_eq_none.mp found row member
      simpa [holder] using refused

theorem evaluate_unexpired (existing : Option ZKPCredential) :
    (unexpired existing).evaluate respond (registry, []) =
      (.ok (existing.filter fun row => registry.clock < row.expiresAt), registry, []) := by
  cases existing with
  | none => rfl
  | some row =>
      rw [unexpired, evaluate_fetchIn, Program.evaluate_pure, Option.filter]
      simp only [decide_eq_true_eq]
      rfl

theorem evaluate_issueNew (platform : Platform) (call : Issue) :
    (issueNew platform call).evaluate respond (registry, []) =
      if registry.Fresh (registry.newRow platform call) then
        (.ok (registry.newRow platform call), registry.apply (.insertCredential (registry.newRow platform call)), [])
      else (.error .databaseError, registry, []) := by
  rw [issueNew, evaluate_checkEligibility, evaluate_fetchIn]
  exact evaluate_registerCredential registry _

/-- A call returns the active row, or it registers a new one where the constraints admit it. -/
theorem issueCredential_cases (platform : Platform) (call : Issue) :
    (∃ row, registry.Active call.userID call.publicKeyX row ∧
      alone (issueCredential platform call) registry = (.ok row, registry)) ∨
    (∀ row, ¬ registry.Active call.userID call.publicKeyX row) ∧
      alone (issueCredential platform call) registry =
        if registry.Fresh (registry.newRow platform call) then
          (.ok (registry.newRow platform call), registry.apply (.insertCredential (registry.newRow platform call)))
        else (.error .databaseError, registry) := by
  rw [alone, issueCredential, evaluate_fetchIn, Program.evaluate_bind, evaluate_unexpired]
  rcases answer_activeCredential registry call.userID call.publicKeyX with
    ⟨row, stored, holder, unrevoked, found⟩ | ⟨revoked, missing⟩
  · by_cases unexpired : registry.clock < row.expiresAt
    · left
      refine ⟨row, ⟨stored, holder, unrevoked, unexpired⟩, ?_⟩
      simp only [found, Option.filter, unexpired, decide_true, if_true]
      rfl
    · right
      constructor
      · intro other active
        obtain rfl := registry.eq_of_holder active.stored stored (active.holder.trans holder.symm)
        exact unexpired active.unexpired
      · simp only [found, Option.filter, unexpired, decide_false, Bool.false_eq_true, if_false]
        rw [evaluate_issueNew]
        split <;> rfl
  · right
    constructor
    · intro row active
      have contrary := revoked row active.stored active.holder
      rw [active.unrevoked] at contrary
      cases contrary
    · simp only [missing, Option.filter]
      rw [evaluate_issueNew]
      split <;> rfl

end Evaluation

/-- The call returns an unrevoked and unexpired credential for its user and its key. -/
def Fulfils (call : Issue) (clock : Instant) : Except RegistryFault ZKPCredential → Prop
  | .ok row => row.userID = call.userID ∧ row.publicKeyX = call.publicKeyX ∧ row.publicKeyY = call.publicKeyY ∧
      row.revoked = false ∧ clock < row.expiresAt
  | .error _ => False

instance (call : Issue) (clock : Instant) : DecidablePred (Fulfils call clock)
  | .ok _ => inferInstanceAs (Decidable (_ ∧ _))
  | .error _ => inferInstanceAs (Decidable False)

/-- The user is registered, the primary key is new, and no row is stored for the user and the abscissa. -/
def Registry.Registers (registry : Registry) (call : Issue) : Prop :=
  call.userID ∈ registry.users ∧ call.fresh ∉ registry.credentials.map ZKPCredential.id ∧
    ∀ row ∈ registry.credentials, row.holder ≠ (call.userID, call.publicKeyX)

/-- The stored credential of the user and the abscissa can be used and has the ordinate, or there is none yet. -/
def Registry.Issuable (registry : Registry) (call : Issue) : Prop :=
  (∃ row, registry.Active call.userID call.publicKeyX row ∧ row.publicKeyY = call.publicKeyY) ∨
    registry.Registers call

theorem fresh_newRow {registry : Registry} {platform : Platform} {call : Issue} :
    registry.Fresh (registry.newRow platform call) ↔ registry.Registers call := by
  unfold Registry.Fresh Registry.Registers
  refine and_congr Iff.rfl (and_congr Iff.rfl ?_)
  rw [List.mem_map]
  constructor
  · exact fun absent row stored same => absent ⟨row, stored, same⟩
  · rintro absent ⟨row, stored, same⟩
    exact absent row stored same

/-- A new credential is valid for ninety days. -/
theorem fulfils_newRow (registry : Registry) (platform : Platform) (call : Issue) :
    Fulfils call registry.clock (.ok (registry.newRow platform call)) := by
  refine ⟨rfl, rfl, rfl, rfl, ?_⟩
  change registry.clock < registry.clock + credentialTTL
  exact Int.lt_add_of_pos_right _ (by decide)

section Samples

theorem aliceText_canonical : "00000000-0000-4000-8000-00000000000a".length = 36 := by decide
theorem bobText_canonical : "00000000-0000-4000-8000-00000000000b".length = 36 := by decide

def aliceUuid : Uuid := ⟨"00000000-0000-4000-8000-00000000000a", aliceText_canonical⟩
def bobUuid : Uuid := ⟨"00000000-0000-4000-8000-00000000000b", bobText_canonical⟩

/-- Two users are registered, and no credential has been issued. -/
def newRegistry : Registry where
  tables := newTables
  users := [aliceUuid, bobUuid]
  records := []
  primaryKey := List.nodup_nil
  holderKey := List.nodup_nil

/-- A user asks for a credential for the key of the sample proof. -/
def issueTo (userID fresh : Uuid) : Issue where
  userID
  publicKeyX := gateRequest.publicKeyX
  publicKeyY := gateRequest.publicKeyY
  fresh
  sign _ := (fromHex issuedSignature).getD []

def revokeOwn (id userID : Uuid) : Revocation where
  credentialID := id.text
  reason := "manual_revocation"
  userID
  role := "TRADER"

def afterIssue : Registry := (alone (issueCredential devPlatform (issueTo aliceUuid holderUuid)) newRegistry).2

def afterRevocation : Registry := (alone (revokeCredential (revokeOwn holderUuid aliceUuid)) afterIssue).2

end Samples

end Pxtly.Zkp
