/-
This file gives when the credentials that the issuer returns attest no more than their holders can claim.
-/

import Pxtly.Zkp.Revocation

namespace Pxtly.Zkp

open Foundation Foundation.Database
open Assets (Uuid)
open Compliance (ComplianceRecord)

section Standing

/-- The second standing attests everything that the first one attests. -/
structure Eligibility.Within (claimed granted : Eligibility) : Prop where
  ageOk : claimed.ageOk = true → granted.ageOk = true
  kycOk : claimed.kycOk = true → granted.kycOk = true
  notSanctioned : claimed.notSanctioned = true → granted.notSanctioned = true
  kycLevel : claimed.kycLevel ≤ granted.kycLevel

theorem Eligibility.Within.refl (eligibility : Eligibility) : eligibility.Within eligibility := ⟨id, id, id, le_rfl⟩

theorem Eligibility.Within.trans {first second third : Eligibility} (lower : first.Within second)
    (upper : second.Within third) : first.Within third where
  ageOk := fun claimed => upper.ageOk (lower.ageOk claimed)
  kycOk := fun claimed => upper.kycOk (lower.kycOk claimed)
  notSanctioned := fun claimed => upper.notSanctioned (lower.notSanctioned claimed)
  kycLevel := lower.kycLevel.trans upper.kycLevel

def ZKPCredential.attests (row : ZKPCredential) : Eligibility where
  ageOk := row.ageOk
  kycOk := row.kycOk
  notSanctioned := row.notSanctioned
  kycLevel := row.kycLevel

/-- The row attests what the issuer would attest now, and it has the ordinate that the call names. -/
def Registry.Grants (registry : Registry) (call : Issue) (row : ZKPCredential) : Prop :=
  row.attests.Within (registry.eligibility call.userID) ∧ row.publicKeyY = call.publicKeyY

/-- The credential that the issuer would return again may still be granted. -/
def Registry.Current (registry : Registry) (call : Issue) : Prop :=
  ∀ row, registry.Active call.userID call.publicKeyX row → registry.Grants call row

end Standing

section Calls

variable {platform : Platform} {registry next : Registry}

theorem grants_newRow (registry : Registry) (platform : Platform) (call : Issue) :
    registry.Grants call (registry.newRow platform call) :=
  ⟨Eligibility.Within.refl _, rfl⟩

/-- An active credential is returned by every call for it. -/
theorem issueCredential_of_active {call : Issue} {row : ZKPCredential}
    (active : registry.Active call.userID call.publicKeyX row) :
    alone (issueCredential platform call) registry = (.ok row, registry) := by
  rcases issueCredential_cases registry platform call with ⟨other, otherActive, returned⟩ | ⟨inactive, _⟩
  · have same := registry.eq_of_holder otherActive.stored active.stored (otherActive.holder.trans active.holder.symm)
    rw [returned, same]
  · exact absurd active (inactive row)

/-- A call returns a credential that may be granted exactly when the stored one is current. -/
theorem issueCredential_grants_iff (platform : Platform) (call : Issue) (registry : Registry) :
    (∀ row, (alone (issueCredential platform call) registry).1 = .ok row → registry.Grants call row) ↔
      registry.Current call := by
  constructor
  · intro granted row active
    apply granted
    rw [issueCredential_of_active active]
  · intro current row returned
    rcases issueCredential_cases registry platform call with ⟨other, active, again⟩ | ⟨_, registered⟩
    · rw [again] at returned
      cases returned
      exact current row active
    · rw [registered] at returned
      by_cases fresh : registry.Fresh (registry.newRow platform call)
      · rw [if_pos fresh] at returned
        cases returned
        exact grants_newRow registry platform call
      · rw [if_neg fresh] at returned
        cases returned

/-- No call changes the compliance records. -/
theorem records_of_alone (call : Call) (registry : Registry) :
    (alone (call.program platform) registry).2.records = registry.records := by
  cases call with
  | issue call =>
      rw [Call.program, alone_map]
      rcases issueCredential_cases registry platform call with ⟨row, _, returned⟩ | ⟨_, registered⟩
      · rw [returned]
      · rw [registered]
        by_cases fresh : registry.Fresh (registry.newRow platform call)
        · rw [if_pos fresh, Registry.apply, dif_pos fresh]
        · rw [if_neg fresh]
  | revoke call =>
      rw [Call.program, alone_map]
      rcases revokeCredential_cases call registry with ⟨fault, refused⟩ | ⟨row, _, _, _, done⟩
      · rw [refused]
      · rw [done]
        rfl
  | verify request nullifierID =>
      rw [Call.program, alone_map, alone_mapFault]
      exact Registry.verification.alone_keeps (fun later => later.records = registry.records)
        (fun tables write holds => holds) (verifyProof platform request nullifierID) rfl

theorem clock_of_effect {call : Call} {outcome : Except RegistryFault Answer}
    (effect : Effect platform registry call outcome next) : next.clock = registry.clock := by
  match effect with
  | .unchanged _ _ _ => rfl
  | .issued call fresh => rw [Registry.apply, dif_pos fresh]
  | .revoked _ _ _ _ _ => rfl
  | .verified _ _ _ _ _ clock _ => exact clock

/-- No call changes what a user is eligible for. -/
theorem eligibility_of_leads {call : Call} {outcome : Except RegistryFault Answer}
    (leads : Leads (Call.program platform) call registry outcome next) (userID : Uuid) :
    next.eligibility userID = registry.eligibility userID := by
  have clock := clock_of_effect (effect_of_leads leads)
  have records : next.records = registry.records := by
    match leads with
    | .serve => exact records_of_alone call registry
    | .fail fault => rfl
  rw [Registry.eligibility, Registry.eligibility, clock, records]

end Calls

section Histories

variable {platform : Platform}

/-- The credential that the turn returned may be granted when it is returned. -/
def Truthful (turn : Turn) : Prop :=
  ∀ call row, turn.request = .issue call → turn.outcome = .ok (.issued row) → Registry.Grants turn.tables call row

/-- The database answers the call of the turn. -/
def Answered (platform : Platform) (turn : Turn) : Prop :=
  turn.outcome = (alone (turn.request.program platform) turn.tables).1

theorem alone_issue (call : Issue) (registry : Registry) :
    (alone (Call.program platform (.issue call)) registry).1 =
      (alone (issueCredential platform call) registry).1.map .issued := by
  rw [Call.program, alone_map]

theorem answered_of_leads {call : Call} {registry next : Registry} {outcome : Except RegistryFault Answer}
    {answer : Answer} (leads : Leads (Call.program platform) call registry outcome next)
    (returned : outcome = .ok answer) : outcome = (alone (call.program platform) registry).1 := by
  match leads with
  | .serve => rfl
  | .fail fault => cases returned

/-- A call that meets a current credential or none returns one that may be granted. -/
theorem truthful_of_leads {turn : Turn} {next : Registry}
    (leads : Leads (Call.program platform) turn.request turn.tables turn.outcome next) {call : Issue}
    (current : Registry.Current turn.tables call) {row : ZKPCredential} (request : turn.request = .issue call)
    (returned : turn.outcome = .ok (.issued row)) : Registry.Grants turn.tables call row := by
  apply (issueCredential_grants_iff platform call turn.tables).mpr current
  have answered := answered_of_leads leads returned
  rw [request, alone_issue, returned] at answered
  generalize (alone (issueCredential platform call) turn.tables).1 = outcome at answered
  cases outcome with
  | error fault => cases answered
  | ok other =>
      cases answered
      rfl

/-- The returned credentials of a history attest no more than the standing of their holders exactly when every call
that is answered meets a current credential or none. -/
theorem truthful_iff {start final : Registry} {turns : List Turn} (run : Run platform start turns final) :
    (∀ turn ∈ turns, Truthful turn) ↔
      ∀ turn ∈ turns, ∀ call, turn.request = .issue call → Answered platform turn →
        Registry.Current turn.tables call := by
  constructor
  · intro truthful turn member call request answered
    rw [← issueCredential_grants_iff platform]
    intro row returned
    refine truthful turn member call row request ?_
    rw [answered, request, alone_issue, returned]
    rfl
  · intro current turn member call row request returned
    obtain ⟨next, leads⟩ := run.leads turn member
    have answered := answered_of_leads leads returned
    exact truthful_of_leads leads (current turn member call request answered) request returned

/-- Between two calls no user loses a standing. -/
def Improves (registry drifted : Registry) : Prop :=
  Registry.Drifts registry drifted ∧ ∀ userID, (registry.eligibility userID).Within (drifted.eligibility userID)

/-- Every stored row attests no more than its holder can claim, and it has the ordinate that belongs to its key. -/
def Registry.Sound (ordinate : Uuid × String → String) (registry : Registry) : Prop :=
  ∀ row ∈ registry.credentials,
    row.attests.Within (registry.eligibility row.userID) ∧ row.publicKeyY = ordinate row.holder

theorem sound_of_improves {ordinate : Uuid × String → String} {registry drifted : Registry}
    (improves : Improves registry drifted) (sound : registry.Sound ordinate) : drifted.Sound ordinate := by
  obtain ⟨⟨clock, users, records, _, _, same⟩, better⟩ := improves
  intro row stored
  have before : row ∈ registry.credentials := by
    rw [same] at stored
    exact stored
  obtain ⟨within, publicKeyY⟩ := sound row before
  exact ⟨within.trans (better row.userID), publicKeyY⟩

/-- A call for the ordinate of its key keeps the rows sound. -/
theorem sound_of_leads {ordinate : Uuid × String → String} {call : Call} {registry next : Registry}
    {outcome : Except RegistryFault Answer} (leads : Leads (Call.program platform) call registry outcome next)
    (named : ∀ issue, call = .issue issue → issue.publicKeyY = ordinate (issue.userID, issue.publicKeyX))
    (sound : registry.Sound ordinate) : next.Sound ordinate := by
  intro row stored
  rw [eligibility_of_leads leads]
  match effect_of_leads leads with
  | .unchanged _ _ _ => exact sound row stored
  | .issued call fresh =>
      rw [Registry.credentials_insert fresh, List.mem_append, List.mem_singleton] at stored
      rcases stored with stored | rfl
      · exact sound row stored
      · exact ⟨Eligibility.Within.refl _, named call rfl⟩
  | .revoked call revokedRow _ _ _ =>
      obtain ⟨old, oldStored, rfl⟩ := mem_credentials_revoke.mp stored
      have kept := sound old oldStored
      unfold Registry.revokeRow
      split
      · exact kept
      · exact kept
  | .verified _ _ _ _ _ _ credentials =>
      rw [credentials] at stored
      exact sound row stored

/-- In a history in which no standing is ever lost and every key keeps its ordinate, all credentials are truthful. -/
theorem truthful_of_improving {ordinate : Uuid × String → String} {start final : Registry} {turns : List Turn}
    (run : Serial Improves (Call.program platform) start turns final) (empty : start.credentials = [])
    (named : ∀ turn ∈ turns, ∀ issue, turn.request = .issue issue →
      issue.publicKeyY = ordinate (issue.userID, issue.publicKeyX)) : ∀ turn ∈ turns, Truthful turn := by
  have sound : ∀ turn ∈ turns, Registry.Sound ordinate turn.tables := by
    refine (run.keeps (Registry.Sound ordinate) (fun _ _ => sound_of_improves) ?_ ?_).2
    · exact fun turn member next leads => sound_of_leads leads (named turn member)
    · intro row stored
      rw [empty] at stored
      cases stored
  intro turn member call row request returned
  obtain ⟨next, leads⟩ := run.leads turn member
  have current : Registry.Current turn.tables call := by
    intro stored active
    obtain ⟨within, publicKeyY⟩ := sound turn member stored active.stored
    have userID : stored.userID = call.userID := congrArg Prod.fst active.holder
    rw [userID] at within
    rw [active.holder, ← named turn member call request] at publicKeyY
    exact ⟨within, publicKeyY⟩
  exact truthful_of_leads leads current request returned

end Histories

section Samples

/-- Alice has been approved. -/
def approval : ComplianceRecord where
  id := aliceUuid
  participantID := aliceUuid
  kycStatus := "APPROUVE"
  kycLevel := 3
  expiresAt := 4000000000000000
  createdAt := 0

def approved : Registry := { newRegistry with records := [approval] }

def issueToAlice : Issue := issueTo aliceUuid holderUuid

def approvedRow : ZKPCredential := approved.newRow devPlatform issueToAlice

def afterApproval : Registry := (alone (Call.program devPlatform (.issue issueToAlice)) approved).2

/-- A screening finds Alice on a sanctions list. -/
def sanctioned : Registry := { afterApproval with records := [{ approval with sanctionsHit := true }] }

/-- The two calls of Alice, before and after the hit. -/
def aliceTurns : List Turn :=
  [⟨.issue issueToAlice, approved, (alone (Call.program devPlatform (.issue issueToAlice)) approved).1⟩,
    ⟨.issue issueToAlice, sanctioned, (alone (Call.program devPlatform (.issue issueToAlice)) sanctioned).1⟩]

theorem aliceTurns_run : Run devPlatform approved aliceTurns
    (alone (Call.program devPlatform (.issue issueToAlice)) sanctioned).2 :=
  .turn _ _ ⟨_, _, _, le_rfl, List.Subset.refl _, rfl⟩ .serve
    (.turn _ _ ⟨_, _, _, le_rfl, List.Subset.refl _, rfl⟩ .serve .nil)

theorem aliceTurns_truthful_iff : (∀ turn ∈ aliceTurns, Truthful turn) ↔
    ∀ turn ∈ aliceTurns, ∀ call, turn.request = .issue call → Answered devPlatform turn →
      Registry.Current turn.tables call :=
  truthful_iff aliceTurns_run

/-- Alice gets a credential that attests that she is not sanctioned although she is. -/
theorem sanctioned_attested :
    Run devPlatform approved aliceTurns (alone (Call.program devPlatform (.issue issueToAlice)) sanctioned).2 ∧
      ¬ ∀ turn ∈ aliceTurns, Truthful turn := by
  refine ⟨aliceTurns_run, fun truthful => ?_⟩
  have active : sanctioned.Active issueToAlice.userID issueToAlice.publicKeyX approvedRow :=
    ⟨by decide +kernel, by decide +kernel, by decide +kernel, by decide +kernel⟩
  have returned : (alone (Call.program devPlatform (.issue issueToAlice)) sanctioned).1 =
      .ok (.issued approvedRow) := by
    rw [alone_issue, issueCredential_of_active active]
    rfl
  have granted := truthful _ (.tail _ (.head _)) issueToAlice approvedRow rfl returned
  exact absurd (granted.1.notSanctioned (by decide +kernel)) (by decide +kernel)

end Samples

end Pxtly.Zkp
