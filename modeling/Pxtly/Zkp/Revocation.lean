/-
This file gives which verifications are refused because of a revocation.
-/

import Pxtly.Zkp.Issuance
import Pxtly.Zkp.Verdicts

namespace Pxtly.Zkp

open Foundation Foundation.Database
open Assets (Uuid)

inductive Call where
  | issue (call : Issue)
  | revoke (call : Revocation)
  | verify (request : ProofRequest) (nullifierID : Uuid)

inductive Answer where
  | issued (row : ZKPCredential)
  | revoked (id : Uuid)
  | verified (verdict : Bool × Reason)

section Calls

variable (platform : Platform)

def Call.program : Call → RegistryService Answer
  | .issue call => do return .issued (← issueCredential platform call)
  | .revoke call => do return .revoked (← revokeCredential call)
  | .verify request nullifierID => do
      return .verified (← (Registry.verification.translate (verifyProof platform request nullifierID)).mapFault
        .verification)

abbrev Turn := Database.Turn Registry.database Call RegistryFault Answer

abbrev Run : Registry → List Turn → Registry → Prop := Serial Registry.Drifts (Call.program platform)

end Calls

section Effects

/-- A revocation is refused, or it marks the row that it names. -/
theorem revokeCredential_cases (call : Revocation) (registry : Registry) :
    (∃ fault, alone (revokeCredential call) registry = (.error fault, registry)) ∨
    ∃ row ∈ registry.credentials, Uuid.read call.credentialID = some row.id ∧ call.mayRevoke row = true ∧
      alone (revokeCredential call) registry =
        (.ok row.id, registry.apply (.revoke row.id registry.clock call.reason)) := by
  rw [alone, revokeCredential]
  cases read : Uuid.read call.credentialID with
  | none => exact .inl ⟨.valueError, rfl⟩
  | some id =>
      simp only []
      rw [evaluate_fetchIn, Registry.answer]
      cases found : registry.tables.credentials.find? fun row => row.id = id with
      | none => exact .inl ⟨.notFound, rfl⟩
      | some row =>
          have same : row.id = id := by simpa using List.find?_some found
          subst same
          cases permitted : call.mayRevoke row with
          | false =>
              left
              simp only [permitted, Bool.false_eq_true, if_false]
              exact ⟨.notAuthorised, rfl⟩
          | true =>
              right
              refine ⟨row, List.mem_of_find?_eq_some found, rfl, permitted, ?_⟩
              simp only [permitted, if_true]
              rfl

/-- A revocation of a stored row by a caller who may revoke it succeeds. -/
theorem revokeCredential_of_permitted {call : Revocation} {registry : Registry} {row : ZKPCredential}
    (stored : row ∈ registry.credentials) (named : Uuid.read call.credentialID = some row.id)
    (permitted : call.mayRevoke row = true) : (alone (revokeCredential call) registry).1 = .ok row.id := by
  rw [alone, revokeCredential, named]
  simp only
  rw [evaluate_fetchIn, Registry.answer]
  cases found : registry.tables.credentials.find? fun other => other.id = row.id with
  | none =>
      have absent := List.find?_eq_none.mp found row stored
      simp at absent
  | some other =>
      have same : other.id = row.id := by simpa using List.find?_some found
      obtain rfl := registry.eq_of_id (List.mem_of_find?_eq_some found) stored same
      simp only [permitted, if_true]
      rfl

/-- The call has revoked the credential. -/
def Revokes (id : Uuid) (outcome : Except RegistryFault Answer) : Prop := outcome = .ok (.revoked id)

/-- These are the changes that a call can make. -/
inductive Effect (platform : Platform) (registry : Registry) :
    Call → Except RegistryFault Answer → Registry → Prop where
  | unchanged (call : Call) (outcome : Except RegistryFault Answer) (kept : ∀ id, ¬ Revokes id outcome) :
      Effect platform registry call outcome registry
  | issued (call : Issue) (fresh : registry.Fresh (registry.newRow platform call)) :
      Effect platform registry (.issue call) (.ok (.issued (registry.newRow platform call)))
        (registry.apply (.insertCredential (registry.newRow platform call)))
  | revoked (call : Revocation) (row : ZKPCredential) (stored : row ∈ registry.credentials)
      (named : Uuid.read call.credentialID = some row.id) (permitted : call.mayRevoke row = true) :
      Effect platform registry (.revoke call) (.ok (.revoked row.id))
        (registry.apply (.revoke row.id registry.clock call.reason))
  | verified (request : ProofRequest) (nullifierID : Uuid) (outcome : Except RegistryFault Answer) (next : Registry)
      (kept : ∀ id, ¬ Revokes id outcome) (clock : next.clock = registry.clock)
      (credentials : next.credentials = registry.credentials) :
      Effect platform registry (.verify request nullifierID) outcome next

variable {platform : Platform}

theorem clock_apply (tables : Tables) (write : Write) : (tables.apply write).clock = tables.clock := by
  cases write with
  | insertNullifier row => exact (apply_keeps row).1

theorem effect_of_alone (call : Call) (registry : Registry) :
    Effect platform registry call (alone (call.program platform) registry).1
      (alone (call.program platform) registry).2 := by
  cases call with
  | issue call =>
      rw [Call.program, alone_map]
      rcases issueCredential_cases registry platform call with ⟨row, _, returned⟩ | ⟨_, registered⟩
      · rw [returned]
        exact .unchanged _ _ nofun
      · rw [registered]
        by_cases fresh : registry.Fresh (registry.newRow platform call)
        · rw [if_pos fresh]
          exact .issued call fresh
        · rw [if_neg fresh]
          exact .unchanged _ _ nofun
  | revoke call =>
      rw [Call.program, alone_map]
      rcases revokeCredential_cases call registry with ⟨fault, refused⟩ | ⟨row, stored, named, permitted, done⟩
      · rw [refused]
        exact .unchanged _ _ nofun
      · rw [done]
        exact .revoked call row stored named permitted
  | verify request nullifierID =>
      rw [Call.program, alone_map, alone_mapFault]
      have kept := Registry.verification.alone_keeps
        (fun later => later.clock = registry.clock ∧ later.credentials = registry.credentials)
        (fun tables write holds => ⟨(clock_apply _ write).trans holds.1,
          (Registry.credentials_apply _ write).trans holds.2⟩)
        (verifyProof platform request nullifierID) ⟨rfl, rfl⟩
      refine .verified request nullifierID _ _ (fun id revokes => ?_) kept.1 kept.2
      generalize (alone (Registry.verification.translate (verifyProof platform request nullifierID)) registry).1 =
        outcome at revokes
      cases outcome with
      | error fault => cases revokes
      | ok verdict => cases revokes

theorem effect_of_leads {call : Call} {registry next : Registry} {outcome : Except RegistryFault Answer}
    (leads : Leads (Call.program platform) call registry outcome next) :
    Effect platform registry call outcome next := by
  match leads with
  | .serve => exact effect_of_alone call registry
  | .fail fault => exact .unchanged call _ nofun

end Effects

section Histories

variable {platform : Platform} {registry next : Registry}

/-- The rows after a revocation are the rows before it, and only the named one has changed. -/
theorem mem_credentials_revoke {id : Uuid} {revokedAt : Instant} {reason : String} {row : ZKPCredential} :
    row ∈ (registry.apply (.revoke id revokedAt reason)).credentials ↔
      ∃ old ∈ registry.credentials, Registry.revokeRow id revokedAt reason old = row := by
  exact List.mem_map

/-- The credential with this key is stored as revoked. -/
def Registry.Revoked (registry : Registry) (id : Uuid) : Prop :=
  ∃ row ∈ registry.credentials, row.id = id ∧ row.revoked = true

theorem Registry.revoked_iff {row : ZKPCredential} (stored : row ∈ registry.credentials) :
    registry.Revoked row.id ↔ row.revoked = true := by
  constructor
  · intro ⟨other, otherStored, same, revoked⟩
    obtain rfl := registry.eq_of_id otherStored stored same
    exact revoked
  · exact fun revoked => ⟨row, stored, rfl, revoked⟩

theorem revoked_apply_revoke {row : ZKPCredential} (stored : row ∈ registry.credentials) (id : Uuid)
    (revokedAt : Instant) (reason : String) :
    (registry.apply (.revoke row.id revokedAt reason)).Revoked id ↔ row.id = id ∨ registry.Revoked id := by
  constructor
  · intro ⟨changed, changedStored, same, revoked⟩
    obtain ⟨old, oldStored, rfl⟩ := mem_credentials_revoke.mp changedStored
    rw [Registry.revokeRow_id] at same
    by_cases named : old.id = row.id
    · exact .inl (named.symm.trans same)
    · rw [Registry.revokeRow, if_neg named] at revoked
      exact .inr ⟨old, oldStored, same, revoked⟩
  · rintro (rfl | ⟨old, oldStored, same, revoked⟩)
    · exact ⟨_, mem_credentials_revoke.mpr ⟨row, stored, rfl⟩, by simp, by simp [Registry.revokeRow]⟩
    · refine ⟨_, mem_credentials_revoke.mpr ⟨old, oldStored, rfl⟩, by simpa using same, ?_⟩
      unfold Registry.revokeRow
      split
      · rfl
      · exact revoked

/-- A call makes no other credential revoked than the one that it revokes. -/
theorem revoked_of_effect {call : Call} {outcome : Except RegistryFault Answer}
    (effect : Effect platform registry call outcome next) (id : Uuid) :
    next.Revoked id ↔ Revokes id outcome ∨ registry.Revoked id := by
  match effect with
  | .unchanged _ _ kept => exact (or_iff_right (kept id)).symm
  | .issued call fresh =>
      unfold Registry.Revoked
      rw [Registry.credentials_insert fresh, or_iff_right (by unfold Revokes; simp)]
      constructor
      · intro ⟨row, stored, same, revoked⟩
        rcases List.mem_append.mp stored with stored | new
        · exact ⟨row, stored, same, revoked⟩
        · obtain rfl := List.mem_singleton.mp new
          cases revoked
      · exact fun ⟨row, stored, holds⟩ => ⟨row, List.mem_append_left _ stored, holds⟩
  | .revoked call row stored named permitted =>
      rw [revoked_apply_revoke stored]
      unfold Revokes
      simp
  | .verified _ _ _ _ kept _ credentials =>
      rw [or_iff_right (kept id), Registry.Revoked, credentials]
      rfl

/-- A credential is revoked after a run when some call of the run has revoked it. -/
theorem revoked_of_run {start final : Registry} {turns : List Turn} (run : Run platform start turns final)
    (id : Uuid) : final.Revoked id ↔ (∃ turn ∈ turns, Revokes id turn.outcome) ∨ start.Revoked id := by
  refine run.holds_iff (fun registry => registry.Revoked id) (Revokes id) ?_ ?_
  · intro registry drifted drift
    obtain ⟨clock, users, records, _, _, rfl⟩ := drift
    rfl
  · exact fun call registry outcome next leads => revoked_of_effect (effect_of_leads leads) id

end Histories

section Coherence

variable {platform : Platform} {registry next : Registry}

/-- The revocation of a credential strikes every unexpired credential of its abscissa. -/
def Registry.Coherent (registry : Registry) : Prop :=
  ∀ row ∈ registry.credentials, ∀ other ∈ registry.credentials, other.publicKeyX = row.publicKeyX →
    other.revoked = true → ¬ row.expiresAt < registry.clock → row.revoked = true

/-- A new credential meets no revoked one of its abscissa, and a revocation leaves no usable one of it. -/
def Guard (registry : Registry) : Call → Prop
  | .issue call => registry.Registers call → ∀ row ∈ registry.credentials, row.publicKeyX = call.publicKeyX →
      row.revoked = false
  | .revoke call => ∀ row ∈ registry.credentials, Uuid.read call.credentialID = some row.id →
      call.mayRevoke row = true → ∀ other ∈ registry.credentials, other.publicKeyX = row.publicKeyX →
        other.id ≠ row.id → other.revoked = true ∨ other.expiresAt < registry.clock
  | .verify _ _ => True

/-- A later clock and other users leave fewer credentials to be struck. -/
theorem coherent_of_drifts (drifts : Registry.Drifts registry next) (coherent : registry.Coherent) : next.Coherent := by
  obtain ⟨clock, users, records, later, _, rfl⟩ := drifts
  intro row stored other otherStored same revoked unexpired
  have earlier : ¬ row.expiresAt < registry.clock := fun expired => unexpired (Int.lt_of_lt_of_le expired later)
  exact coherent row stored other otherStored same revoked earlier

theorem coherent_insert {row : ZKPCredential} (fresh : registry.Fresh row) (unrevoked : row.revoked = false)
    (alone : ∀ other ∈ registry.credentials, other.publicKeyX = row.publicKeyX → other.revoked = false)
    (coherent : registry.Coherent) : (registry.apply (.insertCredential row)).Coherent := by
  have clock : (registry.apply (.insertCredential row)).clock = registry.clock := by
    rw [Registry.apply, dif_pos fresh]
  intro first firstStored second secondStored same revoked unexpired
  rw [clock] at unexpired
  rw [Registry.credentials_insert fresh, List.mem_append, List.mem_singleton] at firstStored secondStored
  rcases secondStored with secondStored | rfl
  · rcases firstStored with firstStored | rfl
    · exact coherent first firstStored second secondStored same revoked unexpired
    · have contrary := alone second secondStored same
      rw [revoked] at contrary
      cases contrary
  · rw [unrevoked] at revoked
    cases revoked

theorem coherent_revoke {row : ZKPCredential} (revokedAt : Instant) (reason : String)
    (struck : ∀ other ∈ registry.credentials, other.publicKeyX = row.publicKeyX → other.id ≠ row.id →
      other.revoked = true ∨ other.expiresAt < registry.clock)
    (stored : row ∈ registry.credentials) (coherent : registry.Coherent) :
    (registry.apply (.revoke row.id revokedAt reason)).Coherent := by
  intro first firstStored second secondStored same revoked unexpired
  obtain ⟨first, firstOld, rfl⟩ := mem_credentials_revoke.mp firstStored
  obtain ⟨second, secondOld, rfl⟩ := mem_credentials_revoke.mp secondStored
  by_cases firstNamed : first.id = row.id
  · simp [Registry.revokeRow, firstNamed]
  · by_cases secondNamed : second.id = row.id
    · obtain rfl := registry.eq_of_id secondOld stored secondNamed
      simp only [Registry.revokeRow, firstNamed, if_true, if_false] at same unexpired ⊢
      rcases struck first firstOld same.symm firstNamed with struck | expired
      · exact struck
      · exact absurd expired unexpired
    · simp only [Registry.revokeRow, firstNamed, secondNamed, if_false] at same revoked unexpired ⊢
      exact coherent first firstOld second secondOld same revoked unexpired

/-- A guarded call keeps the registry coherent. -/
theorem coherent_of_effect {call : Call} {outcome : Except RegistryFault Answer}
    (effect : Effect platform registry call outcome next) (guarded : Guard registry call)
    (coherent : registry.Coherent) : next.Coherent := by
  match effect with
  | .unchanged _ _ _ => exact coherent
  | .issued call fresh => exact coherent_insert fresh rfl (guarded (fresh_newRow.mp fresh)) coherent
  | .revoked call row stored named permitted =>
      exact coherent_revoke _ _ (guarded row stored named permitted) stored coherent
  | .verified _ _ _ _ _ clock credentials =>
      unfold Registry.Coherent
      rw [clock, credentials]
      exact coherent

theorem coherent_of_guarded {start final : Registry} {turns : List Turn} (run : Run platform start turns final)
    (empty : start.credentials = []) (guarded : ∀ turn ∈ turns, Guard turn.tables turn.request) :
    ∀ turn ∈ turns, Registry.Coherent turn.tables := by
  refine (run.keeps Registry.Coherent (fun _ _ => coherent_of_drifts) ?_ ?_).2
  · exact fun turn member next leads => coherent_of_effect (effect_of_leads leads) (guarded turn member)
  · intro row stored
    rw [empty] at stored
    cases stored

end Coherence

section Exactness

variable {platform : Platform}

/-- A presented credential is answered as revoked when an earlier call has revoked just this credential. -/
def Exact (platform : Platform) (earlier : List Turn) (turn : Turn) : Prop :=
  ∀ request nullifierID row verdict, turn.request = .verify request nullifierID → row ∈ turn.tables.credentials →
    Presents platform row request → ¬ row.expiresAt < turn.tables.clock → turn.outcome = .ok (.verified verdict) →
      (verdict = (false, revokedReason) ↔ ∃ other ∈ earlier, Revokes row.id other.outcome)

/-- A revocation changes the outcome of no verification that presents another credential. -/
def Harmless (platform : Platform) (turn : Turn) : Prop :=
  ∀ call next row request nullifierID, turn.request = .revoke call →
    Leads (Call.program platform) turn.request turn.tables turn.outcome next → row ∈ turn.tables.credentials →
      Uuid.read call.credentialID ≠ some row.id → Presents platform row request →
        ¬ row.expiresAt < turn.tables.clock →
          (alone (Call.program platform (.verify request nullifierID)) next).1 =
            (alone (Call.program platform (.verify request nullifierID)) turn.tables).1

/-- A verification is served by its program over the tables of the registry. -/
theorem alone_verify (request : ProofRequest) (nullifierID : Uuid) (registry : Registry) :
    (alone (Call.program platform (.verify request nullifierID)) registry).1 =
      ((alone (verifyProof platform request nullifierID) registry.tables).1.mapError RegistryFault.verification).map
        Answer.verified := by
  rw [Call.program, alone_map, alone_mapFault, (Registry.verification.alone_translate _ registry).1]
  rfl

theorem verified_of_leads {request : ProofRequest} {nullifierID : Uuid} {registry next : Registry}
    {verdict : Bool × Reason}
    (leads : Leads (Call.program platform) (.verify request nullifierID) registry (.ok (.verified verdict)) next) :
    (alone (verifyProof platform request nullifierID) registry.tables).1 = .ok verdict := by
  generalize outcome : Except.ok (Answer.verified verdict) = answered at leads
  match leads with
  | .fail fault => cases outcome
  | .serve =>
      rw [alone_verify] at outcome
      generalize (alone (verifyProof platform request nullifierID) registry.tables).1 = served at outcome ⊢
      cases served with
      | error fault => cases outcome
      | ok other =>
          cases outcome
          rfl

theorem verify_struck {request : ProofRequest} (nullifierID : Uuid) {registry : Registry} {row : ZKPCredential}
    (presents : Presents platform row request) (unexpired : ¬ row.expiresAt < registry.clock)
    (struck : registry.tables.Strikes row.publicKeyX) :
    (alone (Call.program platform (.verify request nullifierID)) registry).1 =
      .ok (.verified (false, revokedReason)) := by
  rw [alone_verify, (verdict_presented presents nullifierID unexpired).mpr struck]
  rfl

/-- In a coherent registry an unexpired credential is struck when it is revoked itself. -/
theorem strikes_iff {registry : Registry} (coherent : registry.Coherent) {row : ZKPCredential}
    (stored : row ∈ registry.credentials) (unexpired : ¬ row.expiresAt < registry.clock) :
    registry.tables.Strikes row.publicKeyX ↔ row.revoked = true := by
  constructor
  · exact fun ⟨other, otherStored, same, revoked⟩ => coherent row stored other otherStored same revoked unexpired
  · exact fun revoked => ⟨row, stored, rfl, revoked⟩

theorem exact_of_coherent {earlier : List Turn} {turn : Turn} (coherent : Registry.Coherent turn.tables)
    (history : ∀ id, Registry.Revoked turn.tables id ↔ ∃ other ∈ earlier, Revokes id other.outcome)
    (leads : ∃ next, Leads (Call.program platform) turn.request turn.tables turn.outcome next) :
    Exact platform earlier turn := by
  obtain ⟨call, registry, outcome⟩ := turn
  rintro request nullifierID row verdict rfl stored presents unexpired rfl
  obtain ⟨next, leads⟩ := leads
  have served := verified_of_leads leads
  have struck := verdict_presented presents nullifierID unexpired
  rw [served, strikes_iff coherent stored unexpired, ← Registry.revoked_iff stored, history] at struck
  rw [← struck]
  simp

/-- A guarded revocation strikes no unexpired credential that was not struck before, apart from the named one. -/
theorem strikes_revoke {registry : Registry} {row named : ZKPCredential} (stored : row ∈ registry.credentials)
    (namedStored : named ∈ registry.credentials) (other : row.id ≠ named.id)
    (unexpired : ¬ row.expiresAt < registry.clock)
    (struck : ∀ other ∈ registry.credentials, other.publicKeyX = named.publicKeyX → other.id ≠ named.id →
      other.revoked = true ∨ other.expiresAt < registry.clock) (revokedAt : Instant) (reason : String) :
    (registry.apply (.revoke named.id revokedAt reason)).tables.Strikes row.publicKeyX ↔
      registry.tables.Strikes row.publicKeyX := by
  constructor
  · intro ⟨changed, changedStored, same, revoked⟩
    obtain ⟨old, oldStored, rfl⟩ := mem_credentials_revoke.mp changedStored
    by_cases isNamed : old.id = named.id
    · obtain rfl := registry.eq_of_id oldStored namedStored isNamed
      rw [Registry.revokeRow, if_pos rfl] at same
      have already := (struck row stored same.symm other).resolve_right unexpired
      exact ⟨row, stored, rfl, already⟩
    · rw [Registry.revokeRow, if_neg isNamed] at same revoked
      exact ⟨old, oldStored, same, revoked⟩
  · intro ⟨old, oldStored, same, revoked⟩
    refine ⟨_, mem_credentials_revoke.mpr ⟨old, oldStored, rfl⟩, ?_⟩
    unfold Registry.revokeRow
    split
    · exact ⟨same, rfl⟩
    · exact ⟨same, revoked⟩

theorem harmless_of_guard {turn : Turn} (guarded : Guard turn.tables turn.request) : Harmless platform turn := by
  obtain ⟨request, registry, outcome⟩ := turn
  rintro call next row request nullifierID rfl leads stored other presents unexpired
  rw [alone_verify, alone_verify]
  match effect_of_leads leads with
  | .unchanged _ _ _ => rfl
  | .revoked _ named namedStored read permitted =>
      have different : row.id ≠ named.id := fun same => other (same ▸ read)
      have struck := strikes_revoke stored namedStored different unexpired
        (guarded named namedStored read permitted) registry.clock call.reason
      rw [← verdict_of_same presents nullifierID unexpired struck rfl rfl]

/-- In a guarded run the answer about a revocation is about the presented credential alone. -/
theorem revocation_exact_of_guarded {start final : Registry} {turns : List Turn}
    (run : Run platform start turns final) (empty : start.credentials = [])
    (guarded : ∀ turn ∈ turns, Guard turn.tables turn.request) :
    ∀ earlier turn later, turns = earlier ++ turn :: later →
      Exact platform earlier turn ∧ Harmless platform turn := by
  intro earlier turn later split
  have member : turn ∈ turns := by simp [split]
  have coherent := coherent_of_guarded run empty guarded turn member
  have leads := run.leads turn member
  rw [split] at run
  obtain ⟨middle, before, drift⟩ := run.before
  have history (id : Uuid) : Registry.Revoked turn.tables id ↔ ∃ other ∈ earlier, Revokes id other.outcome := by
    have unrevoked : ¬ start.Revoked id := by simp [Registry.Revoked, empty]
    obtain ⟨clock, users, records, _, _, same⟩ := drift
    rw [same]
    exact (revoked_of_run before id).trans (or_iff_left unrevoked)
  exact ⟨exact_of_coherent coherent history leads, harmless_of_guard (guarded turn member)⟩

end Exactness

section Schedules

variable (platform : Platform)

/-- Calls are served one after the other while the clock stands still. -/
def serve : Registry → List Call → List Turn × Registry
  | registry, [] => ([], registry)
  | registry, call :: rest =>
      let served := alone (call.program platform) registry
      let later := serve served.2 rest
      (⟨call, registry, served.1⟩ :: later.1, later.2)

theorem run_serve (registry : Registry) (calls : List Call) :
    Run platform registry (serve platform registry calls).1 (serve platform registry calls).2 := by
  induction calls generalizing registry with
  | nil => exact .nil
  | cons call rest inductionHypothesis =>
      exact .turn call _ ⟨_, _, _, le_rfl, List.Subset.refl _, rfl⟩ .serve (inductionHypothesis _)

/-- The last call meets what the calls before it have left behind. -/
theorem serve_last (registry : Registry) (earlier : List Call) (call : Call) :
    ∃ turn, (serve platform registry (earlier ++ [call])).1 = (serve platform registry earlier).1 ++ turn :: [] ∧
      turn.request = call ∧ turn.tables = (serve platform registry earlier).2 ∧
      turn.outcome = (alone (call.program platform) (serve platform registry earlier).2).1 := by
  induction earlier generalizing registry with
  | nil => exact ⟨_, rfl, rfl, rfl, rfl⟩
  | cons first earlier inductionHypothesis =>
      obtain ⟨turn, turns, served⟩ := inductionHypothesis (alone (first.program platform) registry).2
      exact ⟨turn, congrArg (List.cons _) turns, served⟩

instance (registry : Registry) (call : Issue) : Decidable (registry.Registers call) :=
  inferInstanceAs (Decidable (_ ∧ _))

instance (registry : Registry) : DecidablePred (Guard registry)
  | .issue _ => inferInstanceAs (Decidable (_ → _))
  | .revoke _ => inferInstanceAs (Decidable (∀ row ∈ _, _))
  | .verify _ _ => inferInstanceAs (Decidable True)

instance (registry : Registry) (id : Uuid) : Decidable (registry.Revoked id) :=
  inferInstanceAs (Decidable (∃ row ∈ _, _))

/-- The two users have registered one abscissa. -/
def aliceRow : ZKPCredential := newRegistry.newRow devPlatform (issueTo aliceUuid holderUuid)
def bobRow : ZKPCredential := newRegistry.newRow devPlatform (issueTo bobUuid thiefUuid)

def present (row : ZKPCredential) : ProofRequest := { gateRequest with credentialClaim := row.claim }

theorem presents_row {row : ZKPCredential} (publicKeyX : row.publicKeyX = gateRequest.publicKeyX)
    (publicKeyY : row.publicKeyY = gateRequest.publicKeyY) (expiresAt : row.expiresAt = 1775001600000000) :
    Presents devPlatform row (present row) where
  claim := rfl
  publicKeyX := publicKeyX.symm
  publicKeyY := publicKeyY.symm
  signed := dev_signed _
  expiry := by
    have text : isoformat 1775001600000000 = "2026-04-01T00:00:00+00:00" := by decide +kernel
    rw [expiresAt, text]
    rfl

def aliceRevokes : List Call := [.issue (issueTo aliceUuid holderUuid), .revoke (revokeOwn holderUuid aliceUuid)]

def alicePresents : List Call := aliceRevokes ++ [.verify (present aliceRow) holderUuid]

/-- Alice revokes her only credential, and its next verification is refused. -/
theorem alice_revocation_exact :
    (∃ turn ∈ (serve devPlatform newRegistry alicePresents).1,
      turn.outcome = .ok (.verified (false, revokedReason))) ∧
    ∀ earlier turn later, (serve devPlatform newRegistry alicePresents).1 = earlier ++ turn :: later →
      Exact devPlatform earlier turn ∧ Harmless devPlatform turn := by
  constructor
  · have struck : (serve devPlatform newRegistry aliceRevokes).2.tables.Strikes aliceRow.publicKeyX :=
      ⟨_, List.mem_of_getElem? (i := 0) rfl, rfl, rfl⟩
    have answered := verify_struck holderUuid (presents_row rfl rfl (by decide +kernel) : Presents _ aliceRow _)
      (by decide +kernel : ¬ aliceRow.expiresAt < (serve devPlatform newRegistry aliceRevokes).2.clock) struck
    obtain ⟨turn, turns, _, _, outcome⟩ :=
      serve_last devPlatform newRegistry aliceRevokes (.verify (present aliceRow) holderUuid)
    rw [alicePresents, turns]
    exact ⟨turn, List.mem_append_right _ List.mem_cons_self, outcome.trans answered⟩
  · have guarded : ∀ turn ∈ (serve devPlatform newRegistry alicePresents).1, Guard turn.tables turn.request := by
      decide +kernel
    have run := run_serve devPlatform newRegistry alicePresents
    exact revocation_exact_of_guarded run rfl guarded

def bobLoses : List Call :=
  [.issue (issueTo aliceUuid holderUuid), .issue (issueTo bobUuid thiefUuid),
    .revoke (revokeOwn holderUuid aliceUuid)]

/-- Bob has a credential for the abscissa of Alice; she revokes hers, and his is refused. -/
theorem bob_refused_after_alice_revokes :
    ∃ turns final, Run devPlatform newRegistry turns final ∧
      ¬ ∀ earlier turn later, turns = earlier ++ turn :: later →
        Exact devPlatform earlier turn ∧ Harmless devPlatform turn := by
  refine ⟨_, _, run_serve devPlatform newRegistry (bobLoses ++ [.verify (present bobRow) thiefUuid]), fun both => ?_⟩
  have presents : Presents devPlatform bobRow (present bobRow) := presents_row rfl rfl (by decide +kernel)
  have unexpired : ¬ bobRow.expiresAt < (serve devPlatform newRegistry bobLoses).2.clock := by decide +kernel
  have struck : (serve devPlatform newRegistry bobLoses).2.tables.Strikes bobRow.publicKeyX :=
    ⟨_, List.mem_of_getElem? (i := 0) rfl, rfl, rfl⟩
  have answered := verify_struck thiefUuid presents unexpired struck
  have stored : bobRow ∈ (serve devPlatform newRegistry bobLoses).2.credentials := List.mem_of_getElem? (i := 1) rfl
  obtain ⟨turn, turns, request, tables, outcome⟩ :=
    serve_last devPlatform newRegistry bobLoses (.verify (present bobRow) thiefUuid)
  have refused := (both _ turn [] turns).1 _ _ bobRow _ request (tables ▸ stored) presents (tables ▸ unexpired)
    (outcome.trans answered)
  obtain ⟨other, member, revokes⟩ := refused.mp rfl
  have revoked := (revoked_of_run (run_serve devPlatform newRegistry bobLoses) bobRow.id).mpr
    (.inl ⟨other, member, revokes⟩)
  exact absurd revoked (by decide +kernel)

end Schedules

end Pxtly.Zkp
