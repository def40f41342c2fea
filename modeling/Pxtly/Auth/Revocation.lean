/-
This file gives which requests a revoked token still reaches.
-/

import Pxtly.Auth.Logout

namespace Pxtly.Auth

open Foundation Program

/-- A completed logout revokes its own token, and with an erasure it revokes every token of its user. -/
def Action.Revokes (action : Action) (token : Payload) : Prop :=
  action.completed ∧ ∃ presented, action.served = some presented ∧
    ((action.handler = .logout ∧ presented.tokenID ≠ "" ∧ token.tokenID = presented.tokenID) ∨
      (action.handler ≠ .other ∧ presented.subject ≠ "" ∧ token.subject = presented.subject))

def Rewrites (store final : Redis) (key : String) : Prop := final key ≠ store key

/-- A request that failed may have written one of the keys of the token as well. -/
def Revokes (moment : Moment State Action) (next : State) (token : Payload) : Prop :=
  token ∈ moment.state.issued ∧
    (moment.label.Revokes token ∨ Rewrites moment.state.redis next.redis (blacklistKey token.tokenID) ∨
      Rewrites moment.state.redis next.redis (invalidatedKey token.subject))

/-- No handler of either server receives a token after its revocation. -/
def DeadEverywhere (moments : List (Moment State Action)) : Prop :=
  ∀ earlier moment next later, moments = earlier ++ moment :: next :: later → ∀ token,
    Revokes moment next.state token → ∀ other ∈ next :: later, other.label.served ≠ some token

section Writes

variable {now : Int} {store final : Redis} {payload presented : Payload} {outcome : Except RedisFault Unit}

/-- A store that changes under a key has changed there in one of two steps. -/
theorem Rewrites.split {middle : Redis} {key : String} (rewrites : Rewrites store final key) :
    Rewrites store middle key ∨ Rewrites middle final key := by
  by_cases same : middle key = store key
  · right
    intro equal
    exact rewrites (equal.trans same)
  · exact .inl same

/-- A command that rewrites a key is the command for this key, and it has written its value. -/
theorem Rewrites.of_setex {key other : String} {ttl value : Int} (rewrites : Rewrites store final other)
    (reaches : (setex key ttl value).Reaches (RedisResponds now) store outcome final) :
    other = key ∧ final = store.put key value (now + ttl * microsPerSecond) := by
  rcases reaches_setex reaches with rfl | ⟨_, rfl⟩
  · by_cases same : other = key
    · exact ⟨same, rfl⟩
    · exact absurd (Function.update_of_ne same _ _) rewrites
  · exact absurd rfl rewrites

theorem Rewrites.of_blacklist {key jti : String} {ttl : Int} (rewrites : Rewrites store final key)
    (reaches : (blacklist jti ttl).Reaches (RedisResponds now) store outcome final) :
    key = blacklistKey jti ∧ final = store.put (blacklistKey jti) 1 (now + ttl * microsPerSecond) := by
  unfold blacklist at reaches
  split at reaches
  · obtain ⟨_, rfl⟩ := reaches
    exact absurd rfl rewrites
  · exact rewrites.of_setex reaches

theorem Rewrites.of_invalidate {key keycloakSub : String} {ttl mark : Int} (rewrites : Rewrites store final key)
    (reaches : (invalidate keycloakSub ttl mark).Reaches (RedisResponds now) store outcome final) :
    key = invalidatedKey keycloakSub ∧
      final = store.put (invalidatedKey keycloakSub) mark (now + ttl * microsPerSecond) := by
  unfold invalidate at reaches
  split at reaches
  · obtain ⟨_, rfl⟩ := reaches
    exact absurd rfl rewrites
  · exact rewrites.of_setex reaches

/-- A logout that rewrites the first key has blacklisted its own token. -/
theorem blacklisted_of_logout (own : payload.tokenID = presented.tokenID → payload = presented)
    (reaches : (logout presented).Reaches (RedisResponds now) store outcome final)
    (rewrites : Rewrites store final (blacklistKey payload.tokenID)) : Blacklisted final payload := by
  have written {outcome : Except RedisFault Unit} {later : Redis}
      (first : (blacklist presented.tokenID (timeToLive presented now)).Reaches (RedisResponds now) store outcome later)
      (rewrites : Rewrites store later (blacklistKey payload.tokenID)) : Blacklisted later payload := by
    obtain ⟨same, rfl⟩ := rewrites.of_blacklist first
    rw [← same]
    exact Expiring.lasts_put store _ trivial (own_expires own (blacklistKey_inj same))
  rcases reaches_logout reaches with ⟨_, _, first⟩ | ⟨middle, first, second⟩
  · exact written first rewrites
  · rcases rewrites.split with before | after
    · exact blacklisted_of_invalidate second (written first before)
    · exact absurd (after.of_invalidate second).1 (blacklistKey_ne_invalidatedKey _ _)

/-- A logout that rewrites the second key has struck the tokens that it covers. -/
theorem dead_of_logout_mark (own : payload.tokenID = presented.tokenID → payload = presented)
    (covered : payload.subject = presented.subject → Covered store payload presented.issuedAt presented.expires)
    (reaches : (logout presented).Reaches (RedisResponds now) store outcome final)
    (rewrites : Rewrites store final (invalidatedKey payload.subject)) : Dead final payload := by
  have unwritten {outcome : Except RedisFault Unit} {later : Redis}
      (first : (blacklist presented.tokenID (timeToLive presented now)).Reaches (RedisResponds now) store outcome later)
      (rewrites : Rewrites store later (invalidatedKey payload.subject)) : False :=
    blacklistKey_ne_invalidatedKey _ _ (rewrites.of_blacklist first).1.symm
  rcases reaches_logout reaches with ⟨_, _, first⟩ | ⟨middle, first, second⟩
  · exact absurd rewrites (unwritten first)
  · have after := (rewrites.split).resolve_left (unwritten first)
    obtain ⟨same, rfl⟩ := after.of_invalidate second
    have widened := (covered (invalidatedKey_inj same)).widen (expires_le presented now)
      (blacklisted_of_blacklist first (own_expires own))
    rw [← same]
    exact dead_of_put widened

end Writes

section Conditions

variable (keycloak : Keycloak)

/-- A request over REST comes before the token expires, or its token is not valid. -/
def InTime (moment : Moment State Action) (token : Payload) : Prop :=
  ∀ request handler dispatched handled, moment.label = .rest request handler dispatched handled →
    moment.state.clock < token.expires ∨ ∀ text fromCookie, extractToken request = some (text, fromCookie) →
      validateToken keycloak moment.state.clock text ≠ .ok token

/-- The token of a call over gRPC is not valid. -/
def CallRefused (moment : Moment State Action) (token : Payload) : Prop :=
  ∀ metadata handler wrapped handled, moment.label = .call metadata handler wrapped handled →
    ∀ text, Grpc.extractToken metadata = some text → text ≠ "" →
      validateToken keycloak moment.state.clock text ≠ .ok token

def AfterRevocation (condition : Moment State Action → Payload → Prop) (moments : List (Moment State Action)) : Prop :=
  ∀ earlier moment next later, moments = earlier ++ moment :: next :: later → ∀ token,
    Revokes moment next.state token → ∀ other ∈ next :: later, condition other token

end Conditions

section Revocations

variable {keycloak : Keycloak} {state next : State} {action : Action} {token : Payload}

/-- A handler that covers and rewrites a key of a token has struck the token. -/
theorem dead_of_rewrites {handler : Handler} {presented : Payload} {handled : Except RedisFault Unit} {final : Redis}
    (reaches : (handler.program presented).Reaches (RedisResponds state.clock) state.redis handled final)
    (covers : handler.Covers state presented) (known : presented ∈ state.issued) (issued : token ∈ state.issued)
    (unexpired : state.clock < token.expires)
    (rewrites : Rewrites state.redis final (blacklistKey token.tokenID) ∨
      Rewrites state.redis final (invalidatedKey token.subject)) : Dead final token := by
  have own := state.eq_of_tokenID issued known
  cases handler with
  | logout =>
      rcases rewrites with listed | marked
      · exact .inl (blacklisted_of_logout own reaches listed)
      · exact dead_of_logout_mark own (fun same => covers token issued same unexpired) reaches marked
  | erase =>
      have written := Expiring.reaches_now.mp reaches
      rcases rewrites with listed | marked
      · exact absurd (listed.of_setex written).1 (blacklistKey_ne_invalidatedKey _ _)
      · obtain ⟨same, rfl⟩ := marked.of_setex written
        rw [← same]
        exact dead_of_put (covers token issued (invalidatedKey_inj same) unexpired)
  | other =>
      obtain ⟨_, rfl⟩ := reaches
      rcases rewrites with listed | marked
      · exact absurd rfl listed
      · exact absurd rfl marked

/-- A handler that covers and ends without a fault has struck the tokens that it revokes. -/
theorem dead_of_completed {handler : Handler} {presented : Payload} {final : Redis}
    (reaches : (handler.program presented).Reaches (RedisResponds state.clock) state.redis (.ok ()) final)
    (covers : handler.Covers state presented) (known : presented ∈ state.issued) (issued : token ∈ state.issued)
    (unexpired : state.clock < token.expires)
    (struck : (handler = .logout ∧ presented.tokenID ≠ "" ∧ token.tokenID = presented.tokenID) ∨
      (handler ≠ .other ∧ presented.subject ≠ "" ∧ token.subject = presented.subject)) : Dead final token := by
  have own := state.eq_of_tokenID issued known
  cases handler with
  | logout =>
      rcases struck with ⟨_, identified, same⟩ | ⟨_, named, same⟩
      · obtain rfl := own same
        exact .inl (blacklisted_of_completed_logout identified reaches)
      · exact dead_of_completed_logout own named same (covers token issued same unexpired) reaches
  | erase =>
      rcases struck with ⟨contrary, _⟩ | ⟨_, named, same⟩
      · cases contrary
      · exact dead_of_completed_erase same (covers token issued same unexpired) reaches
  | other =>
      rcases struck with ⟨contrary, _⟩ | ⟨contrary, _⟩
      · cases contrary
      · exact absurd rfl contrary

/-- A guarded revocation leaves its token dead until it expires. -/
theorem gone_of_revokes (step : Step keycloak state action next) (guarded : Guard ⟨state, action⟩)
    (revokes : Revokes ⟨state, action⟩ next token) : Gone next token := by
  obtain ⟨issued, struck⟩ := revokes
  rcases step_cases step with ⟨other, fresh, rfl, rfl⟩ | ⟨clock, rfl, _, rfl⟩ | ⟨handled, final, ended, reaches, known, rfl⟩
  · rcases struck with ⟨_, _, served, _⟩ | listed | marked
    · cases served
    · exact absurd rfl listed
    · exact absurd rfl marked
  · rcases struck with ⟨_, _, served, _⟩ | listed | marked
    · cases served
    · exact absurd rfl listed
    · exact absurd rfl marked
  · by_cases expired : token.expires ≤ state.clock
    · exact .inl expired
    · right
      have unexpired := Int.not_le.mp expired
      cases served : action.served with
      | none =>
          rw [served] at reaches
          obtain ⟨_, rfl⟩ := reaches
          rcases struck with ⟨_, _, contrary, _⟩ | listed | marked
          · exact absurd (served.symm.trans contrary) nofun
          · exact absurd rfl listed
          · exact absurd rfl marked
      | some presented =>
          rw [served] at reaches
          have covers := guarded presented served
          rcases struck with ⟨completed, other, same, struck⟩ | rewrites
          · obtain rfl := ended completed
            cases served.symm.trans same
            exact dead_of_completed reaches covers (known presented served) issued unexpired struck
          · exact dead_of_rewrites reaches covers (known presented served) issued unexpired rewrites

/-- A dead token reaches no handler over REST before it expires. -/
theorem unserved_of_inTime {request : Request} {handler : Handler} {dispatched : Dispatched}
    {handled : Except RedisFault Unit} (step : Step keycloak state (.rest request handler dispatched handled) next)
    (inTime : InTime keycloak ⟨state, .rest request handler dispatched handled⟩ token) (gone : Gone state token) :
    dispatched.payload ≠ some token := by
  intro authenticated
  rcases inTime _ _ _ _ rfl with unexpired | invalid
  · exact refused_of_dead step (gone.resolve_left (Int.not_le.mpr unexpired)) unexpired authenticated
  · cases step with
    | rest _ _ _ _ middle final dispatches handles known =>
        obtain ⟨_, other, same, passes⟩ := reaches_dispatch dispatches
        obtain rfl := Except.ok.inj same
        obtain ⟨⟨text, fromCookie, extracted, validated⟩, _⟩ := passes token authenticated
        exact invalid text fromCookie extracted validated

/-- A call reaches its handler exactly when its token is valid, revoked or not. -/
theorem unserved_call_iff {metadata : List (String × String)} {handler : Handler} {wrapped : Grpc.Wrapped}
    {handled : Except RedisFault Unit} (step : Step keycloak state (.call metadata handler wrapped handled) next) :
    wrapped.payload ≠ some token ↔ CallRefused keycloak ⟨state, .call metadata handler wrapped handled⟩ token := by
  cases step with
  | call _ _ _ final handles known =>
      rw [Ne, Grpc.wrap_payload]
      constructor
      · intro invalid metadata handler wrapped handled same text extracted nonempty validated
        cases same
        exact invalid ⟨text, extracted, nonempty, validated⟩
      · intro refused ⟨text, extracted, nonempty, validated⟩
        exact refused _ _ _ _ rfl text extracted nonempty validated

/-- Under guarded invalidations a revoked token is dead everywhere when no call over gRPC still has it valid. -/
theorem dead_everywhere_iff {start final : State} {moments : List (Moment State Action)}
    (run : Run keycloak start moments final) (guarded : ∀ moment ∈ moments, Guard moment)
    (inTime : AfterRevocation (InTime keycloak) moments) :
    DeadEverywhere moments ↔ AfterRevocation (CallRefused keycloak) moments := by
  constructor
  · rintro dead earlier moment next later rfl token revokes other member metadata handler wrapped handled label
    obtain ⟨_, _, _, after⟩ := run.split
    obtain ⟨last, taken⟩ := after.taken other member
    have unserved := dead earlier moment next later rfl token revokes other member
    obtain ⟨state, action⟩ := other
    obtain rfl := label
    exact (unserved_call_iff taken).mp unserved _ _ _ _ rfl
  · rintro refused earlier moment next later rfl token revokes other member
    obtain ⟨_, _, step, after⟩ := run.split
    have reached := after
    cases reached
    have gone := gone_of_run after (fun moment member => guarded moment (by simp [List.mem_cons.mp member]))
      (issued_of_step step revokes.1) (gone_of_revokes step (guarded moment (by simp)) revokes) other member
    obtain ⟨last, taken⟩ := after.taken other member
    have early := inTime earlier moment _ later rfl token revokes other member
    have invalid := refused earlier moment _ later rfl token revokes other member
    obtain ⟨state, action⟩ := other
    cases action with
    | login payload => exact nofun
    | wait => exact nofun
    | rest request handler dispatched handled => exact unserved_of_inTime taken early gone
    | call metadata handler wrapped handled => exact (unserved_call_iff taken).mpr invalid

end Revocations

section Samples

/-- Every token of the samples is still unexpired. -/
theorem inTime_of_early {moments : List (Moment State Action)}
    (early : ∀ moment ∈ moments, moment.state.clock = 700000000 ∧
      ∀ token ∈ moment.state.issued, 700000000 < token.expires) : AfterRevocation (InTime sampleKeycloak) moments := by
  rintro earlier moment next later rfl token revokes other member request handler dispatched handled label
  left
  rw [(early other (by simp [List.mem_cons.mp member])).1]
  exact (early moment (by simp)).2 token revokes.1

/-- A run without calls over gRPC is not at fault. -/
theorem callsRefused_of_rest {moments : List (Moment State Action)}
    (uncalled : ∀ moment ∈ moments, ∀ metadata handler wrapped handled,
      moment.label ≠ .call metadata handler wrapped handled) :
    AfterRevocation (CallRefused sampleKeycloak) moments := by
  rintro earlier moment next later rfl token _ other member metadata handler wrapped handled label
  exact absurd label (uncalled other (by simp [List.mem_cons.mp member]) metadata handler wrapped handled)

theorem alice_dead_after_logout : DeadEverywhere goodLogout := by
  have loggedOut := step_logout (by decide +kernel) (by decide) validated_new new_issued (by decide +kernel)
  have unlisted : (bothLogins.after .logout aliceNew).redis.get 700000000 (blacklistKey aliceOld.tokenID) = none := by
    decide +kernel
  have marked : (bothLogins.after .logout aliceNew).redis.get 700000000 (invalidatedKey aliceOld.subject) = some 600 := by
    decide +kernel
  have refused := step_after_logout (by decide +kernel) (by decide) validated_old old_issued unlisted marked
  have early : ∀ moment ∈ goodLogout, moment.state.clock = 700000000 ∧
      ∀ token ∈ moment.state.issued, 700000000 < token.expires := by
    unfold goodLogout
    decide +kernel
  refine (dead_everywhere_iff (run_logins (.step _ loggedOut (.step _ refused .nil))) guard_goodLogout
    (inTime_of_early early)).mpr (callsRefused_of_rest ?_)
  intro moment member metadata handler wrapped handled
  simp only [List.mem_cons, List.not_mem_nil, or_false] at member
  rcases member with rfl | rfl | rfl | rfl <;> exact nofun

/-- Alice logs out over REST with her new token; a call over gRPC still accepts it. -/
def staleCall : List (Moment State Action) :=
  [⟨noSessions, .login aliceOld⟩, ⟨firstLogin, .login aliceNew⟩,
    ⟨bothLogins, .rest (bearer logoutPath "new") .logout (.authenticated aliceNew) (.ok ())⟩,
    ⟨bothLogins.after .logout aliceNew, .call [("authorization", "Bearer new")] .other (.accepted aliceNew) (.ok ())⟩]

theorem revoked_token_reaches_grpc :
    ∃ final, Run sampleKeycloak noSessions staleCall final ∧ ¬ DeadEverywhere staleCall := by
  have loggedOut := step_logout (by decide +kernel) (by decide) validated_new new_issued (by decide +kernel)
  have accepted : Grpc.wrap sampleKeycloak 700000000 [("authorization", "Bearer new")] = .accepted aliceNew := by
    have extracted : Grpc.extractToken [("authorization", "Bearer new")] = some "new" := by decide +kernel
    have nonempty : "new" ≠ "" := by decide
    simp only [Grpc.wrap, extracted, if_neg nonempty, validated_new]
  have called : Step sampleKeycloak (bothLogins.after .logout aliceNew)
      (.call [("authorization", "Bearer new")] .other (.accepted aliceNew) (.ok ()))
      (bothLogins.after .logout aliceNew) := by
    have known : ∀ payload ∈ (Grpc.Wrapped.accepted aliceNew).payload,
        payload ∈ (bothLogins.after .logout aliceNew).issued := by
      intro payload same
      cases same
      exact new_issued
    rw [← accepted] at known ⊢
    exact .call (bothLogins.after .logout aliceNew) _ .other _ _ (handles_other _) known
  refine ⟨_, run_logins (.step _ loggedOut (.step _ called .nil)), fun dead => ?_⟩
  have revokes : Revokes ⟨bothLogins, .rest (bearer logoutPath "new") .logout (.authenticated aliceNew) (.ok ())⟩
      (bothLogins.after .logout aliceNew) aliceNew :=
    ⟨new_issued, .inl ⟨rfl, aliceNew, rfl, .inl ⟨rfl, by decide, rfl⟩⟩⟩
  exact dead [_, _] _ _ [] rfl aliceNew revokes _ List.mem_cons_self rfl

end Samples

end Pxtly.Auth
