/-
This file gives when a logout is final.
-/

import Pxtly.Auth.Sessions

namespace Pxtly.Auth

open Foundation Program

section Keys

theorem toList_blacklistKey (jti : String) :
    (blacklistKey jti).toList = "oidc:blacklist:".toList ++ jti.toList := String.toList_append

theorem toList_invalidatedKey (keycloakSub : String) :
    (invalidatedKey keycloakSub).toList = "oidc:invalidated:".toList ++ keycloakSub.toList := String.toList_append

theorem blacklistKey_inj {first second : String} (same : blacklistKey first = blacklistKey second) :
    first = second := by
  have texts := congrArg String.toList same
  rw [toList_blacklistKey, toList_blacklistKey] at texts
  exact String.toList_inj.mp (List.append_cancel_left texts)

theorem invalidatedKey_inj {first second : String} (same : invalidatedKey first = invalidatedKey second) :
    first = second := by
  have texts := congrArg String.toList same
  rw [toList_invalidatedKey, toList_invalidatedKey] at texts
  exact String.toList_inj.mp (List.append_cancel_left texts)

theorem blacklistKey_ne_invalidatedKey (jti keycloakSub : String) : blacklistKey jti ≠ invalidatedKey keycloakSub := by
  intro same
  have texts := congrArg String.toList same
  rw [toList_blacklistKey, toList_invalidatedKey] at texts
  have letters := congrArg (fun text => text[5]?) texts
  simp at letters

end Keys

/-- The identifier of the token is blacklisted until the token expires. -/
def Blacklisted (store : Redis) (payload : Payload) : Prop :=
  store.Lasts (blacklistKey payload.tokenID) (fun _ => True) payload.expires

/-- The mark of its subject invalidates the token until it expires. -/
def Marked (store : Redis) (payload : Payload) : Prop :=
  store.Lasts (invalidatedKey payload.subject) (fun mark => payload.issuedAt ≤ mark) payload.expires

def Dead (store : Redis) (payload : Payload) : Prop := Blacklisted store payload ∨ Marked store payload

section Writes

variable {now : Int} {store final : Redis} {payload : Payload} {outcome : Except RedisFault Unit}

/-- The lifetime of a logout reaches the expiry of its token. -/
theorem expires_le (payload : Payload) (now : Int) :
    payload.expires ≤ now + timeToLive payload now * microsPerSecond := by
  unfold timeToLive Payload.expires microsPerSecond
  omega

theorem reaches_setex {key : String} {ttl value : Int}
    (reaches : (setex key ttl value).Reaches (RedisResponds now) store outcome final) :
    final = store.put key value (now + ttl * microsPerSecond) ∨ (outcome ≠ .ok () ∧ final = store) := by
  rcases Expiring.reaches_send reaches with written | ⟨rfl, same⟩
  · exact .inl written
  · exact .inr ⟨nofun, same⟩

/-- A blacklisted identifier strikes no other token, and its own token stays blacklisted. -/
theorem blacklisted_of_blacklist {jti : String} {ttl : Int}
    (reaches : (blacklist jti ttl).Reaches (RedisResponds now) store outcome final)
    (own : payload.tokenID = jti → payload.expires ≤ now + ttl * microsPerSecond)
    (blacklisted : Blacklisted store payload) : Blacklisted final payload := by
  unfold blacklist at reaches
  split at reaches
  · obtain ⟨_, rfl⟩ := reaches
    exact blacklisted
  · rcases reaches_setex reaches with rfl | ⟨_, rfl⟩
    · by_cases same : payload.tokenID = jti
      · subst same
        exact Expiring.lasts_put store _ trivial (own rfl)
      · exact blacklisted.put_other (fun equal => same (blacklistKey_inj equal)) _ _
    · exact blacklisted

theorem marked_of_blacklist {jti : String} {ttl : Int}
    (reaches : (blacklist jti ttl).Reaches (RedisResponds now) store outcome final) (marked : Marked store payload) :
    Marked final payload := by
  unfold blacklist at reaches
  split at reaches
  · obtain ⟨_, rfl⟩ := reaches
    exact marked
  · rcases reaches_setex reaches with rfl | ⟨_, rfl⟩
    · exact marked.put_other (blacklistKey_ne_invalidatedKey _ _).symm _ _
    · exact marked

theorem blacklisted_of_setex {keycloakSub : String} {ttl mark : Int}
    (reaches : (setex (invalidatedKey keycloakSub) ttl mark).Reaches (RedisResponds now) store outcome final)
    (blacklisted : Blacklisted store payload) : Blacklisted final payload := by
  rcases reaches_setex reaches with rfl | ⟨_, rfl⟩
  · exact blacklisted.put_other (blacklistKey_ne_invalidatedKey _ _) _ _
  · exact blacklisted

/-- The mark reaches the token, or the token is blacklisted anyway. -/
def Covered (store : Redis) (payload : Payload) (mark through : Int) : Prop :=
  (payload.issuedAt ≤ mark ∧ payload.expires ≤ through) ∨ Blacklisted store payload

/-- A mark that covers the tokens of its subject keeps every dead token dead. -/
theorem dead_of_setex {keycloakSub : String} {ttl mark : Int}
    (reaches : (setex (invalidatedKey keycloakSub) ttl mark).Reaches (RedisResponds now) store outcome final)
    (covered : payload.subject = keycloakSub → Covered store payload mark (now + ttl * microsPerSecond))
    (dead : Dead store payload) : Dead final payload := by
  rcases dead with blacklisted | marked
  · exact .inl (blacklisted_of_setex reaches blacklisted)
  · by_cases same : payload.subject = keycloakSub
    · rcases covered same with ⟨issued, long⟩ | blacklisted
      · subst same
        rcases reaches_setex reaches with rfl | ⟨_, rfl⟩
        · exact .inr (Expiring.lasts_put store _ issued long)
        · exact .inr marked
      · exact .inl (blacklisted_of_setex reaches blacklisted)
    · rcases reaches_setex reaches with rfl | ⟨_, rfl⟩
      · exact .inr (marked.put_other (fun equal => same (invalidatedKey_inj equal)) _ _)
      · exact .inr marked

/-- A mark strikes the tokens of its subject that it covers. -/
theorem dead_of_put {mark through : Int} (covered : Covered store payload mark through) :
    Dead (store.put (invalidatedKey payload.subject) mark through) payload := by
  rcases covered with ⟨issued, long⟩ | blacklisted
  · exact .inr (Expiring.lasts_put store _ issued long)
  · exact .inl (blacklisted.put_other (blacklistKey_ne_invalidatedKey _ _) _ _)

theorem dead_of_mark {keycloakSub : String} {ttl mark : Int}
    (reaches : (setex (invalidatedKey keycloakSub) ttl mark).Reaches (RedisResponds now) store (.ok ()) final)
    (same : payload.subject = keycloakSub) (covered : Covered store payload mark (now + ttl * microsPerSecond)) :
    Dead final payload := by
  subst same
  rcases reaches_setex reaches with rfl | ⟨failed, _⟩
  · exact dead_of_put covered
  · exact absurd rfl failed

theorem Covered.widen {mark through wider : Int} (covered : Covered store payload mark through)
    (wide : through ≤ wider) (kept : Blacklisted store payload → Blacklisted final payload) :
    Covered final payload mark wider := by
  rcases covered with ⟨issued, long⟩ | blacklisted
  · exact .inl ⟨issued, Int.le_trans long wide⟩
  · exact .inr (kept blacklisted)

/-- A logout writes its two keys one after the other, or only the first one. -/
theorem reaches_logout {presented : Payload}
    (reaches : (logout presented).Reaches (RedisResponds now) store outcome final) :
    (∃ fault, outcome = .error fault ∧ (blacklist presented.tokenID (timeToLive presented now)).Reaches
      (RedisResponds now) store (.error fault) final) ∨
    ∃ middle, (blacklist presented.tokenID (timeToLive presented now)).Reaches (RedisResponds now) store (.ok ())
        middle ∧
      (invalidate presented.subject (timeToLive presented now) presented.issuedAt).Reaches (RedisResponds now) middle
        outcome final := by
  have rest := (reaches_bind _ _ _ _ _).mp (Expiring.reaches_now.mp reaches)
  rcases rest with faulted | ⟨_, middle, first, second⟩
  · exact .inl faulted
  · exact .inr ⟨middle, first, second⟩

theorem blacklisted_of_invalidate {keycloakSub : String} {ttl mark : Int}
    (reaches : (invalidate keycloakSub ttl mark).Reaches (RedisResponds now) store outcome final)
    (blacklisted : Blacklisted store payload) : Blacklisted final payload := by
  unfold invalidate at reaches
  split at reaches
  · obtain ⟨_, rfl⟩ := reaches
    exact blacklisted
  · exact blacklisted_of_setex reaches blacklisted

/-- An invalidation without a subject writes nothing. -/
theorem dead_of_invalidate {keycloakSub : String} {ttl mark : Int}
    (reaches : (invalidate keycloakSub ttl mark).Reaches (RedisResponds now) store outcome final)
    (covered : payload.subject = keycloakSub → Covered store payload mark (now + ttl * microsPerSecond))
    (dead : Dead store payload) : Dead final payload := by
  unfold invalidate at reaches
  split at reaches
  · obtain ⟨_, rfl⟩ := reaches
    exact dead
  · exact dead_of_setex reaches covered dead

variable {presented : Payload}

theorem own_expires (own : payload.tokenID = presented.tokenID → payload = presented)
    (same : payload.tokenID = presented.tokenID) :
    payload.expires ≤ now + timeToLive presented now * microsPerSecond := by
  rw [own same]
  exact expires_le presented now

/-- A covering logout keeps every dead token dead. -/
theorem dead_of_logout (own : payload.tokenID = presented.tokenID → payload = presented)
    (covered : payload.subject = presented.subject → Covered store payload presented.issuedAt presented.expires)
    (reaches : (logout presented).Reaches (RedisResponds now) store outcome final) (dead : Dead store payload) :
    Dead final payload := by
  have blacklistKeeps {outcome : Except RedisFault Unit} {later : Redis}
      (reaches : (blacklist presented.tokenID (timeToLive presented now)).Reaches (RedisResponds now) store outcome
        later) : Dead later payload :=
    dead.imp (blacklisted_of_blacklist reaches (own_expires own)) (marked_of_blacklist reaches)
  rcases reaches_logout reaches with ⟨_, _, first⟩ | ⟨middle, first, second⟩
  · exact blacklistKeeps first
  · refine dead_of_invalidate second (fun same => ?_) (blacklistKeeps first)
    exact (covered same).widen (expires_le presented now) (blacklisted_of_blacklist first (own_expires own))

/-- A completed logout strikes the tokens that it covers. -/
theorem dead_of_completed_logout (own : payload.tokenID = presented.tokenID → payload = presented)
    (named : presented.subject ≠ "") (same : payload.subject = presented.subject)
    (covered : Covered store payload presented.issuedAt presented.expires)
    (reaches : (logout presented).Reaches (RedisResponds now) store (.ok ()) final) : Dead final payload := by
  rcases reaches_logout reaches with ⟨_, failed, _⟩ | ⟨middle, first, second⟩
  · cases failed
  · unfold invalidate at second
    rw [if_neg named] at second
    exact dead_of_mark second same
      (covered.widen (expires_le presented now) (blacklisted_of_blacklist first (own_expires own)))

/-- A completed logout blacklists the token that was presented. -/
theorem blacklisted_of_completed_logout (identified : presented.tokenID ≠ "")
    (reaches : (logout presented).Reaches (RedisResponds now) store (.ok ()) final) :
    Blacklisted final presented := by
  rcases reaches_logout reaches with ⟨_, failed, _⟩ | ⟨middle, first, second⟩
  · cases failed
  · refine blacklisted_of_invalidate second ?_
    unfold blacklist at first
    rw [if_neg identified] at first
    rcases reaches_setex first with rfl | ⟨failed, _⟩
    · exact Expiring.lasts_put store _ trivial (expires_le presented now)
    · exact absurd rfl failed

theorem dead_of_erase (covered : payload.subject = presented.subject →
      Covered store payload (now / microsPerSecond) (now + erasureTTL * microsPerSecond))
    (reaches : (eraseSessions presented).Reaches (RedisResponds now) store outcome final) (dead : Dead store payload) :
    Dead final payload := by
  have written := Expiring.reaches_now.mp reaches
  exact dead_of_setex written covered dead

theorem dead_of_completed_erase (same : payload.subject = presented.subject)
    (covered : Covered store payload (now / microsPerSecond) (now + erasureTTL * microsPerSecond))
    (reaches : (eraseSessions presented).Reaches (RedisResponds now) store (.ok ()) final) : Dead final payload := by
  have written := Expiring.reaches_now.mp reaches
  exact dead_of_mark written same covered

end Writes

section Guards

/-- The mark covers every unexpired token of the subject. -/
def State.Covers (state : State) (subject : String) (mark through : Int) : Prop :=
  ∀ payload ∈ state.issued, payload.subject = subject → state.clock < payload.expires →
    Covered state.redis payload mark through

/-- A logout covers with its own token, and an erasure covers with the clock. -/
def Handler.Covers (handler : Handler) (state : State) (presented : Payload) : Prop :=
  match handler with
  | .logout => state.Covers presented.subject presented.issuedAt presented.expires
  | .erase => state.Covers presented.subject (state.clock / microsPerSecond)
      (state.clock + erasureTTL * microsPerSecond)
  | .other => True

def Guard (moment : Moment State Action) : Prop :=
  ∀ presented ∈ moment.label.served, moment.label.handler.Covers moment.state presented

/-- The token has expired, or the store refuses it until then. -/
def Gone (state : State) (payload : Payload) : Prop := payload.expires ≤ state.clock ∨ Dead state.redis payload

variable {keycloak : Keycloak} {state next : State} {action : Action} {payload : Payload}

theorem issued_of_step (step : Step keycloak state action next) (issued : payload ∈ state.issued) :
    payload ∈ next.issued := by
  rcases step_cases step with ⟨other, fresh, _, rfl⟩ | ⟨clock, _, _, rfl⟩ | ⟨handled, final, _, _, _, rfl⟩
  · exact List.mem_cons_of_mem _ issued
  · exact issued
  · exact issued

/-- A handler that covers keeps a dead token dead until it expires. -/
theorem dead_of_handle {handler : Handler} {presented : Payload} {handled : Except RedisFault Unit} {final : Redis}
    (reaches : (handler.program presented).Reaches (RedisResponds state.clock) state.redis handled final)
    (covers : handler.Covers state presented) (known : presented ∈ state.issued) (issued : payload ∈ state.issued)
    (unexpired : state.clock < payload.expires) (dead : Dead state.redis payload) : Dead final payload := by
  cases handler with
  | logout =>
      exact dead_of_logout (state.eq_of_tokenID issued known) (fun same => covers payload issued same unexpired) reaches
        dead
  | erase => exact dead_of_erase (fun same => covers payload issued same unexpired) reaches dead
  | other =>
      obtain ⟨_, rfl⟩ := reaches
      exact dead

/-- A guarded step lets no token return. -/
theorem gone_of_step (step : Step keycloak state action next) (guarded : Guard ⟨state, action⟩)
    (issued : payload ∈ state.issued) (gone : Gone state payload) : Gone next payload := by
  rcases step_cases step with ⟨other, fresh, _, rfl⟩ | ⟨clock, _, later, rfl⟩ | ⟨handled, final, _, reaches, known, rfl⟩
  · exact gone
  · exact gone.imp_left fun expired => Int.le_trans expired later
  · by_cases expired : payload.expires ≤ state.clock
    · exact .inl expired
    · right
      have dead := gone.resolve_left expired
      cases served : action.served with
      | none =>
          rw [served] at reaches
          obtain ⟨_, rfl⟩ := reaches
          exact dead
      | some presented =>
          rw [served] at reaches known
          exact dead_of_handle reaches (guarded presented served) (known presented rfl) issued (Int.not_le.mp expired) dead

theorem gone_of_run {start final : State} {moments : List (Moment State Action)} (run : Run keycloak start moments final)
    (guarded : ∀ moment ∈ moments, Guard moment) (issued : payload ∈ start.issued) (gone : Gone start payload) :
    ∀ moment ∈ moments, Gone moment.state payload := by
  have kept := run.keeps (fun state => payload ∈ state.issued ∧ Gone state payload)
    (fun moment member next taken holds =>
      ⟨issued_of_step taken holds.1, gone_of_step taken (guarded moment member) holds.1 holds.2⟩) ⟨issued, gone⟩
  exact fun moment member => (kept.2 moment member).2

/-- A dead token does not pass the middleware before it expires. -/
theorem refused_of_dead {request : Request} {handler : Handler} {dispatched : Dispatched}
    {handled : Except RedisFault Unit} (step : Step keycloak state (.rest request handler dispatched handled) next)
    (dead : Dead state.redis payload) (unexpired : state.clock < payload.expires) :
    dispatched.payload ≠ some payload := by
  intro authenticated
  cases step with
  | rest _ _ _ _ middle final dispatches handles known =>
      obtain ⟨_, other, same, passes⟩ := reaches_dispatch dispatches
      obtain rfl := Except.ok.inj same
      obtain ⟨_, clean, unmarked⟩ := passes payload authenticated
      rcases dead with blacklisted | marked
      · obtain ⟨value, found, _⟩ := blacklisted.get unexpired
        rw [clean] at found
        cases found
      · obtain ⟨mark, found, late⟩ := marked.get unexpired
        exact unmarked mark found late

end Guards

section Finality

variable {keycloak : Keycloak}

/-- A logout over REST was processed for the payload. -/
def LogsOut (moment : Moment State Action) (presented : Payload) : Prop :=
  ∃ request dispatched, moment.label = .rest request .logout dispatched (.ok ()) ∧
    dispatched.payload = some presented

/-- After a logout no token that its user held passes the middleware before it expires. -/
def Final (moments : List (Moment State Action)) : Prop :=
  ∀ earlier moment later, moments = earlier ++ moment :: later → ∀ presented, LogsOut moment presented →
    presented.subject ≠ "" → ∀ token ∈ moment.state.issued, token.subject = presented.subject →
      ∀ other ∈ later, other.state.clock < token.expires → ∀ request handler dispatched handled,
        other.label = .rest request handler dispatched handled → dispatched.payload ≠ some token

theorem gone_of_logsOut {moment : Moment State Action} {next : State} {presented token : Payload}
    (step : Step keycloak moment.state moment.label next) (guarded : Guard moment) (logsOut : LogsOut moment presented)
    (named : presented.subject ≠ "") (issued : token ∈ moment.state.issued)
    (same : token.subject = presented.subject) : Gone next token := by
  obtain ⟨state, label⟩ := moment
  obtain ⟨request, dispatched, rfl, authenticated⟩ := logsOut
  have covers := guarded presented authenticated
  cases step with
  | rest _ _ _ _ middle final dispatches handles known =>
      obtain ⟨rfl, _⟩ := reaches_dispatch dispatches
      by_cases expired : token.expires ≤ state.clock
      · exact .inl expired
      · right
        rw [authenticated] at handles
        exact dead_of_completed_logout (state.eq_of_tokenID issued (known presented authenticated)) named same
          (covers token issued same (Int.not_le.mp expired)) handles

/-- In a guarded run every logout is final. -/
theorem logout_final_of_guarded {start final : State} {moments : List (Moment State Action)}
    (run : Run keycloak start moments final) (guarded : ∀ moment ∈ moments, Guard moment) : Final moments := by
  rintro earlier moment later rfl presented logsOut named token issued same other member unexpired request handler
    dispatched handled label
  obtain ⟨next, before, step, after⟩ := run.split
  have gone := gone_of_logsOut step (guarded moment (by simp)) logsOut named issued same
  have later := gone_of_run after (fun moment member => guarded moment (by simp [member])) (issued_of_step step issued)
    gone other member
  obtain ⟨next, taken⟩ := after.taken other member
  rw [label] at taken
  exact refused_of_dead taken (later.resolve_left (Int.not_le.mpr unexpired)) unexpired

end Finality

section Samples

variable {token : String} {presented payload : Payload}

/-- Alice logs out over REST with one of her tokens. -/
theorem step_logout (extracted : extractToken (bearer logoutPath token) = some (token, false)) (nonempty : token ≠ "")
    (validated : validateToken sampleKeycloak 700000000 token = .ok payload) (issued : payload ∈ bothLogins.issued)
    (ended : ((logout payload).evaluate (Expiring.respond bothLogins.clock) bothLogins.redis).1 = .ok ()) :
    Step sampleKeycloak bothLogins (.rest (bearer logoutPath token) .logout (.authenticated payload) (.ok ()))
      (bothLogins.after .logout payload) := by
  have dispatches := dispatch_judges 700000000 bothLogins.redis (bearer logoutPath token) isPublic_logoutPath
    extracted nonempty validated
  exact .rest bothLogins _ .logout _ _ _ _ dispatches (handles_after ended) (known_of_judge issued none none)

/-- She uses a token after her logout. -/
theorem step_after_logout {blacklisted invalidated : Option Int}
    (extracted : extractToken (bearer mePath token) = some (token, false)) (nonempty : token ≠ "")
    (validated : validateToken sampleKeycloak 700000000 token = .ok payload) (issued : payload ∈ bothLogins.issued)
    (first : (bothLogins.after .logout presented).redis.get 700000000 (blacklistKey payload.tokenID) = blacklisted)
    (second : (bothLogins.after .logout presented).redis.get 700000000 (invalidatedKey payload.subject) =
      invalidated) :
    Step sampleKeycloak (bothLogins.after .logout presented)
      (.rest (bearer mePath token) .other (judge payload blacklisted invalidated) (.ok ()))
      (bothLogins.after .logout presented) := by
  have dispatches := dispatch_judges 700000000 (bothLogins.after .logout presented).redis (bearer mePath token)
    isPublic_mePath extracted nonempty validated
  rw [first, second] at dispatches
  exact .rest (bothLogins.after .logout presented) _ .other _ _ _ _ dispatches (handles_other _)
    (known_of_judge issued blacklisted invalidated)

/-- Alice logs out with her new token, and the old one is refused as well. -/
def goodLogout : List (Moment State Action) :=
  [⟨noSessions, .login aliceOld⟩, ⟨firstLogin, .login aliceNew⟩,
    ⟨bothLogins, .rest (bearer logoutPath "new") .logout (.authenticated aliceNew) (.ok ())⟩,
    ⟨bothLogins.after .logout aliceNew, .rest (bearer mePath "old") .other (judge aliceOld none (some 600)) (.ok ())⟩]

/-- The new token covers both tokens. -/
theorem guard_goodLogout : ∀ moment ∈ goodLogout, Guard moment := by
  have covers : bothLogins.Covers "alice" 600 1500000000 := by
    intro payload issued _ _
    left
    revert payload
    decide +kernel
  intro moment member presented served
  simp only [goodLogout, List.mem_cons, List.not_mem_nil, or_false] at member
  rcases member with rfl | rfl | rfl | rfl
  · trivial
  · trivial
  · cases served
    exact covers
  · trivial

theorem alice_logout_final : Final goodLogout := by
  have loggedOut := step_logout (by decide +kernel) (by decide) validated_new new_issued
    (by decide +kernel)
  have unlisted : (bothLogins.after .logout aliceNew).redis.get 700000000 (blacklistKey aliceOld.tokenID) = none := by
    decide +kernel
  have marked : (bothLogins.after .logout aliceNew).redis.get 700000000 (invalidatedKey aliceOld.subject) = some 600 := by
    decide +kernel
  have refused := step_after_logout (by decide +kernel) (by decide) validated_old old_issued unlisted marked
  exact logout_final_of_guarded (run_logins (.step _ loggedOut (.step _ refused .nil))) guard_goodLogout

/-- Alice logs out with her old token and keeps using the new one. -/
def badLogout : List (Moment State Action) :=
  [⟨noSessions, .login aliceOld⟩, ⟨firstLogin, .login aliceNew⟩,
    ⟨bothLogins, .rest (bearer logoutPath "old") .logout (.authenticated aliceOld) (.ok ())⟩,
    ⟨bothLogins.after .logout aliceOld, .rest (bearer mePath "new") .other (judge aliceNew none (some 0)) (.ok ())⟩]

theorem newer_token_survives_logout :
    ∃ final, Run sampleKeycloak noSessions badLogout final ∧ ¬ Final badLogout := by
  have loggedOut := step_logout (by decide +kernel) (by decide) validated_old old_issued
    (by decide +kernel)
  have unlisted : (bothLogins.after .logout aliceOld).redis.get 700000000 (blacklistKey aliceNew.tokenID) = none := by
    decide +kernel
  have marked : (bothLogins.after .logout aliceOld).redis.get 700000000 (invalidatedKey aliceNew.subject) = some 0 := by
    decide +kernel
  have accepted := step_after_logout (by decide +kernel) (by decide) validated_new new_issued unlisted marked
  refine ⟨_, run_logins (.step _ loggedOut (.step _ accepted .nil)), fun refuses => ?_⟩
  have unexpired : (bothLogins.after .logout aliceOld).clock < aliceNew.expires := by decide +kernel
  exact refuses [_, _] _ [_] rfl aliceOld ⟨_, _, rfl, rfl⟩ (by decide) aliceNew new_issued rfl _ List.mem_cons_self
    unexpired _ _ _ _ rfl rfl

end Samples

end Pxtly.Auth
