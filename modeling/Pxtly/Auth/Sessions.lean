/-
This file gives the requests that invalidate sessions, and runs of requests to both servers.
-/

import Mathlib.Data.List.Nodup
import Pxtly.Auth.Middleware
import Pxtly.Foundation.Runs

namespace Pxtly.Auth

open Foundation Program

section Handlers

def setex (key : String) (ttl value : Int) : RedisProgram Unit :=
  Expiring.send .redisError key (ttl * microsPerSecond) value

/-- The value of a blacklisted identifier is the text of one. -/
def blacklist (jti : String) (ttl : Int) : RedisProgram Unit :=
  if jti = "" then return () else setex (blacklistKey jti) ttl 1

def invalidate (keycloakSub : String) (ttl mark : Int) : RedisProgram Unit :=
  if keycloakSub = "" then return () else setex (invalidatedKey keycloakSub) ttl mark

def timeToLive (payload : Payload) (now : Int) : Int := max (payload.expiry - now / microsPerSecond) 1

/-- Both servers log out in this way; the cookies and the session of Keycloak do not matter here. -/
def logout (payload : Payload) : RedisProgram Unit := do
  let now ← clock
  blacklist payload.tokenID (timeToLive payload now)
  invalidate payload.subject (timeToLive payload now) payload.issuedAt

def erasureTTL : Int := 86400 * 30

/-- An erasure ends with this mark, also for an empty subject. -/
def eraseSessions (payload : Payload) : RedisProgram Unit := do
  let now ← clock
  setex (invalidatedKey payload.subject) erasureTTL (now / microsPerSecond)

/-- No other handler writes these keys; an erasure that the database refuses is one of the others. -/
inductive Handler where
  | logout
  | erase
  | other
  deriving DecidableEq

def Handler.program : Handler → Payload → RedisProgram Unit
  | .logout, payload => Auth.logout payload
  | .erase, payload => eraseSessions payload
  | .other, _ => return ()

/-- A request without a payload is refused, or its handler does not authenticate it. -/
def Handler.handle (handler : Handler) : Option Payload → RedisProgram Unit
  | some payload => handler.program payload
  | none => return ()

end Handlers

/-- The tokens that Keycloak has issued circulate among the clients, and each has an identifier of its own. -/
structure State where
  clock : Int
  redis : Redis
  issued : List Payload
  identified : (issued.map Payload.tokenID).Nodup

theorem State.eq_of_tokenID (state : State) {first second : Payload} (firstIssued : first ∈ state.issued)
    (secondIssued : second ∈ state.issued) (same : first.tokenID = second.tokenID) : first = second :=
  List.inj_on_of_nodup_map state.identified firstIssued secondIssued same

def State.issue (state : State) (payload : Payload) (fresh : payload.tokenID ∉ state.issued.map Payload.tokenID) :
    State :=
  { state with issued := payload :: state.issued, identified := List.nodup_cons.mpr ⟨fresh, state.identified⟩ }

inductive Action where
  | login (payload : Payload)
  | wait
  | rest (request : Request) (handler : Handler) (dispatched : Dispatched) (handled : Except RedisFault Unit)
  | call (metadata : List (String × String)) (handler : Handler) (wrapped : Grpc.Wrapped)
      (handled : Except RedisFault Unit)

/-- A login issues a token with a new identifier, and only issued tokens are valid. -/
inductive Step (keycloak : Keycloak) : State → Action → State → Prop where
  | login (state : State) (payload : Payload) (fresh : payload.tokenID ∉ state.issued.map Payload.tokenID) :
      Step keycloak state (.login payload) (state.issue payload fresh)
  | wait (state : State) (clock : Int) (later : state.clock ≤ clock) :
      Step keycloak state .wait { state with clock }
  | rest (state : State) (request : Request) (handler : Handler) (dispatched : Dispatched)
      (handled : Except RedisFault Unit) (middle final : Redis)
      (dispatches :
        (dispatch keycloak request).Reaches (RedisResponds state.clock) state.redis (.ok dispatched) middle)
      (handles : (handler.handle dispatched.payload).Reaches (RedisResponds state.clock) middle handled final)
      (known : ∀ payload ∈ dispatched.payload, payload ∈ state.issued) :
      Step keycloak state (.rest request handler dispatched handled) { state with redis := final }
  | call (state : State) (metadata : List (String × String)) (handler : Handler) (handled : Except RedisFault Unit)
      (final : Redis)
      (handles : (handler.handle (Grpc.wrap keycloak state.clock metadata).payload).Reaches
        (RedisResponds state.clock) state.redis handled final)
      (known : ∀ payload ∈ (Grpc.wrap keycloak state.clock metadata).payload, payload ∈ state.issued) :
      Step keycloak state (.call metadata handler (Grpc.wrap keycloak state.clock metadata) handled)
        { state with redis := final }

abbrev Run (keycloak : Keycloak) : State → List (Moment State Action) → State → Prop := Runs (Step keycloak)

/-- The handler of the request receives this payload. -/
def Action.served : Action → Option Payload
  | .login _ => none
  | .wait => none
  | .rest _ _ dispatched _ => dispatched.payload
  | .call _ _ wrapped _ => wrapped.payload

def Action.handler : Action → Handler
  | .login _ => .other
  | .wait => .other
  | .rest _ handler _ _ => handler
  | .call _ handler _ _ => handler

/-- The handler ended without a fault. -/
def Action.completed : Action → Prop
  | .login _ => True
  | .wait => True
  | .rest _ _ _ handled => handled = .ok ()
  | .call _ _ _ handled => handled = .ok ()

section Steps

variable {keycloak : Keycloak} {state next : State} {action : Action}

/-- A step logs a user in, or lets time pass, or runs a handler for the payload that it serves. -/
theorem step_cases (step : Step keycloak state action next) :
    (∃ payload fresh, action = .login payload ∧ next = state.issue payload fresh) ∨
    (∃ clock, action = .wait ∧ state.clock ≤ clock ∧ next = { state with clock }) ∨
    ∃ handled final, (action.completed → handled = .ok ()) ∧
      (action.handler.handle action.served).Reaches (RedisResponds state.clock) state.redis handled final ∧
      (∀ payload ∈ action.served, payload ∈ state.issued) ∧ next = { state with redis := final } := by
  cases step with
  | login payload fresh => exact .inl ⟨payload, fresh, rfl, rfl⟩
  | wait clock later => exact .inr (.inl ⟨clock, rfl, later, rfl⟩)
  | rest request handler dispatched handled middle final dispatches handles known =>
      obtain ⟨rfl, _⟩ := reaches_dispatch dispatches
      exact .inr (.inr ⟨handled, final, id, handles, known, rfl⟩)
  | call metadata handler handled final handles known =>
      exact .inr (.inr ⟨handled, final, id, handles, known, rfl⟩)

end Steps

section Samples

variable {keycloak : Keycloak} {state : State} {token : String} {payload : Payload}

/-- A request with a valid token in its header is judged by what the store says about the token. -/
theorem dispatch_judges (now : Int) (store : Redis) (request : Request) (isProtected : isPublic request.path = false)
    (extracted : extractToken request = some (token, false)) (nonempty : token ≠ "")
    (validated : validateToken keycloak now token = .ok payload) :
    (dispatch keycloak request).Reaches (RedisResponds now) store
      (.ok (judge payload (store.get now (blacklistKey payload.tokenID))
        (store.get now (invalidatedKey payload.subject)))) store := by
  have judges : (authenticate keycloak token).Reaches (RedisResponds now) store
      (.ok (judge payload (store.get now (blacklistKey payload.tokenID))
        (store.get now (invalidatedKey payload.subject)))) store := by
    refine Expiring.reaches_now.mpr ?_
    rw [validated]
    exact ⟨_, _, .found _ _, _, _, .found _ _, rfl, rfl⟩
  simpa [dispatch, isProtected, extracted, nonempty] using judges

theorem known_of_judge (issued : payload ∈ state.issued) (blacklisted invalidated : Option Int) :
    ∀ other ∈ (judge payload blacklisted invalidated).payload, other ∈ state.issued := by
  intro other same
  unfold judge at same
  split at same
  · cases same
  · cases same
    exact issued

theorem handles_other {now : Int} {store : Redis} (served : Option Payload) :
    (Handler.other.handle served).Reaches (RedisResponds now) store (.ok ()) store := by
  cases served <;> exact ⟨rfl, rfl⟩

/-- The state after a handler that met no failing command. -/
def State.after (state : State) (handler : Handler) (payload : Payload) : State :=
  { state with redis := ((handler.program payload).evaluate (Expiring.respond state.clock) state.redis).2 }

theorem handles_after {handler : Handler}
    (ended : ((handler.program payload).evaluate (Expiring.respond state.clock) state.redis).1 = .ok ()) :
    (handler.handle (some payload)).Reaches (RedisResponds state.clock) state.redis (.ok ())
      (state.after handler payload).redis := by
  have reaches : (handler.program payload).Reaches (RedisResponds state.clock) state.redis _ _ :=
    reaches_evaluate (Expiring.responds_respond state.clock) _ _
  rwa [ended] at reaches

/-- Alice holds a token that expires after fifteen minutes, and one that was issued ten minutes later. -/
def aliceOld : Payload where
  sub := some "alice"
  jti := some "old"
  iat := some 0
  exp := some 900
  claims := [("aud", .string "pxtly-api")]

def aliceNew : Payload := { aliceOld with jti := some "new", iat := some 600, exp := some 1500 }

/-- This Keycloak knows the two tokens by their identifiers. -/
def sampleKeycloak : Keycloak where
  Jwks := Unit
  jwks _ _ := some ()
  decode _ now token :=
    match [aliceOld, aliceNew].find? fun payload => payload.tokenID = token with
    | none => .error "Not enough segments"
    | some payload => if payload.expiry < now / microsPerSecond then .error "Signature has expired." else .ok payload
  clientID := "pxtly-api"

def noSessions : State where
  clock := 700000000
  redis _ := none
  issued := []
  identified := List.nodup_nil

def firstLogin : State := noSessions.issue aliceOld (by decide)
def bothLogins : State := firstLogin.issue aliceNew (by decide +kernel)

/-- Both tokens are valid for now. -/
theorem validated_sample (known : [aliceOld, aliceNew].find? (fun payload => payload.tokenID = token) = some payload)
    (unexpired : ¬ payload.expiry < 700) (audience : payload.claims = aliceOld.claims) :
    validateToken sampleKeycloak 700000000 token = .ok payload := by
  have decoded : decodeToken sampleKeycloak 700000000 token = .ok payload := by
    simp only [decodeToken, fetchJwks, sampleKeycloak, ok_bind, known]
    have seconds : (700000000 : Int) / microsPerSecond = 700 := by decide
    rw [seconds, if_neg unexpired]
    rfl
  have intended : checkAudience sampleKeycloak payload = .ok () := by
    rw [checkAudience, audience]
    rfl
  rw [validateToken, decoded, ok_bind, intended]
  rfl

theorem validated_old : validateToken sampleKeycloak 700000000 "old" = .ok aliceOld :=
  validated_sample rfl (by decide) rfl

theorem validated_new : validateToken sampleKeycloak 700000000 "new" = .ok aliceNew :=
  validated_sample rfl (by decide) rfl

theorem old_issued : aliceOld ∈ bothLogins.issued := List.mem_cons_of_mem _ List.mem_cons_self

theorem new_issued : aliceNew ∈ bothLogins.issued := List.mem_cons_self

def bearer (path token : String) : Request where
  path
  method := "POST"
  authorization := "Bearer " ++ token

def logoutPath : String := "/api/v1/auth/logout"
def mePath : String := "/api/v1/auth/me"

theorem isPublic_logoutPath : isPublic logoutPath = false := by decide +kernel

theorem isPublic_mePath : isPublic mePath = false := by decide +kernel

/-- Both tokens are issued before anything else happens. -/
theorem run_logins {moments : List (Moment State Action)} {final : State}
    (run : Run sampleKeycloak bothLogins moments final) :
    Run sampleKeycloak noSessions
      (⟨noSessions, .login aliceOld⟩ :: ⟨firstLogin, .login aliceNew⟩ :: moments) final :=
  .step _ (.login noSessions aliceOld _) (.step _ (.login firstLogin aliceNew _) run)

end Samples

end Pxtly.Auth
