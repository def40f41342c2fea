/-
This file gives the addresses to which the logins send the browser, and the verifiers with which the callbacks exchange
their codes, over all interleavings of logins and callbacks.
-/

import Pxtly.Auth.LoginStates
import Pxtly.Foundation.Base64
import Pxtly.Foundation.FormTexts

namespace Pxtly.Auth.LoginStates

open Foundation Program
open Pool (traceOf)

structure OidcSettings where
  keycloakURL : String
  keycloakRealm : String
  keycloakClientID : String
  keycloakCallbackURL : String

def generatePkcePair (token : TokenBytes 64) : String × String := (token.urlsafe, s256 token.urlsafe)

def generateState (token : TokenBytes 32) : String := token.urlsafe

section Addresses

variable (settings : OidcSettings)

def issuer : String := settings.keycloakURL ++ "/realms/" ++ settings.keycloakRealm

def authURL : String := issuer settings ++ "/protocol/openid-connect/auth"

def authorizationParams (redirectURI state codeChallenge : String) : List (String × String) :=
  [("client_id", settings.keycloakClientID), ("response_type", "code"), ("scope", "openid email profile"),
    ("redirect_uri", redirectURI), ("state", state), ("code_challenge", codeChallenge), ("code_challenge_method", "S256")]

def buildAuthorizationURL (redirectURI state codeChallenge : String) : String :=
  authURL settings ++ "?" ++ urlencode (authorizationParams settings redirectURI state codeChallenge)

end Addresses

/-- A login draws two tokens; its caller names the page to which the browser is to return. -/
structure Login where
  stateToken : TokenBytes 32
  verifierToken : TokenBytes 64
  redirectAfter : String

namespace Login

variable (login : Login)

def state : String := generateState login.stateToken
def codeVerifier : String := (generatePkcePair login.verifierToken).1
def codeChallenge : String := (generatePkcePair login.verifierToken).2

def address (settings : OidcSettings) : String :=
  buildAuthorizationURL settings settings.keycloakCallbackURL login.state login.codeChallenge

end Login

inductive Visit where
  | login (login : Login)
  | callback (callback : Callback)

inductive Reply where
  | redirect (url : String)
  | tokens (tokens : TokenSet)

section Visits

variable (settings : OidcSettings)

def loginVisit (login : Login) : StateProgram Reply := do
  oidcLogin login.state login.codeVerifier login.redirectAfter
  return .redirect (login.address settings)

def repliesWith (program : StateProgram TokenSet) : StateProgram Reply := do
  let tokens ← program
  return .tokens tokens

def visitProgram : Visit → StateProgram Reply
  | .login login => loginVisit settings login
  | .callback callback => repliesWith (oidcCallback settings.keycloakCallbackURL callback)

abbrev Visits (C : Type) := Pool stateSignature CallbackFault Reply States C

/-- The store is empty, and all visits are still to begin. -/
def Visits.fresh {C : Type} (request : C → Visit) : Visits C where
  world _ := none
  program call := visitProgram settings (request call)

end Visits

/-- The verifier consists of letters, and no bar is among them. -/
theorem Login.verifier_letters (login : Login) : ∀ c ∈ login.codeVerifier.toList, isAddressLetter c = true :=
  isAddressLetter_b64url _

theorem isAddressLetter_bar : isAddressLetter '|' = false := by decide

theorem Login.bar_notMem (login : Login) : '|' ∉ login.codeVerifier.toList := by
  intro member
  have letter := login.verifier_letters _ member
  rw [isAddressLetter_bar] at letter
  cases letter

section Exchanges

variable {C : Type} [DecidableEq C] {settings : OidcSettings} {request : C → Visit}

/-- A login in the trace has kept this value under the key. -/
def Issued (request : C → Visit) (trace : Pool.Trace stateSignature C) (key raw : String) : Prop :=
  ∃ caller login answer, request caller = .login login ∧ key = stateKey login.state ∧
    raw = stateValue login.codeVerifier login.redirectAfter ∧ (caller, ⟨.setex key stateTTL raw, answer⟩) ∈ trace

omit [DecidableEq C] in
theorem Issued.append {trace : Pool.Trace stateSignature C} {key raw : String} (issued : Issued request trace key raw)
    (later : Pool.Trace stateSignature C) : Issued request (trace ++ later) key raw := by
  obtain ⟨caller, login, answer, asked, named, kept, member⟩ := issued
  exact ⟨caller, login, answer, asked, named, kept, List.mem_append_left _ member⟩

/-- A visit is in one of these stages, and a callback has only read what a login has kept. -/
inductive VisitStage (settings : OidcSettings) (request : C → Visit) (trace : Pool.Trace stateSignature C) :
    Visit → StateProgram Reply → Prop where
  | begun (visit : Visit) : VisitStage settings request trace visit (visitProgram settings visit)
  | checked (callback : Callback) (raw : String) (issued : Issued request trace (stateKey callback.state) raw) :
      VisitStage settings request trace (.callback callback)
        (repliesWith (spend settings.keycloakCallbackURL callback raw))
  | deleted (callback : Callback) (raw : String) (issued : Issued request trace (stateKey callback.state) raw) :
      VisitStage settings request trace (.callback callback)
        (repliesWith (redeem settings.keycloakCallbackURL callback raw))
  | redirected (login : Login) :
      VisitStage settings request trace (.login login) (.done (.redirect (login.address settings)))
  | ended (callback : Callback) (tokens : TokenSet) :
      VisitStage settings request trace (.callback callback) (.done (.tokens tokens))
  | failed (visit : Visit) (fault : CallbackFault) : VisitStage settings request trace visit (.raise fault)

/-- The exchange has the verifier that a login with this state has kept before. -/
inductive Bound (settings : OidcSettings) (request : C → Visit) (trace : Pool.Trace stateSignature C) :
    Visit → StateStep → Prop where
  | exchange (callback : Callback) (login : Login)
      (issued : Issued request trace (stateKey callback.state) (stateValue login.codeVerifier login.redirectAfter)) :
      Bound settings request trace (.callback callback)
        (.exchangeCode callback.code settings.keycloakCallbackURL login.codeVerifier)
  | other (visit : Visit) (step : StateStep) (plain : step.exchanges = false) : Bound settings request trace visit step

omit [DecidableEq C] in
theorem VisitStage.append {trace : Pool.Trace stateSignature C} {visit : Visit} {program : StateProgram Reply}
    (stage : VisitStage settings request trace visit program) (later : Pool.Trace stateSignature C) :
    VisitStage settings request (trace ++ later) visit program := by
  cases stage with
  | begun visit => exact .begun visit
  | checked callback raw issued => exact .checked callback raw (issued.append later)
  | deleted callback raw issued => exact .deleted callback raw (issued.append later)
  | redirected login => exact .redirected login
  | ended callback tokens => exact .ended callback tokens
  | failed visit fault => exact .failed visit fault

/-- An entry of the store was there before, or the step has set it. -/
theorem Responds.origin {step : StateStep} {states later : States} {answer : step.Answer}
    (answered : Responds step states answer later) {key raw : String} (kept : later key = some raw) :
    states key = some raw ∨ ∃ lifetime, step = .setex key lifetime raw := by
  have faded {first second : States} (fades : Fades first second) (present : second key = some raw) :
      first key = some raw := by
    rcases fades key with same | gone
    · rw [← same, present]
    · rw [gone] at present
      cases present
  have updated {other value : String} (lifetime : Nat)
      (present : Function.update states other (some value) key = some raw) :
      states key = some raw ∨ ∃ duration, StateStep.setex other lifetime value = .setex key duration raw := by
    by_cases same : key = other
    · subst same
      rw [Function.update_self] at present
      cases present
      exact .inr ⟨lifetime, rfl⟩
    · rw [Function.update_of_ne same] at present
      exact .inl present
  cases answered with
  | set other lifetime value fades => exact updated lifetime (faded fades kept)
  | setLost other lifetime value fades =>
      rcases fades with unset | set
      · exact .inl (faded unset kept)
      · exact updated lifetime (faded set kept)
  | got other fades => exact .inl (faded fades kept)
  | getLost other fades => exact .inl (faded fades kept)
  | deleted other fades gone => exact .inl (faded fades kept)
  | deleteLost other fades => exact .inl (faded fades kept)
  | exchanged code redirectURI codeVerifier answer fades => exact .inl (faded fades kept)

/-- The entries of the store were issued, the visits are in their stages, and the exchanges of the trace are bound. -/
structure VisitsSound (settings : OidcSettings) (request : C → Visit) (trace : Pool.Trace stateSignature C)
    (pool : Visits C) : Prop where
  stored : ∀ key raw, pool.world key = some raw → Issued request trace key raw
  stages : ∀ call, VisitStage settings request trace (request call) (pool.program call)
  bound : ∀ earlier label later, trace = earlier ++ label :: later →
    Bound settings request earlier (request label.1) label.2.operation

variable {trace : Pool.Trace stateSignature C}

omit [DecidableEq C] in
/-- Only a login sets an entry, and it does so with its own state and verifier. -/
theorem VisitStage.issues {visit : Visit} {program : StateProgram Reply}
    (stage : VisitStage settings request trace visit program) {key value : String} {lifetime : Nat}
    {next : Option Unit → StateProgram Reply} (awaits : program = .perform (.setex key lifetime value) next) :
    ∃ login, visit = .login login ∧ key = stateKey login.state ∧ lifetime = stateTTL ∧
      value = stateValue login.codeVerifier login.redirectAfter := by
  cases stage with
  | begun visit =>
      cases visit with
      | login login =>
          cases awaits
          exact ⟨login, rfl, rfl, rfl, rfl⟩
      | callback callback => cases awaits
  | checked callback raw issued => cases awaits
  | deleted callback raw issued =>
      unfold redeem at awaits
      split at awaits
      · cases awaits
      · cases awaits
  | redirected login => cases awaits
  | ended callback tokens => cases awaits
  | failed visit fault => cases awaits

omit [DecidableEq C] in
/-- An exchange has the verifier of the login that has kept the value. -/
theorem VisitStage.bound {visit : Visit} {program : StateProgram Reply}
    (stage : VisitStage settings request trace visit program) {step : StateStep}
    {next : step.Answer → StateProgram Reply} (awaits : program = .perform step next) :
    Bound settings request trace visit step := by
  cases stage with
  | begun visit =>
      cases visit with
      | login login =>
          cases awaits
          exact .other _ _ rfl
      | callback callback =>
          cases awaits
          exact .other _ _ rfl
  | checked callback raw issued =>
      cases awaits
      exact .other _ _ rfl
  | deleted callback raw issued =>
      have kept := issued
      obtain ⟨caller, login, answer, asked, named, rfl, member⟩ := issued
      unfold redeem at awaits
      rw [verifierOf_login login.bar_notMem] at awaits
      cases awaits
      exact .exchange callback login kept
  | redirected login => cases awaits
  | ended callback tokens => cases awaits
  | failed visit fault => cases awaits

omit [DecidableEq C] in
theorem VisitStage.next {visit : Visit} {program : StateProgram Reply}
    (stage : VisitStage settings request trace visit program) {step : StateStep}
    {next : step.Answer → StateProgram Reply} (awaits : program = .perform step next) {states later : States}
    {answer : step.Answer} (answered : Responds step states answer later)
    (stored : ∀ key raw, later key = some raw → Issued request trace key raw) :
    VisitStage settings request trace visit (next answer) := by
  cases stage with
  | begun visit =>
      cases visit with
      | login login =>
          cases awaits
          cases answer with
          | none => exact .failed _ _
          | some set => exact .redirected login
      | callback callback =>
          cases awaits
          cases answered with
          | getLost key fades => exact .failed _ _
          | got key fades =>
              cases found : later (stateKey callback.state) with
              | none => exact .failed _ _
              | some raw =>
                  dsimp only
                  by_cases empty : raw = ""
                  · rw [if_pos empty]
                    exact .failed _ _
                  · rw [if_neg empty]
                    exact .checked callback raw (stored _ raw found)
  | checked callback raw issued =>
      cases awaits
      cases answer with
      | none => exact .failed _ _
      | some deleted => exact .deleted callback raw issued
  | deleted callback raw issued =>
      unfold redeem at awaits
      split at awaits
      · cases awaits
      · cases awaits
        cases answer with
        | ok tokens => exact .ended _ _
        | error raised => exact .failed _ _
  | redirected login => cases awaits
  | ended callback tokens => cases awaits
  | failed visit fault => cases awaits

theorem VisitsSound.step {pool next : Visits C} {label : C × StateEvent}
    (sound : VisitsSound settings request trace pool) (taken : Pool.Step Responds pool label next) :
    VisitsSound settings request (trace ++ [label]) next := by
  cases taken with
  | perform call step answer rest world awaits answered =>
      have stored : ∀ key raw, world key = some raw →
          Issued request (trace ++ [(call, (⟨step, answer⟩ : StateEvent))]) key raw := by
        intro key raw kept
        rcases answered.origin kept with old | ⟨lifetime, rfl⟩
        · exact (sound.stored key raw old).append _
        · obtain ⟨login, asked, named, rfl, value⟩ := (sound.stages call).issues awaits
          exact ⟨call, login, answer, asked, named, value, List.mem_append_right _ (List.mem_singleton_self _)⟩
      refine ⟨stored, fun other => ?_, ?_⟩
      · by_cases same : other = call
        · subst same
          dsimp only
          rw [Function.update_self]
          exact ((sound.stages other).append _).next awaits answered stored
        · dsimp only
          rw [Function.update_of_ne same]
          exact (sound.stages other).append _
      · intro earlier entry later split
        rcases List.eq_nil_or_concat later with rfl | ⟨others, last, rfl⟩
        · obtain ⟨rfl, last⟩ := List.append_inj' split rfl
          obtain rfl := List.cons.inj last |>.1
          exact (sound.stages call).bound awaits
        · rw [List.concat_eq_append, ← List.cons_append, ← List.append_assoc] at split
          exact sound.bound earlier entry others (List.append_inj' split rfl).1

omit [DecidableEq C] in
theorem visitsSound_fresh (settings : OidcSettings) (request : C → Visit) :
    VisitsSound settings request [] (Visits.fresh settings request) where
  stored := nofun
  stages call := .begun (request call)
  bound earlier label later split := by simp at split

omit [DecidableEq C] in
theorem VisitStage.reply {login : Login} {program : StateProgram Reply}
    (stage : VisitStage settings request trace (.login login) program) {reply : Reply} (ended : program = .done reply) :
    reply = .redirect (login.address settings) := by
  cases stage with
  | begun visit => cases ended
  | redirected login =>
      cases ended
      rfl
  | failed visit fault => cases ended

variable {moments earlier later : List (Moment (Visits C) (C × StateEvent))} {moment : Moment (Visits C) (C × StateEvent)}
  {final : Visits C} {caller : C} {code redirectURI codeVerifier : String} {answer : Except Raised TokenSet}

/-- In every interleaving, a code is exchanged with the verifier that a login with the state of the callback has kept
before, and that login has sent the browser to the identity provider with the challenge of the verifier. -/
theorem exchanged_verifier_drawn
    (run : Runs (Pool.Step Responds) (Visits.fresh settings request) moments final)
    (split : moments = earlier ++ moment :: later)
    (exchanged : moment.label = (caller, ⟨.exchangeCode code redirectURI codeVerifier, answer⟩)) :
    ∃ callback sender login kept,
      request caller = .callback callback ∧ callback.code = code ∧ request sender = .login login ∧
      (sender, ⟨.setex (stateKey callback.state) stateTTL (stateValue codeVerifier login.redirectAfter), kept⟩) ∈
        traceOf earlier ∧
      codeVerifier.length = 86 ∧ (∀ c ∈ codeVerifier.toList, isAddressLetter c = true) ∧
      ∀ reply, final.program sender = .done reply → ∃ query,
        reply = .redirect (authURL settings ++ "?" ++ query) ∧
          parseQsl query =
            (authorizationParams settings redirectURI callback.state (s256 codeVerifier)).filter (·.2 ≠ "") := by
  have sound := (run.keeps_history (VisitsSound settings request) (fun _ _ _ _ taken sound => sound.step taken) []
    (visitsSound_fresh settings request)).1
  rw [List.nil_append] at sound
  have bound := sound.bound (traceOf earlier) moment.label (traceOf later) (by rw [split, List.map_append, List.map_cons])
  rw [exchanged] at bound
  generalize request caller = visit at bound ⊢
  cases bound with
  | other visit step plain => cases plain
  | exchange callback login issued =>
      obtain ⟨sender, other, kept, asked, named, value, member⟩ := issued
      have same : login.codeVerifier = other.codeVerifier := by
        have read := verifierOf_login login.bar_notMem login.redirectAfter
        rw [value, verifierOf_login other.bar_notMem] at read
        exact (Option.some.inj read).symm
      refine ⟨callback, sender, other, kept, rfl, rfl, asked, ?_, login.verifierToken.length_urlsafe,
        login.verifier_letters, fun reply ended => ?_⟩
      · rw [value, ← same] at member
        exact member
      · have stage := sound.stages sender
        rw [asked] at stage
        refine ⟨_, (stage.reply ended).trans rfl, ?_⟩
        rw [parseQsl_urlencode, stateKey_inj named, same]
        rfl

end Exchanges

section Schedules

def localSettings : OidcSettings where
  keycloakURL := "https://auth.pxtly.io"
  keycloakRealm := "pxtly"
  keycloakClientID := "pxtly-api"
  keycloakCallbackURL := "https://pxtly.io/api/v1/auth/callback"

def blankToken (count : Nat) : TokenBytes count := ⟨List.replicate count 0, List.length_replicate⟩

/-- The page of the login contains a bar. -/
def barLogin : Login := ⟨blankToken 32, blankToken 64, "/vault|list"⟩

/-- The callback carries the state of the login. -/
def loginThenCallback (login : Bool) : Visit :=
  if login then .login barLogin else .callback ⟨"code-1", barLogin.state⟩

def visitsOf (schedule : List Bool) :=
  Pool.record respond (Visits.fresh localSettings loginThenCallback) schedule

set_option maxRecDepth 20000 in
theorem drawnVerifier_exchanged :
    ∃ callback sender login kept,
      loginThenCallback false = .callback callback ∧ callback.code = "code-1" ∧
      loginThenCallback sender = .login login ∧
      (sender, ⟨.setex (stateKey callback.state) stateTTL (stateValue barLogin.codeVerifier login.redirectAfter), kept⟩) ∈
        traceOf (visitsOf [true, false, false]).1 ∧
      barLogin.codeVerifier.length = 86 ∧ (∀ c ∈ barLogin.codeVerifier.toList, isAddressLetter c = true) ∧
      ∀ reply, (visitsOf [true, false, false, false]).2.program sender = .done reply → ∃ query,
        reply = .redirect (authURL localSettings ++ "?" ++ query) ∧
          parseQsl query = (authorizationParams localSettings "https://pxtly.io/api/v1/auth/callback" callback.state
            (s256 barLogin.codeVerifier)).filter (·.2 ≠ "") :=
  @exchanged_verifier_drawn Bool _ localSettings loginThenCallback (visitsOf [true, false, false, false]).1
    (visitsOf [true, false, false]).1 []
    ⟨(visitsOf [true, false, false]).2,
      (false, ⟨.exchangeCode "code-1" "https://pxtly.io/api/v1/auth/callback" barLogin.codeVerifier,
        .ok [("access_token", .string "code-1")]⟩)⟩
    (visitsOf [true, false, false, false]).2 false "code-1" "https://pxtly.io/api/v1/auth/callback"
    barLogin.codeVerifier (.ok [("access_token", .string "code-1")])
    (Pool.runs_record respond responds_respond (Visits.fresh localSettings loginThenCallback) [true, false, false, false])
    rfl rfl

end Schedules

end Pxtly.Auth.LoginStates
