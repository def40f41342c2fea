/-
This file gives the login over the browser: the address that the command line opens, the redirects that it catches, and the
code that it redeems.
-/

import Pxtly.Cli.Commands
import Pxtly.Foundation.Base64
import Pxtly.Foundation.FormTexts

namespace Pxtly.Cli

open Foundation Program

section Loopback

/-- This is `urlparse(path).query`; the path of a request contains no white space. -/
def queryOf (path : String) : String :=
  String.ofList (((path.toList.takeWhile (· ≠ '#')).dropWhile (· ≠ '?')).drop 1)

/-- These are the variables of the class, which outlive a login. -/
structure CallbackHandler where
  receivedQuery : String → List String
  done : Bool

/-- The last request counts. -/
def CallbackHandler.doGet (_ : CallbackHandler) (path : String) : CallbackHandler := ⟨parseQs (queryOf path), true⟩

def CallbackHandler.reset (_ : CallbackHandler) : CallbackHandler := ⟨fun _ => [], false⟩

/-- The query must carry the state of the login and a code. -/
def codeOf (state : String) (query : String → List String) : Except String String :=
  match query "error" with
  | reason :: _ => .error ("Keycloak refused the request: " ++ reason)
  | [] =>
      if (query "state").head?.getD "" ≠ state then .error "State mismatch — possible CSRF, refusing tokens."
      else
        let code := (query "code").head?.getD ""
        if code = "" then .error "No `code` returned by Keycloak." else .ok code

end Loopback

section Attempts

/-- A login has a free port and draws two tokens. -/
structure LoginAttempt where
  port : Nat
  verifierToken : TokenBytes 64
  stateToken : TokenBytes 32

namespace LoginAttempt

variable (attempt : LoginAttempt)

def redirectURI : String := "http://127.0.0.1:" ++ toString attempt.port ++ "/callback"
def verifier : String := b64url attempt.verifierToken.bytes
def challenge : String := s256 attempt.verifier
def state : String := b64url attempt.stateToken.bytes

variable (conversions : Conversions) (settings : Settings)

def authorizationParams : List (String × String) :=
  [("response_type", "code"), ("client_id", settings.keycloakClientID), ("redirect_uri", attempt.redirectURI),
    ("scope", "openid profile email"), ("state", attempt.state), ("code_challenge", attempt.challenge),
    ("code_challenge_method", "S256")]

def authorizationURL : String :=
  rstrip settings.keycloakURL ++ "/realms/" ++ settings.keycloakRealm ++ "/protocol/openid-connect/auth" ++ "?" ++
    urlencode (attempt.authorizationParams settings)

/-- The code that the login takes from the requests to its port, whatever an earlier login has left behind. -/
def caught (left : CallbackHandler) (requests : List String) : Option (Except String String) :=
  let handler := requests.foldl CallbackHandler.doGet left.reset
  if handler.done then some (codeOf attempt.state handler.receivedQuery) else none

/-- This is the login; without a request it times out. -/
def login (left : CallbackHandler) (requests : List String) : CliProgram TokenBundle :=
  match attempt.caught left requests with
  | none => .raise .other
  | some (.error _) => .raise .runtimeError
  | some (.ok code) => loginPKCE conversions settings code attempt.redirectURI attempt.verifier

end LoginAttempt

end Attempts

section Catching

variable {attempt : LoginAttempt} {left : CallbackHandler} {requests : List String}

theorem foldl_doGet (handler : CallbackHandler) (requests : List String) :
    requests.foldl CallbackHandler.doGet handler =
      (requests.getLast?.map fun path => ⟨parseQs (queryOf path), true⟩).getD handler := by
  induction requests using List.reverseRecOn with
  | nil => rfl
  | append_singleton requests path inductionHypothesis => simp [CallbackHandler.doGet]

/-- Only the last request counts. -/
theorem caught_eq (attempt : LoginAttempt) (left : CallbackHandler) (requests : List String) :
    attempt.caught left requests = requests.getLast?.map fun path => codeOf attempt.state (parseQs (queryOf path)) := by
  unfold LoginAttempt.caught
  rw [foldl_doGet]
  cases requests.getLast? <;> rfl

theorem LoginAttempt.state_ne_empty (attempt : LoginAttempt) : attempt.state ≠ "" := by
  intro empty
  have counted : attempt.state.length = 43 := attempt.stateToken.length_urlsafe
  rw [empty] at counted
  exact absurd counted (by decide)

theorem LoginAttempt.stateToken_of_state {attempt other : LoginAttempt} (same : attempt.state = other.state) :
    attempt.stateToken.bytes = other.stateToken.bytes := b64url_injective same

/-- A code is taken from a query without an error that carries the state. -/
theorem codeOf_eq_ok {state code : String} (present : state ≠ "") {query : String → List String} :
    codeOf state query = .ok code ↔
      query "error" = [] ∧ (query "state").head? = some state ∧ (query "code").head? = some code ∧ code ≠ "" := by
  unfold codeOf
  cases query "error" with
  | cons reason rest => simp
  | nil =>
      dsimp only
      cases (query "state").head? with
      | none => simp [Ne.symm present]
      | some first =>
          by_cases same : first = state
          · cases (query "code").head? with
            | none => simp [same]
            | some found =>
                by_cases empty : found = ""
                · simp only [same, empty, Option.getD_some, ne_eq, not_true_eq_false, if_false, if_true, reduceCtorEq,
                    Option.some.injEq, true_and, false_iff, not_and, not_not]
                  exact Eq.symm
                · simp only [same, empty, Option.getD_some, ne_eq, not_true_eq_false, if_false, Except.ok.injEq,
                    Option.some.injEq, true_and]
                  exact ⟨fun eq => ⟨eq, eq ▸ empty⟩, And.left⟩
          · simp [same]

end Catching

section Redirects

/-- The first value of the name that is not empty. -/
def firstValue (params : List (String × String)) (name : String) : Option String :=
  (params.find? fun param => param.1 = name ∧ param.2 ≠ "").map Prod.snd

theorem head_parseQs_urlencode (params : List (String × String)) (name : String) :
    (parseQs (urlencode params) name).head? = firstValue params name := by
  rw [parseQs, parseQsl_urlencode, firstValue]
  induction params with
  | nil => rfl
  | cons param rest inductionHypothesis =>
      by_cases blank : param.2 = ""
      · simpa [blank] using inductionHypothesis
      · by_cases same : param.1 = name
        · simp [blank, same]
        · simpa [blank, same] using inductionHypothesis

theorem parseQs_urlencode_eq_nil (params : List (String × String)) (name : String) :
    parseQs (urlencode params) name = [] ↔ firstValue params name = none := by
  rw [← head_parseQs_urlencode, List.head?_eq_none_iff]

/-- The identity provider sends the browser to the port with such a path. -/
def redirectPath (params : List (String × String)) : String := "/callback?" ++ urlencode params

theorem queryOf_redirectPath (params : List (String × String)) : queryOf (redirectPath params) = urlencode params := by
  have plain : ∀ c ∈ (urlencode params).toList, decide (c ≠ '#') = true := by
    intro c member
    rw [decide_eq_true_eq]
    rintro rfl
    rcases isQuoted_urlencode params member with quoted | equals | ampersand
    · exact absurd quoted (by decide)
    · exact absurd equals (by decide)
    · exact absurd ampersand (by decide)
  have whole : (redirectPath params).toList = "/callback?".toList ++ (urlencode params).toList := String.toList_append
  have front : ∀ c ∈ "/callback?".toList, decide (c ≠ '#') = true := List.all_eq_true.mp (by decide)
  rw [queryOf, whole, List.takeWhile_append_of_pos front, List.takeWhile_eq_self_iff.mpr plain]
  change String.ofList (urlencode params).toList = _
  rw [String.ofList_toList]

/-- From a redirect of the identity provider, the login takes the code exactly when the redirect reports no error and
carries the state of the login and a code. -/
theorem caught_redirect_iff (attempt : LoginAttempt) (left : CallbackHandler) (earlier : List String)
    (params : List (String × String)) (code : String) :
    attempt.caught left (earlier ++ [redirectPath params]) = some (.ok code) ↔
      firstValue params "error" = none ∧ firstValue params "state" = some attempt.state ∧
        firstValue params "code" = some code := by
  have present : firstValue params "code" = some code → code ≠ "" := by
    intro found
    obtain ⟨param, member, rfl⟩ := Option.map_eq_some_iff.mp found
    have named := List.find?_some member
    rw [decide_eq_true_eq] at named
    exact named.2
  rw [caught_eq, List.getLast?_concat, Option.map_some, Option.some.injEq, queryOf_redirectPath,
    codeOf_eq_ok attempt.state_ne_empty, parseQs_urlencode_eq_nil, head_parseQs_urlencode, head_parseQs_urlencode]
  constructor
  · rintro ⟨faultless, state, found, -⟩
    exact ⟨faultless, state, found⟩
  · rintro ⟨faultless, state, found⟩
    exact ⟨faultless, state, found, present found⟩

/-- A redirect with the state of another login leaves nothing to redeem. -/
theorem caught_other_redirect {attempt other : LoginAttempt} (apart : attempt.stateToken.bytes ≠ other.stateToken.bytes)
    (left : CallbackHandler) (earlier : List String) {params : List (String × String)}
    (carried : firstValue params "state" = some other.state) (code : String) :
    attempt.caught left (earlier ++ [redirectPath params]) ≠ some (.ok code) := by
  rw [caught_eq, List.getLast?_concat, Option.map_some, ne_eq, Option.some.injEq, queryOf_redirectPath,
    codeOf_eq_ok attempt.state_ne_empty, head_parseQs_urlencode, carried, Option.some.injEq]
  rintro ⟨-, own, -⟩
  exact apart (LoginAttempt.stateToken_of_state own).symm

end Redirects

section Redemption

variable {conversions : Conversions} {settings : Settings} {call : Call}

/-- Such a step sends nothing but the call, and without a session. -/
def CliStep.SendsOnly (call : Call) : CliStep → Prop
  | .send other authorization => other = call ∧ authorization = none
  | _ => True

theorem CliStep.SendsNothing.sendsOnly {step : CliStep} (silent : step.SendsNothing) : step.SendsOnly call := by
  cases step with
  | send other authorization => exact silent.elim
  | _ => trivial

theorem CliStep.Quiet.sendsOnly {step : CliStep} (quiet : step.Quiet) : step.SendsOnly call :=
  quiet.sendsNothing.sendsOnly

theorem transmit_within (skips : call.skipAuth = true) :
    (transmit conversions settings call).Within (CliStep.SendsOnly call) := by
  unfold transmit
  rw [if_pos skips]
  refine Within.bind ⟨⟨rfl, rfl⟩, fun delivery => trivial⟩ fun sent => ?_
  split <;> trivial

theorem attempts_within (skips : call.skipAuth = true) (left : Nat) (last : Option APIError) :
    (attempts conversions settings call left last).Within (CliStep.SendsOnly call) := by
  have waits (left : Nat) : (backoff left).Within (CliStep.SendsOnly call) :=
    (backoff_quiet left).mono fun _ => CliStep.Quiet.sendsOnly
  induction left generalizing last with
  | zero => exact (serveCached_quiet last).mono fun _ => CliStep.Quiet.sendsOnly
  | succ left inductionHypothesis =>
      refine (transmit_within skips).bind fun sent => ?_
      split
      · trivial
      · exact (waits left).bind fun _ => inductionHypothesis _
      · exact (serveCached_quiet _).mono fun _ => CliStep.Quiet.sendsOnly
      · next response =>
          split
          · exact (waits left).bind fun _ => inductionHypothesis _
          · split
            · split
              · exact (waits left).bind fun _ => inductionHypothesis _
              · trivial
            · refine Within.bind ⟨trivial, fun _ => trivial⟩ fun _ => ?_
              exact ((writeThrough_silent response).mono fun _ => CliStep.SendsNothing.sendsOnly).bind fun _ => trivial

theorem grant_within (form : List (String × Json)) :
    (grant conversions settings form).Within (CliStep.SendsOnly (tokenCall (kcTokenURL settings) form)) := by
  refine (attempts_within rfl retryAttempts none).bind fun served => ?_
  refine Within.bind ?_ fun body => ?_
  · unfold jsonOf
    split
    · split <;> trivial
    · trivial
  · refine ((fromOIDCResponse_quiet body).mono fun _ => CliStep.Quiet.sendsOnly).bind fun bundle => ?_
    exact ((saveTokenBundle_quiet bundle).mono fun _ => CliStep.Quiet.sendsOnly).bind fun _ => trivial

/-- The call redeems the code of a query that carries the state of the login, with the address and the verifier of the
login. -/
structure Redeems (settings : Settings) (attempt : LoginAttempt) (query : String → List String) (code : String)
    (call : Call) : Prop where
  faultless : query "error" = []
  state : (query "state").head? = some attempt.state
  found : (query "code").head? = some code
  present : code ≠ ""
  form : call = tokenCall (kcTokenURL settings) (withSecret settings [("grant_type", .string "authorization_code"),
    ("client_id", .string settings.keycloakClientID), ("code", .string code),
    ("redirect_uri", .string attempt.redirectURI), ("code_verifier", .string attempt.verifier)])

/-- The browser takes the address of the login and the challenge of its verifier to the identity provider. -/
def Announced (settings : Settings) (attempt : LoginAttempt) : Prop :=
  ∃ query, attempt.authorizationURL settings = rstrip settings.keycloakURL ++ "/realms/" ++ settings.keycloakRealm ++
      "/protocol/openid-connect/auth" ++ "?" ++ query ∧
    parseQsl query =
      [("response_type", "code"), ("client_id", settings.keycloakClientID), ("redirect_uri", attempt.redirectURI),
        ("scope", "openid profile email"), ("state", attempt.state), ("code_challenge", s256 attempt.verifier),
        ("code_challenge_method", "S256")].filter (·.2 ≠ "")

variable {attempt : LoginAttempt} {left : CallbackHandler} {requests : List String} {events : List CliEvent}
  {outcome : Except CliFault TokenBundle} {authorization : Option String} {delivery : Delivery}

/-- Whatever requests reach the port, all that the login ever sends is the code of a query that carries its state, along
with the address and the verifier whose challenge the browser has taken to the identity provider. -/
theorem redeems_own_code (executed : Executes (attempt.login conversions settings left requests) events outcome)
    (sent : ⟨.send call authorization, delivery⟩ ∈ events) :
    Announced settings attempt ∧ authorization = none ∧
      ∃ path code, requests.getLast? = some path ∧ Redeems settings attempt (parseQs (queryOf path)) code call := by
  unfold LoginAttempt.login at executed
  rw [caught_eq] at executed
  cases ended : requests.getLast? with
  | none =>
      rw [ended] at executed
      obtain ⟨rfl, _⟩ := executed
      cases sent
  | some path =>
      rw [ended, Option.map_some] at executed
      cases taken : codeOf attempt.state (parseQs (queryOf path)) with
      | error message =>
          rw [taken] at executed
          obtain ⟨rfl, _⟩ := executed
          cases sent
      | ok code =>
          rw [taken] at executed
          obtain ⟨faultless, state, found, present⟩ := (codeOf_eq_ok attempt.state_ne_empty).mp taken
          obtain ⟨rfl, rfl⟩ := (grant_within _).events executed _ sent
          exact ⟨⟨_, rfl, parseQsl_urlencode _⟩, rfl, path, code, rfl, faultless, state, found, present, rfl⟩

end Redemption

section Samples

def blankAttempt : LoginAttempt where
  port := 49152
  verifierToken := ⟨List.replicate 64 0, List.length_replicate⟩
  stateToken := ⟨List.replicate 32 0, List.length_replicate⟩

def blankRedirect : String := redirectPath [("state", blankAttempt.state), ("code", "code 1")]

def loginSettings : Settings :=
  ⟨"http://10.10.10.150:8000/api/v1", "https://10.10.10.150:8443/", "pxtly", "pxtly-api", none⟩

def blankConversions : Conversions := ⟨fun _ => true, fun _ => "", fun _ => none⟩

def blankForm : List (String × Json) :=
  [("grant_type", .string "authorization_code"), ("client_id", .string "pxtly-api"), ("code", .string "code 1"),
    ("redirect_uri", .string blankAttempt.redirectURI), ("code_verifier", .string blankAttempt.verifier)]

theorem caught_blankRedirect (left : CallbackHandler) :
    blankAttempt.caught left [blankRedirect] = some (.ok "code 1") := by
  rw [caught_eq, List.getLast?_singleton, Option.map_some, blankRedirect, queryOf_redirectPath, Option.some.injEq,
    codeOf_eq_ok blankAttempt.state_ne_empty, parseQs_urlencode_eq_nil, head_parseQs_urlencode, head_parseQs_urlencode]
  simp [firstValue, blankAttempt.state_ne_empty]

/-- The identity provider does not answer. -/
theorem blankCode_redeemed :
    Announced loginSettings blankAttempt ∧ (none : Option String) = none ∧
      ∃ path code, [blankRedirect].getLast? = some path ∧ Redeems loginSettings blankAttempt (parseQs (queryOf path)) code
        (tokenCall (kcTokenURL loginSettings) blankForm) := by
  refine @redeems_own_code blankConversions loginSettings (tokenCall (kcTokenURL loginSettings) blankForm)
    blankAttempt ⟨fun _ => [], true⟩ [blankRedirect]
    [⟨.send (tokenCall (kcTokenURL loginSettings) blankForm) none, (⟨.failed, false⟩ : Delivery)⟩] (.error .other) none
    ⟨.failed, false⟩ ?_ (List.mem_singleton_self _)
  rw [LoginAttempt.login, caught_blankRedirect]
  exact ⟨_, _, rfl, rfl, rfl⟩

end Samples

end Pxtly.Cli
