/-
This file gives the requests of the command line, with their session, their retries and their fallback to the cache.
-/

import Mathlib.Data.Rat.Defs
import Pxtly.Foundation.Program
import Pxtly.Foundation.Python

namespace Pxtly.Cli

open Foundation Program

/-- Python's `str` and `float` work in these ways on decoded values. -/
structure Conversions where
  printable : Char → Bool
  floatText : Float → String
  float : Json → Option Rat

def Conversions.str (conversions : Conversions) : Json → String
  | .string text => text
  | value => reprJson conversions.printable conversions.floatText value

structure Settings where
  apiURL : String
  keycloakURL : String
  keycloakRealm : String
  keycloakClientID : String
  keycloakClientSecret : Option String

/-- The arguments are the named ones that the HTTP client takes. -/
structure Call where
  method : String
  url : String
  cacheKey : Option String := none
  cacheTTL : Rat := 3600
  skipAuth : Bool := false
  arguments : List (String × Json) := []

/-- The fields come from the token endpoint and may be any values. -/
structure TokenBundle where
  accessToken : Json
  refreshToken : Json
  tokenType : Json
  expiresAt : Rat
  refreshExpiresAt : Rat
  scope : Json

/-- The keyring keeps the encoding of a bundle, for which the bundle stands, or another text. -/
inductive Stored where
  | bundle (bundle : TokenBundle)
  | corrupt

/-- A body that is not JSON has no value. -/
structure Response where
  status : Nat
  json : Option Json
  text : String

/-- The HTTP client answers, or it raises one of these exceptions. -/
inductive Sent where
  | response (response : Response)
  | timeout (message : String)
  | requestError (message : String)
  | failed

/-- The client sees the answer only, and not whether the server has executed the request. -/
structure Delivery where
  sent : Sent
  executed : Bool

inductive CliStep where
  | now
  | getPassword
  | setPassword (bundle : TokenBundle)
  | deletePassword
  | send (call : Call) (authorization : Option String)
  | post (url : String) (form : List (String × Json))
  | sleep (seconds : Nat)
  | setOnline (online : Bool)
  | cacheSet (key : String) (payload : Json) (ttl : Rat)
  | cacheGet (key : String)

/-- A keyring or a cache that does not answer has failed. -/
abbrev CliStep.Answer : CliStep → Type
  | .now => Rat
  | .getPassword => Option (Option Stored)
  | .setPassword _ => Option Unit
  | .deletePassword => Option Unit
  | .send .. => Delivery
  | .post .. => Sent
  | .sleep _ => Unit
  | .setOnline _ => Unit
  | .cacheSet .. => Option Unit
  | .cacheGet _ => Option (Option Json)

def cliSignature : Signature where
  Operation := CliStep
  Answer := CliStep.Answer

abbrev CliEvent := Program.Event cliSignature

inductive ErrorKind where
  | auth
  | notFound
  | validation
  | server
  | api
  | network
  deriving DecidableEq

structure APIError where
  kind : ErrorKind
  message : String
  statusCode : Option Nat := none
  deriving DecidableEq

inductive CliFault where
  | api (error : APIError)
  | runtimeError
  | other
  deriving DecidableEq

abbrev CliProgram (A : Type) := Program cliSignature CliFault A

def ask (step : CliStep) : CliProgram step.Answer := call (S := cliSignature) step

section Tokens

variable (conversions : Conversions) (settings : Settings)

def rstrip (text : String) : String := String.ofList (text.toList.reverse.dropWhile (· = '/')).reverse

def kcTokenURL : String :=
  rstrip settings.keycloakURL ++ "/realms/" ++ settings.keycloakRealm ++ "/protocol/openid-connect/token"

/-- A client with a secret adds it to its form. -/
def withSecret (form : List (String × Json)) : List (String × Json) :=
  match settings.keycloakClientSecret with
  | none => form
  | some secret => if secret = "" then form else form ++ [("client_secret", .string secret)]

def refreshForm (refreshToken : Json) : List (String × Json) :=
  withSecret settings [("grant_type", .string "refresh_token"), ("client_id", .string settings.keycloakClientID),
    ("refresh_token", refreshToken)]

def headerOf (bundle : TokenBundle) : String :=
  conversions.str bundle.tokenType ++ " " ++ conversions.str bundle.accessToken

/-- A body that is no object, lacks the access token or has a lifetime that is no number raises an exception. -/
def fromOIDCResponse (body : Json) : CliProgram TokenBundle := do
  let now ← ask .now
  match body with
  | .object members =>
      match dictGet members "access_token", conversions.float ((dictGet members "expires_in").getD (.integer 0)),
        conversions.float ((dictGet members "refresh_expires_in").getD (.integer 0)) with
      | some accessToken, some expiresIn, some refreshExpiresIn => return {
          accessToken
          refreshToken := (dictGet members "refresh_token").getD .null
          tokenType := (dictGet members "token_type").getD (.string "Bearer")
          expiresAt := now + expiresIn
          refreshExpiresAt := now + refreshExpiresIn
          scope := (dictGet members "scope").getD (.string "") }
      | _, _, _ => .raise .other
  | _ => .raise .other

def isRefreshExpired (bundle : TokenBundle) : CliProgram Bool :=
  if bundle.refreshExpiresAt = 0 ∨ truthy bundle.refreshToken = false then return true
  else do return decide (bundle.refreshExpiresAt - 30 ≤ (← ask .now))

def saveTokenBundle (bundle : TokenBundle) : CliProgram Unit := do
  match ← ask (.setPassword bundle) with
  | some () => return ()
  | none => .raise .runtimeError

/-- Errors of the keyring are only logged. -/
def deleteTokens : CliProgram Unit := do
  let _ ← ask .deletePassword
  return ()

def getTokenBundle : CliProgram (Option TokenBundle) := do
  match ← ask .getPassword with
  | none => return none
  | some none => return none
  | some (some (.bundle bundle)) => return some bundle
  | some (some .corrupt) => do
      deleteTokens
      return none

def attemptRefresh (bundle : TokenBundle) : CliProgram (Option TokenBundle) :=
  if truthy bundle.refreshToken = false then return none
  else do
    if ← isRefreshExpired bundle then return none
    else match ← ask (.post (kcTokenURL settings) (refreshForm settings bundle.refreshToken)) with
      | .timeout _ => return none
      | .requestError _ => return none
      | .failed => .raise .other
      | .response response =>
          if response.status ≠ 200 then return none
          else match response.json with
            | none => .raise .other
            | some body => do
                let newBundle ← fromOIDCResponse conversions body
                saveTokenBundle newBundle
                return some newBundle

def authFreePaths : List String := ["openid-connect/token", "openid-connect/auth", "/health"]

def contains (text part : String) : Bool := text.toList.tails.any part.toList.isPrefixOf

def isAuthFree (url : String) : Bool := authFreePaths.any (contains url)

def send (call : Call) (authorization : Option String) : CliProgram Sent := do return (← ask (.send call authorization)).sent

/-- The session of a request: a 401 leads to one refresh and, when it succeeds, to one more sending. -/
def authFlow (call : Call) : CliProgram Sent :=
  if isAuthFree call.url then send call none
  else do
    match ← getTokenBundle with
    | none => send call none
    | some bundle => do
        let sent ← send call (some (headerOf conversions bundle))
        match sent with
        | .response response =>
            if response.status ≠ 401 then return sent
            else match ← attemptRefresh conversions settings bundle with
              | none => do
                  deleteTokens
                  return sent
              | some newBundle => send call (some (headerOf conversions newBundle))
        | _ => return sent

end Tokens

section Requests

variable (conversions : Conversions) (settings : Settings)

def retryAttempts : Nat := 3
def retryableCodes : List Nat := [429, 500, 502, 503, 504]

def Response.isSuccess (response : Response) : Bool := 200 ≤ response.status && response.status ≤ 299

/-- The first of these members of the body that counts as true is the detail, or else the text of the response. -/
def detailOf (response : Response) : String :=
  let fallback := if response.text = "" then "HTTP " ++ toString response.status else response.text
  match response.json with
  | some (.object members) =>
      match (["detail", "error_description", "error"].filterMap (dictGet members)).find? truthy with
      | some detail => conversions.str detail
      | none => response.text
  | _ => fallback

def raiseForResponse (response : Response) : Except APIError Unit :=
  if response.isSuccess then .ok ()
  else
    let message := "[" ++ toString response.status ++ "] " ++ detailOf conversions response
    let error kind : APIError := ⟨kind, message, some response.status⟩
    if response.status = 401 ∨ response.status = 403 then .error (error .auth)
    else if response.status = 404 then .error (error .notFound)
    else if response.status = 400 ∨ response.status = 422 then .error (error .validation)
    else if 500 ≤ response.status then .error (error .server)
    else .error (error .api)

/-- A response comes from the server, or the cache stands in for it. -/
inductive Served where
  | live (response : Response)
  | cached (payload : Json)

def transmit (call : Call) : CliProgram Sent := do
  match ← (if call.skipAuth then send call none else authFlow conversions settings call) with
  | .failed => .raise .other
  | sent => return sent

/-- The client waits before it sends again, with `left` attempts to come. -/
def backoff (left : Nat) : CliProgram Unit :=
  if 0 < left then ask (.sleep (2 ^ (retryAttempts - 1 - left))) else return ()

/-- A cache that fails is only logged, and so is a body that is not JSON. -/
def writeThrough (call : Call) (response : Response) : CliProgram Unit :=
  match call.cacheKey, response.json with
  | some key, some payload => if key = "" then return () else do
      let _ ← ask (.cacheSet key payload call.cacheTTL)
      return ()
  | _, _ => return ()

def noCacheAvailable : APIError := ⟨.network, "Request failed — no cache available.", none⟩

/-- The cached value `null` counts as absent. -/
def serveCached (call : Call) (last : Option APIError) : CliProgram Served := do
  ask (.setOnline false)
  let failure : CliProgram Served := .raise (.api (last.getD noCacheAvailable))
  match call.cacheKey with
  | none => failure
  | some key =>
      if key = "" then failure
      else match ← ask (.cacheGet key) with
        | none => .raise .other
        | some none => failure
        | some (some .null) => failure
        | some (some payload) => return .cached payload

/-- `left` attempts are still to be made. -/
def attempts (call : Call) : (left : Nat) → (last : Option APIError) → CliProgram Served
  | 0, last => serveCached call last
  | left + 1, last => do
      match ← transmit conversions settings call with
      | .failed => .raise .other
      | .timeout message => do
          backoff left
          attempts call left (some ⟨.network, "Request timed out: " ++ message, none⟩)
      | .requestError message => serveCached call (some ⟨.network, "Network error: " ++ message, none⟩)
      | .response response =>
          if response.status ∈ retryableCodes ∧ 0 < left then do
            backoff left
            attempts call left last
          else match raiseForResponse conversions response with
            | .error error =>
                if error.kind = .server then do
                  backoff left
                  attempts call left (some error)
                else .raise (.api error)
            | .ok () => do
                ask (.setOnline true)
                writeThrough call response
                return .live response

def request (call : Call) : CliProgram Served := attempts conversions settings call retryAttempts none

end Requests

section Events

/-- Such a step neither reaches the API nor changes the cache. -/
def CliStep.Quiet : CliStep → Prop
  | .send .. => False
  | .cacheSet .. => False
  | _ => True

def deliveryOf : CliEvent → Option Delivery
  | ⟨.send _ _, delivery⟩ => some delivery
  | _ => none

/-- These are the requests that were sent to the API, in their order. -/
def deliveries (events : List CliEvent) : List Delivery := events.filterMap deliveryOf

@[simp] theorem deliveries_append (first second : List CliEvent) :
    deliveries (first ++ second) = deliveries first ++ deliveries second := List.filterMap_append

def CliStep.SendsNothing : CliStep → Prop
  | .send .. => False
  | _ => True

theorem CliStep.Quiet.sendsNothing {step : CliStep} (quiet : step.Quiet) : step.SendsNothing := by
  cases step <;> trivial

theorem deliveries_eq_nil {A : Type} {program : CliProgram A} {events : List CliEvent} {outcome : Except CliFault A}
    (silent : program.Within CliStep.SendsNothing) (executed : Executes program events outcome) : deliveries events = [] := by
  refine List.filterMap_eq_nil_iff.mpr fun event member => ?_
  have other := silent.events executed event member
  obtain ⟨step, answer⟩ := event
  cases step with
  | send call authorization => exact other.elim
  | _ => rfl

theorem deliveries_of_quiet {A : Type} {program : CliProgram A} {events : List CliEvent} {outcome : Except CliFault A}
    (quiet : program.Within CliStep.Quiet) (executed : Executes program events outcome) : deliveries events = [] :=
  deliveries_eq_nil (quiet.mono fun _ => CliStep.Quiet.sendsNothing) executed

variable {conversions : Conversions} {settings : Settings} {call : Call} {events : List CliEvent}

theorem saveTokenBundle_quiet (bundle : TokenBundle) : (saveTokenBundle bundle).Within CliStep.Quiet := by
  refine Within.bind ⟨trivial, fun _ => trivial⟩ fun answer => ?_
  cases answer <;> trivial

theorem fromOIDCResponse_quiet (body : Json) : (fromOIDCResponse conversions body).Within CliStep.Quiet := by
  refine Within.bind ⟨trivial, fun _ => trivial⟩ fun now => ?_
  split
  · split <;> trivial
  · trivial

theorem deleteTokens_quiet : deleteTokens.Within CliStep.Quiet := ⟨trivial, fun _ => trivial⟩

theorem getTokenBundle_quiet : getTokenBundle.Within CliStep.Quiet := by
  refine Within.bind ⟨trivial, fun _ => trivial⟩ fun answer => ?_
  split
  · trivial
  · trivial
  · trivial
  · exact deleteTokens_quiet.bind fun _ => trivial

theorem isRefreshExpired_quiet (bundle : TokenBundle) : (isRefreshExpired bundle).Within CliStep.Quiet := by
  unfold isRefreshExpired
  split
  · trivial
  · exact ⟨trivial, fun _ => trivial⟩

theorem attemptRefresh_quiet (bundle : TokenBundle) : (attemptRefresh conversions settings bundle).Within CliStep.Quiet := by
  unfold attemptRefresh
  split
  · trivial
  · refine (isRefreshExpired_quiet bundle).bind fun expired => ?_
    split
    · trivial
    · refine Within.bind ⟨trivial, fun _ => trivial⟩ fun answer => ?_
      split
      · trivial
      · trivial
      · trivial
      · split
        · trivial
        · split
          · trivial
          · refine (fromOIDCResponse_quiet _).bind fun newBundle => ?_
            exact (saveTokenBundle_quiet newBundle).bind fun _ => trivial

theorem backoff_quiet (left : Nat) : (backoff left).Within CliStep.Quiet := by
  unfold backoff
  split
  · exact ⟨trivial, fun _ => trivial⟩
  · trivial

theorem serveCached_quiet (last : Option APIError) : (serveCached call last).Within CliStep.Quiet := by
  refine Within.bind ⟨trivial, fun _ => trivial⟩ fun _ => ?_
  dsimp only
  split
  · trivial
  · split
    · trivial
    · refine Within.bind ⟨trivial, fun _ => trivial⟩ fun answer => ?_
      split <;> trivial

theorem writeThrough_silent (response : Response) : (writeThrough call response).Within CliStep.SendsNothing := by
  unfold writeThrough
  split
  · split
    · trivial
    · exact ⟨trivial, fun _ => trivial⟩
  · trivial

theorem executes_send {authorization : Option String} {outcome : Except CliFault Sent}
    (executed : Executes (send call authorization) events outcome) :
    ∃ delivery, outcome = .ok delivery.sent ∧ events = [⟨.send call authorization, delivery⟩] := by
  obtain ⟨delivery, later, rfl, rfl, rfl⟩ := executed
  exact ⟨delivery, rfl, rfl⟩

end Events

end Pxtly.Cli
