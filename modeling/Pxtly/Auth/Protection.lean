/-
This file gives what a request must present before the middleware hands it on, whatever the store and the token hold.
-/

import Pxtly.Auth.Middleware

namespace Pxtly.Auth.Protection

open Foundation Program

/-- The middleware tells a `ValueError` from the other exceptions. -/
inductive Raised where
  | valueError
  | other
  deriving DecidableEq

/-- The validation returns any dictionary. -/
abbrev Claims := List (String × Json)

/-- Python reads an integer from a text or a float in these ways, and writes a claim into a key. -/
structure Conversions where
  ofText : String → Option Int
  ofFloat : Float → Except Raised Int
  format : Json → String

/-- This is `int(value)`. -/
def Conversions.int (conversions : Conversions) : Json → Except Raised Int
  | .integer value => .ok value
  | .bool value => .ok (if value then 1 else 0)
  | .number value => conversions.ofFloat value
  | .string text => (conversions.ofText text).elim (.error .valueError) .ok
  | .null => .error .other
  | .array _ => .error .other
  | .object _ => .error .other

/-- The routes find this in the state of the request. -/
structure Session where
  keycloakSub : Json
  tokenPayload : Claims

inductive GateStep where
  | validateToken (token : String)
  | openRedis
  | get (key : String)
  | closeRedis
  | callNext (session : Option Session)

/-- The application answers with the status of its response. -/
abbrev GateStep.Answer : GateStep → Type
  | .validateToken _ => Except Raised Claims
  | .openRedis => Except Raised Unit
  | .get _ => Except Raised (Option String)
  | .closeRedis => Except Raised Unit
  | .callNext _ => Except Raised Nat

def gateSignature : Signature where
  Operation := GateStep
  Answer := GateStep.Answer

abbrev GateProgram (A : Type) := Program gateSignature Raised A

abbrev GateEvent := Program.Event gateSignature

def validateToken (token : String) : GateProgram Claims := .perform (.validateToken token) lift
def openRedis : GateProgram Unit := .perform .openRedis lift
def get (key : String) : GateProgram (Option String) := .perform (.get key) lift
def closeRedis : GateProgram Unit := .perform .closeRedis lift

inductive Reply where
  | refused (status : Nat) (error message : String)
  | answered (status : Nat)
  deriving DecidableEq

def callNext (session : Option Session) : GateProgram Reply :=
  .perform (.callNext session) fun answer => do return .answered (← lift answer)

def unauthorized (message : String) : Reply := .refused 401 "Unauthorized" message
def missingCredentials : Reply :=
  unauthorized "Missing credentials — provide Authorization: Bearer <token> or the session cookie."

def forbidden (message : String) : Reply := .refused 403 "Forbidden" message
def systemFault : Reply := .refused 500 "SystemFault" "Internal authentication error."

section Dispatch

variable (conversions : Conversions)

def Claims.get (payload : Claims) (name : String) (otherwise : Json) : Json := (dictGet payload name).getD otherwise

def tokenKey (payload : Claims) : String := blacklistKey (conversions.format (Claims.get payload "jti" (.string "")))
def subjectKey (payload : Claims) : String := invalidatedKey (conversions.format (Claims.get payload "sub" (.string "")))

/-- This is `int(payload.get("iat", 0))`. -/
def issuedAt (payload : Claims) : Except Raised Int := conversions.int (Claims.get payload "iat" (.integer 0))

/-- An empty text is no mark, and every other text must be that of an integer. -/
def invalidates (issued : Int) : Option String → Except Raised Bool
  | none => .ok false
  | some mark =>
      if mark = "" then .ok false
      else match conversions.ofText mark with
        | some instant => .ok (decide (issued ≤ instant))
        | none => .error .valueError

/-- This is the inner `try`, which tells whether the token has been revoked. -/
def readRevocation (payload : Claims) : GateProgram Bool := do
  openRedis
  let blacklisted ← get (tokenKey conversions payload)
  let userInvalidated ← get (subjectKey conversions payload)
  let issued ← lift (issuedAt conversions payload)
  if ← lift (invalidates conversions issued userInvalidated) then return true
  else return blacklisted.any (· ≠ "")

/-- The store is closed however the inner `try` ends. -/
def checkRevocation (payload : Claims) : GateProgram Bool := do
  let revoked ← (readRevocation conversions payload).attempt
  closeRedis
  lift revoked

/-- This is the outer `try`. -/
def authenticate (token : String) : GateProgram (Claims × Bool) := do
  let payload ← validateToken token
  let revoked ← checkRevocation conversions payload
  return (payload, revoked)

def dispatch (request : Request) : GateProgram Reply :=
  if isPublic request.path then callNext none
  else match extractToken request with
    | none => return missingCredentials
    | some (token, fromCookie) =>
        if token = "" then return missingCredentials
        else if fromCookie && request.method ∉ safeMethods && !csrfMatches request then
          return forbidden "CSRF token missing or invalid."
        else do
          match ← (authenticate conversions token).attempt with
          | .error .valueError => return unauthorized "Invalid or expired token."
          | .error .other => return systemFault
          | .ok (payload, revoked) =>
              if revoked then return unauthorized "Token has been revoked. Please log in again."
              else callNext (some ⟨Claims.get payload "sub" (.string ""), payload⟩)

end Dispatch

section Events

variable {conversions : Conversions} {payload : Claims} {events : List GateEvent}

theorem executes_get {key : String} {outcome : Except Raised (Option String)} :
    Executes (get key) events outcome ↔ events = [⟨.get key, outcome⟩] := by
  constructor
  · rintro ⟨answer, later, rfl, rest⟩
    obtain ⟨rfl, rfl⟩ := (executes_lift answer _ _).mp rest
    rfl
  · rintro rfl
    exact ⟨outcome, [], rfl, (executes_lift outcome _ _).mpr ⟨rfl, rfl⟩⟩

theorem executes_validateToken {token : String} {outcome : Except Raised Claims} :
    Executes (validateToken token) events outcome ↔ events = [⟨.validateToken token, outcome⟩] := by
  constructor
  · rintro ⟨answer, later, rfl, rest⟩
    obtain ⟨rfl, rfl⟩ := (executes_lift answer _ _).mp rest
    rfl
  · rintro rfl
    exact ⟨outcome, [], rfl, (executes_lift outcome _ _).mpr ⟨rfl, rfl⟩⟩

/-- A call of the application is the only event of its program. -/
theorem executes_callNext {session : Option Session} {outcome : Except Raised Reply}
    (executed : Executes (callNext session) events outcome) : ∃ answer, events = [⟨.callNext session, answer⟩] := by
  obtain ⟨answer, later, rfl, rest⟩ := executed
  rcases (executes_bind _ _ _ _).mp rest with ⟨fault, _, failed⟩ | ⟨first, second, status, rfl, lifted, ended⟩
  · obtain ⟨rfl, _⟩ := (executes_lift _ _ _).mp failed
    exact ⟨answer, rfl⟩
  · obtain ⟨rfl, _⟩ := (executes_lift _ _ _).mp lifted
    obtain ⟨rfl, _⟩ := ended
    exact ⟨answer, rfl⟩

/-- The store holds no mark of the token, and every mark of its subject is older than the token. -/
structure Unrevoked (conversions : Conversions) (payload : Claims) (events : List GateEvent) : Prop where
  token : ∃ mark, ⟨.get (tokenKey conversions payload), .ok mark⟩ ∈ events ∧ ∀ text, mark = some text → text = ""
  subject : ∃ mark issued, ⟨.get (subjectKey conversions payload), .ok mark⟩ ∈ events ∧
    issuedAt conversions payload = .ok issued ∧
    ∀ text, mark = some text → text ≠ "" → ∃ instant, conversions.ofText text = some instant ∧ instant < issued

/-- A mark that does not invalidate a token is empty or older. -/
theorem older_of_invalidates {issued : Int} {mark : Option String}
    (valid : invalidates conversions issued mark = .ok false) :
    ∀ text, mark = some text → text ≠ "" → ∃ instant, conversions.ofText text = some instant ∧ instant < issued := by
  rintro text rfl nonempty
  unfold invalidates at valid
  dsimp only at valid
  rw [if_neg nonempty] at valid
  cases read : conversions.ofText text with
  | none =>
      rw [read] at valid
      cases valid
  | some instant =>
      rw [read] at valid
      exact ⟨instant, rfl, not_le.mp (of_decide_eq_false (Except.ok.inj valid))⟩

theorem unrevoked_of_readRevocation (executed : Executes (readRevocation conversions payload) events (.ok false)) :
    Unrevoked conversions payload events := by
  obtain ⟨opening, afterOpening, _, rfl, _, opened⟩ := executes_bind_ok executed
  obtain ⟨_, afterToken, blacklisted, rfl, tokenRead, tokenKnown⟩ := executes_bind_ok opened
  obtain rfl := executes_get.mp tokenRead
  obtain ⟨_, afterSubject, mark, rfl, subjectRead, subjectKnown⟩ := executes_bind_ok tokenKnown
  obtain rfl := executes_get.mp subjectRead
  obtain ⟨_, afterIssued, issued, rfl, converted, issuedKnown⟩ := executes_bind_ok subjectKnown
  obtain ⟨rfl, issuedAt⟩ := (executes_lift _ _ _).mp converted
  obtain ⟨_, last, late, rfl, comparison, ended⟩ := executes_bind_ok issuedKnown
  obtain ⟨rfl, compared⟩ := (executes_lift _ _ _).mp comparison
  cases late with
  | true =>
      obtain ⟨_, contrary⟩ := ended
      cases contrary
  | false =>
      obtain ⟨rfl, clean⟩ := ended
      refine ⟨⟨blacklisted, by simp, ?_⟩, mark, issued, by simp, issuedAt.symm, older_of_invalidates compared.symm⟩
      rintro text rfl
      simpa using (Except.ok.inj clean).symm

theorem unrevoked_of_authenticate {token : String}
    (executed : Executes (authenticate conversions token) events (.ok (payload, false))) :
    ⟨.validateToken token, .ok payload⟩ ∈ events ∧ Unrevoked conversions payload events := by
  obtain ⟨_, afterToken, found, rfl, validated, known⟩ := executes_bind_ok executed
  obtain rfl := executes_validateToken.mp validated
  obtain ⟨_, last, revoked, rfl, checked, ended⟩ := executes_bind_ok known
  obtain ⟨rfl, same⟩ := ended
  obtain ⟨rfl, rfl⟩ := Prod.mk.inj (Except.ok.inj same)
  refine ⟨List.mem_append_left _ (List.mem_singleton_self _), ?_⟩
  obtain ⟨reads, afterReads, outcome, rfl, tried, closing⟩ := executes_bind_ok checked
  obtain ⟨inner, same, read⟩ := (executes_attempt _ _ _).mp tried
  obtain rfl := Except.ok.inj same
  obtain ⟨_, rest, _, rfl, _, lifted⟩ := executes_bind_ok closing
  obtain ⟨rfl, rfl⟩ := (executes_lift _ _ _).mp lifted
  obtain ⟨⟨mark, member, unmarked⟩, subjectMark, issued, subjectMember, issuedAt, older⟩ :=
    unrevoked_of_readRevocation read
  exact ⟨⟨mark, by simp [member], unmarked⟩, subjectMark, issued, by simp [subjectMember], issuedAt, older⟩

def CallsNothing (step : GateStep) : Prop := ∀ session, step ≠ .callNext session

/-- The application is not called before the token has been judged. -/
theorem authenticate_callsNothing (conversions : Conversions) (token : String) :
    (authenticate conversions token).Within CallsNothing := by
  have revocation (payload : Claims) : (readRevocation conversions payload).Within CallsNothing := by
    refine Within.bind ⟨nofun, fun answer => within_lift _ answer⟩ fun _ => ?_
    refine Within.bind ⟨nofun, fun answer => within_lift _ answer⟩ fun blacklisted => ?_
    refine Within.bind ⟨nofun, fun answer => within_lift _ answer⟩ fun mark => ?_
    refine (within_lift _ _).bind fun issued => (within_lift _ _).bind fun late => ?_
    cases late <;> trivial
  refine Within.bind ⟨nofun, fun answer => within_lift _ answer⟩ fun payload => Within.bind ?_ fun revoked => trivial
  refine (revocation payload).attempt.bind fun outcome => Within.bind ⟨nofun, fun answer => within_lift _ answer⟩ fun _ => ?_
  exact within_lift _ outcome

end Events

section Requests

variable {conversions : Conversions} {request : Request} {events : List GateEvent}

/-- The request presents the token in its header, or in its cookie when the header has none. -/
def Presents (request : Request) (token : String) (fromCookie : Bool) : Prop :=
  token ≠ "" ∧
    if fromCookie then startsWith request.authorization "Bearer " = false ∧ request.sessionCookie = some token
    else request.authorization = "Bearer " ++ token

theorem presents_of_extractToken {token : String} {fromCookie : Bool}
    (extracted : extractToken request = some (token, fromCookie)) (nonempty : token ≠ "") :
    Presents request token fromCookie := by
  refine ⟨nonempty, ?_⟩
  unfold extractToken at extracted
  split at extracted
  · rename_i bearer
    obtain ⟨rfl, rfl⟩ := Prod.mk.inj (Option.some.inj extracted)
    obtain ⟨rest, split⟩ := List.isPrefixOf_iff_prefix.mp bearer
    have dropped : ("Bearer ".toList ++ rest).drop 7 = rest := List.drop_left' (by decide)
    have header : request.authorization = String.ofList ("Bearer ".toList ++ rest) := by rw [split, String.ofList_toList]
    rw [if_neg Bool.false_ne_true, ← split, dropped, header, String.ofList_append, String.ofList_toList]
  · rename_i noBearer
    split at extracted
    · rename_i cookie found
      split at extracted
      · cases extracted
      · obtain ⟨rfl, rfl⟩ := Prod.mk.inj (Option.some.inj extracted)
        exact ⟨Bool.eq_false_iff.mpr noBearer, found⟩
    · cases extracted

/-- The cookie and the header carry the same secret. -/
def DoubleSubmits (request : Request) : Prop :=
  ∃ secret, secret ≠ "" ∧ request.csrfCookie = some secret ∧ request.csrfHeader = some secret

theorem doubleSubmits_of_csrfMatches (matched : csrfMatches request = true) : DoubleSubmits request := by
  unfold csrfMatches at matched
  split at matched
  · rename_i cookie header cookieSent headerSent
    obtain ⟨nonempty, same⟩ := Bool.and_eq_true_iff.mp matched
    obtain rfl := eq_of_beq same
    exact ⟨cookie, of_decide_eq_true nonempty, cookieSent, headerSent⟩
  · cases matched

/-- No exempted prefix is one of a path of the interface. -/
theorem not_isPublic (inside : startsWith request.path "/api/v1/" = true) (restricted : request.path ∉ publicAPIPaths) :
    isPublic request.path = false := by
  obtain ⟨rest, split⟩ := List.isPrefixOf_iff_prefix.mp inside
  have excluded : excludedPrefixes.any (startsWith request.path) = false := by
    unfold excludedPrefixes startsWith
    rw [← split]
    simp [List.isPrefixOf]
  rw [isPublic, excluded, Bool.or_false]
  exact decide_eq_false restricted

/-- A protected request is handed on only with a valid token that nothing revokes, and the routes see this token. -/
theorem protected_needs_session (conversions : Conversions) (request : Request)
    (inside : startsWith request.path "/api/v1/" = true) (restricted : request.path ∉ publicAPIPaths)
    (events : List GateEvent) (outcome : Except Raised Reply)
    (executed : Executes (dispatch conversions request) events outcome) (session : Option Session)
    (answer : Except Raised Nat) (called : ⟨.callNext session, answer⟩ ∈ events) :
    ∃ token fromCookie payload, Presents request token fromCookie ∧
      ⟨.validateToken token, .ok payload⟩ ∈ events ∧ Unrevoked conversions payload events ∧
      (fromCookie = true → request.method ∉ safeMethods → DoubleSubmits request) ∧
      session = some ⟨Claims.get payload "sub" (.string ""), payload⟩ := by
  have silent {reply : Reply} (ended : Executes (pure reply : GateProgram Reply) events outcome) : False := by
    obtain ⟨rfl, _⟩ := ended
    cases called
  rw [dispatch, if_neg (by simp [not_isPublic inside restricted])] at executed
  split at executed
  · exact (silent executed).elim
  rename_i token fromCookie extracted
  split at executed
  · exact (silent executed).elim
  rename_i nonempty
  split at executed
  · exact (silent executed).elim
  rename_i admitted
  rcases (executes_bind _ _ _ _).mp executed with ⟨fault, _, faulted⟩ | ⟨first, second, judged, rfl, tried, ended⟩
  · obtain ⟨_, contrary, _⟩ := (executes_attempt _ _ _).mp faulted
    cases contrary
  obtain ⟨inner, same, authenticated⟩ := (executes_attempt _ _ _).mp tried
  obtain rfl := Except.ok.inj same
  have late : ⟨.callNext session, answer⟩ ∈ second := by
    rcases List.mem_append.mp called with before | behind
    · exact absurd rfl ((authenticate_callsNothing conversions token).events authenticated _ before session)
    · exact behind
  have quiet {reply : Reply} (ended : Executes (pure reply : GateProgram Reply) second outcome) : False := by
    obtain ⟨rfl, _⟩ := ended
    cases late
  split at ended
  · exact (quiet ended).elim
  · exact (quiet ended).elim
  · rename_i payload revoked
    cases revoked with
    | true => exact (quiet ended).elim
    | false =>
        obtain ⟨validated, unrevoked⟩ := unrevoked_of_authenticate authenticated
        obtain ⟨reply, rfl⟩ := executes_callNext ended
        obtain rfl : session = some ⟨Claims.get payload "sub" (.string ""), payload⟩ := by
          have same := congrArg Event.operation (List.mem_singleton.mp late)
          exact GateStep.callNext.inj same
        refine ⟨token, fromCookie, payload, presents_of_extractToken extracted nonempty,
          List.mem_append_left _ validated, ?_, ?_, rfl⟩
        · exact ⟨unrevoked.token.imp fun mark known => known.imp_left (List.mem_append_left _),
            unrevoked.subject.imp fun mark known => known.imp fun issued read => read.imp_left (List.mem_append_left _)⟩
        · rintro rfl unsafeMethod
          refine doubleSubmits_of_csrfMatches ?_
          by_contra mismatch
          exact admitted (by simp [unsafeMethod, mismatch])

/-- The text of one mark is all that these conversions read. -/
def sampleConversions : Conversions where
  ofText text := if text = "1700000000" then some 1700000000 else none
  ofFloat _ := .error .other
  format value := match value with
    | .string text => text
    | _ => ""

def freezeRequest : Request where
  path := "/api/v1/assets/freeze"
  method := "POST"
  sessionCookie := some "header.payload.signature"
  csrfCookie := some "c5rf"
  csrfHeader := some "c5rf"

def freezeClaims : Claims := [("sub", .string "alice"), ("jti", .string "t1"), ("iat", .integer 1700000600)]

/-- The subject logged out ten minutes before the token was issued. -/
def freezeEvents : List GateEvent := [
  ⟨.validateToken "header.payload.signature", .ok freezeClaims⟩,
  ⟨.openRedis, .ok ()⟩,
  ⟨.get "oidc:blacklist:t1", .ok none⟩,
  ⟨.get "oidc:invalidated:alice", .ok (some "1700000000")⟩,
  ⟨.closeRedis, .ok ()⟩,
  ⟨.callNext (some ⟨.string "alice", freezeClaims⟩), .ok 200⟩]

theorem freeze_executes : Executes (dispatch sampleConversions freezeRequest) freezeEvents (.ok (.answered 200)) :=
  ⟨.ok freezeClaims, _, rfl, .ok (), _, rfl, .ok none, _, rfl, .ok (some "1700000000"), _, rfl, .ok (), _, rfl,
    .ok 200, _, rfl, rfl, rfl⟩

theorem freeze_needs_session :
    ∃ token fromCookie payload, Presents freezeRequest token fromCookie ∧
      ⟨.validateToken token, .ok payload⟩ ∈ freezeEvents ∧ Unrevoked sampleConversions payload freezeEvents ∧
      (fromCookie = true → freezeRequest.method ∉ safeMethods → DoubleSubmits freezeRequest) ∧
      some (⟨.string "alice", freezeClaims⟩ : Session) = some ⟨Claims.get payload "sub" (.string ""), payload⟩ :=
  protected_needs_session sampleConversions freezeRequest (by decide) (by decide) freezeEvents _ freeze_executes
    (some ⟨.string "alice", freezeClaims⟩) (.ok 200) (by simp [freezeEvents])

end Requests

end Pxtly.Auth.Protection
