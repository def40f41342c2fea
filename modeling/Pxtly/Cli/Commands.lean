/-
This file gives the calls of the API that the commands make, and the commands that begin and end a session.
-/

import Pxtly.Cli.Client

namespace Pxtly.Cli

open Foundation Program

/-- Each constructor is a function of one of the API modules, with its arguments. -/
inductive Command where
  | me
  | meExport
  | meDelete
  | assetsTokenize (payload : Json)
  | assetsTransfer (payload : Json)
  | assetsFreeze (payload : Json)
  | assetsUnfreeze (payload : Json)
  | assetsGet (assetID : String)
  | assetsHistory (assetID : String)
  | assetsValuate (assetID : String) (payload : Json)
  | assetsValuations (assetID : String)
  | assetsList (status assetType : Option String) (limit offset : Int)
  | transactionsList (assetID : Option String) (limit offset : Int)
  | transactionsStats
  | transactionsGet (txRef : String)
  | complianceSummary
  | complianceAlerts
  | complianceUserStatus (userID : String)
  | complianceKYCSubmit (payload : Json)
  | complianceKYCApprove (payload : Json)
  | complianceScreeningRun (payload : Json)
  | zkpSetupKey (payload : Json)
  | zkpVerify (payload : Json)
  | zkpStatus
  | zkpRevoke (credentialID : String)
  | organizationsList
  | organizationsUsers (role country : Option String)
  | organizationsPortfolio (orgID : String)
  | tribunalVoteCommit (payload : Json)
  | tribunalVoteReveal (payload : Json)
  | tribunalTally (sessionID : String)
  | auditList (limit offset : Int) (actor : Option String)
  | auditAssetTrail (assetID : String)
  | auditGenerateReport (assetID : String)
  | auditReportStatus (taskID : String)
  | auditFraudScan (payload : Json)
  | agentChat (message : String) (stream : Bool)
  | agentReindex
  | agentSearch (query : String) (topK : Int)
  | agentStatus

/-- An absent or empty text is not among the parameters. -/
def given (name : String) : Option String → List (String × Json)
  | none => []
  | some text => if text = "" then [] else [(name, .string text)]

def page (limit offset : Int) : List (String × Json) := [("limit", .integer limit), ("offset", .integer offset)]

def params (members : List (String × Json)) : List (String × Json) := [("params", .object members)]
def withJSON (payload : Json) : List (String × Json) := [("json", payload)]

section Calls

variable (hash : String → Int) (settings : Settings)

def auth (path : String) : String := settings.apiURL ++ "/auth" ++ path
def assets (path : String) : String := settings.apiURL ++ "/assets" ++ path
def transactions (path : String) : String := settings.apiURL ++ "/transactions" ++ path
def compliance (path : String) : String := settings.apiURL ++ "/compliance" ++ path
def zkp (path : String) : String := settings.apiURL ++ "/zkp" ++ path
def organizations (path : String) : String := settings.apiURL ++ "/organizations" ++ path
def tribunal (path : String) : String := settings.apiURL ++ "/tribunal" ++ path
def audit (path : String) : String := settings.apiURL ++ "/audit" ++ path
def agent (path : String) : String := settings.apiURL ++ "/agent" ++ path

def get (url : String) (arguments : List (String × Json)) : Call := { method := "GET", url, arguments }
def post (url : String) (arguments : List (String × Json)) : Call := { method := "POST", url, arguments }

/-- The response is kept under the key for this many seconds. -/
def Call.cachedAs (call : Call) (key : String) (ttl : Rat) : Call :=
  { call with cacheKey := some key, cacheTTL := ttl }

def Command.call : Command → Call
  | .me => get (auth settings "/me") []
  | .meExport => get (auth settings "/me/export") []
  | .meDelete => { method := "DELETE", url := auth settings "/me" }
  | .assetsTokenize payload => post (assets settings "/tokenize") (withJSON payload)
  | .assetsTransfer payload => post (assets settings "/transfer") (withJSON payload)
  | .assetsFreeze payload => post (assets settings "/freeze") (withJSON payload)
  | .assetsUnfreeze payload => post (assets settings "/unfreeze") (withJSON payload)
  | .assetsGet assetID => (get (assets settings ("/" ++ assetID)) []).cachedAs ("asset:" ++ assetID) 300
  | .assetsHistory assetID =>
      (get (assets settings ("/" ++ assetID ++ "/history")) []).cachedAs ("asset:history:" ++ assetID) 120
  | .assetsValuate assetID payload => post (assets settings ("/" ++ assetID ++ "/valuate")) (withJSON payload)
  | .assetsValuations assetID =>
      (get (assets settings ("/" ++ assetID ++ "/valuations")) []).cachedAs ("asset:val:" ++ assetID) 120
  | .assetsList status assetType limit offset =>
      get (assets settings "") (params (page limit offset ++ given "status" status ++ given "asset_type" assetType))
  | .transactionsList assetID limit offset =>
      get (transactions settings "") (params (page limit offset ++ given "asset_id" assetID))
  | .transactionsStats => (get (transactions settings "/stats/summary") []).cachedAs "tx:stats" 60
  | .transactionsGet txRef => (get (transactions settings ("/" ++ txRef)) []).cachedAs ("tx:" ++ txRef) 300
  | .complianceSummary => (get (compliance settings "") []).cachedAs "compliance:summary" 60
  | .complianceAlerts => (get (compliance settings "/alerts/active") []).cachedAs "compliance:alerts" 30
  | .complianceUserStatus userID => get (compliance settings ("/" ++ userID)) []
  | .complianceKYCSubmit payload => post (compliance settings "/kyc/submit") (withJSON payload)
  | .complianceKYCApprove payload => post (compliance settings "/kyc/approve") (withJSON payload)
  | .complianceScreeningRun payload => post (compliance settings "/screening/run") (withJSON payload)
  | .zkpSetupKey payload => post (zkp settings "/setup-key") (withJSON payload)
  | .zkpVerify payload => post (zkp settings "/verify") (withJSON payload)
  | .zkpStatus => (get (zkp settings "/status") []).cachedAs "zkp:status" 60
  | .zkpRevoke credentialID => post (zkp settings ("/revoke/" ++ credentialID)) []
  | .organizationsList => (get (organizations settings "") []).cachedAs "orgs:list" 300
  | .organizationsUsers role country =>
      get (organizations settings "/users") (params (given "role" role ++ given "country" country))
  | .organizationsPortfolio orgID =>
      (get (organizations settings ("/" ++ orgID ++ "/portfolio")) []).cachedAs ("orgs:portfolio:" ++ orgID) 120
  | .tribunalVoteCommit payload => post (tribunal settings "/vote/commit") (withJSON payload)
  | .tribunalVoteReveal payload => post (tribunal settings "/vote/reveal") (withJSON payload)
  | .tribunalTally sessionID => post (tribunal settings ("/session/" ++ sessionID ++ "/tally")) []
  | .auditList limit offset actor => get (audit settings "") (params (page limit offset ++ given "actor" actor))
  | .auditAssetTrail assetID => (get (audit settings ("/asset/" ++ assetID)) []).cachedAs ("audit:asset:" ++ assetID) 300
  | .auditGenerateReport assetID => post (audit settings ("/report/generate/" ++ assetID)) []
  | .auditReportStatus taskID => get (audit settings ("/report/status/" ++ taskID)) []
  | .auditFraudScan payload => post (audit settings "/fraud/scan") (withJSON payload)
  | .agentChat message stream =>
      (post (agent settings "/chat") (withJSON (.object [("message", .string message), ("stream", .bool stream)]))).cachedAs
        ("agent:chat:" ++ toString (hash message)) 300
  | .agentReindex => post (agent settings "/index") []
  | .agentSearch query topK =>
      get (agent settings "/search") (params [("query", .string query), ("top_k", .integer topK)])
  | .agentStatus => (get (agent settings "/status") []).cachedAs "agent:status" 30

end Calls

section Sessions

variable (conversions : Conversions) (settings : Settings)

/-- A body that is not JSON raises an exception. -/
def jsonOf : Served → CliProgram Json
  | .live response => match response.json with
    | some payload => return payload
    | none => .raise .other
  | .cached payload => return payload

def tokenCall (url : String) (form : List (String × Json)) : Call :=
  { method := "POST", url, skipAuth := true, arguments := [("data", .object form)] }

/-- Both logins and the refresh send a form to the token endpoint and store what they get. -/
def grant (form : List (String × Json)) : CliProgram TokenBundle := do
  let served ← request conversions settings (tokenCall (kcTokenURL settings) form)
  let bundle ← fromOIDCResponse conversions (← jsonOf served)
  saveTokenBundle bundle
  return bundle

def loginPassword (username password : String) : CliProgram TokenBundle :=
  grant conversions settings (withSecret settings [("grant_type", .string "password"),
    ("client_id", .string settings.keycloakClientID), ("username", .string username), ("password", .string password),
    ("scope", .string "openid profile email")])

/-- The browser has returned the code for the verifier. -/
def loginPKCE (code redirectURI verifier : String) : CliProgram TokenBundle :=
  grant conversions settings (withSecret settings [("grant_type", .string "authorization_code"),
    ("client_id", .string settings.keycloakClientID), ("code", .string code), ("redirect_uri", .string redirectURI),
    ("code_verifier", .string verifier)])

def refreshNow : CliProgram (Option TokenBundle) := do
  match ← getTokenBundle with
  | none => return none
  | some bundle =>
      if truthy bundle.refreshToken = false then return none
      else do
        if ← isRefreshExpired bundle then return none
        else return some (← grant conversions settings (refreshForm settings bundle.refreshToken))

def logoutURL : String :=
  rstrip settings.keycloakURL ++ "/realms/" ++ settings.keycloakRealm ++ "/protocol/openid-connect/logout"

def logoutForm (refreshToken : Json) : List (String × Json) :=
  withSecret settings [("client_id", .string settings.keycloakClientID), ("refresh_token", refreshToken)]

/-- The tokens are deleted whatever the identity provider answers. -/
def logout : CliProgram Unit := do
  match ← getTokenBundle with
  | none => deleteTokens
  | some bundle =>
      if truthy bundle.refreshToken = false then deleteTokens
      else do
        let _ ← (request conversions settings (tokenCall (logoutURL settings) (logoutForm settings bundle.refreshToken))).attempt
        deleteTokens

variable (hash : String → Int)

/-- Only the deletion of the account does not read the body. -/
def Command.run (command : Command) : CliProgram (Option Json) := do
  let served ← request conversions settings (command.call hash settings)
  match command with
  | .meDelete => return none
  | _ => return some (← jsonOf served)

inductive Action where
  | api (command : Command)
  | loginPassword (username password : String)
  | loginPKCE (code redirectURI verifier : String)
  | refreshNow
  | logout

def Action.run : Action → CliProgram Unit
  | .api command => do
      let _ ← command.run conversions settings hash
      return ()
  | .loginPassword username password => do
      let _ ← Cli.loginPassword conversions settings username password
      return ()
  | .loginPKCE code redirectURI verifier => do
      let _ ← Cli.loginPKCE conversions settings code redirectURI verifier
      return ()
  | .refreshNow => do
      let _ ← Cli.refreshNow conversions settings
      return ()
  | .logout => Cli.logout conversions settings

end Sessions

end Pxtly.Cli
