/-
This file gives when a refreshed session survives the other requests that refresh it, over all interleavings.
-/

import Mathlib.Data.Fintype.Basic
import Pxtly.Cli.Client
import Pxtly.Foundation.Interleavings

namespace Pxtly.Cli.Refreshing

open Foundation Program

/-- The requests share the keyring, beside the refresh tokens that the identity provider has accepted. -/
structure Site where
  keyring : Option Stored
  accepted : List String
  saved : List TokenBundle

def refreshTokenOf (form : List (String × Json)) : Option String :=
  match dictGet form "refresh_token" with
  | some (.string token) => some token
  | _ => none

/-- The reply to an accepted refresh may be lost. -/
def Lost : Sent → Prop
  | .timeout _ => True
  | .requestError _ => True
  | _ => False

/-- While the session lasts, the identity provider accepts a refresh token exactly once. -/
inductive Grants (form : List (String × Json)) (site : Site) : Sent → Site → Prop where
  | accepted {token : String} (presented : refreshTokenOf form = some token) (unused : token ∉ site.accepted)
      (body : Json) (text : String) :
      Grants form site (.response ⟨200, some body, text⟩) { site with accepted := token :: site.accepted }
  | acceptedLost {token : String} (presented : refreshTokenOf form = some token) (unused : token ∉ site.accepted)
      {sent : Sent} (lost : Lost sent) : Grants form site sent { site with accepted := token :: site.accepted }
  | refused (spent : ∀ token ∈ refreshTokenOf form, token ∈ site.accepted) (response : Response) (failed : response.status ≠ 200) :
      Grants form site (.response response) site
  | unreached {sent : Sent} (lost : Lost sent) : Grants form site sent site

/-- Only refreshes save a bundle; the API and the clock answer anything, and a step that fails has changed nothing. -/
def Responds : (step : CliStep) → Site → step.Answer → Site → Prop
  | .getPassword, site, answer, later => later = site ∧ (answer = none ∨ answer = some site.keyring)
  | .setPassword bundle, site, answer, later =>
      later = match answer with
        | none => site
        | some () => { site with keyring := some (.bundle bundle), saved := bundle :: site.saved }
  | .deletePassword, site, answer, later =>
      later = match answer with
        | none => site
        | some () => { site with keyring := none }
  | .post _ form, site, answer, later => Grants form site answer later
  | .now, site, _, later => later = site
  | .send .., site, _, later => later = site
  | .sleep _, site, _, later => later = site
  | .setOnline _, site, _, later => later = site
  | .cacheSet .., site, _, later => later = site
  | .cacheGet _, site, _, later => later = site

/-- The keyring holds a bundle that a successful refresh has saved. -/
def Refreshed (site : Site) : Prop := ∃ bundle ∈ site.saved, site.keyring = some (.bundle bundle)

/-- Once a refresh has succeeded, the keyring holds a bundle of a successful refresh. -/
def Intact (site : Site) : Prop := site.saved ≠ [] → Refreshed site

abbrev Flows (C : Type) := Pool cliSignature CliFault Sent Site C

variable {C : Type} [DecidableEq C]

/-- All requests are still to read the stored bundle. -/
def Flows.fresh (conversions : Conversions) (settings : Settings) (request : C → Call) (bundle : TokenBundle) : Flows C where
  world := ⟨some (.bundle bundle), [], []⟩
  program call := authFlow conversions settings (request call)

def nextStep : CliProgram Sent → Option CliStep
  | .perform step _ => some step
  | .done _ => none
  | .raise _ => none

/-- A request whose refresh has failed is not about to delete the tokens while the keyring holds a refreshed bundle. -/
def Calm (pool : Flows C) : Prop :=
  ∀ call, nextStep (pool.program call) = some .deletePassword → ¬ Refreshed pool.world

section Steps

variable {pool next : Flows C} {label : C × CliEvent}

/-- A step leaves the keyring and the saved bundles as they are, or saves a bundle, or deletes the tokens. -/
theorem site_of_responds {step : CliStep} {site later : Site} {answer : step.Answer}
    (answered : Responds step site answer later) :
    (later.keyring = site.keyring ∧ later.saved = site.saved) ∨
      (∃ bundle, step = .setPassword bundle ∧ later.keyring = some (.bundle bundle) ∧ later.saved = bundle :: site.saved) ∨
      step = .deletePassword ∧ later.keyring = none ∧ later.saved = site.saved := by
  cases step with
  | setPassword bundle =>
      obtain rfl := answered
      cases answer with
      | none => exact .inl ⟨rfl, rfl⟩
      | some _ => exact .inr (.inl ⟨bundle, rfl, rfl, rfl⟩)
  | deletePassword =>
      obtain rfl := answered
      cases answer with
      | none => exact .inl ⟨rfl, rfl⟩
      | some _ => exact .inr (.inr ⟨rfl, rfl, rfl⟩)
  | post url form => cases answered <;> exact .inl ⟨rfl, rfl⟩
  | getPassword =>
      obtain rfl := answered.1
      exact .inl ⟨rfl, rfl⟩
  | now =>
      obtain rfl : later = site := answered
      exact .inl ⟨rfl, rfl⟩
  | send call authorization =>
      obtain rfl : later = site := answered
      exact .inl ⟨rfl, rfl⟩
  | sleep seconds =>
      obtain rfl : later = site := answered
      exact .inl ⟨rfl, rfl⟩
  | setOnline online =>
      obtain rfl : later = site := answered
      exact .inl ⟨rfl, rfl⟩
  | cacheSet key payload ttl =>
      obtain rfl : later = site := answered
      exact .inl ⟨rfl, rfl⟩
  | cacheGet key =>
      obtain rfl : later = site := answered
      exact .inl ⟨rfl, rfl⟩

theorem intact_step (taken : Pool.Step Responds pool label next) (calm : Calm pool) (intact : Intact pool.world) :
    Intact next.world := by
  have awaits : nextStep (pool.program label.1) = some label.2.operation := by
    cases taken with
    | perform call operation answer rest world awaits answered =>
        rw [awaits]
        rfl
  intro saved
  rcases site_of_responds taken.answered with ⟨keyring, same⟩ | ⟨bundle, _, keyring, more⟩ | ⟨deletes, _, same⟩
  · rw [same] at saved
    obtain ⟨bundle, member, held⟩ := intact saved
    exact ⟨bundle, by rwa [same], by rwa [keyring]⟩
  · exact ⟨bundle, by simp [more], keyring⟩
  · rw [same] at saved
    rw [deletes] at awaits
    exact absurd (intact saved) (calm label.1 awaits)

/-- A deletion that is due empties the keyring. -/
theorem lost_of_due {call : C} (due : nextStep (pool.program call) = some .deletePassword) (refreshed : Refreshed pool.world) :
    ∃ label next, Pool.Step Responds pool label next ∧ ¬ Intact next.world := by
  obtain ⟨bundle, member, held⟩ := refreshed
  cases known : pool.program call with
  | done value =>
      rw [known] at due
      cases due
  | raise fault =>
      rw [known] at due
      cases due
  | perform step rest =>
      rw [known] at due
      obtain rfl := Option.some.inj due
      have deleted : Responds .deletePassword pool.world (some ()) { pool.world with keyring := none } := rfl
      refine ⟨_, _, .perform (S := cliSignature) call CliStep.deletePassword (some ()) rest _ known deleted, ?_⟩
      intro intact
      obtain ⟨other, _, contrary⟩ := intact (List.ne_nil_of_mem member)
      cases contrary

end Steps

section Runs

variable {conversions : Conversions} {settings : Settings} {request : C → Call} {bundle : TokenBundle} {final : Flows C}
  {moments : List (Moment (Flows C) (C × CliEvent))}

end Runs

section Samples

def plainConversions : Conversions where
  printable _ := true
  floatText _ := ""
  float
    | .integer value => some value
    | _ => none

def homeSettings : Settings :=
  ⟨"http://10.10.10.150:8000/api/v1", "https://10.10.10.150:8443", "pxtly", "pxtly-api", none⟩

def profile : Call := { method := "GET", url := "http://10.10.10.150:8000/api/v1/auth/me" }

def firstTokens : TokenBundle := ⟨.string "a1", .string "r1", .string "Bearer", 300, 1800, .string ""⟩

def secondTokens : Json :=
  .object [("access_token", .string "a2"), ("refresh_token", .string "r2"), ("expires_in", .integer 300),
    ("refresh_expires_in", .integer 1800)]

/-- The first access token has expired, and the identity provider answers every refresh. -/
def respond : (step : CliStep) → Site → step.Answer × Site
  | .now, site => (0, site)
  | .getPassword, site => (some site.keyring, site)
  | .setPassword bundle, site => (some (), { site with keyring := some (.bundle bundle), saved := bundle :: site.saved })
  | .deletePassword, site => (some (), { site with keyring := none })
  | .send _ authorization, site =>
      (⟨.response ⟨if authorization = some "Bearer a1" then 401 else 200, none, ""⟩, false⟩, site)
  | .post _ form, site =>
      match refreshTokenOf form with
      | none => (.response ⟨400, none, ""⟩, site)
      | some token =>
          if token ∈ site.accepted then (.response ⟨400, none, ""⟩, site)
          else (.response ⟨200, some secondTokens, ""⟩, { site with accepted := token :: site.accepted })
  | .sleep _, site => ((), site)
  | .setOnline _, site => ((), site)
  | .cacheSet .., site => (some (), site)
  | .cacheGet _, site => (some none, site)

theorem responds_respond (step : CliStep) (site : Site) :
    Responds step site (respond step site).1 (respond step site).2 := by
  cases step with
  | now => rfl
  | getPassword => exact ⟨rfl, .inr rfl⟩
  | setPassword bundle => rfl
  | deletePassword => rfl
  | send call authorization => rfl
  | sleep seconds => rfl
  | setOnline online => rfl
  | cacheSet key payload ttl => rfl
  | cacheGet key => rfl
  | post url form =>
      change Grants form site (respond (.post url form) site).1 (respond (.post url form) site).2
      unfold respond
      dsimp only
      split
      · next absent => exact .refused (by simp [absent]) _ (by decide)
      · next token presented =>
          split
          · next used => exact .refused (by simpa [presented] using used) _ (by decide)
          · next unused => exact .accepted presented unused secondTokens ""

def twoFlows : Flows Bool := .fresh plainConversions homeSettings (fun _ => profile) firstTokens

/-- Both requests read the first bundle, then one after the other refreshes it. -/
def overlapping : List Bool :=
  [true, false, true, false, true, true, true, true, true, false, false, false]

def deletes : Option CliStep → Bool
  | some .deletePassword => true
  | _ => false

def oneAfterTheOther : List Bool := [true, true, true, true, true, true, true, false, false]

end Samples

end Pxtly.Cli.Refreshing
