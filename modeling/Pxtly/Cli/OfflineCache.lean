/-
This file gives whose responses the offline cache serves, over all interleavings of commands with logins and logouts.
-/

import Pxtly.Cli.Commands
import Pxtly.Foundation.Interleavings

namespace Pxtly.Cli

open Foundation Program
open Pool (Trace eventsOf traceOf)

section Sources

/-- The last request that was sent has brought the payload. -/
def Brought (past : List CliEvent) (authorization : Option String) (payload : Json) : Prop :=
  ∃ front request response executed middle,
    past = front ++ ⟨.send request authorization, ⟨.response response, executed⟩⟩ :: middle ∧ deliveries middle = [] ∧
      response.isSuccess = true ∧ response.json = some payload

/-- Behind the past, every payload that is written to the cache was brought just before. -/
def SourcedFrom : List CliEvent → List CliEvent → Prop
  | _, [] => True
  | past, event :: rest =>
      (∀ key payload ttl, event.operation = .cacheSet key payload ttl → ∃ authorization, Brought past authorization payload) ∧
        SourcedFrom (past ++ [event]) rest

theorem sourcedFrom_append (past first second : List CliEvent) :
    SourcedFrom past (first ++ second) ↔ SourcedFrom past first ∧ SourcedFrom (past ++ first) second := by
  induction first generalizing past with
  | nil => simp [SourcedFrom]
  | cons event rest inductionHypothesis =>
      simp only [List.cons_append, SourcedFrom, inductionHypothesis, List.append_assoc, List.nil_append, and_assoc]

/-- A program is sourced when all its executions are. -/
def Sourced {A : Type} (program : CliProgram A) : Prop :=
  ∀ past events outcome, Executes program events outcome → SourcedFrom past events

variable {A B : Type} {program : CliProgram A}

theorem Sourced.bind {next : A → CliProgram B} (first : Sourced program) (rest : ∀ value, Sourced (next value)) :
    Sourced (program >>= next) := by
  intro past events outcome executed
  rcases (executes_bind _ _ _ _).mp executed with ⟨fault, _, failed⟩ | ⟨before, after, value, rfl, ran, continued⟩
  · exact first past events _ failed
  · exact (sourcedFrom_append past before after).mpr ⟨first past before _ ran, rest value _ after _ continued⟩

theorem Sourced.attempt (sourced : Sourced program) : Sourced program.attempt := by
  intro past events outcome executed
  obtain ⟨inner, _, ran⟩ := (executes_attempt program events outcome).mp executed
  exact sourced past events inner ran

def CliStep.WritesNothing : CliStep → Prop
  | .cacheSet .. => False
  | _ => True

theorem CliStep.Quiet.writesNothing {step : CliStep} (quiet : step.Quiet) : step.WritesNothing := by
  cases step <;> trivial

theorem sourced_of_within (within : program.Within CliStep.WritesNothing) : Sourced program := by
  have other (past events : List CliEvent) (all : ∀ event ∈ events, event.operation.WritesNothing) :
      SourcedFrom past events := by
    induction events generalizing past with
    | nil => trivial
    | cons event rest inductionHypothesis =>
        obtain ⟨first, behind⟩ := List.forall_mem_cons.mp all
        refine ⟨fun key payload ttl same => ?_, inductionHypothesis _ behind⟩
        rw [same] at first
        exact first.elim
  exact fun past events outcome executed => other past events (within.events executed)

theorem sourced_of_quiet (quiet : program.Within CliStep.Quiet) : Sourced program :=
  sourced_of_within (quiet.mono fun _ => CliStep.Quiet.writesNothing)

theorem sourced_pure (value : A) : Sourced (pure value : CliProgram A) := sourced_of_within trivial
theorem sourced_raise (fault : CliFault) : Sourced (.raise fault : CliProgram A) := sourced_of_within trivial

variable {conversions : Conversions} {settings : Settings} {call : Call} {events : List CliEvent}

theorem authFlow_writesNothing (call : Call) : (authFlow conversions settings call).Within CliStep.WritesNothing := by
  have sends (authorization : Option String) : (send call authorization).Within CliStep.WritesNothing :=
    ⟨trivial, fun _ => trivial⟩
  unfold authFlow
  split
  · exact sends none
  · refine (getTokenBundle_quiet.mono fun _ => CliStep.Quiet.writesNothing).bind fun stored => ?_
    split
    · exact sends none
    · refine (sends _).bind fun sent => ?_
      split
      · split
        · trivial
        · refine ((attemptRefresh_quiet _).mono fun _ => CliStep.Quiet.writesNothing).bind fun newBundle => ?_
          split
          · exact (deleteTokens_quiet.mono fun _ => CliStep.Quiet.writesNothing).bind fun _ => trivial
          · exact sends _
      · trivial

theorem transmit_writesNothing (call : Call) : (transmit conversions settings call).Within CliStep.WritesNothing := by
  refine Within.bind ?_ fun sent => ?_
  · split
    · exact ⟨trivial, fun _ => trivial⟩
    · exact authFlow_writesNothing call
  · split <;> trivial

/-- What an attempt returns is the answer to the last request that it has sent. -/
theorem answered_authFlow {sent : Sent} (executed : Executes (authFlow conversions settings call) events (.ok sent)) :
    ∃ front authorization delivered middle, events = front ++ ⟨.send call authorization, ⟨sent, delivered⟩⟩ :: middle ∧
      deliveries middle = [] := by
  have sends (front : List CliEvent) {authorization : Option String} {later : List CliEvent}
      (ran : Executes (send call authorization) later (.ok sent)) :
      ∃ front' authorization' delivered middle,
        front ++ later = front' ++ ⟨.send call authorization', ⟨sent, delivered⟩⟩ :: middle ∧ deliveries middle = [] := by
    obtain ⟨delivery, same, rfl⟩ := executes_send ran
    obtain rfl := Except.ok.inj same
    exact ⟨front, authorization, delivery.executed, [], rfl, rfl⟩
  unfold authFlow at executed
  split at executed
  · exact sends [] executed
  obtain ⟨reading, afterReading, stored, rfl, read, continued⟩ := executes_bind_ok executed
  cases stored with
  | none => exact sends _ continued
  | some bundle =>
      obtain ⟨_, afterSending, first, rfl, sending, answered⟩ := executes_bind_ok continued
      obtain ⟨delivery, same, rfl⟩ := executes_send sending
      obtain rfl := Except.ok.inj same
      split at answered
      · split at answered
        · obtain ⟨rfl, same⟩ := answered
          obtain rfl := Except.ok.inj same
          exact ⟨reading, _, delivery.executed, [], rfl, rfl⟩
        · obtain ⟨refreshing, last, newBundle, rfl, refreshed, ended⟩ := executes_bind_ok answered
          cases newBundle with
          | none =>
              obtain ⟨deleting, _, _, rfl, deleted, rfl, same⟩ := executes_bind_ok ended
              obtain rfl := Except.ok.inj same
              refine ⟨reading, _, delivery.executed, refreshing ++ (deleting ++ []), rfl, ?_⟩
              rw [deliveries_append, deliveries_append, deliveries_of_quiet (attemptRefresh_quiet bundle) refreshed,
                deliveries_of_quiet deleteTokens_quiet deleted]
              rfl
          | some newBundle =>
              have last := sends
                (reading ++ ([⟨.send call (some (headerOf conversions bundle)), delivery⟩] ++ refreshing)) ended
              simpa using last
      · obtain ⟨rfl, same⟩ := answered
        obtain rfl := Except.ok.inj same
        exact ⟨reading, _, delivery.executed, [], rfl, rfl⟩

theorem answered_transmit {sent : Sent} (executed : Executes (transmit conversions settings call) events (.ok sent)) :
    ∃ front authorization delivered middle, events = front ++ ⟨.send call authorization, ⟨sent, delivered⟩⟩ :: middle ∧
      deliveries middle = [] := by
  obtain ⟨first, last, value, rfl, ran, ended⟩ := executes_bind_ok executed
  split at ended
  · cases ended.2
  · obtain ⟨rfl, same⟩ := ended
    obtain rfl := Except.ok.inj same
    rw [List.append_nil]
    split at ran
    · obtain ⟨delivery, same, rfl⟩ := executes_send ran
      obtain rfl := Except.ok.inj same
      exact ⟨[], none, delivery.executed, [], rfl, rfl⟩
    · exact answered_authFlow ran

theorem executes_writeThrough {response : Response} {outcome : Except CliFault Unit}
    (executed : Executes (writeThrough call response) events outcome) :
    events = [] ∨ ∃ key payload ttl answer, response.json = some payload ∧ events = [⟨.cacheSet key payload ttl, answer⟩] := by
  unfold writeThrough at executed
  split at executed
  · next key payload named body =>
      split at executed
      · exact .inl executed.1
      · obtain ⟨answer, _, rfl, rfl, _⟩ := executed
        exact .inr ⟨key, payload, call.cacheTTL, answer, body, rfl⟩
  · exact .inl executed.1

theorem isSuccess_of_raise {response : Response} (succeeded : raiseForResponse conversions response = .ok ()) :
    response.isSuccess = true := by
  unfold raiseForResponse at succeeded
  split at succeeded
  · assumption
  · dsimp only at succeeded
    split_ifs at succeeded

/-- What is written through is the body of a successful response that has just come. -/
theorem sourced_live {response : Response} (succeeded : raiseForResponse conversions response = .ok ()) {front middle : List CliEvent}
    {request : Call} {authorization : Option String} {delivered : Bool} (quiet : deliveries middle = [])
    {outcome : Except CliFault Served} {later : List CliEvent}
    (executed : Executes (do ask (.setOnline true); writeThrough call response; return .live response) later outcome) :
    SourcedFrom (front ++ ⟨.send request authorization, ⟨.response response, delivered⟩⟩ :: middle) later := by
  obtain ⟨_, afterOnline, rfl, written⟩ := executed
  change Executes (writeThrough call response >>= fun _ => pure (Served.live response)) afterOnline outcome at written
  refine ⟨fun key payload ttl same => (nomatch same), ?_⟩
  have writes {writing : List CliEvent} {ended : Except CliFault Unit}
      (wrote : Executes (writeThrough call response) writing ended) :
      SourcedFrom (front ++ ⟨.send request authorization, ⟨.response response, delivered⟩⟩ :: middle ++
        [⟨.setOnline true, ()⟩]) writing := by
    rcases executes_writeThrough wrote with rfl | ⟨key, payload, ttl, answer, body, rfl⟩
    · trivial
    · refine ⟨fun _ written _ same => ?_, trivial⟩
      cases same
      refine ⟨authorization, front, request, response, delivered, middle ++ [⟨.setOnline true, ()⟩], by simp, ?_,
        isSuccess_of_raise succeeded, body⟩
      rw [deliveries_append, quiet]
      rfl
  rcases (executes_bind _ _ _ _).mp written with ⟨fault, _, failed⟩ | ⟨writing, _, _, rfl, wrote, rfl, _⟩
  · exact writes failed
  · rw [List.append_nil]
    exact writes wrote

/-- By induction on the attempts that are left. -/
theorem sourced_attempts (left : Nat) (last : Option APIError) : Sourced (attempts conversions settings call left last) := by
  induction left generalizing last with
  | zero => exact sourced_of_quiet (serveCached_quiet last)
  | succ left inductionHypothesis =>
      intro past events outcome executed
      have again (next : Option APIError) : Sourced (do backoff left; attempts conversions settings call left next) :=
        (sourced_of_quiet (backoff_quiet left)).bind fun _ => inductionHypothesis next
      rcases (executes_bind _ _ _ _).mp executed with ⟨fault, _, failed⟩ | ⟨first, later, sent, rfl, sending, continued⟩
      · exact sourced_of_within (transmit_writesNothing call) past events _ failed
      refine (sourcedFrom_append past first later).mpr
        ⟨sourced_of_within (transmit_writesNothing call) past first _ sending, ?_⟩
      obtain ⟨front, authorization, delivered, middle, rfl, quiet⟩ := answered_transmit sending
      split at continued
      · exact sourced_raise _ _ later outcome continued
      · exact again _ _ later outcome continued
      · exact sourced_of_quiet (serveCached_quiet _) _ later outcome continued
      · split at continued
        · exact again _ _ later outcome continued
        · split at continued
          · split at continued
            · exact again _ _ later outcome continued
            · exact sourced_raise _ _ later outcome continued
          · next succeeded =>
              rw [← List.append_assoc]
              exact sourced_live succeeded quiet continued

theorem sourced_request (call : Call) : Sourced (request conversions settings call) := sourced_attempts retryAttempts none

theorem jsonOf_quiet (served : Served) : (jsonOf served).Within CliStep.Quiet := by
  cases served with
  | live response =>
      unfold jsonOf
      dsimp only
      split <;> trivial
  | cached payload => trivial

theorem sourced_grant (form : List (String × Json)) : Sourced (grant conversions settings form) := by
  refine (sourced_request _).bind fun served => (sourced_of_quiet (jsonOf_quiet served)).bind fun body => ?_
  refine (sourced_of_quiet (fromOIDCResponse_quiet body)).bind fun bundle => ?_
  exact (sourced_of_quiet (saveTokenBundle_quiet bundle)).bind fun _ => sourced_pure bundle

theorem sourced_refreshNow : Sourced (refreshNow conversions settings) := by
  refine (sourced_of_quiet getTokenBundle_quiet).bind fun stored => ?_
  split
  · exact sourced_pure _
  · split
    · exact sourced_pure _
    · refine (sourced_of_quiet (isRefreshExpired_quiet _)).bind fun expired => ?_
      split
      · exact sourced_pure _
      · exact (sourced_grant _).bind fun _ => sourced_pure _

theorem sourced_logout : Sourced (logout conversions settings) := by
  refine (sourced_of_quiet getTokenBundle_quiet).bind fun stored => ?_
  split
  · exact sourced_of_quiet deleteTokens_quiet
  · split
    · exact sourced_of_quiet deleteTokens_quiet
    · exact (sourced_request _).attempt.bind fun _ => sourced_of_quiet deleteTokens_quiet

theorem sourced_command (hash : String → Int) (command : Command) : Sourced (command.run conversions settings hash) := by
  refine (sourced_request _).bind fun served => ?_
  split
  · exact sourced_pure _
  · exact (sourced_of_quiet (jsonOf_quiet served)).bind fun _ => sourced_pure _

theorem sourced_action (hash : String → Int) (action : Action) : Sourced (action.run conversions settings hash) := by
  cases action with
  | api command => exact (sourced_command hash command).bind fun _ => sourced_pure ()
  | loginPassword username password => exact (sourced_grant _).bind fun _ => sourced_pure ()
  | loginPKCE code redirectURI verifier => exact (sourced_grant _).bind fun _ => sourced_pure ()
  | refreshNow => exact sourced_refreshNow.bind fun _ => sourced_pure ()
  | logout => exact sourced_logout

end Sources

section Machines

structure CacheEntry where
  payload : Json
  cachedAt : Rat
  ttl : Rat

/-- All commands on a machine share its keyring and its cache. -/
structure Machine where
  keyring : Option Stored
  cache : String → Option CacheEntry

def Machine.setCache (machine : Machine) (key : String) (entry : Option CacheEntry) : Machine :=
  { machine with cache := Function.update machine.cache key entry }

/-- `CacheDB.get`: an expired entry is deleted. -/
def Machine.getCache (machine : Machine) (key : String) (now : Rat) : Option Json × Machine :=
  match machine.cache key with
  | none => (none, machine)
  | some entry =>
      if 0 < entry.ttl ∧ entry.ttl < now - entry.cachedAt then (none, machine.setCache key none)
      else (some entry.payload, machine)

/-- The servers and the clock answer anything; a step that fails has changed nothing. -/
def Responds : (step : CliStep) → Machine → step.Answer → Machine → Prop
  | .getPassword, machine, answer, later => later = machine ∧ (answer = none ∨ answer = some machine.keyring)
  | .setPassword bundle, machine, answer, later =>
      later = match answer with
        | none => machine
        | some () => { machine with keyring := some (.bundle bundle) }
  | .deletePassword, machine, answer, later =>
      later = match answer with
        | none => machine
        | some () => { machine with keyring := none }
  | .cacheSet key payload ttl, machine, answer, later => match answer with
      | none => later = machine
      | some () => ∃ now, later = machine.setCache key (some ⟨payload, now, ttl⟩)
  | .cacheGet key, machine, answer, later => match answer with
      | none => later = machine
      | some found => ∃ now, (found, later) = machine.getCache key now
  | .now, machine, _, later => later = machine
  | .send .., machine, _, later => later = machine
  | .post .., machine, _, later => later = machine
  | .sleep _, machine, _, later => later = machine
  | .setOnline _, machine, _, later => later = machine

/-- Each invocation of the command line has its own settings. -/
structure Invocation where
  settings : Settings
  action : Action

variable {C U : Type} [DecidableEq C]

abbrev Invocations (C : Type) := Pool cliSignature CliFault Unit Machine C

def Invocations.fresh (conversions : Conversions) (hash : String → Int) (invocation : C → Invocation) (keyring : Option Stored) :
    Invocations C where
  world := ⟨keyring, fun _ => none⟩
  program call := (invocation call).action.run conversions (invocation call).settings hash

section Origins

variable (conversions : Conversions) (owner : String → Option U) (invocation : C → Invocation)

/-- The server tells from the header for whom the access token was issued. -/
def userOf (authorization : Option String) : Option U := authorization.bind owner

/-- The user who is logged in is the one whose tokens the keyring holds. -/
def currentUser (machine : Machine) : Option U :=
  match machine.keyring with
  | some (.bundle bundle) => owner (headerOf conversions bundle)
  | _ => none

/-- The last entry under the key was written by this call, behind a request with this authorization. -/
def LastWritten (trace : Trace cliSignature C) (key : String) (writer : C) (authorization : Option String) (payload : Json) :
    Prop :=
  ∃ earlier later ttl, trace = earlier ++ (writer, ⟨.cacheSet key payload ttl, some ()⟩) :: later ∧
    (∀ entry ∈ later, ∀ other ttl, entry.2 ≠ ⟨.cacheSet key other ttl, some ()⟩) ∧
    Brought (eventsOf earlier writer) authorization payload

/-- The last entry under the key was written for the user who is logged in now, and for the same server. -/
def SameReader (trace : Trace cliSignature C) (machine : Machine) (reader : C) (key : String) : Prop :=
  ∀ writer authorization payload, LastWritten trace key writer authorization payload →
    userOf owner authorization = currentUser conversions owner machine ∧
      (invocation writer).settings.apiURL = (invocation reader).settings.apiURL

/-- The server has sent this payload to the user who is logged in now, in a command for the same server. -/
def FromServer (trace : Trace cliSignature C) (machine : Machine) (reader : C) (payload : Json) : Prop :=
  ∃ writer request authorization response executed,
    (writer, (⟨.send request authorization, ⟨.response response, executed⟩⟩ : CliEvent)) ∈ trace ∧
      response.isSuccess = true ∧ response.json = some payload ∧
      userOf owner authorization = currentUser conversions owner machine ∧
      (invocation writer).settings.apiURL = (invocation reader).settings.apiURL

end Origins

section Runs

/-- A cached entry was there before the step, or the step has written it. -/
theorem cache_of_responds {step : CliStep} {machine later : Machine} {answer : step.Answer}
    (answered : Responds step machine answer later) {key : String} {entry : CacheEntry} (cached : later.cache key = some entry) :
    (machine.cache key = some entry ∧ ∀ payload ttl, (⟨step, answer⟩ : CliEvent) ≠ ⟨.cacheSet key payload ttl, some ()⟩) ∨
      ∃ ttl, (⟨step, answer⟩ : CliEvent) = ⟨.cacheSet key entry.payload ttl, some ()⟩ := by
  cases step with
  | cacheSet name payload ttl =>
      cases answer with
      | none =>
          obtain rfl : later = machine := answered
          exact .inl ⟨cached, nofun⟩
      | some _ =>
          obtain ⟨now, rfl⟩ := answered
          by_cases same : key = name
          · subst same
            have own := (Function.update_self key _ machine.cache).symm.trans cached
            obtain rfl := Option.some.inj own
            exact .inr ⟨ttl, rfl⟩
          · refine .inl ⟨(Function.update_of_ne same _ _).symm.trans cached, fun _ _ written => ?_⟩
            cases written
            exact same rfl
  | cacheGet name =>
      refine .inl ⟨?_, nofun⟩
      cases answer with
      | none =>
          obtain rfl : later = machine := answered
          exact cached
      | some found =>
          obtain ⟨now, read⟩ := answered
          unfold Machine.getCache at read
          split at read
          · obtain ⟨_, rfl⟩ := Prod.mk.inj read
            exact cached
          · split at read
            · obtain ⟨_, rfl⟩ := Prod.mk.inj read
              by_cases same : key = name
              · subst same
                have gone : (machine.setCache key none).cache key = none := Function.update_self _ _ _
                rw [gone] at cached
                cases cached
              · exact (Function.update_of_ne same _ _).symm.trans cached
            · obtain ⟨_, rfl⟩ := Prod.mk.inj read
              exact cached
  | getPassword =>
      obtain rfl := answered.1
      exact .inl ⟨cached, nofun⟩
  | setPassword bundle =>
      refine .inl ⟨?_, nofun⟩
      obtain rfl := answered
      cases answer <;> exact cached
  | deletePassword =>
      refine .inl ⟨?_, nofun⟩
      obtain rfl := answered
      cases answer <;> exact cached
  | now =>
      obtain rfl : later = machine := answered
      exact .inl ⟨cached, nofun⟩
  | send call authorization =>
      obtain rfl : later = machine := answered
      exact .inl ⟨cached, nofun⟩
  | post url form =>
      obtain rfl : later = machine := answered
      exact .inl ⟨cached, nofun⟩
  | sleep seconds =>
      obtain rfl : later = machine := answered
      exact .inl ⟨cached, nofun⟩
  | setOnline online =>
      obtain rfl : later = machine := answered
      exact .inl ⟨cached, nofun⟩

theorem answer_nonempty (step : CliStep) : Nonempty step.Answer := by
  cases step with
  | send call authorization => exact ⟨⟨.failed, false⟩⟩
  | post url form => exact ⟨Sent.failed⟩
  | now => exact ⟨(0 : Rat)⟩
  | sleep seconds => exact ⟨()⟩
  | setOnline online => exact ⟨()⟩
  | _ => exact ⟨none⟩

/-- Every entry of the cache was written by a command, behind a successful response. -/
structure Recorded (program : C → CliProgram Unit) (trace : Trace cliSignature C) (pool : Invocations C) : Prop where
  history : ∀ call later outcome, Executes (pool.program call) later outcome →
    Executes (program call) (eventsOf trace call ++ later) outcome
  written : ∀ key entry, pool.world.cache key = some entry →
    ∃ writer authorization, LastWritten trace key writer authorization entry.payload

variable {program : C → CliProgram Unit} {trace : Trace cliSignature C} {pool next : Invocations C} {label : C × CliEvent}

theorem LastWritten.append {key : String} {writer : C} {authorization : Option String} {payload : Json}
    (written : LastWritten trace key writer authorization payload)
    (other : ∀ payload ttl, label.2 ≠ ⟨.cacheSet key payload ttl, some ()⟩) :
    LastWritten (trace ++ [label]) key writer authorization payload := by
  obtain ⟨earlier, later, ttl, rfl, last, brought⟩ := written
  refine ⟨earlier, later ++ [label], ttl, by simp, fun entry member => ?_, brought⟩
  rcases List.mem_append.mp member with old | new
  · exact last entry old
  · rw [List.mem_singleton.mp new]
    exact other

theorem Recorded.brought (recorded : Recorded program trace pool) (sourced : ∀ call, Sourced (program call))
    (taken : Pool.Step Responds pool label next) {key : String} {payload : Json} {ttl : Rat}
    (written : label.2 = ⟨.cacheSet key payload ttl, some ()⟩) :
    ∃ authorization, Brought (eventsOf trace label.1) authorization payload := by
  obtain ⟨later, outcome, executed⟩ := Pool.exists_executes answer_nonempty (next.program label.1)
  have whole := recorded.history _ _ _ (taken.executes executed)
  have own : eventsOf [label] label.1 = [label.2] := by simp [eventsOf]
  rw [own] at whole
  have behind := ((sourcedFrom_append [] _ _).mp (sourced label.1 [] _ outcome whole)).2
  exact behind.1 key payload ttl (by rw [written])

theorem Recorded.step (recorded : Recorded program trace pool) (sourced : ∀ call, Sourced (program call))
    (taken : Pool.Step Responds pool label next) : Recorded program (trace ++ [label]) next := by
  constructor
  · intro call later outcome executed
    rw [Pool.eventsOf_append, List.append_assoc]
    exact recorded.history call _ outcome (taken.executes executed)
  · intro key entry cached
    rcases cache_of_responds taken.answered cached with ⟨old, other⟩ | ⟨ttl, new⟩
    · obtain ⟨writer, authorization, written⟩ := recorded.written key entry old
      exact ⟨writer, authorization, written.append other⟩
    · obtain ⟨authorization, brought⟩ := recorded.brought sourced taken new
      exact ⟨label.1, authorization, trace, [], ttl, by rw [← new], fun event member => absurd member List.not_mem_nil,
        brought⟩

variable {conversions : Conversions} {owner : String → Option U} {hash : String → Int} {invocation : C → Invocation}
  {keyring : Option Stored} {final : Invocations C} {moments : List (Moment (Invocations C) (C × CliEvent))}

/-- What the cache answers is an entry that was there before the step. -/
theorem entry_of_read {machine later : Machine} {key : String} {payload : Json}
    (answered : Responds (.cacheGet key) machine (some (some payload)) later) :
    ∃ entry, machine.cache key = some entry ∧ entry.payload = payload := by
  obtain ⟨now, read⟩ := answered
  unfold Machine.getCache at read
  split at read
  · cases (Prod.mk.inj read).1
  · next entry found =>
      split at read
      · cases (Prod.mk.inj read).1
      · exact ⟨entry, found, (Option.some.inj (Prod.mk.inj read).1).symm⟩

omit [DecidableEq C] in
theorem Brought.mem {past : List CliEvent} {authorization : Option String} {payload : Json}
    (brought : Brought past authorization payload) :
    ∃ request response executed, (⟨.send request authorization, ⟨.response response, executed⟩⟩ : CliEvent) ∈ past ∧
      response.isSuccess = true ∧ response.json = some payload := by
  obtain ⟨front, request, response, executed, middle, rfl, _, succeeded, body⟩ := brought
  exact ⟨request, response, executed, by simp, succeeded, body⟩

/-- While each entry that is read was last written for the user who is logged in, and for the same server, every payload
that the cache serves was sent by this server to this user. -/
theorem cache_serves_owner
    (run : Runs (Pool.Step Responds) (Invocations.fresh conversions hash invocation keyring) moments final)
    (same : ∀ earlier moment later, moments = earlier ++ moment :: later → ∀ key payload,
      moment.label.2 = ⟨.cacheGet key, some (some payload)⟩ →
        SameReader conversions owner invocation (traceOf earlier) moment.state.world moment.label.1 key) :
    ∀ earlier moment later, moments = earlier ++ moment :: later → ∀ key payload,
      moment.label.2 = ⟨.cacheGet key, some (some payload)⟩ →
        FromServer conversions owner invocation (traceOf earlier) moment.state.world moment.label.1 payload := by
  intro earlier moment later split key payload read
  have recorded := (run.keeps_history
    (Recorded fun call => (invocation call).action.run conversions (invocation call).settings hash)
    (fun trace pool label next taken recorded => recorded.step (fun call => sourced_action hash _) taken) []
    ⟨fun call later outcome executed => executed, nofun⟩).2 earlier moment later split
  rw [List.nil_append] at recorded
  obtain ⟨next, taken⟩ := run.taken moment (by rw [split]; simp)
  have answered := taken.answered
  rw [read] at answered
  obtain ⟨entry, cached, rfl⟩ := entry_of_read answered
  obtain ⟨writer, authorization, written⟩ := recorded.written key entry cached
  obtain ⟨own, server⟩ := same earlier moment later split key entry.payload read writer authorization entry.payload written
  obtain ⟨before, after, ttl, whole, _, brought⟩ := written
  obtain ⟨request, response, executed, member, succeeded, body⟩ := brought.mem
  refine ⟨writer, request, authorization, response, executed, ?_, succeeded, body, own, server⟩
  have whole : traceOf earlier = before ++ (writer, ⟨.cacheSet key entry.payload ttl, some ()⟩) :: after := whole
  rw [whole]
  exact List.mem_append_left _ (Pool.mem_eventsOf.mp member)

end Runs

section Samples

/-- The user to whom the server has answered in this event. -/
def respondedTo (owner : String → Option U) : CliEvent → Option (Option U)
  | ⟨.send _ authorization, ⟨.response _, _⟩⟩ => some (userOf owner authorization)
  | _ => none

omit [DecidableEq C] in
theorem FromServer.respondedTo {conversions : Conversions} {owner : String → Option U} {invocation : C → Invocation}
    {trace : Trace cliSignature C} {machine : Machine} {reader : C} {payload : Json}
    (served : FromServer conversions owner invocation trace machine reader payload) :
    ∃ entry ∈ trace, Cli.respondedTo owner entry.2 = some (currentUser conversions owner machine) := by
  obtain ⟨writer, request, authorization, response, executed, member, _, _, own, _⟩ := served
  exact ⟨_, member, congrArg some own⟩

def plainConversions : Conversions where
  printable _ := true
  floatText _ := ""
  float
    | .integer value => some value
    | _ => none

def homeSettings : Settings :=
  ⟨"http://10.10.10.150:8000/api/v1", "https://10.10.10.150:8443", "pxtly", "pxtly-api", none⟩

def ownerOf (header : String) : Option String := if header = "Bearer alice" then some "alice" else some "bob"

/-- The token endpoint issues tokens that are named after the user. -/
def issue (call : Call) : Response :=
  match dictGet call.arguments "data" with
  | some (.object form) => ⟨200, some (.object [("access_token", (dictGet form "username").getD .null)]), ""⟩
  | _ => ⟨400, none, ""⟩

/-- The API answers until it has answered once, and the clock stands still. -/
def respond : (step : CliStep) → Machine → step.Answer × Machine
  | .now, machine => (0, machine)
  | .getPassword, machine => (some machine.keyring, machine)
  | .setPassword bundle, machine => (some (), { machine with keyring := some (.bundle bundle) })
  | .deletePassword, machine => (some (), { machine with keyring := none })
  | .send call none, machine => (⟨.response (issue call), true⟩, machine)
  | .send _ (some header), machine =>
      (⟨if (machine.cache "asset:RWA-1").isSome then .requestError "offline"
        else .response ⟨200, some (.string header), ""⟩, true⟩, machine)
  | .post _ _, machine => (.failed, machine)
  | .sleep _, machine => ((), machine)
  | .setOnline _, machine => ((), machine)
  | .cacheSet key payload ttl, machine => (some (), machine.setCache key (some ⟨payload, 0, ttl⟩))
  | .cacheGet key, machine => (some (machine.getCache key 0).1, (machine.getCache key 0).2)

theorem responds_respond (step : CliStep) (machine : Machine) :
    Responds step machine (respond step machine).1 (respond step machine).2 := by
  cases step with
  | now => rfl
  | getPassword => exact ⟨rfl, .inr rfl⟩
  | setPassword bundle => rfl
  | deletePassword => rfl
  | send call authorization => cases authorization <;> rfl
  | post url form => rfl
  | sleep seconds => rfl
  | setOnline online => rfl
  | cacheSet key payload ttl => exact ⟨0, rfl⟩
  | cacheGet key => exact ⟨0, rfl⟩

/-- Alice looks at an asset and logs out, then Bob logs in and looks at the same asset. -/
def sharedMachine : Fin 5 → Invocation
  | 0 => ⟨homeSettings, .loginPassword "alice" "secret"⟩
  | 1 => ⟨homeSettings, .api (.assetsGet "RWA-1")⟩
  | 2 => ⟨homeSettings, .logout⟩
  | 3 => ⟨homeSettings, .loginPassword "bob" "secret"⟩
  | 4 => ⟨homeSettings, .api (.assetsGet "RWA-1")⟩

def sharedStart : Invocations (Fin 5) := .fresh plainConversions (fun _ => 0) sharedMachine none

def untilOffline : List (Fin 5) := [0, 0, 0, 0, 1, 1, 1, 1, 2, 2, 3, 3, 3, 3, 4, 4, 4]

def beforeRead : List (Moment (Invocations (Fin 5)) (Fin 5 × CliEvent)) × Invocations (Fin 5) :=
  Pool.record respond sharedStart untilOffline

theorem responds_cached {machine : Machine} {key : String} {entry : CacheEntry} (cached : machine.cache key = some entry)
    (now : Rat) (fresh : ¬ (0 < entry.ttl ∧ entry.ttl < now - entry.cachedAt)) :
    Responds (.cacheGet key) machine (some (some entry.payload)) machine := by
  refine ⟨now, ?_⟩
  rw [Machine.getCache, cached]
  exact (if_neg fresh).symm

theorem bob_reads : ∃ next, Pool.Step Responds beforeRead.2
    (4, ⟨.cacheGet "asset:RWA-1", some (some (.string "Bearer alice"))⟩) next := by
  have cached : beforeRead.2.world.cache "asset:RWA-1" = some ⟨.string "Bearer alice", 0, 300⟩ := rfl
  have answered := responds_cached cached 0 (by norm_num)
  exact ⟨_, .perform (S := cliSignature) 4 (CliStep.cacheGet "asset:RWA-1") _ _ _ rfl answered⟩

/-- The server has answered Alice only, and Bob is logged in. -/
theorem cache_serves_alice_to_bob :
    ¬ ∀ moments final, Runs (Pool.Step Responds) sharedStart moments final →
      ∀ earlier moment later, moments = earlier ++ moment :: later → ∀ key payload,
        moment.label.2 = ⟨.cacheGet key, some (some payload)⟩ →
          FromServer plainConversions ownerOf sharedMachine (traceOf earlier) moment.state.world moment.label.1 payload := by
  intro crossing
  obtain ⟨next, read⟩ := bob_reads
  have run := (Pool.runs_record respond responds_respond sharedStart untilOffline).append (.step _ read .nil)
  have served := crossing _ _ run beforeRead.1 ⟨beforeRead.2, _⟩ [] rfl _ _ rfl
  obtain ⟨entry, member, same⟩ := served.respondedTo
  have answered : ∀ entry ∈ traceOf beforeRead.1, respondedTo ownerOf entry.2 ≠ some (some "bob") := by decide
  exact answered entry member same

def aliceTokens : TokenBundle := ⟨.string "alice", .null, .string "Bearer", 0, 0, .string ""⟩

/-- Alice looks at the same asset twice. -/
def ownMachine (_ : Bool) : Invocation := ⟨homeSettings, .api (.assetsGet "RWA-1")⟩

def ownStart : Invocations Bool := .fresh plainConversions (fun _ => 0) ownMachine (some (.bundle aliceTokens))

def ownRead : List (Moment (Invocations Bool) (Bool × CliEvent)) × Invocations Bool :=
  Pool.record respond ownStart [true, true, true, true, false, false, false]

theorem alice_reads : ∃ next, Pool.Step Responds ownRead.2
    (false, ⟨.cacheGet "asset:RWA-1", some (some (.string "Bearer alice"))⟩) next := by
  have cached : ownRead.2.world.cache "asset:RWA-1" = some ⟨.string "Bearer alice", 0, 300⟩ := rfl
  have answered := responds_cached cached 0 (by norm_num)
  exact ⟨_, .perform (S := cliSignature) false (CliStep.cacheGet "asset:RWA-1") _ _ _ rfl answered⟩

theorem alice_sameReader {earlier later : List (Moment (Invocations Bool) (Bool × CliEvent))}
    {moment : Moment (Invocations Bool) (Bool × CliEvent)} {label : Bool × CliEvent}
    (split : ownRead.1 ++ [⟨ownRead.2, label⟩] = earlier ++ moment :: later) (reader : Bool) (key : String) :
    SameReader plainConversions ownerOf ownMachine (traceOf earlier) moment.state.world reader key := by
  have users : ∀ moment ∈ ownRead.1, currentUser plainConversions ownerOf moment.state.world = some "alice" := by decide
  have answered : ∀ entry ∈ traceOf ownRead.1, ∀ user ∈ respondedTo ownerOf entry.2, user = some "alice" := by decide
  have inside : earlier ⊆ ownRead.1 := by
    intro other member
    rcases List.append_eq_append_iff.mp split.symm with ⟨between, whole, _⟩ | ⟨between, whole, rest⟩
    · rw [whole]
      exact List.mem_append_left _ member
    · cases between with
      | nil => rwa [whole, List.append_nil] at member
      | cons first between => cases between <;> simp at rest
  have user : currentUser plainConversions ownerOf moment.state.world = some "alice" := by
    have member : moment ∈ ownRead.1 ++ [⟨ownRead.2, label⟩] := by
      rw [split]
      simp
    rcases List.mem_append.mp member with old | new
    · exact users moment old
    · rw [List.mem_singleton.mp new]
      rfl
  rintro writer authorization payload ⟨before, after, ttl, whole, _, brought⟩
  obtain ⟨request, response, executed, member, _, _⟩ := brought.mem
  refine ⟨?_, rfl⟩
  have listed : (writer, (⟨.send request authorization, ⟨.response response, executed⟩⟩ : CliEvent)) ∈ traceOf earlier := by
    rw [whole]
    exact List.mem_append_left _ (Pool.mem_eventsOf.mp member)
  obtain ⟨moment, present, same⟩ := List.mem_map.mp listed
  have known := answered _ (List.mem_map_of_mem (inside present))
  rw [same] at known
  rw [user]
  exact known _ rfl

/-- The second look is served from the cache with what the server has sent to Alice. -/
theorem cache_serves_alice : FromServer plainConversions ownerOf ownMachine (traceOf ownRead.1) ownRead.2.world false
    (.string "Bearer alice") := by
  obtain ⟨next, read⟩ := alice_reads
  have run := (Pool.runs_record respond responds_respond ownStart [true, true, true, true, false, false, false]).append
    (.step _ read .nil)
  exact cache_serves_owner run (fun earlier moment later split key _ _ => alice_sameReader split _ key) ownRead.1 ⟨ownRead.2, _⟩ []
    rfl _ _ rfl

end Samples

end Machines

end Pxtly.Cli
