/-
This file gives how often the server executes what one call of the command line asks for.
-/

import Pxtly.Cli.Commands

namespace Pxtly.Cli

open Foundation Program

section Deliveries

/-- Only behind such an answer does the client send its request again. -/
def Sent.repeats : Sent → Bool
  | .response answer => answer.status == 401 || answer.status == 429 || 500 ≤ answer.status
  | .timeout _ => true
  | .requestError _ => false
  | .failed => false

/-- Every request but the last was answered in a way that makes the client send again. -/
def Resent (requests : List Delivery) : Prop := ∀ delivery ∈ requests.dropLast, delivery.sent.repeats = true

theorem resent_append {first second : List Delivery} (repeated : ∀ delivery ∈ first, delivery.sent.repeats = true)
    (resent : Resent second) : Resent (first ++ second) := by
  intro delivery member
  rw [List.dropLast_append] at member
  split at member
  · exact repeated delivery (List.dropLast_subset _ member)
  · rcases List.mem_append.mp member with early | late
    · exact repeated delivery early
    · exact resent delivery late

def executions (requests : List Delivery) : Nat := requests.countP fun delivery => delivery.executed

/-- These requests were executed, but the client sends again behind their answers. -/
def lost (requests : List Delivery) : Nat := requests.countP fun delivery => delivery.executed && delivery.sent.repeats

theorem executions_le_of_resent {requests : List Delivery} (resent : Resent requests) :
    executions requests ≤ lost requests + 1 := by
  rcases List.eq_nil_or_concat requests with rfl | ⟨earlier, last, rfl⟩
  · exact Nat.zero_le _
  · have same : executions earlier = lost earlier := by
      refine List.countP_congr fun delivery member => ?_
      rw [Resent, List.concat_eq_append, List.dropLast_concat] at resent
      rw [resent delivery member, Bool.and_true]
    have most : executions [last] ≤ 1 := List.countP_le_length
    rw [List.concat_eq_append, executions, lost, List.countP_append, List.countP_append]
    unfold executions lost at same
    unfold executions at most
    omega

end Deliveries

section Requests

variable {conversions : Conversions} {settings : Settings} {call : Call} {events : List CliEvent}

/-- These requests belong to one attempt that has ended in this way. -/
structure Attempt (requests : List Delivery) (outcome : Except CliFault Sent) : Prop where
  resent : Resent requests
  few : requests.length ≤ 2
  repeats : ∀ sent, outcome = .ok sent → sent.repeats = true → ∀ delivery ∈ requests, delivery.sent.repeats = true

theorem attempt_send {authorization : Option String} {outcome : Except CliFault Sent}
    (executed : Executes (send call authorization) events outcome) : Attempt (deliveries events) outcome := by
  obtain ⟨delivery, rfl, rfl⟩ := executes_send executed
  refine ⟨nofun, Nat.le_succ 1, fun sent same repeats other member => ?_⟩
  obtain rfl := Except.ok.inj same
  rwa [List.mem_singleton.mp member]

theorem Attempt.none {fault : CliFault} : Attempt [] (.error fault) := ⟨nofun, Nat.zero_le 2, nofun⟩

/-- A request that nothing else is sent behind. -/
theorem Attempt.once (delivery : Delivery) (outcome : Except CliFault Sent)
    (same : ∀ sent, outcome = .ok sent → sent = delivery.sent) : Attempt [delivery] outcome := by
  refine ⟨nofun, Nat.le_succ 1, fun sent ended repeats other member => ?_⟩
  rwa [List.mem_singleton.mp member, ← same sent ended]

/-- One attempt sends its request once, and once more only behind a 401. -/
theorem attempt_authFlow {outcome : Except CliFault Sent}
    (executed : Executes (authFlow conversions settings call) events outcome) : Attempt (deliveries events) outcome := by
  unfold authFlow at executed
  split at executed
  · exact attempt_send executed
  rcases (executes_bind _ _ _ _).mp executed with ⟨fault, rfl, failed⟩ | ⟨reading, afterReading, stored, rfl, read, continued⟩
  · rw [deliveries_of_quiet getTokenBundle_quiet failed]
    exact .none
  rw [deliveries_append, deliveries_of_quiet getTokenBundle_quiet read, List.nil_append]
  cases stored with
  | none => exact attempt_send continued
  | some bundle =>
      rcases (executes_bind _ _ _ _).mp continued with ⟨fault, rfl, failed⟩ | ⟨_, afterSending, sent, rfl, first, answered⟩
      · exact attempt_send failed
      obtain ⟨delivery, same, rfl⟩ := executes_send first
      obtain rfl := Except.ok.inj same
      change Attempt (delivery :: deliveries afterSending) outcome
      split at answered
      · next response arrived =>
          split at answered
          · obtain ⟨rfl, rfl⟩ := answered
            exact .once delivery _ fun sent same => (Except.ok.inj same).symm
          · next unauthorized =>
              have status : delivery.sent.repeats = true := by
                rw [arrived]
                simp [Sent.repeats, not_not.mp unauthorized]
              rcases (executes_bind _ _ _ _).mp answered with ⟨fault, rfl, failed⟩ | ⟨refreshing, last, newBundle, rfl, refreshed, ended⟩
              · rw [deliveries_of_quiet (attemptRefresh_quiet bundle) failed]
                exact .once delivery _ nofun
              rw [deliveries_append, deliveries_of_quiet (attemptRefresh_quiet bundle) refreshed, List.nil_append]
              cases newBundle with
              | none =>
                  rcases (executes_bind _ _ _ _).mp ended with ⟨fault, rfl, failed⟩ | ⟨_, _, _, rfl, deleted, rfl, rfl⟩
                  · rw [deliveries_of_quiet deleteTokens_quiet failed]
                    exact .once delivery _ nofun
                  · rw [deliveries_append, deliveries_of_quiet deleteTokens_quiet deleted]
                    exact .once delivery _ fun sent same => (Except.ok.inj same).symm
              | some newBundle =>
                  obtain ⟨again, rfl, rfl⟩ := executes_send ended
                  refine ⟨List.forall_mem_singleton.mpr status, le_rfl, fun sent same repeats other member => ?_⟩
                  obtain rfl := Except.ok.inj same
                  rcases List.mem_cons.mp member with rfl | member
                  · exact status
                  · rwa [List.mem_singleton.mp member]
      · obtain ⟨rfl, rfl⟩ := answered
        exact .once delivery _ fun sent same => (Except.ok.inj same).symm

theorem attempt_transmit {outcome : Except CliFault Sent}
    (executed : Executes (transmit conversions settings call) events outcome) : Attempt (deliveries events) outcome := by
  have inner {first : List CliEvent} {ended : Except CliFault Sent}
      (ran : Executes (if call.skipAuth then send call none else authFlow conversions settings call) first ended) :
      Attempt (deliveries first) ended := by
    split at ran
    · exact attempt_send ran
    · exact attempt_authFlow ran
  rcases (executes_bind _ _ _ _).mp executed with ⟨fault, rfl, failed⟩ | ⟨first, _, sent, rfl, ran, ended⟩
  · exact inner failed
  · split at ended
    · obtain ⟨rfl, rfl⟩ := ended
      rw [List.append_nil]
      exact ⟨(inner ran).resent, (inner ran).few, nofun⟩
    · obtain ⟨rfl, rfl⟩ := ended
      rw [List.append_nil]
      exact inner ran

theorem deliveries_backoff {A : Type} {left : Nat} {next : CliProgram A} {outcome : Except CliFault A}
    (executed : Executes (do backoff left; next) events outcome) :
    deliveries events = [] ∨ ∃ later, deliveries events = deliveries later ∧ Executes next later outcome := by
  rcases (executes_bind _ _ _ _).mp executed with ⟨fault, _, failed⟩ | ⟨first, later, _, rfl, waited, continued⟩
  · exact .inl (deliveries_of_quiet (backoff_quiet left) failed)
  · refine .inr ⟨later, ?_, continued⟩
    rw [deliveries_append, deliveries_of_quiet (backoff_quiet left) waited, List.nil_append]

theorem repeats_of_retryable {response : Response} (retryable : response.status ∈ retryableCodes) :
    (Sent.response response).repeats = true := by
  simp only [retryableCodes, List.mem_cons, List.not_mem_nil, or_false] at retryable
  rcases retryable with same | same | same | same | same <;> simp [Sent.repeats, same]

theorem repeats_of_server {response : Response} {error : APIError}
    (raised : raiseForResponse conversions response = .error error) (server : error.kind = .server) :
    (Sent.response response).repeats = true := by
  unfold raiseForResponse at raised
  split at raised
  · cases raised
  · dsimp only at raised
    split_ifs at raised with _ _ _ high <;> cases raised
    · cases server
    · cases server
    · cases server
    · simp [Sent.repeats, high]
    · cases server

/-- By induction on the attempts that are left: each one but the last ends in a way that makes the client send again. -/
theorem resent_attempts {left : Nat} {last : Option APIError} {outcome : Except CliFault Served}
    (executed : Executes (attempts conversions settings call left last) events outcome) :
    Resent (deliveries events) ∧ (deliveries events).length ≤ 2 * left := by
  induction left generalizing last events with
  | zero =>
      rw [deliveries_of_quiet (serveCached_quiet last) executed]
      exact ⟨nofun, le_rfl⟩
  | succ left inductionHypothesis =>
      rcases (executes_bind _ _ _ _).mp executed with ⟨fault, _, failed⟩ | ⟨first, later, sent, rfl, sending, continued⟩
      · have attempt := attempt_transmit failed
        exact ⟨attempt.resent, attempt.few.trans (by omega)⟩
      have attempt := attempt_transmit sending
      have ended (silent : deliveries later = []) :
          Resent (deliveries (first ++ later)) ∧ (deliveries (first ++ later)).length ≤ 2 * (left + 1) := by
        rw [deliveries_append, silent, List.append_nil]
        exact ⟨attempt.resent, attempt.few.trans (by omega)⟩
      have again {next : Option APIError} (repeats : sent.repeats = true)
          (rest : Executes (do backoff left; attempts conversions settings call left next) later outcome) :
          Resent (deliveries (first ++ later)) ∧ (deliveries (first ++ later)).length ≤ 2 * (left + 1) := by
        rcases deliveries_backoff rest with silent | ⟨remaining, same, ran⟩
        · exact ended silent
        · obtain ⟨resent, few⟩ := inductionHypothesis ran
          rw [deliveries_append, same, List.length_append]
          have short := attempt.few
          exact ⟨resent_append (attempt.repeats sent rfl repeats) resent, by omega⟩
      split at continued
      · obtain ⟨rfl, _⟩ := continued
        exact ended rfl
      · exact again rfl continued
      · exact ended (deliveries_of_quiet (serveCached_quiet _) continued)
      · next response =>
          split at continued
          · next retried => exact again (repeats_of_retryable retried.1) continued
          · split at continued
            · next error raised =>
                split at continued
                · next server => exact again (repeats_of_server raised server) continued
                · obtain ⟨rfl, _⟩ := continued
                  exact ended rfl
            · refine ended (deliveries_eq_nil ?_ continued)
              refine Within.bind ⟨trivial, fun _ => trivial⟩ fun _ => ?_
              exact (writeThrough_silent response).bind fun _ => trivial

/-- One call sends at most six requests, each but the last is answered in a way that makes the client send again, and the
server executes at most one request more than it has answered so. -/
theorem request_executions {outcome : Except CliFault Served}
    (executed : Executes (request conversions settings call) events outcome) :
    Resent (deliveries events) ∧ (deliveries events).length ≤ 2 * retryAttempts ∧
      executions (deliveries events) ≤ lost (deliveries events) + 1 := by
  obtain ⟨resent, few⟩ := resent_attempts executed
  exact ⟨resent, few, executions_le_of_resent resent⟩

end Requests

section Outcomes

/-- Nothing is stored in the keyring, and each request is answered by the next delivery. -/
def answerFrom : (step : CliStep) → List Delivery → step.Answer × List Delivery
  | .send _ _, [] => (⟨.failed, false⟩, [])
  | .send _ _, delivery :: rest => (delivery, rest)
  | .now, rest => (0, rest)
  | .getPassword, rest => (some none, rest)
  | .setPassword _, rest => (some (), rest)
  | .deletePassword, rest => (some (), rest)
  | .post _ _, rest => (.failed, rest)
  | .sleep _, rest => ((), rest)
  | .setOnline _, rest => ((), rest)
  | .cacheSet .., rest => (some (), rest)
  | .cacheGet _, rest => (some none, rest)

def sampleConversions : Conversions := ⟨fun _ => true, fun _ => "", fun _ => none⟩

def sampleSettings : Settings :=
  ⟨"http://10.10.10.150:8000/api/v1", "https://10.10.10.150:8443", "pxtly", "pxtly-api", none⟩

def tokenizeOnce : CliProgram Served :=
  request sampleConversions sampleSettings (Command.call (fun _ => 0) sampleSettings (.assetsTokenize .null))

def created : Delivery := ⟨.response ⟨201, some .null, "null"⟩, true⟩

/-- The server has executed the first request, but its answer came too late. -/
def lateThenCreated : List Delivery := [⟨.timeout "", true⟩, created]

theorem tokenizeOnce_executes (requests : List Delivery) :
    Executes (request sampleConversions sampleSettings (Command.call (fun _ => 0) sampleSettings (.assetsTokenize .null)))
      (tokenizeOnce.transcript answerFrom requests) (tokenizeOnce.evaluate answerFrom requests).1 :=
  executes_transcript (S := cliSignature) answerFrom tokenizeOnce requests

theorem request_executions_late :
    executions (deliveries (tokenizeOnce.transcript answerFrom lateThenCreated)) ≤
      lost (deliveries (tokenizeOnce.transcript answerFrom lateThenCreated)) + 1 :=
  (request_executions (tokenizeOnce_executes lateThenCreated)).2.2

/-- The first attempt times out behind the execution, and the second one executes the operation again. -/
theorem tokenized_twice :
    ¬ ∀ (command : Command) (events : List CliEvent) (outcome : Except CliFault Served),
      (command.call (fun _ => 0) sampleSettings).method ∈ ["POST", "DELETE"] →
        Executes (request sampleConversions sampleSettings (command.call (fun _ => 0) sampleSettings)) events outcome →
          executions (deliveries events) ≤ 1 := by
  intro once
  exact absurd (once (.assetsTokenize .null) _ _ (by decide) (tokenizeOnce_executes lateThenCreated)) (by decide)

end Outcomes

end Pxtly.Cli
