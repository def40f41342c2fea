/-
This file gives the addresses in the audit log of the compliance service, and when the database stores them.
-/

import Pxtly.Compliance.Gates
import Pxtly.Core.ClientIp

namespace Pxtly.Compliance

open Foundation Program
open Core (Request extractClientIp firstEntry parseNetworks peerInTrustedNets requestIp)

/-- The database reads the literals of the type `INET`, which begin with an address. -/
structure InetReader where
  literal : String → Bool
  marked : ∀ text, literal text = true → ∃ c ∈ text.toList, c.isDigit = true ∨ c = ':'

/-- The context of a background call still has its default. -/
def getRequestIp (nets : List IpNetwork) : Option Request → String
  | none => "internal"
  | some request => requestIp (extractClientIp nets request)

section Sources

variable (nets : List IpNetwork) (request : Request)

def NoEntry : Prop := ∀ header, request.headers.lookup "x-forwarded-for" = some header → header = "" ∨ firstEntry header = ""

/-- A request names an address in one of these places. -/
inductive Named : String → Prop where
  | direct (peer : String) (client : request.client = some peer) (untrusted : peerInTrustedNets peer nets = false) :
      Named peer
  | forwarded (peer header : String) (client : request.client = some peer) (trusted : peerInTrustedNets peer nets = true)
      (sent : request.headers.lookup "x-forwarded-for" = some header) (nonempty : header ≠ "")
      (entry : firstEntry header ≠ "") : Named (firstEntry header)
  | realIp (peer header : String) (client : request.client = some peer) (trusted : peerInTrustedNets peer nets = true)
      (unforwarded : NoEntry request) (sent : request.headers.lookup "x-real-ip" = some header) (nonempty : header ≠ "") :
      Named (String.ofList (strip header.toList))
  | proxy (peer : String) (client : request.client = some peer) (trusted : peerInTrustedNets peer nets = true)
      (unforwarded : NoEntry request) (unsent : ∀ header, request.headers.lookup "x-real-ip" = some header → header = "") :
      Named peer

/-- A call within a request names a literal of the database. -/
def NamesAddress (inet : InetReader) (nets : List IpNetwork) : Option Request → Prop
  | none => False
  | some request => ∃ text, Named nets request text ∧ inet.literal text = true

variable {nets request}

theorem forwarded_iff : (let forwarded := (request.headers.lookup "x-forwarded-for").getD ""
    forwarded ≠ "" ∧ firstEntry forwarded ≠ "") ↔ ¬ NoEntry request := by
  unfold NoEntry
  cases request.headers.lookup "x-forwarded-for" with
  | none => simp
  | some header => simp

/-- The address of a request is what it names, or a word that is no address. -/
theorem extractClientIp_cases :
    Named nets request (extractClientIp nets request) ∨ extractClientIp nets request = "unknown" := by
  unfold extractClientIp
  dsimp only
  cases client : request.client with
  | none => exact .inr (by simp)
  | some peer =>
      rw [Option.getD_some]
      by_cases blank : peer = ""
      · exact .inr (by simp [blank])
      cases trusted : peerInTrustedNets peer nets with
      | false =>
          rw [if_neg (by simp), if_neg blank]
          exact .inl (.direct peer client trusted)
      | true =>
          rw [if_pos ⟨blank, rfl⟩, if_neg blank]
          by_cases entry : NoEntry request
          · rw [if_neg (mt forwarded_iff.mp (not_not.mpr entry))]
            cases sent : request.headers.lookup "x-real-ip" with
            | none =>
                rw [Option.getD_none, if_neg (by simp)]
                exact .inl (.proxy peer client trusted entry (by simp [sent]))
            | some header =>
                rw [Option.getD_some]
                by_cases empty : header = ""
                · rw [if_neg (by simp [empty])]
                  exact .inl (.proxy peer client trusted entry (by simp [sent, empty]))
                · rw [if_pos empty]
                  exact .inl (.realIp peer header client trusted entry sent empty)
          · have chosen := forwarded_iff.mpr entry
            rw [if_pos chosen]
            cases sent : request.headers.lookup "x-forwarded-for" with
            | none => exact absurd (by simp [sent]) chosen.1
            | some header =>
                rw [sent] at chosen
                exact .inl (.forwarded peer header client trusted sent chosen.1 chosen.2)

/-- An address that a request names is taken over, unless it is empty. -/
theorem Named.extractClientIp_eq {text : String} (named : Named nets request text) (nonempty : text ≠ "") :
    extractClientIp nets request = text := by
  unfold extractClientIp
  dsimp only
  cases named with
  | direct _ client untrusted =>
      rw [client, Option.getD_some, if_neg (by simp [untrusted]), if_neg nonempty]
  | forwarded peer header client trusted sent present entry =>
      rw [client, sent, Option.getD_some, Option.getD_some, if_pos ⟨Core.ne_blank_of_trusted trusted, trusted⟩,
        if_pos ⟨present, entry⟩]
  | realIp peer header client trusted unforwarded sent present =>
      rw [client, Option.getD_some, if_pos ⟨Core.ne_blank_of_trusted trusted, trusted⟩,
        if_neg (mt forwarded_iff.mp (not_not.mpr unforwarded)), sent, Option.getD_some, if_pos present]
  | proxy _ client trusted unforwarded unsent =>
      have absent : ¬ (request.headers.lookup "x-real-ip").getD "" ≠ "" := by
        cases sent : request.headers.lookup "x-real-ip" with
        | none => simp
        | some header => simp [unsent header sent]
      rw [client, Option.getD_some, if_pos ⟨Core.ne_blank_of_trusted trusted, trusted⟩,
        if_neg (mt forwarded_iff.mp (not_not.mpr unforwarded)), if_neg absent, if_neg nonempty]

variable {inet : InetReader}

theorem InetReader.word_refused {word : String}
    (plain : (word.toList.all fun c => !c.isDigit && c != ':') = true) : inet.literal word = false := by
  rw [List.all_eq_true] at plain
  rw [Bool.eq_false_iff]
  intro read
  obtain ⟨c, member, marked⟩ := inet.marked word read
  have unmarked := plain c member
  simp only [Bool.and_eq_true, Bool.not_eq_true', bne_iff_ne] at unmarked
  rcases marked with digit | colon
  · rw [unmarked.1] at digit
    cases digit
  · exact unmarked.2 colon

theorem not_literal_internal : inet.literal "internal" = false := inet.word_refused (by decide)
theorem not_literal_unknown : inet.literal "unknown" = false := inet.word_refused (by decide)
theorem not_literal_blank : inet.literal "" = false := inet.word_refused (by decide)

/-- The supplied address is a literal exactly when the request names one. -/
theorem literal_getRequestIp_iff (inet : InetReader) (nets : List IpNetwork) (context : Option Request) :
    inet.literal (getRequestIp nets context) = true ↔ NamesAddress inet nets context := by
  cases context with
  | none => exact iff_of_false (by simp [getRequestIp, not_literal_internal]) id
  | some request =>
      constructor
      · intro literal
        rw [getRequestIp, requestIp] at literal
        split at literal
        · rw [not_literal_internal] at literal
          cases literal
        · rcases (extractClientIp_cases : Named nets request _ ∨ _) with named | unknown
          · exact ⟨_, named, literal⟩
          · rw [unknown, not_literal_unknown] at literal
            cases literal
      · rintro ⟨text, named, literal⟩
        have nonempty : text ≠ "" := by
          rintro rfl
          rw [not_literal_blank] at literal
          cases literal
        rw [getRequestIp, requestIp, named.extractClientIp_eq nonempty, if_neg nonempty]
        exact literal

end Sources

section Verdicts

/-- Every entry carries an address that the call has asked for. -/
def Sourced (events : List StageEvent) : Prop :=
  ∀ entry answer, ⟨.commitLog entry, answer⟩ ∈ events → ⟨.requestIP, entry.ipAddress⟩ ∈ events

def Sources {A : Type} (program : Pipeline A) : Prop :=
  ∀ events outcome, Executes program events outcome → Sourced events

theorem Sourced.append {first second : List StageEvent} (before : Sourced first) (behind : Sourced second) :
    Sourced (first ++ second) := by
  intro entry answer member
  rcases List.mem_append.mp member with early | late
  · exact List.mem_append_left _ (before entry answer early)
  · exact List.mem_append_right _ (behind entry answer late)

theorem sourced_nil : Sourced [] := nofun

theorem sources_pure {A : Type} (value : A) : Sources (pure value : Pipeline A) := by
  rintro events outcome ⟨rfl, _⟩
  exact sourced_nil

theorem sources_raise {A : Type} (fault : StageFault) : Sources (raise fault : Pipeline A) := by
  rintro events outcome ⟨rfl, _⟩
  exact sourced_nil

theorem sources_lift {A : Type} (result : Except StageFault A) : Sources (lift result : Pipeline A) := by
  intro events outcome executed
  obtain ⟨rfl, _⟩ := (executes_lift _ _ _).mp executed
  exact sourced_nil

theorem Sources.bind {A B : Type} {program : Pipeline A} {next : A → Pipeline B} (sources : Sources program)
    (later : ∀ value, Sources (next value)) : Sources (program >>= next) := by
  intro events outcome executed
  rcases (executes_bind _ _ _ _).mp executed with ⟨fault, _, failed⟩ | ⟨first, second, value, rfl, ended, rest⟩
  · exact sources events _ failed
  · exact (sources first _ ended).append (later value second _ rest)

theorem sources_observe (stage : Stage) (silent : ∀ entry, stage ≠ .commitLog entry) : Sources (observe stage) := by
  rintro events outcome ⟨answer, later, rfl, rfl, _⟩ entry committed member
  have same := congrArg Event.operation (List.mem_singleton.mp member)
  exact absurd same.symm (silent entry)

/-- One entry is sourced by the question before it. -/
theorem sourced_entry (now : Float) {ipAddress : String} {row : AuditLog} (address : row.ipAddress = ipAddress)
    (answer : Except StageFault Unit) :
    Sourced [⟨.time, now⟩, ⟨.requestIP, ipAddress⟩, ⟨.commitLog row, answer⟩] := by
  subst address
  intro entry committed member
  have same : Stage.commitLog entry = .commitLog row := by
    simp only [List.mem_cons, List.not_mem_nil, or_false] at member
    rcases member with first | second | third
    · cases congrArg Event.operation first
    · cases congrArg Event.operation second
    · exact congrArg Event.operation third
  obtain rfl := Stage.commitLog.inj same
  exact List.mem_cons_of_mem _ List.mem_cons_self

theorem sources_logBlock (userID : Assets.Uuid) (action : String) (justification : Option String) (start : Float) :
    Sources (logBlock userID action justification start) := by
  rintro events outcome ⟨now, _, rfl, ipAddress, _, rfl, answer, _, rfl, committed⟩
  obtain ⟨rfl, _⟩ := (executes_lift _ _ _).mp committed
  refine sourced_entry now ?_ answer
  rfl

theorem sources_logPass (userID : Assets.Uuid) (start : Float) : Sources (logPass userID start) := by
  rintro events outcome ⟨now, _, rfl, ipAddress, _, rfl, answer, _, rfl, committed⟩
  obtain ⟨rfl, _⟩ := (executes_lift _ _ _).mp committed
  refine sourced_entry now ?_ answer
  rfl

section Pipeline

variable (check : Assets.ComplianceCheck) (start : Float)

theorem sources_verifyKYC : Sources (verifyKYC check start) := by
  refine (sources_observe _ (by intro _ same; cases same)).bind fun answer => ?_
  cases answer with
  | ok result => exact sources_pure result
  | error fault =>
      cases fault with
      | valueError message => exact (sources_logBlock _ _ _ _).bind fun _ => sources_raise _
      | screening fault => exact sources_raise _
      | other cause => exact sources_raise _

theorem sources_checkMiCA (kyc : KYCResult) (sanctions : SanctionsResult) (aml : AMLResult) :
    Sources (checkMiCA check start kyc sanctions aml) := by
  refine (sources_observe _ (by intro _ same; cases same)).bind fun answer => (sources_lift answer).bind fun mica => ?_
  split
  · exact (sources_logPass _ _).bind fun _ => sources_pure _
  · exact (sources_logBlock _ _ _ _).bind fun _ => sources_pure _

theorem sources_scoreAML (kyc : KYCResult) (sanctions : SanctionsResult) :
    Sources (scoreAML check start kyc sanctions) := by
  refine (sources_observe _ (by intro _ same; cases same)).bind fun answer => (sources_lift answer).bind fun aml => ?_
  split
  · split
    · refine (sources_observe _ (by intro _ same; cases same)).bind fun answer => (sources_lift answer).bind fun _ => ?_
      exact (sources_logBlock _ _ _ _).bind fun _ => sources_pure _
    · exact (sources_logBlock _ _ _ _).bind fun _ => sources_pure _
  · exact sources_checkMiCA check start kyc sanctions aml

theorem sources_serviceCheck : Sources (serviceCheck check) := by
  refine (sources_observe _ (by intro _ same; cases same)).bind fun start => (sources_verifyKYC check start).bind fun kyc => ?_
  split
  · refine (sources_observe _ (by intro _ same; cases same)).bind fun answer => (sources_lift answer).bind fun sanctions => ?_
    split
    · exact (sources_logBlock _ _ _ _).bind fun _ => sources_pure _
    · exact sources_scoreAML check start kyc sanctions
  · exact (sources_logBlock _ _ _ _).bind fun _ => sources_pure _

end Pipeline

/-- The context answers every question for the address. -/
def Supplied (address : String) (events : List StageEvent) : Prop :=
  ∀ answer, ⟨.requestIP, answer⟩ ∈ events → answer = address

def inetSyntax : StageFault := .other "invalid input syntax for type inet"

/-- Nothing but an address without a literal keeps the database from storing an entry. -/
def Stores (inet : InetReader) (events : List StageEvent) : Prop :=
  ∀ entry (answer : Except StageFault Unit), ⟨.commitLog entry, answer⟩ ∈ events →
    answer = if inet.literal entry.ipAddress then .ok () else .error inetSyntax

/-- The supplied address is a literal, and no entry of a compliance check is refused. -/
def AlwaysStorable (inet : InetReader) (address : String) : Prop :=
  inet.literal address = true ∧
    ∀ check events outcome, Executes (serviceCheck check) events outcome → Supplied address events →
      Stores inet events → ∀ entry fault, ⟨.commitLog entry, .error fault⟩ ∉ events

/-- The entries of the audit log are storable exactly in the calls that name a literal. -/
theorem audit_storable_iff (inet : InetReader) (nets : List IpNetwork) (context : Option Request) :
    AlwaysStorable inet (getRequestIp nets context) ↔ NamesAddress inet nets context := by
  rw [← literal_getRequestIp_iff]
  refine ⟨And.left, fun literal => ⟨literal, ?_⟩⟩
  intro check events outcome executed supplied stores entry fault refused
  have asked := sources_serviceCheck check events outcome executed entry _ refused
  have answered := stores entry (.error fault) refused
  rw [if_pos (by rw [supplied _ asked, literal])] at answered
  cases answered

end Verdicts

section Samples

/-- This reader takes the addresses that Python reads. -/
def addressReader : InetReader where
  literal text := (ipAddress text).isSome
  marked text read := by
    obtain ⟨address, known⟩ := Option.isSome_iff_exists.mp read
    exact marked_of_ipAddress known

def lostEvents : List StageEvent :=
  ⟨.time, (0 : Float)⟩ :: Gate.order.map (passingBehaviour.event bondCheck) ++
    [⟨.time, (0 : Float)⟩, ⟨.requestIP, "internal"⟩, ⟨.commitLog passingEntry, .error inetSyntax⟩]

/-- All stages pass the transfer of the bond in the background, and the verdict is lost with its entry. -/
theorem background_verdict_lost :
    ¬ AlwaysStorable addressReader (getRequestIp (parseNetworks Core.defaultProxyNets) none) ∧
      Executes (serviceCheck bondCheck) lostEvents (.error inetSyntax) ∧
      Supplied (getRequestIp (parseNetworks Core.defaultProxyNets) none) lostEvents ∧
      Stores addressReader lostEvents := by
  have executed : Executes (serviceCheck bondCheck) lostEvents (.error inetSyntax) :=
    ⟨(0 : Float), _, rfl, passingBehaviour.kyc, _, rfl, passingBehaviour.sanctions, _, rfl, passingBehaviour.aml, _,
      rfl, passingBehaviour.mica, _, rfl, (0 : Float), _, rfl, "internal", _, rfl, .error inetSyntax, _, rfl, rfl, rfl⟩
  refine ⟨fun storable => ?_, executed, ?_, ?_⟩
  · have literal := storable.1
    rw [getRequestIp, not_literal_internal] at literal
    cases literal
  · intro answer member
    simp only [lostEvents, Gate.order, List.map_cons, List.map_nil, List.cons_append, List.nil_append, List.mem_cons,
      List.not_mem_nil, or_false] at member
    rcases member with same | same | same | same | same | same | same | same
    all_goals cases same
    rfl
  · intro entry answer member
    simp only [lostEvents, Gate.order, List.map_cons, List.map_nil, List.cons_append, List.nil_append, List.mem_cons,
      List.not_mem_nil, or_false] at member
    rcases member with same | same | same | same | same | same | same | same
    all_goals cases same
    have refused : addressReader.literal passingEntry.ipAddress = false := not_literal_internal
    rw [refused]
    rfl

end Samples

end Pxtly.Compliance
