/-
This file gives what becomes of a rejected call: the exception of the client and the status of the response.
-/

import Pxtly.FabricClient.Retry
import Pxtly.Foundation.Python

namespace Pxtly.Fabric

open Foundation Program
open Chaincode (FinancialAsset Ledger Proposal Request Response requireActiveAsset statusGele)

section Classification

/-- These are the exceptions of the client's own module. -/
inductive CliException where
  | assetNotFound (message : String)
  | assetFrozen (regulatoryRef : String)
  | endorsement (message : String)
  deriving DecidableEq, Repr

def isRefCharacter (c : Char) : Bool := isUpperOrDigit c || c == '_' || c == '-'

/-- The group of `ref:\s*([A-Z0-9_-]+)` where the text begins with a match. -/
def refHere : List Char → Option (List Char)
  | 'r' :: 'e' :: 'f' :: ':' :: rest =>
      let ref := (rest.dropWhile isSpace).takeWhile isRefCharacter
      if ref.isEmpty then none else some ref
  | _ => none

/-- A search takes the first match. -/
def searchRef : List Char → Option (List Char)
  | [] => none
  | c :: rest => (refHere (c :: rest)).or (searchRef rest)

def containsText (text : List Char) (part : String) : Bool := part.toList <:+: text

/-- The client looks for words of the contract in what the failed command prints. -/
def cliException (returncode : Int) (stderr : String) : CliException :=
  let text := strip stderr.toList
  if containsText text "introuvable sur le ledger" then
    .assetNotFound "Specifically missing required structural matching parameters dynamically."
  else if containsText text "gelé" then
    .assetFrozen (((searchRef text).map String.ofList).getD "UNKNOWN_REF")
  else .endorsement ("CLI error " ++ toString returncode ++ ": " ++ String.ofList text)

/-- These exceptions leave one attempt of a call. -/
inductive SubmitException where
  | valueError (message : String)
  | cli (exception : CliException)

variable (printable : Char → Bool) (printed : GoError → String) (returncode : Int)

/-- The command prints the error of the contract and fails; the faults before it are values that the client refuses. -/
def ClientError.exception : ClientError → SubmitException
  | .forbiddenArgument argument => .valueError ("Argument Fabric CLI contient des caractères interdits: " ++
      String.ofList ((reprText printable argument).toList.take 80))
  | .unknownIdentity identityLabel => .valueError ("Unknown identity mapping " ++ identityLabel)
  | .endorsement cause => .cli (cliException returncode (printed cause))

def attemptException : Except ClientError Response → Option SubmitException
  | .ok _ => none
  | .error fault => some (fault.exception printable printed returncode)

end Classification

section Responses

def CliException.className : CliException → String
  | .assetNotFound _ => "core.fabric_client.network.AssetNotFoundException"
  | .assetFrozen _ => "core.fabric_client.network.AssetFrozenError"
  | .endorsement _ => "core.fabric_client.network.FabricEndorsementError"

def SubmitException.className : SubmitException → String
  | .valueError _ => "builtins.ValueError"
  | .cli exception => exception.className

/-- The decorator raises the endorsement error of the application, not the one of the client. -/
def RetryFault.className : RetryFault SubmitException → String
  | .runtimeError _ => "builtins.RuntimeError"
  | .attributeError => "builtins.AttributeError"
  | .circuitBreakerOpen _ => "core.fabric_client.retry.CircuitBreakerOpenError"
  | .endorsement _ => "core.exceptions.FabricEndorsementError"
  | .raised exception => exception.className

/-- The handlers of the application, and the one for all other exceptions. -/
def exceptionHandlers : List (String × Nat) := [
  ("core.exceptions.AssetNotFoundException", 404),
  ("core.exceptions.AssetFrozenError", 409),
  ("core.exceptions.AssetAlreadyExistsError", 409),
  ("core.exceptions.FabricEndorsementError", 502),
  ("core.exceptions.ComplianceBlockedError", 403),
  ("builtins.Exception", 500)]

/-- A handler is looked up for the class of the exception and then for `Exception`, which all of them extend. -/
def RetryFault.status (fault : RetryFault SubmitException) : Nat :=
  ((exceptionHandlers.lookup fault.className).or (exceptionHandlers.lookup "builtins.Exception")).getD 500

/-- No class of the client's module has a handler. -/
theorem status_raised (exception : SubmitException) : (RetryFault.raised exception).status = 500 := by
  cases exception with
  | valueError message => rfl
  | cli exception => cases exception <;> rfl

example : (RetryFault.endorsement .timeout : RetryFault SubmitException).status = 502 := by decide +kernel

end Responses

section Causes

/-- This is the error that the others wrap. -/
def root : GoError → GoError
  | .errorf format operands => .errorf format operands
  | .wrap _ cause => root cause

variable (ledger : Ledger) (request : Request) (err : GoError)

/-- The contract refuses the call because it finds no asset under its key. -/
def RefusedAsMissing : Prop :=
  ∃ assetID, root err = .errorf "actif %s introuvable sur le ledger" [.text assetID] ∧
    ledger.worldState.lookup assetID = none

/-- The contract refuses a transfer or a freeze because the asset is frozen under the reference. -/
def RefusedAsFrozen (regulatoryRef : String) : Prop :=
  ∃ assetID asset, ledger.find assetID = some asset ∧ asset.status = statusGele ∧ asset.regulatoryRef = regulatoryRef ∧
    ((request.function = "TransferAsset" ∧ requireActiveAsset asset = .error (root err)) ∨
      (request.function = "FreezeAsset" ∧ root err = .errorf "actif %s déjà gelé" [.text assetID]))

/-- The exception and the status tell why the call was refused. -/
structure TellsTrueCause (exception : CliException) (status : Nat) : Prop where
  missing : (∃ message, exception = .assetNotFound message) ∧ status = 404 ↔ RefusedAsMissing ledger err
  frozen : ∀ regulatoryRef, exception = .assetFrozen regulatoryRef ∧ status = 409 ↔
    RefusedAsFrozen ledger request err regulatoryRef
  other : (∃ message, exception = .endorsement message) ∧ status = 502 ↔
    ¬ RefusedAsMissing ledger err ∧ ∀ regulatoryRef, ¬ RefusedAsFrozen ledger request err regulatoryRef

/-- An answer with the status of an unforeseen exception tells no cause at all. -/
theorem not_tellsTrueCause (exception : CliException) : ¬ TellsTrueCause ledger request err exception 500 := by
  intro tells
  have present : ¬ RefusedAsMissing ledger err := fun missing => by cases (tells.missing.mpr missing).2
  have free : ∀ regulatoryRef, ¬ RefusedAsFrozen ledger request err regulatoryRef := fun regulatoryRef frozen => by
    cases ((tells.frozen regulatoryRef).mpr frozen).2
  cases (tells.other.mpr ⟨present, free⟩).2

end Causes

section Runs

variable {A F : Type}

/-- An exception of an attempt ends the loop. -/
theorem attempts_raised {policy : RetryPolicy} {name : String} {remaining attempt : Nat} {currentDelay : Rat}
    {events : List (RetryEvent A F)} {outcome : Except (RetryFault F) A} {fault : F} {landed : Bool}
    (executed : Executes (attempts policy name remaining attempt currentDelay) events outcome)
    (raised : AttemptOutcome.raised fault landed ∈ outcomes events) : outcome = .error (.raised fault) := by
  induction remaining generalizing attempt currentDelay events with
  | zero =>
      obtain ⟨rfl, _⟩ := executed
      cases raised
  | succ remaining inductionHypothesis =>
      rw [attempts, executes_consult_bind] at executed
      obtain ⟨answer, later, rfl, executed⟩ := executed
      have again : ∀ latest, AttemptOutcome.raised fault landed ≠ answer →
          Executes (afterFailure policy name latest (remaining == 0) currentDelay
            (attempts policy name remaining (attempt + 1) (currentDelay * policy.factor))) later outcome →
          outcome = .error (.raised fault) := by
        intro latest different failed
        have behind : AttemptOutcome.raised fault landed ∈ outcomes later :=
          (List.mem_cons.mp raised).resolve_left different
        rcases afterFailure_outcomes failed with none | ⟨events, same, rest⟩
        · rw [none] at behind
          cases behind
        · exact inductionHypothesis rest (same ▸ behind)
      cases answer with
      | success value =>
          obtain ⟨state, _, rfl, _, _, rfl, rfl, _⟩ := executed
          rcases List.mem_cons.mp raised with same | behind
          · cases same
          · cases behind
      | timeout landed => exact again _ (by simp) executed
      | rpcError exceptionType => exact again _ (by simp) executed
      | connectionError exceptionType => exact again _ (by simp) executed
      | raised other otherLanded =>
          obtain ⟨rfl, rfl⟩ := executed
          rcases List.mem_cons.mp raised with same | behind
          · cases same
            rfl
          · cases behind

/-- The exception of an attempt leaves the decorator as it is. -/
theorem submitTransactionRetried_raised {settings : FabricSettings} {events : List (RetryEvent A F)}
    {outcome : Except (RetryFault F) A} {fault : F} {landed : Bool}
    (executed : Executes (submitTransactionRetried settings) events outcome)
    (raised : AttemptOutcome.raised fault landed ∈ outcomes events) : outcome = .error (.raised fault) := by
  rw [submitTransactionRetried, fabricRetry, RetryOverrides.policy, lift_ok_bind] at executed
  rcases (executes_bind _ _ _ _).mp executed with ⟨refusal, rfl, refused⟩ | ⟨first, second, _, rfl, entered, rest⟩
  · rw [enter_outcomes refused] at raised
    cases raised
  · rw [outcomes_append, enter_outcomes entered, List.nil_append] at raised
    exact attempts_raised rest raised

/-- A call that the contract rejects is answered with status 500, which is the status of none of its causes. -/
theorem rejection_untold {settings : FabricSettings} {events : List (RetryEvent A SubmitException)}
    {outcome : Except (RetryFault SubmitException) A} {raised : SubmitException} {landed : Bool} (client : FabricClient)
    (printable : Char → Bool) (printed : GoError → String) (returncode : Int) (ledger : Ledger) (proposal : Proposal)
    (request : Request) (identityLabel : String) (err : GoError)
    (rejected : (client.submitTransaction ledger proposal request identityLabel).2 = .error (.endorsement err))
    (answered : attemptException printable printed returncode
      (client.submitTransaction ledger proposal request identityLabel).2 = some raised)
    (executed : Executes (submitTransactionRetried settings) events outcome)
    (attempted : AttemptOutcome.raised raised landed ∈ outcomes events) :
    ∃ exception, outcome = .error (.raised (.cli exception)) ∧ exception = cliException returncode (printed err) ∧
      ¬ TellsTrueCause ledger request err exception (RetryFault.raised (.cli exception)).status := by
  rw [rejected] at answered
  obtain rfl := Option.some.inj answered
  refine ⟨_, submitTransactionRetried_raised executed attempted, rfl, ?_⟩
  rw [status_raised]
  exact not_tellsTrueCause ledger request err _

end Runs

section Samples

/-- A verb takes the next operand, and the sample has texts only. -/
def formatted : List Char → List Operand → List Char
  | '%' :: 'q' :: rest, .text value :: operands => '"' :: value.toList ++ '"' :: formatted rest operands
  | '%' :: _ :: rest, .text value :: operands => value.toList ++ formatted rest operands
  | c :: rest, operands => c :: formatted rest operands
  | [], _ => []

def message : GoError → List Char
  | .errorf format operands => formatted format.toList operands
  | .wrap format cause => formatted format.toList [.text (String.ofList (message cause))]

def samplePrinted (err : GoError) : String :=
  "Error: endorsement failure during invoke. response: status:500 message:" ++ String.ofList (message err)

def frozenBond : Ledger := Ledger.empty.run Chaincode.frozenSale

def resale : Request :=
  ⟨"TransferAsset", ["RWA-BANK-BOND-2026-001", "bob@bank01.com", "resale", "130.0"]⟩

def resaleError : GoError := .wrap "TransferAsset: %w" (.errorf
  "actif %s non disponible: statut=%s (réf réglementaire: %s)"
  [.text "RWA-BANK-BOND-2026-001", .text "GELE", .text "REG-INV-2026-001"])

def endorsementError : Except ClientError Response → Option GoError
  | .error (.endorsement err) => some err
  | _ => none

theorem eq_of_endorsementError {result : Except ClientError Response} {err : GoError}
    (found : endorsementError result = some err) : result = .error (.endorsement err) := by
  unfold endorsementError at found
  split at found
  · rw [Option.some.inj found]
  · cases found

theorem resale_rejected :
    (defaultClient.submitTransaction frozenBond (.healthy Chaincode.bank "t4") resale "bank01").2 =
      .error (.endorsement resaleError) :=
  eq_of_endorsementError (by decide +kernel)

def resaleException : CliException := cliException 1 (samplePrinted resaleError)

def resaleEvents : List (RetryEvent Unit SubmitException) := [
  ⟨.time, (0 : Rat)⟩, ⟨.breaker, ({} : BreakerState)⟩,
  ⟨.attempt 1 30, AttemptOutcome.raised (.cli resaleException) false⟩]

theorem executes_resaleEvents :
    Executes (submitTransactionRetried sampleSettings) resaleEvents (.error (.raised (.cli resaleException))) :=
  ⟨(0 : Rat), _, rfl, ({} : BreakerState), _, rfl, AttemptOutcome.raised (.cli resaleException) false, [], rfl, rfl,
    rfl⟩

theorem resale_untold : ∃ exception,
    (.error (.raised (.cli resaleException)) : Except (RetryFault SubmitException) Unit) =
      .error (.raised (.cli exception)) ∧ exception = cliException 1 (samplePrinted resaleError) ∧
      ¬ TellsTrueCause frozenBond resale resaleError exception (RetryFault.raised (.cli exception)).status :=
  rejection_untold defaultClient (fun _ => true) samplePrinted 1 frozenBond (.healthy Chaincode.bank "t4") resale
    "bank01" resaleError resale_rejected (by rw [resale_rejected]; rfl) executes_resaleEvents List.mem_cons_self

theorem resale_refusedAsFrozen : RefusedAsFrozen frozenBond resale resaleError "REG-INV-2026-001" := by
  have seen : (frozenBond.find "RWA-BANK-BOND-2026-001").map
      (fun asset => (asset.assetID, asset.status, asset.regulatoryRef)) =
        some ("RWA-BANK-BOND-2026-001", statusGele, "REG-INV-2026-001") := by decide +kernel
  obtain ⟨asset, found, fields⟩ := Option.map_eq_some_iff.mp seen
  obtain ⟨assetID, rest⟩ := Prod.mk.inj fields
  obtain ⟨status, reference⟩ := Prod.mk.inj rest
  refine ⟨_, asset, found, status, reference, .inl ⟨rfl, ?_⟩⟩
  rw [requireActiveAsset, status, assetID, reference]
  rfl

/-- The bank sells a frozen bond: the exception is not the one of a frozen asset, and the status is not 409.
A currency that quotes one word of the contract is taken for a frozen asset. -/
theorem resale_misclassified :
    (defaultClient.submitTransaction frozenBond (.healthy Chaincode.bank "t4") resale "bank01").2 =
      .error (.endorsement resaleError) ∧
    RefusedAsFrozen frozenBond resale resaleError "REG-INV-2026-001" ∧
    (∃ message, resaleException = .endorsement message) ∧
    (RetryFault.raised (.cli resaleException)).status = 500 ∧
    ¬ TellsTrueCause frozenBond resale resaleError resaleException (RetryFault.raised (.cli resaleException)).status ∧
    cliException 1 (samplePrinted (.wrap "TokenizeAsset: %w" (.errorf "devise non supportée: %q (ISO 4217 attendu)"
      [.text "gelé"]))) = .assetFrozen "UNKNOWN_REF" := by
  have silent : containsText (strip (samplePrinted resaleError).toList) "introuvable sur le ledger" = false ∧
      containsText (strip (samplePrinted resaleError).toList) "gelé" = false := by decide +kernel
  refine ⟨resale_rejected, resale_refusedAsFrozen, ?_, status_raised _, ?_, by decide +kernel⟩
  · rw [resaleException, cliException]
    simp only [silent.1, silent.2, Bool.false_eq_true, if_false]
    exact ⟨_, rfl⟩
  · rw [status_raised]
    exact not_tellsTrueCause _ _ _ _

end Samples

end Pxtly.Fabric
