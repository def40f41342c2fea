/-
This file compares the access-control map with what the functions enforce.
-/

import Pxtly.Chaincode.Provenance

namespace Pxtly.Chaincode

open Foundation

/-- No list entry of a function matches the MSP of an unauthorised caller. -/
def Unauthorised (creator : ClientIdentity) (functionName : String) : Prop :=
  ∀ msp allowed, creator.mspID = .ok msp → authorisedMSPs.lookup functionName = some allowed →
    authorises allowed msp = false

/-- A refused call returns the same error on every ledger and changes none. -/
def Refused (proposal : Proposal) (invocation : Invocation) : Prop :=
  ∃ err, ∀ ledger : Ledger, ledger.submit ⟨proposal, invocation⟩ = (ledger, .error err)

/-- The state database rejects a query text or answers it with stored documents. -/
def AnswersQueries (engine : QueryEngine) : Prop :=
  ∀ query, (∃ err, ∀ worldState, engine query worldState = .error err) ∨
    ∀ worldState, ∃ documents, engine query worldState = .ok documents ∧
      ∀ document ∈ documents, ∃ key, worldState.lookup key = some document

def Invocation.isWrite : Invocation → Bool
  | .tokenizeAsset .. => true
  | .transferAsset .. => true
  | .freezeAsset .. => true
  | .unfreezeAsset .. => true
  | .getAsset .. => false
  | .getAssetHistory .. => false
  | .getProvenanceTrail .. => false
  | .queryAssets .. => false

/-- The peer itself fails a read, or its database rejects the query text. -/
def Proposal.FailsRead (proposal : Proposal) : Invocation → Prop
  | .getAsset _ => proposal.fault .getState ≠ none
  | .getProvenanceTrail _ => proposal.fault .getState ≠ none
  | .getAssetHistory _ => proposal.fault .getHistoryForKey ≠ none
  | .queryAssets query => proposal.fault .getQueryResult ≠ none ∨
      ∃ err, ∀ worldState, proposal.richQuery query worldState = .error err
  | _ => False

theorem refused_of_invoke {proposal : Proposal} {invocation : Invocation} (err : GoError)
    (fails : ∀ ledger : Ledger, invoke (proposal.context ledger) invocation = .error err) :
    Refused proposal invocation := by
  refine ⟨err, ?_⟩
  intro ledger
  simp only [Ledger.submit, fails ledger]

/-- The role check reads the caller and not the ledger. -/
theorem verifyRole_refuses {proposal : Proposal} {functionName : String}
    (unauthorised : Unauthorised proposal.creator functionName) :
    ∃ err, ∀ ledger : Ledger, verifyRole (proposal.context ledger) functionName = .error err := by
  cases checked : verifyRole (proposal.context Ledger.empty) functionName with
  | error err => exact ⟨err, fun _ => checked⟩
  | ok passed =>
      obtain ⟨msp, allowed, known, _, listed, authorised⟩ := (verifyRole_eq_ok _ _ _).mp checked
      rw [unauthorised msp allowed known listed] at authorised
      cases authorised

/-- Every writing function refuses the callers that its entry does not list. -/
theorem refused_of_isWrite {proposal : Proposal} {invocation : Invocation}
    (writes : invocation.isWrite = true)
    (unauthorised : Unauthorised proposal.creator invocation.functionName) :
    Refused proposal invocation := by
  obtain ⟨err, fails⟩ := verifyRole_refuses unauthorised
  apply refused_of_invoke err
  intro ledger
  have checked := fails ledger
  cases invocation with
  | tokenizeAsset =>
      change verifyRole _ "TokenizeAsset" = _ at checked
      simp only [invoke, written, tokenizeAsset, checked, error_bind]
  | transferAsset =>
      change verifyRole _ "TransferAsset" = _ at checked
      simp only [invoke, written, transferAsset, checked, error_bind]
  | freezeAsset =>
      change verifyRole _ "FreezeAsset" = _ at checked
      simp only [invoke, written, freezeAsset, checked, error_bind]
  | unfreezeAsset =>
      change verifyRole _ "UnfreezeAsset" = _ at checked
      simp only [invoke, written, unfreezeAsset, checked, error_bind]
  | getAsset => cases writes
  | getAssetHistory => cases writes
  | getProvenanceTrail => cases writes
  | queryAssets => cases writes

theorem readAsset_fails {ctx : TransactionContext} {err : GoError} (assetID : String)
    (fault : ctx.stub.fault .getState = some err) :
    readAsset ctx assetID = .error (.wrap "getAsset: lecture ledger: %w" err) := by
  rw [readAsset, Stub.getState, Stub.ask_error fault]
  rfl

/-- A read that the peer fails is refused on every ledger. -/
theorem refused_of_failsRead {proposal : Proposal} {invocation : Invocation}
    (fails : proposal.FailsRead invocation) : Refused proposal invocation := by
  cases invocation with
  | getAsset assetID =>
      obtain ⟨err, fault⟩ := Option.ne_none_iff_exists'.mp fails
      apply refused_of_invoke
      intro ledger
      rw [invoke, getAsset, readAsset_fails assetID fault]
      rfl
  | getProvenanceTrail assetID =>
      obtain ⟨err, fault⟩ := Option.ne_none_iff_exists'.mp fails
      apply refused_of_invoke
      intro ledger
      rw [invoke, getProvenanceTrail, readAsset_fails assetID fault]
      rfl
  | getAssetHistory assetID =>
      obtain ⟨err, fault⟩ := Option.ne_none_iff_exists'.mp fails
      apply refused_of_invoke
      intro ledger
      rw [invoke, getAssetHistory, Stub.getHistoryForKey, Stub.ask_error fault]
      rfl
  | queryAssets query =>
      cases fault : proposal.fault .getQueryResult with
      | some err =>
          apply refused_of_invoke
          intro ledger
          rw [invoke, queryAssets, Stub.getQueryResult, Stub.ask_error fault]
          rfl
      | none =>
          obtain ⟨err, rejects⟩ := fails.resolve_left (fun faulty => faulty fault)
          apply refused_of_invoke
          intro ledger
          rw [invoke, queryAssets, Stub.getQueryResult, Stub.ask_none fault]
          change answered _ _ (wrapping _ (proposal.richQuery query ledger.worldState) >>= _) = _
          rw [rejects]
          rfl
  | tokenizeAsset => cases fails
  | transferAsset => cases fails
  | freezeAsset => cases fails
  | unfreezeAsset => cases fails

/-- A call that succeeds on one ledger is not refused. -/
theorem not_refused {proposal : Proposal} {invocation : Invocation} (ledger : Ledger) (response : Response)
    (accepted : (ledger.submit ⟨proposal, invocation⟩).2 = .ok response) :
    ¬ Refused proposal invocation := by
  intro refused
  obtain ⟨err, fails⟩ := refused
  rw [fails ledger] at accepted
  cases accepted

/-- The empty document decodes to the zero asset. -/
def blank : FinancialAsset where
  assetID := ""
  isin := ""
  assetType := ⟨""⟩
  assetName := ""
  issuerMSP := ""
  issuerLEI := ""
  currentOwner := ""
  nominalValue := 0
  currentValue := 0
  currency := ""
  status := ⟨""⟩
  issuanceDate := ""
  provenance := []

/-- A healthy peer reads the zero asset for any caller. -/
theorem readAsset_blank {proposal : Proposal} (assetID : String)
    (healthy : proposal.fault .getState = none) :
    readAsset (proposal.context (Ledger.empty.put "" assetID (.object []))) assetID = .ok blank := by
  rw [readAsset_eq_ok]
  exact ⟨healthy, .object [], Ledger.put_self _ _ _ _, rfl⟩

/-- A read that the peer serves is served to every caller. -/
theorem failsRead_of_refused {proposal : Proposal} {invocation : Invocation}
    (answers : AnswersQueries proposal.richQuery) (reads : invocation.isWrite = false)
    (refused : Refused proposal invocation) : proposal.FailsRead invocation := by
  cases invocation with
  | getAsset assetID =>
      intro healthy
      refine not_refused (Ledger.empty.put "" assetID (.object [])) (.asset blank) ?_ refused
      rw [Ledger.submit, invoke, getAsset, readAsset_blank assetID healthy]
      rfl
  | getProvenanceTrail assetID =>
      intro healthy
      refine not_refused (Ledger.empty.put "" assetID (.object [])) (.trail []) ?_ refused
      rw [Ledger.submit, invoke, getProvenanceTrail, readAsset_blank assetID healthy]
      rfl
  | getAssetHistory assetID =>
      intro healthy
      refine not_refused Ledger.empty (.history []) ?_ refused
      rw [Ledger.submit, invoke, getAssetHistory, Stub.getHistoryForKey, Stub.ask_none healthy]
      rfl
  | queryAssets query =>
      rcases answers query with rejects | served
      · exact .inr rejects
      · refine .inl ?_
        intro healthy
        obtain ⟨documents, answer, stored⟩ := served ∅
        have none : documents = [] := by
          apply List.eq_nil_iff_forall_not_mem.mpr
          intro document member
          obtain ⟨key, found⟩ := stored document member
          cases found
        subst none
        refine not_refused Ledger.empty (.assets []) ?_ refused
        rw [Ledger.submit, invoke, queryAssets, Stub.getQueryResult, Stub.ask_none healthy]
        have empty : (proposal.context Ledger.empty).stub.richQuery query
            (proposal.context Ledger.empty).stub.ledger.worldState = .ok [] := answer
        rw [empty]
        rfl
  | tokenizeAsset => cases reads
  | transferAsset => cases reads
  | freezeAsset => cases reads
  | unfreezeAsset => cases reads

/-- An unauthorised call is refused exactly when it is a write or the peer itself fails the read. -/
theorem refused_iff (proposal : Proposal) (invocation : Invocation)
    (answers : AnswersQueries proposal.richQuery)
    (unauthorised : Unauthorised proposal.creator invocation.functionName) :
    Refused proposal invocation ↔ invocation.isWrite = true ∨ proposal.FailsRead invocation := by
  constructor
  · intro refused
    cases writes : invocation.isWrite with
    | true => exact .inl rfl
    | false => exact .inr (failsRead_of_refused answers writes refused)
  · intro condition
    rcases condition with writes | fails
    · exact refused_of_isWrite writes unauthorised
    · exact refused_of_failsRead fails

/-- This caller belongs to neither organisation. -/
def foreigner : ClientIdentity := ⟨.ok "ROGUE01MSP", .ok "CN=user@rogue01.example"⟩

theorem foreigner_unauthorised (functionName : String) : Unauthorised foreigner functionName := by
  intro msp allowed known listed
  obtain rfl := Except.ok.inj known
  have every : ∀ entry ∈ authorisedMSPs, authorises entry.2 "ROGUE01MSP" = false := by decide +kernel
  obtain ⟨front, back, split, _⟩ := List.lookup_eq_some_iff.mp listed
  apply every (functionName, allowed)
  rw [split]
  exact List.mem_append_right front List.mem_cons_self

theorem healthy_answersQueries (creator : ClientIdentity) (txID : String) :
    AnswersQueries (Proposal.healthy creator txID).richQuery := by
  intro query
  refine .inr ?_
  intro worldState
  refine ⟨_, rfl, ?_⟩
  intro document member
  obtain ⟨entry, inside, rfl⟩ := List.mem_map.mp member
  exact ⟨entry.1, AList.mem_lookup_iff.mpr inside⟩

theorem refused_iff_foreigner :
    Refused (.healthy foreigner "t4") (.unfreezeAsset "RWA-BANK-BOND-2026-001" "release") :=
  (refused_iff (.healthy foreigner "t4") (.unfreezeAsset "RWA-BANK-BOND-2026-001" "release")
    (healthy_answersQueries foreigner "t4") (foreigner_unauthorised _)).mpr (.inl rfl)

/-- The map lists two organisations for `GetAsset`, but the caller of a third one reads a stored asset. -/
theorem foreigner_reads : Unauthorised foreigner "GetAsset" ∧
    ¬ Refused (.healthy foreigner "t4") (.getAsset "RWA-BANK-BOND-2026-001") ∧
    ∃ asset, ((Ledger.empty.run frozenSale).submit
      ⟨.healthy foreigner "t4", .getAsset "RWA-BANK-BOND-2026-001"⟩).2 = .ok (.asset asset) ∧
        asset.currentOwner = "alice@bank01.com" := by
  have seen : ((Ledger.empty.run frozenSale).find "RWA-BANK-BOND-2026-001").map (·.currentOwner) =
      some "alice@bank01.com" := by decide +kernel
  obtain ⟨asset, found, owner⟩ := Option.map_eq_some_iff.mp seen
  have read : ((Ledger.empty.run frozenSale).submit
      ⟨.healthy foreigner "t4", .getAsset "RWA-BANK-BOND-2026-001"⟩).2 = .ok (.asset asset) := by
    rw [Ledger.submit, invoke, getAsset, readAsset_of_find rfl found]
    rfl
  exact ⟨foreigner_unauthorised _, not_refused _ _ read, asset, read, owner⟩

end Pxtly.Chaincode
