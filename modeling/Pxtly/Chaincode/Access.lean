/-
This file gives the access-control map and the checks that read it.
-/

import Pxtly.Chaincode.Context

namespace Pxtly.Chaincode

open Foundation

def authorisedMSPs : List (String × List String) := [
  ("TokenizeAsset", ["BANK01MSP"]),
  ("TransferAsset", ["BANK01MSP"]),
  ("FreezeAsset", ["REG01MSP"]),
  ("UnfreezeAsset", ["REG01MSP"]),
  ("QueryAssets", ["BANK01MSP", "REG01MSP"]),
  ("GetAsset", ["BANK01MSP", "REG01MSP"]),
  ("GetAssetHistory", ["BANK01MSP", "REG01MSP"]),
  ("GetProvenanceTrail", ["BANK01MSP", "REG01MSP"])]

/-- A text of the caller's identity must be readable and not empty. -/
def readIdentity (unreadable empty : String) (field : Except GoError String) : Except GoError String := do
  let text ← wrapping unreadable field
  failWhen (text = "") (.errorf empty [])
  return text

def getClientMSP (ctx : TransactionContext) : Except GoError String :=
  readIdentity "getClientMSP: impossible de lire le MSP: %w" "getClientMSP: MSP ID vide"
    ctx.clientIdentity.mspID

def getClientDN (ctx : TransactionContext) : Except GoError String :=
  readIdentity "getClientDN: impossible de lire le certificat X.509: %w"
    "getClientDN: DN vide dans le certificat" ctx.clientIdentity.subject

/-- An MSP is authorised when it matches an entry of the list without regard to case. -/
def authorises (allowed : List String) (msp : String) : Bool := allowed.any (equalFold msp)

def verifyRole (ctx : TransactionContext) (functionName : String) : Except GoError Unit := do
  let msp ← wrapping "verifyRole: %w" (getClientMSP ctx)
  match authorisedMSPs.lookup functionName with
  | none => .error (.errorf
      "verifyRole: fonction '%s' non reconnue dans la politique d'accès" [.text functionName])
  | some allowed =>
      if authorises allowed msp then .ok ()
      else .error (.errorf "accès refusé: MSP '%s' non autorisé pour '%s' (autorisés: %s)"
        [.text msp, .text functionName, .text (", ".intercalate allowed)])

theorem readIdentity_eq_ok (unreadable empty text : String) (field : Except GoError String) :
    readIdentity unreadable empty field = .ok text ↔ field = .ok text ∧ text ≠ "" := by
  simp only [readIdentity, bind_eq_ok, wrapping_eq_ok, failWhen_eq_ok]
  constructor
  · rintro ⟨_, known, _, nonempty, same⟩
    obtain rfl := Except.ok.inj same
    exact ⟨known, nonempty⟩
  · rintro ⟨known, nonempty⟩
    exact ⟨text, known, (), nonempty, rfl⟩

@[simp] theorem getClientMSP_eq_ok (ctx : TransactionContext) (msp : String) :
    getClientMSP ctx = .ok msp ↔ ctx.clientIdentity.mspID = .ok msp ∧ msp ≠ "" :=
  readIdentity_eq_ok _ _ msp _

@[simp] theorem getClientDN_eq_ok (ctx : TransactionContext) (dn : String) :
    getClientDN ctx = .ok dn ↔ ctx.clientIdentity.subject = .ok dn ∧ dn ≠ "" :=
  readIdentity_eq_ok _ _ dn _

/-- The check passes exactly for the callers whose MSP the function's entry lists. -/
theorem verifyRole_eq_ok (ctx : TransactionContext) (functionName : String) (u : Unit) :
    verifyRole ctx functionName = .ok u ↔ ∃ msp allowed, ctx.clientIdentity.mspID = .ok msp ∧
      msp ≠ "" ∧ authorisedMSPs.lookup functionName = some allowed ∧ authorises allowed msp := by
  unfold verifyRole
  simp only [bind_eq_ok, wrapping_eq_ok, getClientMSP_eq_ok]
  constructor
  · rintro ⟨msp, ⟨known, nonempty⟩, passed⟩
    cases listed : authorisedMSPs.lookup functionName with
    | none => simp [listed] at passed
    | some allowed =>
        by_cases authorised : authorises allowed msp = true
        · exact ⟨msp, allowed, known, nonempty, rfl, authorised⟩
        · simp [listed, authorised] at passed
  · rintro ⟨msp, allowed, known, nonempty, listed, authorised⟩
    exact ⟨msp, ⟨known, nonempty⟩, by simp [listed, authorised]⟩

end Pxtly.Chaincode
