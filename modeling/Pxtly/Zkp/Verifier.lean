/-
This file gives the verification of a proof as a program over the tables of nullifiers.
-/

import Pxtly.Zkp.Crypto
import Pxtly.Zkp.Models

namespace Pxtly.Zkp

open Foundation Foundation.Database
open Assets (Uuid)

/-- These exceptions leave the verification. -/
inductive Fault where
  | attributeError
  | typeError
  | structError
  | databaseError
  deriving DecidableEq

abbrev Service (A : Type) := Program database.signature Fault A

abbrev perform (operation : database.Operation) : Service operation.Result := ask Fault.databaseError operation

abbrev fetch (query : Query) : Service query.Result := perform (.read query)

/-- A time of `datetime.fromisoformat` has a time zone or not. -/
inductive IsoTime where
  | aware (instant : Instant)
  | naive (instantInUtc : Instant)

/-- A platform has the curve of `py_ecc`, its own ECDSA verification key, the times that `fromisoformat` reads,
and the texts of floats. -/
structure Platform where
  curve : Curve
  verifies : Bytes → Bytes → Bool
  fromIsoFormat : String → Option IsoTime
  floatText : Float → String

structure ProofRequest where
  publicKeyX : String
  publicKeyY : String
  proofRx : String
  proofRy : String
  proofS : String
  purpose : String
  context : String
  nullifier : String
  credentialClaim : Json
  credentialSig : String

/-- A reason is a text with the texts of some values. -/
abbrev Reason := List PyText

structure PurposeClaims where
  ageOk : Bool := false
  kycOk : Bool := false
  notSanctioned : Bool := false
  kycLevel : Nat := 0

def purposeClaims : String → Option PurposeClaims
  | "asset_transfer" => some { ageOk := true, kycOk := true, notSanctioned := true, kycLevel := 2 }
  | "asset_create" => some { ageOk := true, kycOk := true, notSanctioned := true, kycLevel := 3 }
  | "kyc_gate" => some { kycOk := true }
  | "compliance_check" => some { notSanctioned := true }
  | _ => none

variable (platform : Platform)

/-- Every error of the signature check counts as a wrong signature. -/
def verifyIssuerSig (claim : Json) (sigHex : String) : Bool :=
  match fromHex sigHex with
  | some signature => platform.verifies (encode (dumps platform.floatText claim)) signature
  | none => false

/-- This is `claim.get(name, default)`; only a dictionary has it. -/
def claimGet (claim : Json) (name : String) (default : Json) : Except Fault Json :=
  match claim with
  | .object members => .ok ((dictGet members name).getD default)
  | _ => .error .attributeError

/-- Python compares a number with an integer, and a truth value counts as zero or one. -/
def lessThan (value : Json) (level : Nat) : Except Fault Bool :=
  match value with
  | .integer value => .ok (value < level)
  | .bool value => .ok (value.toNat < level)
  | .number value => .ok (value < Float.ofNat level)
  | _ => .error .typeError

/-- These attributes of the claim stand for a credential. -/
structure FakeCred where
  ageOk : Json
  kycOk : Json
  notSanctioned : Json
  kycLevel : Json

def fakeCredOf (claim : Json) : Except Fault FakeCred := do
  return {
    ageOk := ← claimGet claim "age_ok" (.bool false)
    kycOk := ← claimGet claim "kyc_ok" (.bool false)
    notSanctioned := ← claimGet claim "not_sanctioned" (.bool false)
    kycLevel := ← claimGet claim "kyc_level" (.integer 0) }

def checkPurposeClaims (credential : FakeCred) (purpose : String) : Except Fault (Bool × Reason) := do
  match purposeClaims purpose with
  | none => return (false, [.text s!"Unknown purpose: {purpose}"])
  | some required =>
      if required.ageOk && !truthy credential.ageOk then
        return (false, [.text "Proof does not satisfy age requirement (≥ 18)"])
      else if required.kycOk && !truthy credential.kycOk then
        return (false, [.text "Proof does not satisfy KYC requirement"])
      else if required.notSanctioned && !truthy credential.notSanctioned then
        return (false, [.text "Proof does not satisfy sanctions clearance requirement"])
      else if ← lessThan credential.kycLevel required.kycLevel then
        return (false, [.text "KYC level ", pyStr credential.kycLevel, .text s!" below required {required.kycLevel}"])
      else return (true, [.text "ok"])

/-- The time without a time zone counts as UTC. -/
def IsoTime.instant : IsoTime → Instant
  | .aware instant => instant
  | .naive instantInUtc => instantInUtc

/-- Only a text can be read as a time; a text that is no time has no result. -/
def expiryOf (value : Json) : Except Fault (Option Instant) :=
  match value with
  | .string text => .ok ((platform.fromIsoFormat text).map IsoTime.instant)
  | _ => .error .typeError

def isText (value : Json) (text : String) : Bool :=
  match value with
  | .string other => other == text
  | _ => false

/-- The coordinates and the scalar of a request are hexadecimal texts. -/
def ProofRequest.parse (request : ProofRequest) : Option (Point × SchnorrProof) := do
  let key ← pointFromHex request.publicKeyX request.publicKeyY
  return (key, ⟨← int16 request.proofRx, ← int16 request.proofRy, ← int16 request.proofS⟩)

def ProofRequest.contextBytes (request : ProofRequest) : Bytes := encode (request.purpose ++ ":" ++ request.context)

/-- This is the mathematical part of the verification. -/
def checkSchnorr (request : ProofRequest) : Except Fault (Option Reason) :=
  match request.parse with
  | none => .ok (some [.text "Malformed proof coordinates"])
  | some (key, proof) =>
      if !isOnCurve key then .ok (some [.text "Public key is not on secp256k1"])
      else match schnorrVerify platform.curve proof key request.contextBytes with
        | none => .error .structError
        | some false => .ok (some [.text "Schnorr proof is mathematically invalid"])
        | some true => .ok none

/-- These are the checks before the nullifier; a check that fails gives its reason. -/
def checkRequest (request : ProofRequest) : Service (Option Reason) := do
  let claim := request.credentialClaim
  if !verifyIssuerSig platform claim request.credentialSig then
    return some [.text "Invalid credential signature — not issued by this platform"]
  else
    let expiry ← Program.lift (claimGet claim "expires_at" (.string "") >>= expiryOf platform)
    match expiry with
    | none => return some [.text "Credential has invalid expiry date"]
    | some expiresAt =>
        let now ← fetch .now
        if expiresAt < now then return some [.text "Credential has expired"]
        else
          let claimX ← Program.lift (claimGet claim "Y_x" .null)
          let claimY ← Program.lift (claimGet claim "Y_y" .null)
          if !isText claimX request.publicKeyX || !isText claimY request.publicKeyY then
            return some [.text "Public key mismatch between credential and proof"]
          else
            let revoked ← fetch (.revokedCredential request.publicKeyX)
            if revoked.isSome then return some [.text "Credential has been revoked"]
            else
              let credential ← Program.lift (fakeCredOf claim)
              let (ok, reason) ← Program.lift (checkPurposeClaims credential request.purpose)
              if !ok then return some reason else Program.lift (checkSchnorr platform request)

/-- The nullifier takes its primary key from the request. -/
def ProofRequest.row (request : ProofRequest) (nullifierID : Uuid) : ZKPNullifier where
  id := nullifierID
  nullifierHex := request.nullifier
  purpose := request.purpose
  publicKeyX := request.publicKeyX

/-- The last steps look the nullifier up, insert it and commit. -/
def consumeNullifier (request : ProofRequest) (nullifierID : Uuid) : Option Reason → Service (Bool × Reason)
  | some reason => return (false, reason)
  | none => do
      let existing ← fetch (.nullifier request.nullifier)
      if existing.isSome then return (false, [.text "Nullifier already used — proof replayed"])
      else
        perform (.write (.insertNullifier (request.row nullifierID)))
        perform .commit
        return (true, [.text "Proof accepted"])

def verifyProof (request : ProofRequest) (nullifierID : Uuid) : Service (Bool × Reason) := do
  let refused ← checkRequest platform request
  consumeNullifier request nullifierID refused

section Samples

def holderUuid : Uuid := ⟨"00000000-0000-4000-8000-0000000000c1", by decide⟩
def thiefUuid : Uuid := ⟨"00000000-0000-4000-8000-0000000000c2", by decide⟩

/-- The development key has signed this claim for the holder of the secret key one. -/
def issuedClaim : Json := .object [
  ("Y_x", .string "0x79be667ef9dcbbac55a06295ce870b07029bfcdb2dce28d959f2815b16f81798"),
  ("Y_y", .string "0x483ada7726a3c4655da4fbfc0e1108a8fd17b448a68554199c47d08ffb10d4b8"),
  ("age_ok", .bool true), ("kyc_ok", .bool true), ("not_sanctioned", .bool true), ("kyc_level", .integer 2),
  ("issued_at", .string "2026-01-01T00:00:00+00:00"), ("expires_at", .string "2026-04-01T00:00:00+00:00")]

def issuedSignature : String :=
  "304502210099c126da20397558f23658764c3a7c583db7ff706e93981cc170e27ca83362" ++
    "01022038319a143c2eba06ebd51770dc857baf6d5d35b89356a24c6968cddc8fe73747"

/-- The holder proves his key for the gate, with the nonce two. -/
def gateRequest : ProofRequest where
  publicKeyX := "0x79be667ef9dcbbac55a06295ce870b07029bfcdb2dce28d959f2815b16f81798"
  publicKeyY := "0x483ada7726a3c4655da4fbfc0e1108a8fd17b448a68554199c47d08ffb10d4b8"
  proofRx := "0xc6047f9441ed7d6d3045406e95c07cd85c778e4b8cef3ca7abac09b95c709ee5"
  proofRy := "0x1ae168fea63dc339a3c58419466ceaeef7f632653266d0e1236431a950cfe52a"
  proofS := "0x31b2b40848251679496bb2fe867bec9676cb8904e82f41bdd45df7e8e95ab29b"
  purpose := "kyc_gate"
  context := "login"
  nullifier := "9dff6667d17f8edb94a01e2931bd99ad0233cb856ae2c54342c2f7409aa3c52d"
  credentialClaim := issuedClaim
  credentialSig := issuedSignature

/-- The development platform knows the signature that it has issued and the time at which its claim expires. -/
def devPlatform : Platform where
  curve := secp256k1
  verifies _ signature := fromHex issuedSignature == some signature
  fromIsoFormat text := if text = "2026-04-01T00:00:00+00:00" then some (.aware 1775001600000000) else none
  floatText := toString

/-- The checks of the holder's request depend on the clock and on the revoked credentials. -/
def gateChecks : Service (Option Reason) := do
  let now ← fetch .now
  if 1775001600000000 < now then return some [.text "Credential has expired"]
  else
    let revoked ← fetch (.revokedCredential gateRequest.publicKeyX)
    if revoked.isSome then return some [.text "Credential has been revoked"] else return none

/-- The development platform verifies its signature over every claim. -/
theorem dev_signed (claim : Json) : verifyIssuerSig devPlatform claim issuedSignature = true := by
  have read : (fromHex issuedSignature).isSome = true := by decide +kernel
  obtain ⟨signature, same⟩ := Option.isSome_iff_exists.mp read
  simp [verifyIssuerSig, devPlatform, same]

/-- The proof of the holder is valid, whatever nullifier comes with it. -/
theorem gate_proved (nullifier : String) : checkSchnorr devPlatform { gateRequest with nullifier } = .ok none := by
  have valid : (gateRequest.parse.bind fun parsed => if isOnCurve parsed.1 then
      schnorrVerify secp256k1 parsed.2 parsed.1 gateRequest.contextBytes else none) = some true := by decide +kernel
  obtain ⟨⟨key, proof⟩, parsed, verified⟩ := Option.bind_eq_some_iff.mp valid
  have same : ({ gateRequest with nullifier } : ProofRequest).parse = some (key, proof) := parsed
  split at verified
  · next curve =>
      have accepted : schnorrVerify devPlatform.curve proof key
          ({ gateRequest with nullifier } : ProofRequest).contextBytes = some true := verified
      rw [checkSchnorr, same]
      simp only [curve, accepted, Bool.not_true, Bool.false_eq_true, if_false]
  · cases verified

theorem checkRequest_gate (nullifier : String) :
    checkRequest devPlatform { gateRequest with nullifier } = gateChecks := by
  have keyX : isText (.string gateRequest.publicKeyX) gateRequest.publicKeyX = true := beq_self_eq_true _
  have keyY : isText (.string gateRequest.publicKeyY) gateRequest.publicKeyY = true := beq_self_eq_true _
  have signed : verifyIssuerSig devPlatform gateRequest.credentialClaim gateRequest.credentialSig = true := dev_signed _
  have expiry : (claimGet gateRequest.credentialClaim "expires_at" (.string "") >>= expiryOf devPlatform) =
      .ok (some 1775001600000000) := rfl
  have claimX : claimGet gateRequest.credentialClaim "Y_x" .null = .ok (.string gateRequest.publicKeyX) := rfl
  have claimY : claimGet gateRequest.credentialClaim "Y_y" .null = .ok (.string gateRequest.publicKeyY) := rfl
  have credential : fakeCredOf gateRequest.credentialClaim =
      .ok ⟨.bool true, .bool true, .bool true, .integer 2⟩ := rfl
  have purpose : checkPurposeClaims ⟨.bool true, .bool true, .bool true, .integer 2⟩ gateRequest.purpose =
      .ok (true, [.text "ok"]) := rfl
  simp only [checkRequest, gateChecks, signed, expiry, claimX, claimY, keyX, keyY, credential, purpose, gate_proved,
    Program.lift_ok_bind, Bool.not_true, Bool.or_self, Bool.false_eq_true, if_false]
  rfl

/-- No nullifier has been used at the time of the issue. -/
def newTables : Tables where
  clock := 1767225600000000
  credentials := []
  nullifiers := []
  primaryKey := List.nodup_nil
  nullifierKey := List.nodup_nil

end Samples

end Pxtly.Zkp
