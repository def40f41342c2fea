/-
This file gives the tables of credentials and nullifiers, the queries on them, and their constraints.
-/

import Pxtly.Assets.Models
import Pxtly.Foundation.Transactions

namespace Pxtly.Zkp

open Foundation
open Assets (Uuid)

/-- An instant counts microseconds in UTC. -/
abbrev Instant := Int

structure ZKPCredential where
  id : Uuid
  userID : Uuid
  publicKeyX : String
  publicKeyY : String
  ageOk : Bool := false
  kycOk : Bool := false
  notSanctioned : Bool := false
  kycLevel : Int := 0
  issuerSig : String
  issuedAt : Instant
  expiresAt : Instant
  revoked : Bool := false
  revokedAt : Option Instant := none
  revokedReason : Option String := none
  deriving DecidableEq

structure ZKPNullifier where
  id : Uuid
  nullifierHex : String
  purpose : String
  publicKeyX : String
  deriving DecidableEq

/-- The primary key of the nullifiers and their texts are unique. -/
structure Tables where
  clock : Instant
  credentials : List ZKPCredential
  nullifiers : List ZKPNullifier
  primaryKey : (nullifiers.map ZKPNullifier.id).Nodup
  nullifierKey : (nullifiers.map ZKPNullifier.nullifierHex).Nodup

inductive Query where
  | now
  | revokedCredential (publicKeyX : String)
  | nullifier (nullifierHex : String)

abbrev Query.Result : Query → Type
  | .now => Instant
  | .revokedCredential _ => Option ZKPCredential
  | .nullifier _ => Option ZKPNullifier

/-- A query with `limit(1)` gives one row where there is any. -/
def Tables.answer : (query : Query) → Tables → query.Result
  | .now, tables => tables.clock
  | .revokedCredential publicKeyX, tables =>
      tables.credentials.find? fun row => row.publicKeyX = publicKeyX ∧ row.revoked
  | .nullifier nullifierHex, tables => tables.nullifiers.find? fun row => row.nullifierHex = nullifierHex

inductive Write where
  | insertNullifier (row : ZKPNullifier)

/-- No other row has the primary key or the text of the nullifier. -/
def Tables.Fresh (tables : Tables) (row : ZKPNullifier) : Prop :=
  row.id ∉ tables.nullifiers.map ZKPNullifier.id ∧
    row.nullifierHex ∉ tables.nullifiers.map ZKPNullifier.nullifierHex

instance (tables : Tables) (row : ZKPNullifier) : Decidable (tables.Fresh row) :=
  inferInstanceAs (Decidable (_ ∧ _))

def Tables.apply (tables : Tables) : Write → Tables
  | .insertNullifier row =>
      if fresh : tables.Fresh row then
        { tables with
          nullifiers := tables.nullifiers ++ [row]
          primaryKey := by simpa [List.nodup_append, tables.primaryKey] using fresh.1
          nullifierKey := by simpa [List.nodup_append, tables.nullifierKey] using fresh.2 }
      else tables

def Tables.admits (tables : Tables) : Write → Bool
  | .insertNullifier row => tables.Fresh row

/-- A unique key lets a second insertion wait for the first. -/
def Write.clashes : Write → Write → Bool
  | .insertNullifier first, .insertNullifier second =>
      first.id = second.id || first.nullifierHex = second.nullifierHex

abbrev database : Database where
  Tables := Tables
  Query := Query
  Result := Query.Result
  Write := Write
  answer := Tables.answer
  apply := Tables.apply
  admits := Tables.admits
  clashes := Write.clashes

/-- The clock moves, and other functions issue and revoke credentials. Only a verification writes nullifiers. -/
def Drifts (tables drifted : Tables) : Prop :=
  ∃ clock credentials, tables.clock ≤ clock ∧ drifted = { tables with clock, credentials }

end Pxtly.Zkp
