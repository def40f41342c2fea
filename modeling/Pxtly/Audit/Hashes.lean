/-
This file shows that the hash of a record of a trail determines all of its fields.
-/

import Pxtly.Audit.Integrity
import Pxtly.Foundation.Datetimes
import Pxtly.Foundation.JsonTexts

namespace Pxtly.Audit

open Foundation

section Texts

/-- Only digits and the sign stand in a decimal text. -/
theorem notMem_toDigits {c : Char} (other : c.isDigit = false) (number : Nat) : c ∉ Nat.toDigits 10 number := by
  intro member
  rw [Nat.isDigit_of_mem_toDigits (by decide) (by decide) member] at other
  cases other

theorem comma_notMem_toString (value : Int) : ',' ∉ (toString value).toList := by
  cases value with
  | ofNat number =>
      rw [toList_ofNat]
      exact notMem_toDigits rfl number
  | negSucc number =>
      rw [toList_negSucc, List.mem_cons, not_or]
      exact ⟨by decide, notMem_toDigits rfl (number + 1)⟩

theorem toString_int_inj {first second : Int} (same : toString first = toString second) : first = second := by
  have texts := congrArg String.toList same
  have read {number other : Nat} (digits : Nat.toDigits 10 number = Nat.toDigits 10 other) : number = other := by
    rw [← Nat.ofDigitChars_ten_toDigits (n := number), digits, Nat.ofDigitChars_ten_toDigits]
  have unsigned (number other : Nat) : Nat.toDigits 10 number ≠ '-' :: Nat.toDigits 10 (other + 1) := by
    intro digits
    have sign : '-' ∉ Nat.toDigits 10 number := notMem_toDigits rfl number
    rw [digits] at sign
    exact sign List.mem_cons_self
  cases first with
  | ofNat number =>
      cases second with
      | ofNat other =>
          rw [toList_ofNat, toList_ofNat] at texts
          exact congrArg Int.ofNat (read texts)
      | negSucc other =>
          rw [toList_ofNat, toList_negSucc] at texts
          exact absurd texts (unsigned number other)
  | negSucc number =>
      cases second with
      | ofNat other =>
          rw [toList_ofNat, toList_negSucc] at texts
          exact absurd texts.symm (unsigned other number)
      | negSucc other =>
          rw [toList_negSucc, toList_negSucc] at texts
          exact congrArg Int.negSucc (Nat.succ.inj (read (List.cons.inj texts).2))

end Texts

section Records

/-- This is the class `ProvenanceRecord` of the audit. -/
structure StampedRecord where
  txID : String
  timestamp : Datetime
  actorMSP : String
  actorDN : String
  action : String
  fromOwner : String
  toOwner : String
  amount : Float
  justification : String
  blockNumber : Int

/-- The checker writes the timestamp as a text. -/
def StampedRecord.written (record : StampedRecord) : ProvenanceRecord where
  txID := record.txID
  timestamp := record.timestamp.isoformat
  actorMSP := record.actorMSP
  actorDN := record.actorDN
  action := record.action
  fromOwner := record.fromOwner
  toOwner := record.toOwner
  amount := record.amount
  justification := record.justification
  blockNumber := record.blockNumber

variable (floatText : Float → String)

/-- SHA-256 is taken of these bytes. -/
def StampedRecord.preimage (record : StampedRecord) : Bytes := encode (record.written.serial floatText)

/-- These are the fields `computed_hash` of a report, in the order of its records. -/
def computedHashes (now : Int) (assetID : String) (provenance : List StampedRecord) : List String :=
  (check floatText now assetID (provenance.map StampedRecord.written)).records.map RecordIntegrity.computedHash

variable {floatText}

/-- The fields of a record stand under their names in its text. -/
theorem written_inj {record other : ProvenanceRecord} (plain : ',' ∉ (floatText record.amount).toList)
    (otherPlain : ',' ∉ (floatText other.amount).toList)
    (distinct : floatText record.amount = floatText other.amount → record.amount = other.amount)
    (same : record.serial floatText = other.serial floatText) : record = other := by
  unfold ProvenanceRecord.serial at same
  rw [String.append_left_inj, String.append_right_inj] at same
  have members := members_inj ?_ same
  · simp only [List.cons.injEq, Prod.mk.injEq, true_and, and_true, dumpsText_injective.eq_iff] at members
    obtain ⟨action, actorDN, actorMSP, amount, blockNumber, fromOwner, justification, timestamp, toOwner, txID⟩ := members
    have amounts := distinct amount
    have numbers : record.blockNumber = other.blockNumber := toString_int_inj blockNumber
    cases record
    cases other
    simp_all
  · simp only [List.forall₂_cons, List.Forall₂.nil, separable_dumpsText, true_and, and_true]
    exact ⟨separable_of_plain plain otherPlain,
      separable_of_plain (comma_notMem_toString _) (comma_notMem_toString _)⟩

theorem computedHash_foldl (progress : Progress) (records : List ProvenanceRecord) (index : Nat) :
    ((records.zipIdx index).foldl (Progress.visit floatText) progress).records.map RecordIntegrity.computedHash =
      progress.records.map RecordIntegrity.computedHash ++
        records.map fun record => hex (sha256 (encode (record.serial floatText))) := by
  induction records generalizing progress index with
  | nil => simp
  | cons record records inductionHypothesis =>
      rw [List.zipIdx_cons, List.foldl_cons, inductionHypothesis]
      simp [Progress.visit]

/-- Each record has its own hash, whatever stands before it. -/
theorem computedHashes_eq (now : Int) (assetID : String) (provenance : List StampedRecord) :
    computedHashes floatText now assetID provenance =
      provenance.map fun record => hex (sha256 (record.preimage floatText)) := by
  have hashes := @computedHash_foldl floatText {} (provenance.map StampedRecord.written) 0
  rw [List.map_nil, List.nil_append, List.map_map] at hashes
  exact hashes

/-- Where SHA-256 has no collision, equal hashes belong to records with the same ten fields, in any two trails. -/
theorem record_of_computedHash (commas : ∀ value, ',' ∉ (floatText value).toList) {now otherNow : Int}
    {assetID otherID : String} {provenance others : List StampedRecord} {index otherIndex : Nat}
    {record other : StampedRecord} (listed : provenance[index]? = some record)
    (otherListed : others[otherIndex]? = some other) (aware : record.timestamp.Aware)
    (otherAware : other.timestamp.Aware) (distinct : Set.InjOn floatText {record.amount, other.amount})
    (clean : Set.InjOn sha256 {record.preimage floatText, other.preimage floatText})
    (same : (computedHashes floatText now assetID provenance)[index]? =
      (computedHashes floatText otherNow otherID others)[otherIndex]?) : record = other := by
  rw [computedHashes_eq, computedHashes_eq, List.getElem?_map, List.getElem?_map, listed, otherListed, Option.map_some,
    Option.map_some, Option.some.injEq, hex_inj] at same
  have preimages := clean (Set.mem_insert _ _) (Set.mem_insert_of_mem _ rfl) same
  have fields : record.written = other.written :=
    written_inj (commas _) (commas _) (distinct (Set.mem_insert _ _) (Set.mem_insert_of_mem _ rfl))
      (encode_injective preimages)
  obtain ⟨txID, timestamp, actorMSP, actorDN, action, fromOwner, toOwner, amount, justification, blockNumber⟩ := record
  obtain ⟨_, otherTimestamp, _, _, _, _, _, _, _, _⟩ := other
  simp only [StampedRecord.written, ProvenanceRecord.mk.injEq] at fields
  obtain ⟨rfl, texts, rfl, rfl, rfl, rfl, rfl, rfl, rfl, rfl⟩ := fields
  obtain rfl : timestamp = otherTimestamp := isoformat_inj aware otherAware texts
  rfl

end Records

section Samples

def boundRecord (txID action : String) (amount : Float) : StampedRecord where
  txID
  timestamp := ⟨⟨⟨2026, 4, 1, by decide, by decide⟩, 12, 0, 0, 0, by decide, zeroMinute, zeroMinute, zeroMicrosecond,
    by decide⟩, some 7200000000⟩
  actorMSP := "BANK01MSP"
  actorDN := "CN=alice"
  action
  fromOwner := "alice@bank01.com"
  toOwner := "bob@bank01.com"
  amount
  justification := "\"sale\", of the bond"
  blockNumber := -1

/-- Two amounts are written as Python writes them. -/
def twoFloats (value : Float) : String := if value == 0 then "0.0" else "1500.0"

/-- A record keeps its hash in a longer trail of another asset. -/
theorem record_of_computedHash_repeated :
    (computedHashes twoFloats 0 "A" [boundRecord "t1" "TOKENISE" 0, boundRecord "t2" "TRANSFERE" 1500])[1]? =
        (computedHashes twoFloats 9 "B" [boundRecord "t2" "TRANSFERE" 1500])[0]? ∧
      boundRecord "t2" "TRANSFERE" 1500 = boundRecord "t2" "TRANSFERE" 1500 := by
  have aware : (boundRecord "t2" "TRANSFERE" 1500).timestamp.Aware := ⟨7200000000, rfl, by decide⟩
  have commas : ∀ value, ',' ∉ (twoFloats value).toList := by
    intro value
    unfold twoFloats
    split <;> decide
  have same : (computedHashes twoFloats 0 "A" [boundRecord "t1" "TOKENISE" 0, boundRecord "t2" "TRANSFERE" 1500])[1]? =
      (computedHashes twoFloats 9 "B" [boundRecord "t2" "TRANSFERE" 1500])[0]? := by
    simp only [computedHashes_eq, List.map_cons, List.getElem?_cons_succ, List.getElem?_cons_zero]
  exact ⟨same, record_of_computedHash commas rfl rfl aware aware (by simp) (by simp) same⟩

end Samples

end Pxtly.Audit
