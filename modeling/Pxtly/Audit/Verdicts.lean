/-
This file gives the two verdicts on a trail, the one of the endpoint and the one of the report, and when they agree.
-/

import Pxtly.Audit.Trail

namespace Pxtly.Audit

open Foundation Fabric
open Assets (pyFloat)

section Checker

def isText (text : String) : Json → Bool
  | .string value => value == text
  | _ => false

/-- A list and a dictionary have no hash, so that no set can be searched for them. -/
def hashable : Json → Bool
  | .array _ => false
  | .object _ => false
  | _ => true

/-- The verdict of the loop depends on these values. -/
structure Verdict where
  globalValid : Bool := true
  seenTokenise : Bool := false

/-- An action of any type is compared with the texts; the flag already counts the record itself. -/
def tampers (index : Nat) (seenTokenise : Bool) (action : Json) : Bool :=
  (index == 0 && !isText "TOKENISE" action) || (isText "GELE" action && !seenTokenise) ||
    !allowedActions.any fun known => isText known action

/-- The last comparison takes the hash of the action. -/
def Verdict.visit (verdict : Verdict) (entry : TrailRecord × Nat) : Except String Verdict :=
  let action := entry.1.action
  let seenTokenise := isText "TOKENISE" action || verdict.seenTokenise
  if hashable action then .ok ⟨verdict.globalValid && !tampers entry.2 seenTokenise action, seenTokenise⟩
  else .error "unhashable type"

/-- This is the field `valid` of the report of `IntegrityChecker.check`. -/
def checkValid (provenance : List TrailRecord) : Except String Bool := do
  let verdict ← provenance.zipIdx.foldlM Verdict.visit {}
  return verdict.globalValid

/-- The action is one of the four. -/
def Known (record : TrailRecord) : Prop := ∃ action ∈ allowedActions, record.action = .string action

theorem isText_iff {text : String} {value : Json} : isText text value = true ↔ value = .string text := by
  cases value <;> simp [isText]

theorem any_isText_iff (record : TrailRecord) :
    (allowedActions.any fun action => isText action record.action) = true ↔ Known record := by
  simp only [List.any_eq_true, isText_iff, Known]

theorem hashable_of_known {record : TrailRecord} (known : Known record) : hashable record.action = true := by
  obtain ⟨action, _, same⟩ := known
  rw [same]
  rfl

theorem visit_eq_ok {verdict next : Verdict} {entry : TrailRecord × Nat} (visited : verdict.visit entry = .ok next) :
    next.globalValid = (verdict.globalValid &&
      !tampers entry.2 (isText "TOKENISE" entry.1.action || verdict.seenTokenise) entry.1.action) := by
  unfold Verdict.visit at visited
  dsimp only at visited
  split at visited
  next =>
    obtain rfl := Except.ok.inj visited
    rfl
  next => cases visited

/-- A verdict that is lost is not regained. -/
theorem globalValid_of_foldlM {verdict final : Verdict} (entries : List (TrailRecord × Nat))
    (ended : entries.foldlM Verdict.visit verdict = .ok final) (valid : final.globalValid = true) :
    verdict.globalValid = true := by
  induction entries generalizing verdict with
  | nil =>
      obtain rfl := Except.ok.inj ended
      exact valid
  | cons entry entries inductionHypothesis =>
      rw [List.foldlM_cons] at ended
      obtain ⟨next, visited, rest⟩ := (bind_eq_ok _ _ _).mp ended
      have kept := inductionHypothesis rest
      rw [visit_eq_ok visited, Bool.and_eq_true] at kept
      exact kept.1

/-- Behind a tokenisation, only unknown actions count. -/
theorem foldlM_visit_iff (verdict : Verdict) (seen : verdict.seenTokenise = true) (records : List TrailRecord)
    (index : Nat) (positive : 0 < index) :
    (∃ final, (records.zipIdx index).foldlM Verdict.visit verdict = .ok final ∧ final.globalValid = true) ↔
      verdict.globalValid = true ∧ ∀ record ∈ records, Known record := by
  induction records generalizing verdict index with
  | nil =>
      constructor
      · rintro ⟨final, same, valid⟩
        obtain rfl := Except.ok.inj same
        exact ⟨valid, nofun⟩
      · exact fun both => ⟨verdict, rfl, both.1⟩
  | cons record records inductionHypothesis =>
      have later : (index == 0) = false := by
        rw [beq_eq_false_iff_ne]
        omega
      rw [List.zipIdx_cons, List.foldlM_cons]
      by_cases hashed : hashable record.action = true
      · have visited : verdict.visit (record, index) = .ok ⟨verdict.globalValid &&
            allowedActions.any fun action => isText action record.action, true⟩ := by
          simp [Verdict.visit, tampers, hashed, seen, later]
        rw [visited, ok_bind, inductionHypothesis _ rfl (index + 1) (Nat.succ_pos index), Bool.and_eq_true,
          any_isText_iff, List.forall_mem_cons, and_assoc]
      · have failed : verdict.visit (record, index) = .error "unhashable type" := if_neg hashed
        rw [failed]
        constructor
        · rintro ⟨final, ended, _⟩
          cases ended
        · exact fun both => absurd (hashable_of_known (both.2 record List.mem_cons_self)) hashed

/-- The checker looks at the first action and for unknown ones, of whatever type they are. -/
theorem checkValid_iff (provenance : List TrailRecord) :
    checkValid provenance = .ok true ↔
      (∀ first ∈ provenance.head?, first.action = .string "TOKENISE") ∧ ∀ record ∈ provenance, Known record := by
  have whole : checkValid provenance = .ok true ↔
      ∃ final, provenance.zipIdx.foldlM Verdict.visit {} = .ok final ∧ final.globalValid = true := by
    rw [checkValid, bind_eq_ok]
    exact exists_congr fun final => and_congr_right fun _ => ⟨Except.ok.inj, congrArg Except.ok⟩
  rw [whole]
  cases provenance with
  | nil => exact iff_of_true ⟨{}, rfl, rfl⟩ ⟨nofun, nofun⟩
  | cons first rest =>
      simp only [List.head?_cons, Option.mem_some_iff, forall_eq', List.forall_mem_cons]
      rw [List.zipIdx_cons, List.foldlM_cons]
      by_cases tokenised : isText "TOKENISE" first.action = true
      · have text := isText_iff.mp tokenised
        have start : Verdict.visit {} (first, 0) = .ok ⟨true, true⟩ := by
          simp [Verdict.visit, tampers, text, isText, hashable, allowedActions]
        rw [start, ok_bind, foldlM_visit_iff _ rfl rest (0 + 1) Nat.one_pos]
        have known : Known first := ⟨"TOKENISE", by decide, text⟩
        exact ⟨fun both => ⟨text, known, both.2⟩, fun both => ⟨rfl, both.2.2⟩⟩
      · apply iff_of_false
        · rintro ⟨final, ended, valid⟩
          obtain ⟨next, visited, rest⟩ := (bind_eq_ok _ _ _).mp ended
          have kept := globalValid_of_foldlM _ rest valid
          rw [visit_eq_ok visited] at kept
          simp [tampers, tokenised] at kept
        · exact fun both => tokenised (isText_iff.mpr both.1)

/-- Where every action has a hash, the checker ends with a verdict. -/
theorem exists_checkValid {provenance : List TrailRecord}
    (hashed : ∀ record ∈ provenance, hashable record.action = true) : ∃ valid, checkValid provenance = .ok valid := by
  have ended (records : List TrailRecord) (index : Nat) (verdict : Verdict)
      (hashed : ∀ record ∈ records, hashable record.action = true) :
      ∃ final, (records.zipIdx index).foldlM Verdict.visit verdict = .ok final := by
    induction records generalizing index verdict with
    | nil => exact ⟨verdict, rfl⟩
    | cons record records inductionHypothesis =>
        obtain ⟨first, rest⟩ := List.forall_mem_cons.mp hashed
        obtain ⟨final, same⟩ := inductionHypothesis (index + 1) _ rest
        refine ⟨final, ?_⟩
        rw [List.zipIdx_cons, List.foldlM_cons, Verdict.visit]
        dsimp only
        rw [if_pos first, ok_bind]
        exact same
  obtain ⟨final, same⟩ := ended provenance 0 {} hashed
  exact ⟨final.globalValid, by rw [checkValid, same]; rfl⟩

/-- On records whose actions are texts, this is the verdict of the checker. -/
theorem checkValid_eq_check (floatText : Float → String) (now : Int) (assetID : String)
    {provenance : List ProvenanceRecord} {records : List TrailRecord}
    (texts : records.map TrailRecord.action = provenance.map fun record => .string record.action) :
    checkValid records = .ok (check floatText now assetID provenance).valid := by
  have hashed : ∀ read ∈ records, hashable read.action = true := by
    intro read member
    have listed := List.mem_map_of_mem (f := TrailRecord.action) member
    rw [texts] at listed
    obtain ⟨record, _, same⟩ := List.mem_map.mp listed
    rw [← same]
    rfl
  have begins : (∀ first ∈ records.head?, first.action = .string "TOKENISE") ↔
      ∀ first ∈ provenance.head?, first.action = "TOKENISE" := by
    have heads := congrArg List.head? texts
    rw [List.head?_map, List.head?_map] at heads
    cases first : records.head? <;> cases source : provenance.head? <;> simp_all
  have known : (∀ record ∈ records, Known record) ↔ ∀ record ∈ provenance, record.action ∈ allowedActions := by
    have actions : (∀ record ∈ records, Known record) ↔
        ∀ action ∈ records.map TrailRecord.action, ∃ known ∈ allowedActions, action = .string known := by
      rw [List.forall_mem_map]
      rfl
    rw [actions, texts, List.forall_mem_map]
    simp only [Json.string.injEq, exists_eq_right']
  obtain ⟨valid, ended⟩ := exists_checkValid hashed
  have verdict : valid = true ↔ (check floatText now assetID provenance).valid = true := by
    rw [check_valid_iff, ← begins, ← known, ← checkValid_iff, ended]
    exact ⟨congrArg Except.ok, Except.ok.inj⟩
  rw [ended, Bool.eq_iff_iff.mpr verdict]

end Checker

section Consumers

structure AuditAnswer where
  assetID : String
  verified : Bool
  blockchainProvenance : Json

inductive AuditFault where
  | client (fault : ClientError)
  | raised (message : String)
  | undelivered

variable (isoparse : String → Except String Datetime) (readFloat : String → Except String Float)
  (delivers : AuditAnswer → Bool)

/-- This is the endpoint; whether its answer fits the declared type and can be written is left open. -/
def fetchAuditTrail (assetID : String) (query : Except ClientError Json) : Except AuditFault AuditAnswer := do
  let payload ← query.mapError AuditFault.client
  let answer : AuditAnswer := { assetID, verified := true, blockchainProvenance := payload }
  if delivers answer then return answer else throw .undelivered

/-- This is the verdict that the task of the report publishes. -/
def integrityValid (query : Except ClientError Json) : Except AuditFault Bool := do
  let rawData ← query.mapError AuditFault.client
  let provenance ← (readItems (TrailRecord.read isoparse readFloat) rawData).mapError AuditFault.raised
  (checkValid provenance).mapError AuditFault.raised

/-- A trail that the endpoint calls verified is valid for the report. -/
def VerifiedSoundly (assetID : String) (query : Except ClientError Json) : Prop :=
  ∀ answer, fetchAuditTrail delivers assetID query = .ok answer → answer.verified = true →
    integrityValid isoparse readFloat query = .ok true

end Consumers

section Items

variable (isoparse : String → Except String Datetime) (readFloat : String → Except String Float)

/-- An item has the texts that it needs, and its other fields can be converted. -/
structure ReadableItem (item : List (String × Json)) : Prop where
  txID : truthy ((dictGet item "tx_id").getD (.string "")) = true
  actorMSP : truthy ((dictGet item "actor_msp").getD (.string "")) = true
  timestamp : ∃ timestamp, parseTimestamp isoparse (dictGet item "timestamp") = .ok timestamp
  amount : ∃ amount, pyFloat readFloat ((dictGet item "amount").getD (.number 0)) = .ok amount
  blockNumber : intReadable ((dictGet item "block_number").getD (.integer 0)) = true
  action : ∃ action ∈ allowedActions, dictGet item "action" = some (.string action)

/-- The response is a list of which the dictionaries are readable, and the first of them is a tokenisation. -/
structure SoundTrail (items : List Json) : Prop where
  readable : ∀ item ∈ dictionaries items, ReadableItem isoparse readFloat item
  tokenised : ∀ item ∈ (dictionaries items).head?, dictGet item "action" = some (.string "TOKENISE")

variable {isoparse readFloat}

theorem action_of_read {item : List (String × Json)} {record : TrailRecord}
    (read : TrailRecord.read isoparse readFloat item = .ok record) :
    record.action = (dictGet item "action").getD (.string "") := by
  unfold TrailRecord.read at read
  dsimp only at read
  split at read
  next =>
    simp only [bind_eq_ok] at read
    obtain ⟨timestamp, _, amount, _, blockNumber, _, same⟩ := read
    rw [← Except.ok.inj same]
  next => cases read

theorem action_eq_some {item : List (String × Json)} {action : String} (nonempty : action ≠ "") :
    (dictGet item "action").getD (.string "") = .string action ↔ dictGet item "action" = some (.string action) := by
  cases dictGet item "action" with
  | none => simp [Ne.symm nonempty]
  | some value => simp

/-- An item is read to a record with a known action exactly where it is readable. -/
theorem read_known_iff (item : List (String × Json)) :
    (∃ record, TrailRecord.read isoparse readFloat item = .ok record ∧ Known record) ↔
      ReadableItem isoparse readFloat item := by
  have proper : ∀ action ∈ allowedActions, action ≠ "" := by decide
  constructor
  · rintro ⟨record, read, action, allowed, named⟩
    rw [action_of_read read, action_eq_some (proper action allowed)] at named
    unfold TrailRecord.read at read
    dsimp only at read
    split at read
    next complete =>
      simp only [bind_eq_ok] at read
      obtain ⟨timestamp, parsed, amount, converted, blockNumber, counted, _⟩ := read
      simp only [Bool.and_eq_true] at complete
      refine ⟨complete.1.1, complete.1.2, ⟨timestamp, parsed⟩, ⟨amount, converted⟩, ?_, action, allowed, named⟩
      unfold pyInt at counted
      split at counted
      next readable => exact readable
      next => cases counted
    next => cases read
  · intro readable
    obtain ⟨timestamp, parsed⟩ := readable.timestamp
    obtain ⟨amount, converted⟩ := readable.amount
    obtain ⟨action, allowed, named⟩ := readable.action
    have present : truthy (.string action) = true := bne_iff_ne.mpr (proper action allowed)
    have counted : pyInt ((dictGet item "block_number").getD (.integer 0)) = .ok ⟨_, readable.blockNumber⟩ :=
      dif_pos readable.blockNumber
    have read : ∃ record, TrailRecord.read isoparse readFloat item = .ok record := by
      unfold TrailRecord.read
      simp only [readable.txID, readable.actorMSP, named, Option.getD_some, present, Bool.and_self, if_true, parsed,
        ok_bind, converted, counted]
      exact ⟨_, rfl⟩
    obtain ⟨record, read⟩ := read
    exact ⟨record, read, action, allowed, by rw [action_of_read read, named, Option.getD_some]⟩

/-- A list of items is read to records that the checker accepts exactly where it is sound. -/
theorem readItems_valid_iff (items : List Json) :
    (∃ provenance, readItems (TrailRecord.read isoparse readFloat) (.array items) = .ok provenance ∧
      checkValid provenance = .ok true) ↔ SoundTrail isoparse readFloat items := by
  have each (list : List (List (String × Json))) :
      (∃ provenance, list.mapM (TrailRecord.read isoparse readFloat) = .ok provenance ∧
        ∀ record ∈ provenance, Known record) ↔ ∀ item ∈ list, ReadableItem isoparse readFloat item := by
    induction list with
    | nil => exact iff_of_true ⟨[], rfl, nofun⟩ nofun
    | cons item rest inductionHypothesis =>
        rw [List.forall_mem_cons, ← read_known_iff, ← inductionHypothesis]
        constructor
        · rintro ⟨provenance, read, known⟩
          obtain ⟨record, records, first, later, rfl⟩ := mapM_cons_eq_ok.mp read
          obtain ⟨head, tail⟩ := List.forall_mem_cons.mp known
          exact ⟨⟨record, first, head⟩, records, later, tail⟩
        · rintro ⟨⟨record, first, head⟩, records, later, tail⟩
          exact ⟨record :: records, mapM_cons_eq_ok.mpr ⟨record, records, first, later, rfl⟩,
            List.forall_mem_cons.mpr ⟨head, tail⟩⟩
  have begins {list : List (List (String × Json))} {provenance : List TrailRecord}
      (read : list.mapM (TrailRecord.read isoparse readFloat) = .ok provenance) :
      (∀ first ∈ provenance.head?, first.action = .string "TOKENISE") ↔
        ∀ item ∈ list.head?, dictGet item "action" = some (.string "TOKENISE") := by
    cases list with
    | nil =>
        obtain rfl := Except.ok.inj read
        exact iff_of_true nofun nofun
    | cons item rest =>
        obtain ⟨record, records, first, _, rfl⟩ := mapM_cons_eq_ok.mp read
        simp only [List.head?_cons, Option.mem_some_iff, forall_eq']
        rw [action_of_read first, action_eq_some (by decide)]
  constructor
  · rintro ⟨provenance, read, valid⟩
    obtain ⟨first, known⟩ := (checkValid_iff provenance).mp valid
    exact ⟨(each _).mp ⟨provenance, read, known⟩, (begins read).mp first⟩
  · intro sound
    obtain ⟨provenance, read, known⟩ := (each _).mpr sound.readable
    exact ⟨provenance, read, (checkValid_iff provenance).mpr ⟨(begins read).mpr sound.tokenised, known⟩⟩

end Items

section Samples

/-- The only record of the trail has an action that the contract does not know. -/
def forgedTrail : Json :=
  .array [.object [("tx_id", .string "t1"), ("actor_msp", .string "BANK01MSP"), ("action", .string "FRAUDE")]]

end Samples

end Pxtly.Audit
