/-
This file gives the score of encrypted indicators, and when it agrees with the score of the plain ones.
-/

import Mathlib.Algebra.BigOperators.Fin
import Mathlib.Data.Nat.Size
import Mathlib.Data.Rat.Encodable
import Mathlib.Logic.Encodable.Pi
import Pxtly.Compliance.ExactScoring
import Pxtly.Foundation.DecimalPlaces
import Pxtly.Foundation.Framing

namespace Pxtly.Fhe

open Foundation Foundation.Database
open Program (Executes)
open Assets (Uuid)
open Compliance (StatusColumn RecordService)
open Compliance.Scoring (Indicators Assessment Event bonus finalScore)

section Slots

variable {R : Type}

/-- A plaintext fills every slot of the packing. -/
abbrev Plaintext (slots : Nat) (R : Type) := Fin slots → R

/-- This is `PtxtArray::load`: the slots behind the values are zero. -/
def load [Zero R] (slots : Nat) (values : List R) : Plaintext slots R := fun slot => values.getD slot 0

/-- The sum over all slots is the sum over the values, because the padding adds nothing. -/
theorem sum_load [Semiring R] {slots : Nat} {values weights : List R} (fits : values.length ≤ slots) :
    ∑ slot, load slots values slot * load slots weights slot = (List.zipWith (· * ·) values weights).sum := by
  induction values generalizing slots weights with
  | nil => simp [load]
  | cons value values inductionHypothesis =>
      cases slots with
      | zero => simp at fits
      | succ slots =>
          cases weights with
          | nil => simp [load]
          | cons weight weights =>
              have rest : values.length ≤ slots := by simpa using fits
              have later := @inductionHypothesis slots weights rest
              rw [Fin.sum_univ_succ, List.zipWith_cons_cons, List.sum_cons, ← later]
              rfl

end Slots

section Session

inductive FHEError where
  | runtimeError (message : String)
  | malformedCiphertext
deriving DecidableEq, Repr

/-- These are the operations of HElib under one key; an encryption draws random coins. -/
structure HElib (R Ctxt Coins : Type) where
  slots : Nat
  encrypt : Coins → Plaintext slots R → Ctxt
  multiply : Ctxt → Plaintext slots R → Ctxt
  totalSums : Ctxt → Ctxt
  decrypt : Ctxt → Plaintext slots R
  writeTo : Ctxt → Bytes
  readFrom : Bytes → Option Ctxt

variable {R Ctxt Coins : Type} [Zero R]

/-- This is `HElibCKKSSession::encrypt`. -/
def HElib.encryptIndicators (session : HElib R Ctxt Coins) (coins : Coins) (indicators : List R) : Bytes :=
  session.writeTo (session.encrypt coins (load session.slots indicators))

/-- This is `HElibCKKSSession::score`. -/
def HElib.score (session : HElib R Ctxt Coins) (ciphertext : Bytes) (weights : List R) : Except FHEError R := do
  let some ct := session.readFrom ciphertext | throw .malformedCiphertext
  let product := session.multiply ct (load session.slots weights)
  let decoded := List.ofFn (session.decrypt (session.totalSums product))
  match decoded with
  | [] => throw (.runtimeError "HElib decryption returned empty vector")
  | first :: _ => return first

/-- This is `get_session`; the native extension may not have been compiled. -/
def getSession (compiled : Option (HElib R Ctxt Coins)) : Except FHEError (HElib R Ctxt Coins) :=
  match compiled with
  | some session => .ok session
  | none => .error (.runtimeError ("HElib CKKS native extension not available. " ++
      "Build it first: cd core/features/fhe && python setup.py build_ext --inplace"))

/-- The arithmetic of HElib is exact, and three indicators fit its slots. -/
structure HElib.Exact (session : HElib Rat Ctxt Coins) : Prop where
  roomy : 3 ≤ session.slots
  decrypt_encrypt : ∀ coins plaintext, session.decrypt (session.encrypt coins plaintext) = plaintext
  decrypt_multiply : ∀ ct weights,
    session.decrypt (session.multiply ct weights) = fun slot => session.decrypt ct slot * weights slot
  decrypt_totalSums : ∀ ct, session.decrypt (session.totalSums ct) = fun _ => ∑ slot, session.decrypt ct slot
  readFrom_writeTo : ∀ ct, session.readFrom (session.writeTo ct) = some ct

/-- The decrypted slot holds the weighted sum of the values. -/
theorem HElib.Exact.score_encryptIndicators {session : HElib Rat Ctxt Coins} (exact : session.Exact)
    (coins : Coins) (indicators weights : List Rat) (few : indicators.length ≤ 3) :
    session.score (session.encryptIndicators coins indicators) weights =
      .ok (List.zipWith (· * ·) indicators weights).sum := by
  have read := exact.readFrom_writeTo (session.encrypt coins (load session.slots indicators))
  have decoded : session.decrypt (session.totalSums (session.multiply
      (session.encrypt coins (load session.slots indicators)) (load session.slots weights))) =
      fun _ => (List.zipWith (· * ·) indicators weights).sum := by
    rw [exact.decrypt_totalSums, exact.decrypt_multiply, exact.decrypt_encrypt]
    funext _
    exact sum_load (few.trans exact.roomy)
  rw [HElib.score, HElib.encryptIndicators, read]
  simp only [decoded]
  obtain ⟨slots, same⟩ : ∃ slots, session.slots = slots + 1 := ⟨session.slots - 1, by have := exact.roomy; omega⟩
  rw [List.ofFn_congr same, List.ofFn_succ]
  rfl

end Session

section Scorer

variable {R Ctxt Coins : Type} [Zero R] [PyNumber R] [OfScientific R]

def weightJurisdiction : R := 0.3
def weightCrossBorder : R := 0.4
def weightVolume : R := 0.3

def weights : List R := [weightJurisdiction, weightCrossBorder, weightVolume]

/-- This is `FHEClient.encrypt_indicators`. -/
def encryptIndicators (compiled : Option (HElib R Ctxt Coins)) (coins : Coins) (jurisdiction crossBorder volume : R) :
    Except FHEError Bytes := do
  let session ← getSession compiled
  return session.encryptIndicators coins [jurisdiction, crossBorder, volume]

/-- This is `FHEScorer.compute_score`. -/
def computeScore (compiled : Option (HElib R Ctxt Coins)) (ciphertext : Bytes) : Except FHEError R := do
  let session ← getSession compiled
  let raw ← session.score ciphertext weights
  return PyNumber.roundPlaces raw 4

/-- The client encrypts its indicators, and the server scores the ciphertext. -/
def encryptedScore (compiled : Option (HElib R Ctxt Coins)) (coins : Coins) (indicators : Indicators R) :
    Except FHEError R := do
  let ciphertext ← encryptIndicators compiled coins indicators.jurisdictionRisk indicators.crossBorderActivity
    indicators.unusualVolume
  computeScore compiled ciphertext

/-- This is the exact weighted sum of the indicators. -/
def weightedSum (indicators : Indicators Rat) : Rat :=
  3 / 10 * indicators.jurisdictionRisk + 4 / 10 * indicators.crossBorderActivity + 3 / 10 * indicators.unusualVolume

/-- The server returns the weighted sum with four decimals, and nothing keeps it between zero and one. -/
theorem encryptedScore_eq {session : HElib Rat Ctxt Coins} (exact : session.Exact) (coins : Coins)
    (indicators : Indicators Rat) :
    encryptedScore (some session) coins indicators = .ok (roundDecimals (weightedSum indicators) 4) := by
  have scored := exact.score_encryptIndicators coins
    [indicators.jurisdictionRisk, indicators.crossBorderActivity, indicators.unusualVolume] weights le_rfl
  have sum : (List.zipWith (· * ·) [indicators.jurisdictionRisk, indicators.crossBorderActivity,
      indicators.unusualVolume] weights).sum = weightedSum indicators := by
    simp only [weights, weightJurisdiction, weightCrossBorder, weightVolume, weightedSum, List.zipWith_cons_cons,
      List.zipWith_nil_left, List.sum_cons, List.sum_nil]
    ring
  rw [sum] at scored
  show (do
    let raw ← session.score _ weights
    return PyNumber.roundPlaces raw 4 : Except FHEError Rat) = _
  rw [scored]
  rfl

end Scorer

section Agreement

variable {status : StatusColumn} {Ctxt Coins : Type}

/-- The weighted sum is the raw score before its bonus, and the plain scorer keeps the raw score between zero and one. -/
theorem finalScore_eq (indicators : Indicators Rat) (amount : Rat) :
    finalScore indicators amount = roundDecimals (max 0 (min (weightedSum indicators + bonus amount) 1)) 4 := by
  have raw : Compliance.Scoring.rawScore indicators amount = weightedSum indicators + bonus amount := by
    have weights : (0.3 : Rat) = 3 / 10 ∧ (0.4 : Rat) = 4 / 10 := by norm_num
    rw [Compliance.Scoring.rawScore, Compliance.Scoring.highAmountBonus_eq, weights.1, weights.2, weightedSum]
    ring
  show roundDecimals (Compliance.Scoring.clamp _) 4 = _
  rw [Compliance.Scoring.clamp_eq, raw]

theorem roundDecimals_zero : roundDecimals 0 4 = 0 := by exact_mod_cast roundDecimals_intCast 0 4

theorem roundDecimals_one : roundDecimals 1 4 = 1 := by exact_mod_cast roundDecimals_intCast 1 4

/-- Half a unit of the last decimal below zero is rounded to zero. -/
theorem zero_le_roundDecimals_iff (value : Rat) : 0 ≤ roundDecimals value 4 ↔ -1 / 20000 ≤ value := by
  have grid : 0 ≤ roundDecimals value 4 ↔ ¬ roundDecimals value 4 ≤ ((-1 : Int) : Rat) / 10 ^ 4 := by
    rw [roundDecimals, div_le_div_iff_of_pos_right (by positivity), Int.cast_le, le_div_iff₀ (by positivity), zero_mul]
    have whole : (0 : Rat) ≤ exactUnits value 4 ↔ 0 ≤ exactUnits value 4 := by norm_cast
    rw [whole]
    omega
  rw [grid, roundDecimals_le_iff]
  constructor
  · intro above
    by_contra below
    exact above (.inl (by push_cast; linarith))
  · rintro atLeast (below | ⟨_, even⟩)
    · push_cast at below
      linarith
    · omega

/-- Half a unit of the last decimal above one is rounded to one. -/
theorem roundDecimals_le_one_iff (value : Rat) : roundDecimals value 4 ≤ 1 ↔ value ≤ 1 + 1 / 20000 := by
  have grid : roundDecimals value 4 ≤ 1 ↔ roundDecimals value 4 ≤ ((10000 : Int) : Rat) / 10 ^ 4 := by norm_num
  rw [grid, roundDecimals_le_iff]
  constructor
  · rintro (below | ⟨same, _⟩)
    · push_cast at below
      linarith
    · push_cast at same
      linarith
  · intro atMost
    rcases lt_or_eq_of_le atMost with below | same
    · exact .inl (by push_cast; linarith)
    · exact .inr ⟨by push_cast; linarith, by decide⟩

/-- Half a unit of the last decimal below one is rounded to one. -/
theorem one_le_roundDecimals_iff (value : Rat) : 1 ≤ roundDecimals value 4 ↔ 1 - 1 / 20000 ≤ value := by
  have grid : 1 ≤ roundDecimals value 4 ↔ ¬ roundDecimals value 4 ≤ ((9999 : Int) : Rat) / 10 ^ 4 := by
    rw [roundDecimals, div_le_div_iff_of_pos_right (by positivity), Int.cast_le, le_div_iff₀ (by positivity)]
    have whole : (1 : Rat) * 10 ^ 4 ≤ exactUnits value 4 ↔ 10000 ≤ exactUnits value 4 := by norm_num; norm_cast
    rw [whole]
    omega
  rw [grid, roundDecimals_le_iff]
  constructor
  · intro above
    by_contra below
    exact above (.inl (by push_cast; linarith))
  · rintro atLeast (below | ⟨same, even⟩)
    · push_cast at below
      linarith
    · omega

/-- The weighted sum needs no clamp, up to the rounding. -/
theorem finalScore_of_range {indicators : Indicators Rat} {amount : Rat} (plain : bonus amount = 0)
    (lower : -1 / 20000 ≤ weightedSum indicators) (upper : weightedSum indicators ≤ 1 + 1 / 20000) :
    finalScore indicators amount = roundDecimals (weightedSum indicators) 4 := by
  have nonneg := (zero_le_roundDecimals_iff _).mpr lower
  have atMost := (roundDecimals_le_one_iff _).mpr upper
  rw [finalScore_eq, plain, add_zero]
  rcases lt_or_ge (weightedSum indicators) 0 with negative | positive
  · have rounded : roundDecimals (weightedSum indicators) 4 ≤ 0 := by
      have := roundDecimals_mono negative.le 4
      rwa [roundDecimals_zero] at this
    rw [min_eq_left (negative.le.trans zero_le_one), max_eq_left negative.le, roundDecimals_zero]
    exact le_antisymm nonneg rounded
  · rcases le_or_gt (weightedSum indicators) 1 with inside | above
    · rw [min_eq_left inside, max_eq_right positive]
    · have rounded : 1 ≤ roundDecimals (weightedSum indicators) 4 := by
        have := roundDecimals_mono above.le 4
        rwa [roundDecimals_one] at this
      rw [min_eq_right above.le, max_eq_right zero_le_one, roundDecimals_one]
      exact le_antisymm rounded atMost

/-- A bonus moves the plain score away from the encrypted one, unless both are one. -/
theorem finalScore_of_bonus {indicators : Indicators Rat} {amount : Rat} (high : 1 / 20 ≤ bonus amount)
    (lower : -1 / 20000 ≤ weightedSum indicators) :
    finalScore indicators amount = roundDecimals (weightedSum indicators) 4 ∧ roundDecimals (weightedSum indicators) 4 ≤ 1 ↔
      1 - 1 / 20000 ≤ weightedSum indicators ∧ weightedSum indicators ≤ 1 + 1 / 20000 := by
  have positive : 0 ≤ weightedSum indicators + bonus amount := by linarith
  rw [finalScore_eq, roundDecimals_le_one_iff]
  rcases le_or_gt 1 (weightedSum indicators + bonus amount) with full | less
  · rw [min_eq_right full, max_eq_right zero_le_one, roundDecimals_one]
    constructor
    · rintro ⟨same, upper⟩
      exact ⟨(one_le_roundDecimals_iff _).mp same.le, upper⟩
    · rintro ⟨near, upper⟩
      exact ⟨le_antisymm ((one_le_roundDecimals_iff _).mpr near) ((roundDecimals_le_one_iff _).mpr upper), upper⟩
  · rw [min_eq_left less.le, max_eq_right positive]
    -- The rounding moves both scores by less than the bonus parts them.
    have plain := abs_le.mp (abs_roundDecimals_sub_le (weightedSum indicators + bonus amount) 4)
    have encrypted := abs_le.mp (abs_roundDecimals_sub_le (weightedSum indicators) 4)
    refine iff_of_false ?_ ?_
    · rintro ⟨same, _⟩
      rw [same] at plain
      have lowered := plain.1
      have raised := encrypted.2
      norm_num at lowered raised
      linarith
    · rintro ⟨near, _⟩
      linarith

/-- The encrypted score is a number between zero and one, and every score of the plain indicators is that number. -/
def Agree (text : Rat → String) (session : HElib Rat Ctxt Coins) (coins : Coins) (userID : Uuid)
    (indicators : Indicators Rat) (amount : Rat) (status : StatusColumn) : Prop :=
  ∃ score, encryptedScore (some session) coins indicators = .ok score ∧ 0 ≤ score ∧ score ≤ 1 ∧
    ∀ (events : List (Event status)) assessment,
      Executes (Compliance.Scoring.score text userID indicators amount) events (.ok assessment) →
        assessment.score = score

variable (status) in
/-- Some execution of the plain scorer returns, because its look-up may find no record. -/
theorem exists_score (text : Rat → String) (userID : Uuid) (indicators : Indicators Rat) (amount : Rat) :
    ∃ events : List (Event status), Executes (Compliance.Scoring.score text userID indicators amount) events
      (.ok (Compliance.Scoring.assess text (finalScore indicators amount))) := by
  unfold Compliance.Scoring.score
  by_cases high : 0.40 < finalScore indicators amount
  · simp only [if_pos high]
    exact ⟨_, (executes_ask_bind _ _ _ _ _).mpr (.inl ⟨none, [], rfl, rfl, rfl⟩)⟩
  · simp only [if_neg high]
    exact ⟨[], rfl, rfl⟩

theorem agree_iff_score {text : Rat → String} {session : HElib Rat Ctxt Coins} (exact : session.Exact) (coins : Coins)
    (userID : Uuid) (indicators : Indicators Rat) (amount : Rat) :
    Agree text session coins userID indicators amount status ↔
      0 ≤ roundDecimals (weightedSum indicators) 4 ∧ finalScore indicators amount = roundDecimals (weightedSum indicators) 4 ∧
        roundDecimals (weightedSum indicators) 4 ≤ 1 := by
  rw [Agree, encryptedScore_eq exact]
  constructor
  · rintro ⟨score, same, nonneg, atMost, plain⟩
    obtain rfl := Except.ok.inj same
    obtain ⟨events, executed⟩ := exists_score status text userID indicators amount
    exact ⟨nonneg, plain events _ executed, atMost⟩
  · rintro ⟨nonneg, same, atMost⟩
    refine ⟨_, rfl, nonneg, atMost, fun events assessment executed => ?_⟩
    rw [(Compliance.Scoring.executes_score executed).1 assessment rfl]
    exact same

/-- The encrypted score agrees with the plain one exactly where the weighted sum needs no clamp, and where no bonus is due or the
score is the highest one without it. -/
theorem encrypted_agree_iff (text : Rat → String) {session : HElib Rat Ctxt Coins} (exact : session.Exact) (coins : Coins)
    (userID : Uuid) (indicators : Indicators Rat) (amount : Rat) (status : StatusColumn) :
    Agree text session coins userID indicators amount status ↔
      (amount ≤ 5000000 ∧ -1 / 20000 ≤ weightedSum indicators ∨ 1 - 1 / 20000 ≤ weightedSum indicators) ∧
        weightedSum indicators ≤ 1 + 1 / 20000 := by
  rw [agree_iff_score exact, zero_le_roundDecimals_iff]
  rcases le_or_gt amount 5000000 with low | high
  · have plain : bonus amount = 0 := by
      rw [bonus, if_neg (by linarith), if_neg (by linarith)]
    constructor
    · rintro ⟨lower, _, upper⟩
      exact ⟨.inl ⟨low, lower⟩, (roundDecimals_le_one_iff _).mp upper⟩
    · rintro ⟨inside, upper⟩
      have lower : -1 / 20000 ≤ weightedSum indicators := by
        rcases inside with ⟨_, lower⟩ | near
        · exact lower
        · linarith
      exact ⟨lower, finalScore_of_range plain lower upper, (roundDecimals_le_one_iff _).mpr upper⟩
  · have due : 1 / 20 ≤ bonus amount := by
      rw [bonus]
      split
      · norm_num
      · exact le_rfl
    constructor
    · rintro ⟨lower, agreed⟩
      obtain ⟨near, upper⟩ := (finalScore_of_bonus due lower).mp agreed
      exact ⟨.inr near, upper⟩
    · rintro ⟨inside, upper⟩
      have near : 1 - 1 / 20000 ≤ weightedSum indicators := by
        rcases inside with ⟨low, _⟩ | near
        · exact absurd low (not_le.mpr high)
        · exact near
      have lower : -1 / 20000 ≤ weightedSum indicators := by linarith
      exact ⟨lower, (finalScore_of_bonus due lower).mpr ⟨near, upper⟩⟩

end Agreement

section Samples

/-- This session keeps its plaintexts as they are, and writes them as numbers. -/
def openSession : HElib Rat (Plaintext 4 Rat) Unit where
  slots := 4
  encrypt _ plaintext := plaintext
  multiply ct weights := fun slot => ct slot * weights slot
  totalSums ct := fun _ => ∑ slot, ct slot
  decrypt ct := ct
  writeTo ct := bigEndian (Encodable.encode ct).size (Encodable.encode ct)
  readFrom bytes := Encodable.decode (readBigEndian bytes)

theorem openSession_exact : openSession.Exact where
  roomy := by decide
  decrypt_encrypt _ _ := rfl
  decrypt_multiply _ _ := rfl
  decrypt_totalSums _ := rfl
  readFrom_writeTo ct := by
    have fits : Encodable.encode ct < 256 ^ (Encodable.encode ct).size := by
      calc Encodable.encode ct < 2 ^ (Encodable.encode ct).size := Nat.lt_size_self _
        _ ≤ 256 ^ (Encodable.encode ct).size := Nat.pow_le_pow_left (by decide) _
    show Encodable.decode (readBigEndian (bigEndian _ _)) = some ct
    rw [readBigEndian_bigEndian, Nat.mod_eq_of_lt fits, Encodable.encodek]

/-- Risks between zero and one are scored alike. -/
theorem agree_openSession : Agree toString openSession () (.ofNat 7) ⟨1 / 2, 1 / 4, 1⟩ 1000 Compliance.sqlStatus := by
  refine (encrypted_agree_iff toString openSession_exact () (.ofNat 7) ⟨1 / 2, 1 / 4, 1⟩ 1000 Compliance.sqlStatus).mpr ?_
  norm_num [weightedSum]

/-- The client encrypts indicators that it has chosen itself, and the server returns a score above one. -/
theorem doubled_disagree :
    encryptedScore (some openSession) () ⟨2, 2, 2⟩ = .ok 2 ∧ finalScore ⟨2, 2, 2⟩ 1000 = (1 : Rat) ∧
      ¬ Agree toString openSession () (.ofNat 7) ⟨2, 2, 2⟩ 1000 Compliance.sqlStatus := by
  have sum : weightedSum ⟨2, 2, 2⟩ = 2 := by norm_num [weightedSum]
  have rounded : roundDecimals 2 4 = 2 := by exact_mod_cast roundDecimals_intCast 2 4
  have plain : finalScore ⟨2, 2, 2⟩ 1000 = (1 : Rat) := by
    have none : bonus 1000 = 0 := by norm_num [bonus]
    rw [finalScore_eq, sum, none, min_eq_right (by norm_num), max_eq_right zero_le_one, roundDecimals_one]
  refine ⟨?_, plain, ?_⟩
  · rw [encryptedScore_eq openSession_exact, sum, rounded]
  · rw [agree_iff_score openSession_exact, sum, rounded]
    norm_num

end Samples

end Pxtly.Fhe
