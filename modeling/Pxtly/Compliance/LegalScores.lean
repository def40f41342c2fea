/-
This file gives which scores the script that creates the tables lets the scorer keep.
-/

import Pxtly.Compliance.ExactScoring
import Pxtly.Foundation.DecimalPlaces

namespace Pxtly.Compliance

open Foundation Foundation.Database
open Program (Executes)
open Float.Model UnpackedFloat
open Assets (Uuid Numeric)

section Schema

/-- This is `risk_category_enum` of the script that creates the tables. -/
def riskCategoryEnum : List String := ["TRES_FAIBLE", "FAIBLE", "MODERE", "ELEVE", "CRITIQUE"]

/-- A column of type `NUMERIC(5,4)` has one digit before the point. -/
def fitsScoreColumn (amlScore : Numeric) : Bool := amlScore.units.natAbs < 10 ^ 5

/-- The script refuses unknown categories and scores that are too large. -/
def Write.legal : Write → Bool
  | .insertDocument _ => true
  | .insertRecord row => fitsScoreColumn row.amlScore && row.riskCategory ∈ riskCategoryEnum
  | .updateRecord _ (.score amlScore riskCategory) => fitsScoreColumn amlScore && riskCategory ∈ riskCategoryEnum
  | .updateRecord _ (.submit ..) => true
  | .updateRecord _ (.approve ..) => true

variable {status : StatusColumn}

/-- A refused write rolls its transaction back. -/
def respondLegally : (operation : (database status).Operation) → Session (database status) →
    Option operation.Result × Session (database status)
  | .read query, session => respond (.read query) session
  | .write write, session => if write.legal then respond (.write write) session else (none, session.1, [])
  | .commit, session => respond .commit session

end Schema

section Bands

theorem exactValue_zero : exactValue 0.0 = 0 := rfl

theorem exactValue_one : exactValue 1.0 = 1 := by
  have unpacked : (1.0 : Float).toModel.unpack = .finite .positive 4503599627370496 (-52) (by decide) := rfl
  rw [exactValue, unpacked]
  norm_num [exactly, signed, scaled, zpow_neg]

/-- A positive float has a positive sign. -/
theorem unpack_of_positive {value : Float} (finite : value.isFinite = true) (positive : 0 < exactValue value) :
    ∃ mantissa exponent, value.toModel.unpack = ofComponents .positive mantissa exponent ∧ mantissa ≠ 0 := by
  obtain ⟨sign, mantissa, exponent, unpacked, _, _⟩ := unpack_canonical finite
  rw [exactValue_of_unpack unpacked] at positive
  cases sign with
  | negative =>
      rw [signed] at positive
      linarith [scaled_nonnegative mantissa exponent]
  | positive =>
      refine ⟨mantissa, exponent, unpacked, ?_⟩
      rintro rfl
      rw [signed, scaled_zero] at positive
      exact lt_irrefl _ positive

/-- This is the exact value of a raw score between zero and one. -/
def clampExact (rawScore : Float) : Rat := if rawScore.isFinite then max 0 (min (exactValue rawScore) 1) else 1

theorem clampExact_mem (rawScore : Float) : 0 ≤ clampExact rawScore ∧ clampExact rawScore ≤ 1 := by
  unfold clampExact
  split
  · exact ⟨le_max_left _ _, max_le zero_le_one (min_le_right _ _)⟩
  · exact ⟨zero_le_one, le_rfl⟩

/-- The clamped score is zero, or it is a positive float. -/
theorem clamp_cases (rawScore : Float) :
    (clamp rawScore = 0.0 ∧ clampExact rawScore = 0) ∨
      (clamp rawScore).isFinite = true ∧ 0 < clampExact rawScore ∧
        exactValue (clamp rawScore) = clampExact rawScore := by
  have oneFinite : (1.0 : Float).isFinite = true := rfl
  obtain ⟨finite, same, finiteSame, exact⟩ : ∃ finite : Float,
      (if rawScore.isFinite then rawScore else 1.0) = finite ∧ finite.isFinite = true ∧
        clampExact rawScore = max 0 (min (exactValue finite) 1) := by
    by_cases finite : rawScore.isFinite = true
    · exact ⟨rawScore, if_pos finite, finite, if_pos finite⟩
    · refine ⟨1.0, if_neg finite, oneFinite, ?_⟩
      rw [clampExact, if_neg finite, exactValue_one, min_self, max_eq_right zero_le_one]
  obtain ⟨capped, cappedEq, cappedFinite, cappedExact⟩ : ∃ capped : Float,
      (if finite < 1.0 then finite else 1.0) = capped ∧ capped.isFinite = true ∧
        exactValue capped = min (exactValue finite) 1 := by
    have compared := lt_iff_exactValue finiteSame oneFinite
    rw [exactValue_one] at compared
    by_cases below : finite < 1.0
    · exact ⟨finite, if_pos below, finiteSame, (min_eq_left (compared.mp below).le).symm⟩
    · refine ⟨1.0, if_neg below, oneFinite, ?_⟩
      rw [exactValue_one, min_eq_right (not_lt.mp fun less => below (compared.mpr less))]
  have clamped : clamp rawScore = if 0.0 < capped then capped else 0.0 := by
    simp only [clamp, same, cappedEq]
  have compared := lt_iff_exactValue (rfl : (0.0 : Float).isFinite = true) cappedFinite
  rw [exactValue_zero] at compared
  rw [exact, ← cappedExact, clamped]
  by_cases positive : 0.0 < capped
  · right
    have above := compared.mp positive
    rw [if_pos positive, max_eq_right above.le]
    exact ⟨cappedFinite, above, rfl⟩
  · left
    rw [if_neg positive]
    exact ⟨rfl, max_eq_left (not_lt.mp fun less => positive (compared.mpr less))⟩

/-- The units of a final score lie between zero and ten thousand. -/
def finalUnits (rawScore : Float) : Nat := (roundEven (clampExact rawScore * 10 ^ 4)).toNat

theorem roundEven_clampExact (rawScore : Float) :
    0 ≤ roundEven (clampExact rawScore * 10 ^ 4) ∧ roundEven (clampExact rawScore * 10 ^ 4) ≤ 10000 := by
  obtain ⟨nonnegative, atMost⟩ := clampExact_mem rawScore
  constructor
  · calc (0 : Int) = roundEven ((0 : Int) : Rat) := (roundEven_intCast 0).symm
      _ ≤ roundEven (clampExact rawScore * 10 ^ 4) := roundEven_mono (by push_cast; positivity)
  · calc roundEven (clampExact rawScore * 10 ^ 4) ≤ roundEven ((10000 : Int) : Rat) :=
          roundEven_mono (by push_cast; linarith)
      _ = 10000 := roundEven_intCast 10000

theorem finalUnits_le (rawScore : Float) : finalUnits rawScore ≤ 10000 := by
  have bounds := roundEven_clampExact rawScore
  unfold finalUnits
  omega

/-- A final score is the decimal that its units count. -/
theorem roundPlaces_clamp (rawScore : Float) :
    roundPlaces (clamp rawScore) 4 = Float.ofScientific (finalUnits rawScore) true 4 := by
  rcases clamp_cases rawScore with ⟨zero, exact⟩ | ⟨finite, positive, exact⟩
  · have units : finalUnits rawScore = 0 := by
      rw [finalUnits, exact, zero_mul]
      exact congrArg Int.toNat (roundEven_intCast 0)
    rw [zero, units]
    rfl
  · obtain ⟨mantissa, exponent, unpacked, nonzero⟩ := unpack_of_positive finite (exact.symm ▸ positive)
    have nonnegative := (roundEven_clampExact rawScore).1
    rw [roundPlaces_eq unpacked nonzero, decimalUnits_eq unpacked, exact]
    rw [finalUnits, show (roundEven (clampExact rawScore * 10 ^ 4)).natAbs =
      (roundEven (clampExact rawScore * 10 ^ 4)).toNat by omega]

end Bands

section Legality

variable {status : StatusColumn} {floatText : Float → String} {userID : Uuid} {indicators : AMLIndicators}
  {amount : Float}

/-- The raw score rounds to more than 0.40 and to less than 0.60. -/
def Moderate (rawScore : Float) : Prop := 8001 / 20000 < exactValue rawScore ∧ exactValue rawScore < 11999 / 20000

instance (rawScore : Float) : Decidable (Moderate rawScore) := inferInstanceAs (Decidable (_ ∧ _))

theorem exactValue_of_infinite {value : Float} (infinite : ¬ value.isFinite = true) : exactValue value = 0 := by
  have unpacked : ¬ value.toModel.unpack.isFinite = true := infinite
  rw [exactValue]
  cases same : value.toModel.unpack with
  | finite sign mantissa exponent positive =>
      rw [same] at unpacked
      exact absurd rfl unpacked
  | zero sign => rfl
  | infinity sign => rfl
  | notANumber => rfl

/-- The clamp moves no score into the band and none out of it. -/
theorem moderate_iff_clampExact (rawScore : Float) :
    Moderate rawScore ↔ 8001 / 20000 < clampExact rawScore ∧ clampExact rawScore < 11999 / 20000 := by
  unfold Moderate clampExact
  by_cases finite : rawScore.isFinite = true
  · rw [if_pos finite]
    constructor
    · rintro ⟨low, high⟩
      rw [min_eq_left (by linarith), max_eq_right (by linarith)]
      exact ⟨low, high⟩
    · rintro ⟨low, high⟩
      have inside : min (exactValue rawScore) 1 < 11999 / 20000 := (le_max_right _ _).trans_lt high
      have below : exactValue rawScore < 11999 / 20000 := (min_lt_iff.mp inside).resolve_right (by norm_num)
      rw [min_eq_left (by linarith)] at low
      exact ⟨(lt_max_iff.mp low).resolve_left (by norm_num), below⟩
  · rw [if_neg finite, exactValue_of_infinite finite]
    norm_num

theorem moderate_iff (rawScore : Float) :
    Moderate rawScore ↔ 4000 < finalUnits rawScore ∧ finalUnits rawScore < 6000 := by
  have bounds := roundEven_clampExact rawScore
  have low := roundEven_le_iff (clampExact rawScore * 10 ^ 4) 4000
  have high := roundEven_le_iff (clampExact rawScore * 10 ^ 4) 5999
  rw [moderate_iff_clampExact, finalUnits]
  constructor
  · rintro ⟨above, below⟩
    have beyond : ¬ roundEven (clampExact rawScore * 10 ^ 4) ≤ 4000 := by
      rw [low]
      rintro (less | ⟨same, _⟩)
      · push_cast at less
        linarith
      · push_cast at same
        linarith
    have within : roundEven (clampExact rawScore * 10 ^ 4) ≤ 5999 := by
      rw [high]
      left
      push_cast
      linarith
    omega
  · rintro ⟨above, below⟩
    have beyond : ¬ roundEven (clampExact rawScore * 10 ^ 4) ≤ 4000 := by omega
    have within : roundEven (clampExact rawScore * 10 ^ 4) ≤ 5999 := by omega
    rw [low, not_or, not_and] at beyond
    rw [high] at within
    push_cast at beyond within
    constructor
    · -- The half itself is rounded down to the even side.
      rcases (not_lt.mp beyond.1).lt_or_eq with less | same
      · linarith
      · exact absurd (by decide) (beyond.2 same.symm)
    · rcases within with less | ⟨_, odd⟩
      · linarith
      · cases odd

theorem thresholds_eq : (0.30 : Float) = Float.ofScientific 3000 true 4 ∧
    (0.40 : Float) = Float.ofScientific 4000 true 4 ∧ maxAMLScore = Float.ofScientific 6000 true 4 := by
  decide +kernel

theorem finalScore_eq (indicators : AMLIndicators) (amount : Float) :
    finalScore indicators amount = Float.ofScientific (finalUnits (rawScore indicators amount)) true 4 :=
  roundPlaces_clamp _

theorem kept_iff (indicators : AMLIndicators) (amount : Float) :
    0.40 < finalScore indicators amount ↔ 4000 < finalUnits (rawScore indicators amount) := by
  rw [finalScore_eq, thresholds_eq.2.1, ofScientific_lt_iff (by decide) (finalUnits_le _)]

/-- The units of a final score are written as they are. -/
theorem decimalUnits_finalScore (indicators : AMLIndicators) (amount : Float) :
    decimalUnits (finalScore indicators amount) 4 = finalUnits (rawScore indicators amount) := by
  have bound := finalUnits_le (rawScore indicators amount)
  rw [finalScore_eq]
  generalize finalUnits (rawScore indicators amount) = units at bound
  obtain ⟨finite, near⟩ := exactValue_ofScientific bound
  rcases Nat.eq_zero_or_pos units with rfl | positive
  · rfl
  · have counted : (1 : Rat) ≤ units := by exact_mod_cast positive
    rw [abs_lt] at near
    have above : 0 < exactValue (Float.ofScientific units true 4) := by linarith [near.1]
    obtain ⟨mantissa, exponent, unpacked, _⟩ := unpack_of_positive finite above
    rw [decimalUnits_eq unpacked]
    apply le_antisymm
    · rw [roundEven_le_iff]
      left
      push_cast
      linarith [near.2]
    · by_contra less
      have before : roundEven (exactValue (Float.ofScientific units true 4) * 10 ^ 4) ≤ (units : Int) - 1 := by omega
      rw [roundEven_le_iff] at before
      push_cast at before
      rcases before with less | ⟨same, _⟩
      · linarith [near.1]
      · linarith [near.1]

/-- A kept score has a category of the enumeration unless it is moderate. -/
theorem riskCategory_mem_iff (kept : 4000 < finalUnits (rawScore indicators amount)) :
    riskCategory (finalScore indicators amount) ∈ riskCategoryEnum ↔ ¬ Moderate (rawScore indicators amount) := by
  have bound := finalUnits_le (rawScore indicators amount)
  have low : ¬ finalScore indicators amount < 0.30 := by
    rw [finalScore_eq, thresholds_eq.1, ofScientific_lt_iff bound (by decide)]
    omega
  have middle : finalScore indicators amount < maxAMLScore ↔ finalUnits (rawScore indicators amount) < 6000 := by
    rw [finalScore_eq, thresholds_eq.2.2, ofScientific_lt_iff bound (by decide)]
  rw [moderate_iff, riskCategory, if_neg low]
  by_cases moderate : finalUnits (rawScore indicators amount) < 6000
  · rw [if_pos (middle.mpr moderate)]
    exact iff_of_false (by decide) (not_not.mpr ⟨kept, moderate⟩)
  · rw [if_neg fun less => moderate (middle.mp less)]
    refine iff_of_true ?_ fun both => moderate both.2
    split
    · decide
    · decide

theorem legal_scoreWrite (kept : 4000 < finalUnits (rawScore indicators amount)) (record : ComplianceRecord) :
    (scoreWrite (finalScore indicators amount) record).legal = true ↔ ¬ Moderate (rawScore indicators amount) := by
  have bound := finalUnits_le (rawScore indicators amount)
  have small : fitsScoreColumn ⟨decimalUnits (finalScore indicators amount) 4⟩ = true := by
    rw [fitsScoreColumn, decimalUnits_finalScore, decide_eq_true_eq, Int.natAbs_natCast]
    omega
  rw [scoreWrite, Write.legal, small, Bool.true_and, decide_eq_true_eq, riskCategory_mem_iff kept]

/-- The scorer writes nothing that the script refuses, and so it returns its result. -/
structure ScoresLegally (floatText : Float → String) (tables : Tables status) (userID : Uuid)
    (indicators : AMLIndicators) (amount : Float) : Prop where
  written : ∀ (events : List (Database.Event (database status))) outcome,
    Executes (score floatText userID indicators amount) events outcome →
      (∀ found, ⟨.read (.newestRecord userID), some found⟩ ∈ events → found = newestRecord tables.records userID) →
        ∀ write answer, ⟨.write write, answer⟩ ∈ events → write.legal = true
  returned : ((score floatText userID indicators amount).evaluate respondLegally (tables, [])).1 =
    .ok (amlResult floatText (finalScore indicators amount))

/-- Every execution writes at most the score of the record that it has found. -/
theorem executes_score {events : List (Database.Event (database status))} {outcome : Except Fault AMLResult}
    (executed : Executes (score floatText userID indicators amount) events outcome) :
    ∀ write answer, ⟨.write write, answer⟩ ∈ events →
      0.40 < finalScore indicators amount ∧ ∃ record, Scoring.foundRecord userID record ∈ events ∧
        write = scoreWrite (finalScore indicators amount) record := by
  rw [Scoring.score_floats] at executed
  obtain ⟨inner, executed⟩ := Program.executes_of_map executed
  exact (Scoring.executes_score executed).2

/-- A write that the script refuses fails, and any other score is committed. -/
theorem evaluate_keepScore_legally (score : Float) (record : ComplianceRecord) (tables : Tables status) :
    (keepScore score (some record)).evaluate respondLegally (tables, []) =
      if (scoreWrite score record).legal then (.ok (), tables.apply (scoreWrite score record), [])
      else (.error .databaseError, tables, []) := by
  have admitted := admits_scoreWrite score record tables
  have answered : respondLegally (.write (scoreWrite score record)) (tables, []) =
      if (scoreWrite score record).legal then (some (), tables, [scoreWrite score record]) else (none, tables, []) := by
    rw [respondLegally]
    split
    · exact if_pos admitted
    · rfl
  simp only [keepScore, ask, Bind.bind, Program.bind, Program.evaluate, answered]
  by_cases legal : (scoreWrite score record).legal = true
  · rw [if_pos legal, if_pos legal]
    rfl
  · rw [if_neg legal, if_neg legal]
    rfl

/-- The script refuses at most the write of a score that is kept. -/
theorem evaluate_score_legally (tables : Tables status) :
    ((score floatText userID indicators amount).evaluate respondLegally (tables, [])).1 =
        .ok (amlResult floatText (finalScore indicators amount)) ↔
      (0.40 < finalScore indicators amount → ∀ record, newestRecord tables.records userID = some record →
        (scoreWrite (finalScore indicators amount) record).legal = true) := by
  rw [score]
  simp only
  by_cases kept : 0.40 < finalScore indicators amount
  · rw [if_pos kept, imp_iff_right kept]
    have looked : (fetch (.newestRecord userID) >>= fun found => (do
        keepScore (finalScore indicators amount) found
        return amlResult floatText (finalScore indicators amount) : RecordService status AMLResult)).evaluate
          respondLegally (tables, []) = (do
        keepScore (finalScore indicators amount) (newestRecord tables.records userID)
        return amlResult floatText (finalScore indicators amount) : RecordService status AMLResult).evaluate
          respondLegally (tables, []) := rfl
    rw [looked]
    cases newestRecord tables.records userID with
    | none =>
        refine iff_of_true rfl fun record impossible => ?_
        cases impossible
    | some record =>
        rw [Program.evaluate_bind, evaluate_keepScore_legally]
        simp only [Option.some.injEq, forall_eq']
        by_cases legal : (scoreWrite (finalScore indicators amount) record).legal = true
        · rw [if_pos legal]
          exact iff_of_true rfl legal
        · rw [if_neg legal]
          exact iff_of_false (by simp) legal
  · rw [if_neg kept]
    exact iff_of_true rfl fun high => absurd high kept

/-- The scorer meets the script exactly where there is no record to be rewritten or the raw score is not moderate. -/
theorem scoresLegally_iff (floatText : Float → String) (tables : Tables status) (userID : Uuid)
    (indicators : AMLIndicators) (amount : Float) :
    ScoresLegally floatText tables userID indicators amount ↔
      newestRecord tables.records userID = none ∨ ¬ Moderate (rawScore indicators amount) := by
  constructor
  · rintro ⟨_, returned⟩
    rw [evaluate_score_legally, kept_iff] at returned
    cases found : newestRecord tables.records userID with
    | none => exact .inl rfl
    | some record =>
        right
        intro moderate
        have kept := ((moderate_iff _).mp moderate).1
        exact (legal_scoreWrite kept record).mp (returned kept record found) moderate
  · intro condition
    have legal (kept : 0.40 < finalScore indicators amount) (record : ComplianceRecord)
        (found : newestRecord tables.records userID = some record) :
        (scoreWrite (finalScore indicators amount) record).legal = true := by
      rw [legal_scoreWrite ((kept_iff indicators amount).mp kept)]
      refine condition.resolve_left ?_
      rw [found]
      exact Option.some_ne_none record
    constructor
    · intro events outcome executed reads write answer member
      obtain ⟨kept, record, found, rfl⟩ := executes_score executed write answer member
      exact legal kept record (reads (some record) found).symm
    · rw [evaluate_score_legally]
      exact legal

end Legality

section Samples

open Zkp (aliceUuid)

theorem legal_aliceFile : legalRecord sqlStatus [aliceUuid] (aliceFile "APPROUVE" 4102444800000000) = true := by
  decide +kernel

/-- Alice has an approved record. -/
def aliceScored : Tables sqlStatus := fileTables "APPROUVE" 4102444800000000 legal_aliceFile

def middling : AMLIndicators where
  jurisdictionRisk := 0.5
  crossBorderActivity := 0.5
  unusualVolume := 0.5

/-- A score of one half has the category `MOYEN`, which the enumeration lacks. -/
theorem middling_refused : ¬ ScoresLegally Float.toString aliceScored aliceUuid middling 1000.0 := by
  rintro ⟨_, returned⟩
  rw [evaluate_score_legally] at returned
  have kept : 0.40 < finalScore middling 1000.0 := by decide +kernel
  have found : newestRecord aliceScored.records aliceUuid = some (aliceFile "APPROUVE" 4102444800000000) := by
    decide +kernel
  exact absurd (returned kept _ found) (by decide +kernel)

end Samples

end Pxtly.Compliance
