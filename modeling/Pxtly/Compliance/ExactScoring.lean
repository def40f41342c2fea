/-
This file gives the score over numbers of any kind, and its laws over exact rational numbers.
-/

import Pxtly.Compliance.Scoring
import Pxtly.Foundation.Arithmetic

namespace Pxtly.Compliance.Scoring

open Foundation Foundation.Database
open Program (Executes)
open Assets (Uuid Numeric)

structure Indicators (R : Type) where
  jurisdictionRisk : R
  crossBorderActivity : R
  unusualVolume : R

/-- An assessment is the result of a score, which is a number of some kind. -/
structure Assessment (R : Type) where
  score : R
  riskCategory : String
  blocked : Bool
  blockedReason : Option String
  indicators : List String
  sarRequired : Bool

section Score

variable {R : Type} [PyNumber R] [Add R] [Mul R] [LT R] [DecidableLT R] [LE R] [DecidableLE R] [OfScientific R]

def maxAMLScore : R := 0.60
def sarThreshold : R := 0.75

def highAmountBonus (amount rawScore : R) : R :=
  if 25000000.0 < amount then rawScore + 0.10
  else if 5000000.0 < amount then rawScore + 0.05
  else rawScore

def rawScore (indicators : Indicators R) (amount : R) : R :=
  highAmountBonus amount (indicators.jurisdictionRisk * 0.3 + indicators.crossBorderActivity * 0.4 +
    indicators.unusualVolume * 0.3)

def clamp (rawScore : R) : R :=
  let finite := if PyNumber.isFinite rawScore then rawScore else 1.0
  let capped := if finite < 1.0 then finite else 1.0
  if 0.0 < capped then capped else 0.0

def finalScore (indicators : Indicators R) (amount : R) : R :=
  PyNumber.roundPlaces (clamp (rawScore indicators amount)) 4

def riskCategory (finalScore : R) : String :=
  if finalScore < 0.30 then "FAIBLE"
  else if finalScore < maxAMLScore then "MOYEN"
  else if finalScore ≤ sarThreshold then "ELEVE"
  else "CRITIQUE"

def assess (text : R → String) (finalScore : R) : Assessment R where
  score := finalScore
  riskCategory := riskCategory finalScore
  blocked := maxAMLScore < finalScore
  blockedReason :=
    if maxAMLScore < finalScore then
      some ("Score AML (" ++ text finalScore ++ ") excède le seuil de tolérance (" ++ text maxAMLScore ++ ")")
    else none
  indicators := ["Volume anormal configuré", "Risque juridiction projeté"]
  sarRequired := sarThreshold < finalScore

variable {status : StatusColumn} (text : R → String)

def scoreWrite (score : R) (record : ComplianceRecord) : Write :=
  .updateRecord record.id (.score ⟨PyNumber.decimalUnits score 4⟩ (riskCategory score))

def keepScore (score : R) : Option ComplianceRecord → RecordService status Unit
  | none => pure ()
  | some record => do
      save (scoreWrite score record)
      commit

def score (userID : Uuid) (indicators : Indicators R) (amount : R) : RecordService status (Assessment R) := do
  let final := finalScore indicators amount
  if 0.40 < final then
    let found ← fetch (.newestRecord userID)
    keepScore final found
    return assess text final
  else return assess text final

end Score

section Floats

/-- The program scores floats. -/
def exactly (indicators : AMLIndicators) : Indicators Float where
  jurisdictionRisk := indicators.jurisdictionRisk
  crossBorderActivity := indicators.crossBorderActivity
  unusualVolume := indicators.unusualVolume

def Assessment.amlResult (assessment : Assessment Float) : AMLResult where
  score := assessment.score
  riskCategory := assessment.riskCategory
  blocked := assessment.blocked
  blockedReason := assessment.blockedReason
  indicators := assessment.indicators
  sarRequired := assessment.sarRequired

/-- The scorer of the program is the one over floats. -/
theorem score_floats {status : StatusColumn} (floatText : Float → String) (userID : Uuid) (indicators : AMLIndicators)
    (amount : Float) :
    (Compliance.score floatText userID indicators amount : RecordService status AMLResult) =
      do return (← score floatText userID (exactly indicators) amount).amlResult := by
  have same : finalScore (exactly indicators) amount = Compliance.finalScore indicators amount := rfl
  rw [Compliance.score, score, same]
  by_cases high : 0.40 < Compliance.finalScore indicators amount
  · simp only [if_pos high, Program.bind_assoc]
    rfl
  · simp only [if_neg high]
    rfl

end Floats

section Executions

variable {R : Type} [PyNumber R] [LT R] [DecidableLT R] [LE R] [DecidableLE R] [OfScientific R]
  {status : StatusColumn}

abbrev Event (status : StatusColumn) := Database.Event (database status)

/-- The look-up found this record of the user. -/
def foundRecord (userID : Uuid) (record : ComplianceRecord) : Event status :=
  ⟨.read (.newestRecord userID), some (some record)⟩

/-- A score is kept by one write, which a commit follows. -/
theorem executes_keepScore {score : R} {found : Option ComplianceRecord} {events : List (Event status)}
    {outcome : Except Fault Unit} (executed : Executes (keepScore score found) events outcome) :
    ∀ write answer, (⟨.write write, answer⟩ : Event status) ∈ events →
      ∃ record, found = some record ∧ write = scoreWrite score record := by
  intro write answer member
  cases found with
  | none =>
      obtain ⟨rfl, _⟩ := executed
      cases member
  | some record =>
      rw [keepScore] at executed
      rcases (executes_ask_bind _ _ _ _ _).mp executed with ⟨_, later, rfl, committed⟩ | ⟨rfl, _⟩
      · obtain ⟨result, rest, rfl, ended⟩ := committed
        have last : rest = [] := by
          cases result with
          | some value => exact ended.1
          | none => exact ended.1
        subst last
        simp only [List.mem_cons, List.not_mem_nil, or_false] at member
        rcases member with same | same
        · cases same
          exact ⟨record, rfl, rfl⟩
        · cases same
      · rw [List.mem_singleton] at member
        cases member
        exact ⟨record, rfl, rfl⟩

variable [Add R] [Mul R] {text : R → String} {userID : Uuid} {indicators : Indicators R} {amount : R}

/-- An execution returns the assessment of the final score, and every write of it keeps this score. -/
theorem executes_score {events : List (Event status)} {outcome : Except Fault (Assessment R)}
    (executed : Executes (score text userID indicators amount) events outcome) :
    (∀ result, outcome = .ok result → result = assess text (finalScore indicators amount)) ∧
      ∀ write answer, (⟨.write write, answer⟩ : Event status) ∈ events →
        0.40 < finalScore indicators amount ∧ ∃ record, foundRecord userID record ∈ events ∧
          write = scoreWrite (finalScore indicators amount) record := by
  rw [score] at executed
  by_cases high : 0.40 < finalScore indicators amount
  · simp only [if_pos high] at executed
    rcases (executes_ask_bind _ _ _ _ _).mp executed with ⟨found, later, rfl, kept⟩ | ⟨rfl, rfl⟩
    · have writes : ∀ write answer, (⟨.write write, answer⟩ : Event status) ∈ later →
          ∃ record, found = some record ∧ write = scoreWrite (finalScore indicators amount) record := by
        rcases (Program.executes_bind _ _ _ _).mp kept with ⟨_, _, saved⟩ | ⟨first, second, _, rfl, saved, rfl, _⟩
        · exact executes_keepScore saved
        · rw [List.append_nil]
          exact executes_keepScore saved
      constructor
      · rintro result rfl
        rcases (Program.executes_bind _ _ _ _).mp kept with ⟨_, impossible, _⟩ | ⟨_, _, _, _, _, _, same⟩
        · cases impossible
        · exact Except.ok.inj same
      · intro write answer member
        rcases List.mem_cons.mp member with same | member
        · cases same
        · obtain ⟨record, rfl, rfl⟩ := writes write answer member
          exact ⟨high, record, List.mem_cons_self, rfl⟩
    · constructor
      · intro result impossible
        cases impossible
      · intro write answer member
        rw [List.mem_singleton] at member
        cases member
  · simp only [if_neg high] at executed
    obtain ⟨rfl, rfl⟩ := executed
    constructor
    · rintro result ⟨⟩
      rfl
    · intro write answer member
      cases member

end Executions

section Exact

/-- No indicator of the first triple exceeds the one of the second triple. -/
structure Indicators.AtMost (lower upper : Indicators Rat) : Prop where
  jurisdictionRisk : lower.jurisdictionRisk ≤ upper.jurisdictionRisk
  crossBorderActivity : lower.crossBorderActivity ≤ upper.crossBorderActivity
  unusualVolume : lower.unusualVolume ≤ upper.unusualVolume

/-- The bonus is a step function of the amount. -/
def bonus (amount : Rat) : Rat := if 25000000 < amount then 1 / 10 else if 5000000 < amount then 1 / 20 else 0

theorem highAmountBonus_eq (amount rawScore : Rat) : highAmountBonus amount rawScore = rawScore + bonus amount := by
  have high : (25000000.0 : Rat) = 25000000 := by norm_num
  have low : (5000000.0 : Rat) = 5000000 := by norm_num
  rw [highAmountBonus, bonus, high, low]
  split
  · norm_num
  · split
    · norm_num
    · rw [add_zero]

theorem bonus_mono : Monotone bonus := by
  intro first second le
  unfold bonus
  by_cases high : 25000000 < first
  · rw [if_pos high, if_pos (high.trans_le le)]
  · rw [if_neg high]
    by_cases middle : 5000000 < first
    · rw [if_pos middle]
      split
      · norm_num
      · rw [if_pos (middle.trans_le le)]
    · rw [if_neg middle]
      split
      · norm_num
      · split
        · norm_num
        · exact le_rfl

theorem rawScore_mono {lower upper : Indicators Rat} (indicators : lower.AtMost upper) {first second : Rat}
    (amounts : first ≤ second) : rawScore lower first ≤ rawScore upper second := by
  have steps := bonus_mono amounts
  have weights : (0.3 : Rat) = 3 / 10 ∧ (0.4 : Rat) = 4 / 10 := by norm_num
  rw [rawScore, rawScore, highAmountBonus_eq, highAmountBonus_eq, weights.1, weights.2]
  linarith [indicators.jurisdictionRisk, indicators.crossBorderActivity, indicators.unusualVolume]

theorem clamp_eq (rawScore : Rat) : clamp rawScore = max 0 (min rawScore 1) := by
  have zero : (0.0 : Rat) = 0 := by norm_num
  have one : (1.0 : Rat) = 1 := by norm_num
  have finite : PyNumber.isFinite rawScore = true := rfl
  have capped : (if rawScore < 1 then rawScore else 1) = min rawScore 1 := by
    by_cases below : rawScore < 1
    · rw [if_pos below, min_eq_left below.le]
    · rw [if_neg below, min_eq_right (not_lt.mp below)]
  simp only [clamp, finite, if_true, zero, one, capped]
  by_cases positive : 0 < min rawScore 1
  · rw [if_pos positive, max_eq_right positive.le]
  · rw [if_neg positive, max_eq_left (not_lt.mp positive)]

theorem clamp_mono : Monotone (clamp : Rat → Rat) := by
  intro first second le
  rw [clamp_eq, clamp_eq]
  exact max_le_max_left 0 (min_le_min_right 1 le)

/-- Zero and one have no decimals to be rounded. -/
theorem finalScore_mem (indicators : Indicators Rat) (amount : Rat) :
    0 ≤ finalScore indicators amount ∧ finalScore indicators amount ≤ 1 := by
  have zero : roundDecimals 0 4 = 0 := by exact_mod_cast roundDecimals_intCast 0 4
  have one : roundDecimals 1 4 = 1 := by exact_mod_cast roundDecimals_intCast 1 4
  have clamped := clamp_eq (rawScore indicators amount)
  constructor
  · calc (0 : Rat) = roundDecimals 0 4 := zero.symm
      _ ≤ roundDecimals (clamp (rawScore indicators amount)) 4 :=
        roundDecimals_mono (by rw [clamped]; exact le_max_left _ _) 4
  · calc roundDecimals (clamp (rawScore indicators amount)) 4 ≤ roundDecimals 1 4 :=
        roundDecimals_mono (by rw [clamped]; exact max_le zero_le_one (min_le_right _ _)) 4
      _ = 1 := one

theorem finalScore_mono {lower upper : Indicators Rat} (indicators : lower.AtMost upper) {first second : Rat}
    (amounts : first ≤ second) : finalScore lower first ≤ finalScore upper second :=
  roundDecimals_mono (clamp_mono (rawScore_mono indicators amounts)) 4

/-- These are the categories from the lowest risk to the highest one. -/
def riskCategories : List String := ["FAIBLE", "MOYEN", "ELEVE", "CRITIQUE"]

/-- A category is the entry of the list at the number of thresholds that the score has passed. -/
theorem riskCategory_eq (score : Rat) :
    (score < 3 / 10 ∧ riskCategory score = "FAIBLE") ∨
    (3 / 10 ≤ score ∧ score < 3 / 5 ∧ riskCategory score = "MOYEN") ∨
    (3 / 5 ≤ score ∧ score ≤ 3 / 4 ∧ riskCategory score = "ELEVE") ∨
    (3 / 4 < score ∧ riskCategory score = "CRITIQUE") := by
  have low : (0.30 : Rat) = 3 / 10 := by norm_num
  have maximum : (maxAMLScore : Rat) = 3 / 5 := by
    rw [maxAMLScore]
    norm_num
  have threshold : (sarThreshold : Rat) = 3 / 4 := by
    rw [sarThreshold]
    norm_num
  rw [riskCategory, low, maximum, threshold]
  by_cases first : score < 3 / 10
  · exact .inl ⟨first, if_pos first⟩
  · rw [if_neg first]
    by_cases second : score < 3 / 5
    · exact .inr (.inl ⟨not_lt.mp first, second, if_pos second⟩)
    · rw [if_neg second]
      by_cases third : score ≤ 3 / 4
      · exact .inr (.inr (.inl ⟨not_lt.mp second, third, if_pos third⟩))
      · exact .inr (.inr (.inr ⟨not_le.mp third, if_neg third⟩))

def riskRank (score : Rat) : Nat := riskCategories.idxOf (riskCategory score)

/-- The rank counts the thresholds that the score has passed. -/
theorem riskRank_eq (score : Rat) :
    riskRank score = (if 3 / 10 ≤ score then 1 else 0) + (if 3 / 5 ≤ score then 1 else 0) +
      (if 3 / 4 < score then 1 else 0) := by
  unfold riskRank
  rcases riskCategory_eq score with ⟨below, same⟩ | ⟨low, below, same⟩ | ⟨low, most, same⟩ | ⟨above, same⟩
  · rw [same, if_neg (not_le.mpr below), if_neg (by linarith), if_neg (by linarith)]
    rfl
  · rw [same, if_pos low, if_neg (not_le.mpr below), if_neg (by linarith)]
    rfl
  · rw [same, if_pos (by linarith), if_pos low, if_neg (not_lt.mpr most)]
    rfl
  · rw [same, if_pos (by linarith), if_pos (by linarith), if_pos above]
    rfl

theorem riskRank_mono : Monotone riskRank := by
  intro first second le
  have counted {passed later : Prop} [Decidable passed] [Decidable later] (implied : passed → later) :
      (if passed then 1 else 0 : Nat) ≤ if later then 1 else 0 := by
    by_cases holds : passed
    · rw [if_pos holds, if_pos (implied holds)]
    · rw [if_neg holds]
      exact Nat.zero_le _
  rw [riskRank_eq, riskRank_eq]
  exact Nat.add_le_add (Nat.add_le_add (counted fun passed => passed.trans le) (counted fun passed => passed.trans le))
    (counted fun passed => passed.trans_le le)

/-- The parts of an assessment fit together. -/
structure Assessment.Consistent (assessment : Assessment Rat) : Prop where
  critical : assessment.riskCategory = "CRITIQUE" ↔ assessment.sarRequired = true
  reported : assessment.sarRequired = true → assessment.blocked = true
  blocked : assessment.blocked = true → assessment.riskCategory = "ELEVE" ∨ assessment.riskCategory = "CRITIQUE"
  reason : assessment.blockedReason.isSome = true ↔ assessment.blocked = true

theorem assess_consistent (text : Rat → String) (score : Rat) : (assess text score).Consistent := by
  have maximum : (maxAMLScore : Rat) = 3 / 5 := by
    rw [maxAMLScore]
    norm_num
  have threshold : (sarThreshold : Rat) = 3 / 4 := by
    rw [sarThreshold]
    norm_num
  have categories := riskCategory_eq score
  constructor
  · simp only [assess, threshold, decide_eq_true_eq]
    rcases categories with ⟨below, same⟩ | ⟨_, below, same⟩ | ⟨_, most, same⟩ | ⟨above, same⟩
    · exact iff_of_false (by rw [same]; decide) (by linarith)
    · exact iff_of_false (by rw [same]; decide) (by linarith)
    · exact iff_of_false (by rw [same]; decide) (not_lt.mpr most)
    · exact iff_of_true same above
  · simp only [assess, maximum, threshold, decide_eq_true_eq]
    intro above
    linarith
  · simp only [assess, maximum, decide_eq_true_eq]
    intro above
    rcases categories with ⟨below, _⟩ | ⟨_, below, _⟩ | ⟨_, _, same⟩ | ⟨_, same⟩
    · linarith
    · linarith
    · exact .inl same
    · exact .inr same
  · simp only [assess, decide_eq_true_eq]
    by_cases above : maxAMLScore < score
    · rw [if_pos above]
      exact iff_of_true rfl above
    · rw [if_neg above]
      exact iff_of_false (by simp) above

/-- The write sets the score and the category of one record, and the score is exact. -/
structure Rewrites (score : Rat) (record : ComplianceRecord) (write : Write) : Prop where
  written : ∃ units, write = .updateRecord record.id (.score units (riskCategory score)) ∧
    (units.units : Rat) / 10 ^ 4 = score

theorem rewrites_scoreWrite (indicators : Indicators Rat) (amount : Rat) (record : ComplianceRecord) :
    Rewrites (finalScore indicators amount) record (scoreWrite (finalScore indicators amount) record) :=
  ⟨_, rfl, exactUnits_roundDecimals _ 4⟩

/-- These are the laws of the score. -/
structure ScoreLaws (text : Rat → String) : Prop where
  range : ∀ indicators amount, 0 ≤ finalScore indicators amount ∧ finalScore indicators amount ≤ (1 : Rat)
  monotone : ∀ lower upper, Indicators.AtMost lower upper → ∀ first second : Rat, first ≤ second →
    finalScore lower first ≤ finalScore upper second
  ranked : ∀ first second : Rat, first ≤ second → riskRank first ≤ riskRank second
  consistent : ∀ score, (assess text score).Consistent
  kept : ∀ status userID indicators amount (events : List (Event status)) outcome,
    Executes (score text userID indicators amount) events outcome →
      (∀ result, outcome = .ok result → result = assess text (finalScore indicators amount)) ∧
        ∀ write answer, (⟨.write write, answer⟩ : Event status) ∈ events →
          0.40 < finalScore indicators amount ∧ ∃ record, foundRecord userID record ∈ events ∧
            Rewrites (finalScore indicators amount) record write

theorem score_laws (text : Rat → String) : ScoreLaws text where
  range := finalScore_mem
  monotone := fun _ _ indicators _ _ amounts => finalScore_mono indicators amounts
  ranked := fun _ _ le => riskRank_mono le
  consistent := assess_consistent text
  kept := by
    intro status userID indicators amount events outcome executed
    obtain ⟨returned, written⟩ := executes_score executed
    refine ⟨returned, fun write answer member => ?_⟩
    obtain ⟨high, record, found, rfl⟩ := written write answer member
    exact ⟨high, record, found, rewrites_scoreWrite indicators amount record⟩

end Exact

end Pxtly.Compliance.Scoring
