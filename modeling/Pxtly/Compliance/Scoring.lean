/-
This file gives the score of the anti-money-laundering stage.
-/

import Pxtly.Compliance.Kyc
import Pxtly.Foundation.Floats

namespace Pxtly.Compliance

open Foundation Foundation.Database
open Assets (Uuid Numeric)

structure AMLIndicators where
  jurisdictionRisk : Float
  crossBorderActivity : Float
  unusualVolume : Float

def maxAMLScore : Float := 0.60
def sarThreshold : Float := 0.75

section Score

def highAmountBonus (amount rawScore : Float) : Float :=
  if 25000000.0 < amount then rawScore + 0.10
  else if 5000000.0 < amount then rawScore + 0.05
  else rawScore

def rawScore (indicators : AMLIndicators) (amount : Float) : Float :=
  highAmountBonus amount (indicators.jurisdictionRisk * 0.3 + indicators.crossBorderActivity * 0.4 +
    indicators.unusualVolume * 0.3)

/-- A score that is not finite counts as the highest one. -/
def clamp (rawScore : Float) : Float :=
  let finite := if rawScore.isFinite then rawScore else 1.0
  let capped := if finite < 1.0 then finite else 1.0
  if 0.0 < capped then capped else 0.0

def finalScore (indicators : AMLIndicators) (amount : Float) : Float := roundPlaces (clamp (rawScore indicators amount)) 4

def riskCategory (finalScore : Float) : String :=
  if finalScore < 0.30 then "FAIBLE"
  else if finalScore < maxAMLScore then "MOYEN"
  else if finalScore ≤ sarThreshold then "ELEVE"
  else "CRITIQUE"

/-- The text of a float is the one that Python gives. -/
def amlResult (floatText : Float → String) (finalScore : Float) : AMLResult where
  score := finalScore
  riskCategory := riskCategory finalScore
  blocked := maxAMLScore < finalScore
  blockedReason :=
    if maxAMLScore < finalScore then
      some ("Score AML (" ++ floatText finalScore ++ ") excède le seuil de tolérance (" ++ floatText maxAMLScore ++ ")")
    else none
  indicators := ["Volume anormal configuré", "Risque juridiction projeté"]
  sarRequired := sarThreshold < finalScore

theorem maxAMLScore_unpack : maxAMLScore.toModel.unpack = .finite .positive 5404319552844595 (-53) (by decide) := rfl

theorem sarThreshold_unpack : sarThreshold.toModel.unpack = .finite .positive 6755399441055744 (-53) (by decide) := rfl

/-- A score that asks for a report is blocked. -/
theorem blocked_of_sarRequired {floatText : Float → String} {score : Float}
    (required : (amlResult floatText score).sarRequired = true) : (amlResult floatText score).blocked = true := by
  simp only [amlResult, decide_eq_true_eq] at required ⊢
  exact float_lt_of_lt maxAMLScore_unpack sarThreshold_unpack (by decide) required

end Score

section Scorer

variable {status : StatusColumn} (floatText : Float → String)

def scoreWrite (score : Float) (record : ComplianceRecord) : Write :=
  .updateRecord record.id (.score ⟨decimalUnits score 4⟩ (riskCategory score))

/-- The newest record of a participant keeps his score. -/
def keepScore (score : Float) : Option ComplianceRecord → RecordService status Unit
  | none => pure ()
  | some record => do
      save (scoreWrite score record)
      commit

/-- This is `AMLScorer.score`; the indicators come from the participants of the fixtures. -/
def score (userID : Uuid) (indicators : AMLIndicators) (amount : Float) :
    RecordService status AMLResult := do
  let final := finalScore indicators amount
  if 0.40 < final then
    let found ← fetch (.newestRecord userID)
    keepScore final found
    return amlResult floatText final
  else return amlResult floatText final

theorem legalRecord_score (users : List Uuid) (id : Uuid) (amlScore : Numeric) (category : String)
    (row : ComplianceRecord) :
    legalRecord status users (assign id (.score amlScore category) row) = legalRecord status users row := by
  unfold assign
  split <;> rfl

theorem admits_scoreWrite (score : Float) (record : ComplianceRecord) (tables : Tables status) :
    tables.admits (scoreWrite score record) = true := by
  simp only [scoreWrite, Tables.admits, List.all_eq_true, legalRecord_score]
  exact tables.recordsLegal

/-- Every update of a score is admitted. -/
theorem evaluate_keepScore (score : Float) (tables : Tables status) (userID : Uuid) :
    ((keepScore score (newestRecord tables.records userID)).evaluate respond (tables, [])).1 = .ok () := by
  cases newestRecord tables.records userID with
  | none => rfl
  | some record =>
      rw [keepScore, evaluate_write]
      exact congrArg Prod.fst (if_pos (admits_scoreWrite score record tables))

/-- A scorer that runs alone returns the result of the indicators and the amount. -/
theorem alone_score (userID : Uuid) (indicators : AMLIndicators) (amount : Float)
    (tables : Tables status) :
    (alone (score floatText userID indicators amount) tables).1 =
      .ok (amlResult floatText (finalScore indicators amount)) := by
  have kept := evaluate_keepScore (finalScore indicators amount) tables userID
  rw [alone, score]
  simp only
  split
  · rw [evaluate_fetch, Tables.answer, Program.evaluate_bind]
    generalize (keepScore (finalScore indicators amount)
      (newestRecord tables.records userID)).evaluate respond (tables, []) = ended at kept ⊢
    obtain ⟨outcome, later⟩ := ended
    obtain rfl : outcome = .ok () := kept
    rfl
  · rfl

end Scorer

end Pxtly.Compliance
