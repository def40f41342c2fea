/-
This file gives the screening of a participant with the indicators of the fixtures.
-/

import Pxtly.Compliance.Fixtures
import Pxtly.Compliance.Reports

namespace Pxtly.Compliance

open Foundation Foundation.Database
open Assets (Uuid)

section Indicators

/-- These are Python's `str.lower` and its `float` of a text, which may be no number. -/
structure Reader where
  lower : String → String
  float : String → Option Float

variable (reader : Reader)

/-- This is `float(value)`; it raises an error where the result is missing. -/
def Reader.number : Json → Option Float
  | .null => none
  | .bool value => some (if value then 1.0 else 0.0)
  | .integer value => if (Float.ofInt value).isFinite then some (Float.ofInt value) else none
  | .number value => some value
  | .string text => reader.float text
  | .array _ => none
  | .object _ => none

def getParticipants (document : Document) : List Json :=
  match dictGet document "participants" with
  | some (.array items) => items
  | _ => []

def indicator (members : Document) (name : String) : Option Float :=
  match dictGet members name with
  | some value => reader.number value
  | none => some 0.05

def readIndicators : Json → Option AMLIndicators
  | .object members => do
      let jurisdictionRisk ← indicator reader members "jurisdiction_risk"
      let crossBorderActivity ← indicator reader members "cross_border_activity"
      let unusualVolume ← indicator reader members "unusual_volume"
      return ⟨jurisdictionRisk, crossBorderActivity, unusualVolume⟩
  | _ => none

/-- The text of a value that is no text is never a UUID. -/
def isParticipant (userID : Uuid) (members : Document) : Bool :=
  match dictGet members "user_id" with
  | some (.string text) => reader.lower text = reader.lower userID.text
  | _ => false

/-- The first entry of a participant counts, and a value of the wrong type raises an error. -/
def loadIndicators (userID : Uuid) : List Json → Option AMLIndicators
  | [] => some ⟨0.05, 0.05, 0.05⟩
  | .object members :: later =>
      if isParticipant reader userID members then
        readIndicators reader ((dictGet members "aml_indicators").getD (.object []))
      else loadIndicators userID later
  | _ :: _ => none

/-- There is no document where the loader raises an error. -/
def indicatorsOf (document : Option Document) (userID : Uuid) : Option AMLIndicators := do
  loadIndicators reader userID (getParticipants (← document))

end Indicators

section Screening

structure AMLScreeningRequest where
  userID : Uuid
  amount : Float
  counterpartyID : Uuid
  amountPositive : 0 < amount

inductive ScreeningFault where
  | badUuid (text : String)
  | unreadableIndicators
  | scoring (cause : Fault)
  deriving DecidableEq

variable {status : StatusColumn} (floatText : Float → String) (reader : Reader) (document : Option Document)

/-- The score does not depend on the counterparty, and it is kept before a report is filed. -/
def scoreParticipant (userID : Uuid) (amount : Float) : Program (database status).signature ScreeningFault AMLResult :=
  match indicatorsOf reader document userID with
  | none => .raise .unreadableIndicators
  | some indicators => (score floatText userID indicators amount).mapFault .scoring

def runAmlScreening (body : AMLScreeningRequest) : Program (database status).signature ScreeningFault AMLResult :=
  scoreParticipant floatText reader document body.userID body.amount

/-- A result may ask for a report, which the screening then files. -/
def reportScreening (userID : Uuid) (amount : Float) (result : AMLResult) : Reporter Unit := do
  if result.sarRequired then
    let _ ← generate userID none "AML_CRITICAL_THRESHOLD" amount
    return ()
  else return ()

/-- A screening that can read the indicators of its participant returns their result. -/
theorem alone_scoreParticipant (userID : Uuid) (amount : Float) (tables : Tables status) :
    (alone (scoreParticipant floatText reader document userID amount) tables).1 =
      match indicatorsOf reader document userID with
      | none => .error .unreadableIndicators
      | some indicators => .ok (amlResult floatText (finalScore indicators amount)) := by
  rw [scoreParticipant]
  cases indicatorsOf reader document userID with
  | none => rfl
  | some indicators =>
      simp only
      rw [alone_mapFault, alone_score]
      rfl

/-- The report of a screening is refused, and its score is already kept. -/
theorem reportScreening_refused {userID : Uuid} {amount : Float} {result : AMLResult} {tables final : ReportTables}
    {outcome : Except String Unit} (required : result.sarRequired = true)
    (reached : (reportScreening userID amount result).Reaches reportResponds tables outcome final) :
    outcome = .error "the report is refused" ∧ final = tables := by
  rw [reportScreening, if_pos required] at reached
  rcases (Program.reaches_bind _ _ _ _ _).mp reached with ⟨fault, failed, generated⟩ | ⟨reference, middle, generated, _⟩
  · have refused := generate_of_long_code (by decide) generated
    exact ⟨failed.trans (congrArg _ (Except.error.inj refused.1)), refused.2⟩
  · cases (generate_of_long_code (by decide) generated).1

end Screening

end Pxtly.Compliance
