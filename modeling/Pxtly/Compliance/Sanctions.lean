/-
This file gives the screening of a name against the sanctions lists of the manifest.
-/

import Mathlib.Data.List.Infix
import Pxtly.Compliance.Fixtures

namespace Pxtly.Compliance

open Foundation Program

structure SanctionMatch where
  listName : String
  matchedName : String
  matchScore : Float
  pepLevel : Option Nat

structure SanctionsResult where
  hit : Bool
  hits : List SanctionMatch
  screenedLists : List String

def sanctionMatchThreshold : Float := 85.0

def listsToCheck : List String :=
  ["OFAC_SDN", "UN_CONSOLIDATED", "EU_CONSOLIDATED", "UK_HMT", "PEP_LEVEL_1", "PEP_LEVEL_2", "PEP_LEVEL_3"]

/-- `int(list_name[-1]) if "PEP" in list_name else None` -/
def pepLevel (listName : String) : Option Nat :=
  if "PEP".toList <:+: listName.toList then listName.toList.getLast?.map fun digit => digit.toNat - 48 else none

/-- These exceptions leave the screener. -/
inductive ScreenFault where
  | load (fault : LoadFault)
  | typeError
  deriving DecidableEq

/-- Python's `str.lower`, its `str` of a value that is no text, and the similarity of two texts in percent. -/
structure Matcher where
  lower : String → String
  str : Json → String
  ratio : String → String → Float

/-- A `for` loop goes through the items of a list, the characters of a text or the keys of a dictionary. -/
def iterate : Json → Except ScreenFault (List Json)
  | .array items => .ok items
  | .string text => .ok (text.toList.map fun c => .string (String.singleton c))
  | .object members => .ok ((members.map Prod.fst).eraseDups.map .string)
  | _ => .error .typeError

variable (matcher : Matcher)

def candidateText : Json → String
  | .string text => text
  | value => matcher.str value

/-- An equal name ends the search of a list; a similar one does not. -/
def screenCandidates (nameLower listName : String) : List String → List SanctionMatch × Bool
  | [] => ([], false)
  | candidate :: rest =>
      if nameLower = matcher.lower candidate then ([⟨listName, candidate, 100.0, pepLevel listName⟩], true)
      else
        let ratio := matcher.ratio nameLower (matcher.lower candidate)
        let (later, hit) := screenCandidates nameLower listName rest
        if ratio > sanctionMatchThreshold then (⟨listName, candidate, ratio, pepLevel listName⟩ :: later, true)
        else (later, hit)

def screenList (lists : Document) (nameLower listName : String) : Except ScreenFault (List SanctionMatch × Bool) := do
  let candidates ← iterate ((dictGet lists listName).getD (.array []))
  return screenCandidates matcher nameLower listName (candidates.map (candidateText matcher))

def screenLists (lists : Document) (fullName : String) : Except ScreenFault SanctionsResult := do
  let results ← listsToCheck.mapM (screenList matcher lists (matcher.lower fullName))
  return { hit := results.any Prod.snd, hits := results.flatMap Prod.fst, screenedLists := listsToCheck }

/-- The cache is renewed by the loader even when a list cannot be searched. -/
def screen (toolkit : Toolkit) (cache : Cache) (fullName : String) :
    Loader (Except ScreenFault SanctionsResult × Cache) := do
  let (lists, later) ← getSanctionsLists toolkit cache
  return (screenLists matcher lists fullName, later)

/-- The caller sees the error of the loader or the verdict on the lists. -/
def Files.screen (files : Files) (toolkit : Toolkit) (cache : Cache) (fullName : String) :
    Except ScreenFault SanctionsResult :=
  match files.run (Compliance.screen matcher toolkit cache fullName) with
  | .error fault => .error (.load fault)
  | .ok (result, _) => result

theorem Files.screen_of_unavailable {files : Files} {toolkit : Toolkit} {cache : Cache}
    (unavailable : Unavailable toolkit files cache) :
    files.Interrupted toolkit ∧ (∀ fullName, ∃ fault, files.screen matcher toolkit cache fullName = .error fault) ∨
      ¬ files.Interrupted toolkit ∧ ∀ fullName, files.screen matcher toolkit cache fullName =
        .ok { hit := false, hits := [], screenedLists := listsToCheck } := by
  unfold Files.screen Compliance.screen
  simp only [run_bind]
  rcases files.run_getSanctionsLists toolkit unavailable with ⟨interrupted, fault, failed⟩ | ⟨calm, later, loaded⟩
  · exact .inl ⟨interrupted, fun fullName => ⟨.load fault, by rw [failed]; rfl⟩⟩
  · exact .inr ⟨calm, fun fullName => by rw [loaded]; rfl⟩

end Pxtly.Compliance
