/-
This file gives that a screening hits exactly the names that match an entry of the screened lists.
-/

import Pxtly.Compliance.Sanctions

namespace Pxtly.Compliance

open Foundation

section Candidates

variable (matcher : Matcher)

/-- A candidate matches a name that it equals ignoring case, or that is similar enough. -/
def Matcher.Matches (fullName candidate : String) : Prop :=
  matcher.lower fullName = matcher.lower candidate ∨
    matcher.ratio (matcher.lower fullName) (matcher.lower candidate) > sanctionMatchThreshold

/-- A match is one that the search of this list may report for these candidates. -/
structure Matcher.Reports (fullName listName : String) (candidates : List String) (found : SanctionMatch) : Prop where
  named : found.listName = listName
  candidate : found.matchedName ∈ candidates
  matching : matcher.Matches fullName found.matchedName
  score : found.matchScore = 100.0 ∧ matcher.lower fullName = matcher.lower found.matchedName ∨
    found.matchScore = matcher.ratio (matcher.lower fullName) (matcher.lower found.matchedName) ∧
      found.matchScore > sanctionMatchThreshold
  level : found.pepLevel = pepLevel listName

variable {matcher} {fullName listName : String}

theorem Matcher.Reports.later {candidate : String} {rest : List String} {found : SanctionMatch}
    (reported : matcher.Reports fullName listName rest found) :
    matcher.Reports fullName listName (candidate :: rest) found :=
  { reported with candidate := List.mem_cons_of_mem candidate reported.candidate }

/-- The search of a list hits exactly when a candidate matches, and then it reports a match. -/
theorem screenCandidates_hit (candidates : List String) :
    ((screenCandidates matcher (matcher.lower fullName) listName candidates).2 = true ↔
      ∃ candidate ∈ candidates, matcher.Matches fullName candidate) ∧
    ((screenCandidates matcher (matcher.lower fullName) listName candidates).2 = true ↔
      (screenCandidates matcher (matcher.lower fullName) listName candidates).1 ≠ []) := by
  induction candidates with
  | nil => simp [screenCandidates]
  | cons candidate rest inductionHypothesis =>
      obtain ⟨found, occupied⟩ := inductionHypothesis
      rw [screenCandidates]
      by_cases equal : matcher.lower fullName = matcher.lower candidate
      · -- The loop is left here, and the rest cannot take the hit back.
        rw [if_pos equal]
        exact ⟨iff_of_true rfl ⟨candidate, List.mem_cons_self, .inl equal⟩, iff_of_true rfl (List.cons_ne_nil _ _)⟩
      · rw [if_neg equal]
        by_cases similar : matcher.ratio (matcher.lower fullName) (matcher.lower candidate) > sanctionMatchThreshold
        · simp only [if_pos similar]
          exact ⟨iff_of_true trivial ⟨candidate, List.mem_cons_self, .inr similar⟩, by simp⟩
        · simp only [if_neg similar]
          have missed : ¬ matcher.Matches fullName candidate := by
            rintro (same | near)
            · exact equal same
            · exact similar near
          constructor
          · rw [found]
            simp [missed]
          · exact occupied

theorem reports_of_mem_screenCandidates (candidates : List String) (found : SanctionMatch)
    (member : found ∈ (screenCandidates matcher (matcher.lower fullName) listName candidates).1) :
    matcher.Reports fullName listName candidates found := by
  induction candidates with
  | nil => cases member
  | cons candidate rest inductionHypothesis =>
      rw [screenCandidates] at member
      by_cases equal : matcher.lower fullName = matcher.lower candidate
      · rw [if_pos equal] at member
        obtain rfl := List.mem_singleton.mp member
        exact ⟨rfl, List.mem_cons_self, .inl equal, .inl ⟨rfl, equal⟩, rfl⟩
      · rw [if_neg equal] at member
        by_cases similar : matcher.ratio (matcher.lower fullName) (matcher.lower candidate) > sanctionMatchThreshold
        · simp only [if_pos similar] at member
          cases member with
          | head => exact ⟨rfl, List.mem_cons_self, .inr similar, .inr ⟨rfl, similar⟩, rfl⟩
          | tail _ later => exact (inductionHypothesis later).later
        · simp only [if_neg similar] at member
          exact (inductionHypothesis member).later

end Candidates

section Lists

variable (matcher : Matcher)

/-- These are the entries of a list, which has none where it cannot be searched. -/
def Matcher.entries (lists : Document) (listName : String) : List String :=
  match iterate ((dictGet lists listName).getD (.array [])) with
  | .ok candidates => candidates.map (candidateText matcher)
  | .error _ => []

/-- Some entry of the list matches the name. -/
def Matcher.Lists (lists : Document) (fullName listName : String) : Prop :=
  ∃ candidate ∈ matcher.entries lists listName, matcher.Matches fullName candidate

def Searchable (lists : Document) : Prop :=
  ∀ listName ∈ listsToCheck, ∃ candidates, iterate ((dictGet lists listName).getD (.array [])) = .ok candidates

theorem screenList_eq_ok {lists : Document} {nameLower listName : String} {found : List SanctionMatch × Bool}
    (screened : screenList matcher lists nameLower listName = .ok found) :
    found = screenCandidates matcher nameLower listName (matcher.entries lists listName) := by
  unfold screenList at screened
  unfold Matcher.entries
  cases searched : iterate ((dictGet lists listName).getD (.array [])) with
  | error fault =>
      rw [searched] at screened
      cases screened
  | ok candidates =>
      rw [searched] at screened
      exact (Except.ok.inj screened).symm

/-- A screening goes through all seven lists. -/
theorem screenLists_eq_ok {lists : Document} {fullName : String} {result : SanctionsResult}
    (screened : screenLists matcher lists fullName = .ok result) :
    result.hit = (listsToCheck.any fun listName =>
        (screenCandidates matcher (matcher.lower fullName) listName (matcher.entries lists listName)).2) ∧
      result.hits = listsToCheck.flatMap fun listName =>
        (screenCandidates matcher (matcher.lower fullName) listName (matcher.entries lists listName)).1 := by
  have collected (listNames : List String) {results : List (List SanctionMatch × Bool)}
      (searched : listNames.mapM (screenList matcher lists (matcher.lower fullName)) = .ok results) :
      results = listNames.map fun listName =>
        screenCandidates matcher (matcher.lower fullName) listName (matcher.entries lists listName) := by
    induction listNames generalizing results with
    | nil => exact (Except.ok.inj searched).symm
    | cons listName rest inductionHypothesis =>
        obtain ⟨first, later, found, others, rfl⟩ := mapM_cons_eq_ok.mp searched
        rw [List.map_cons, ← screenList_eq_ok matcher found, ← inductionHypothesis others]
  unfold screenLists at screened
  obtain ⟨results, searched, screened⟩ := (bind_eq_ok _ _ _).mp screened
  obtain rfl := Except.ok.inj screened
  rw [collected listsToCheck searched, List.any_map, List.flatMap_map]
  exact ⟨rfl, rfl⟩

theorem exists_screenLists {lists : Document} (searchable : Searchable lists) (fullName : String) :
    ∃ result, screenLists matcher lists fullName = .ok result := by
  have searched : ∃ results, listsToCheck.mapM (screenList matcher lists (matcher.lower fullName)) = .ok results := by
    refine exists_mapM _ fun listName member => ?_
    obtain ⟨candidates, found⟩ := searchable listName member
    exact ⟨_, by rw [screenList, found]; rfl⟩
  obtain ⟨results, same⟩ := searched
  exact ⟨_, by rw [screenLists, same]; rfl⟩

end Lists

section Screenings

/-- A screening of a name reads some lists and returns a result. -/
structure Screening (matcher : Matcher) (fullName : String) where
  files : Files
  toolkit : Toolkit
  cache : Cache
  lists : Document
  result : SanctionsResult
  loaded : ∃ later, files.run (getSanctionsLists toolkit cache) = .ok (lists, later)
  screened : files.screen matcher toolkit cache fullName = .ok result

theorem Files.screen_of_loaded {matcher : Matcher} {files : Files} {toolkit : Toolkit} {cache : Cache} {lists : Document}
    (loaded : ∃ later, files.run (getSanctionsLists toolkit cache) = .ok (lists, later)) (fullName : String) :
    files.screen matcher toolkit cache fullName = screenLists matcher lists fullName := by
  obtain ⟨later, same⟩ := loaded
  unfold Files.screen Compliance.screen
  rw [run_bind, same]
  rfl

variable {matcher : Matcher} {fullName : String} (screening : Screening matcher fullName)

theorem Screening.hit_iff :
    screening.result.hit = true ↔ ∃ listName ∈ listsToCheck, matcher.Lists screening.lists fullName listName := by
  have screened := (screening.files.screen_of_loaded screening.loaded fullName).symm.trans screening.screened
  rw [(screenLists_eq_ok matcher screened).1, List.any_eq_true]
  exact exists_congr fun listName => and_congr_right fun _ => (screenCandidates_hit _).1

/-- Every match of the result comes from the search of one list. -/
theorem Screening.mem_hits_iff (found : SanctionMatch) :
    found ∈ screening.result.hits ↔ ∃ listName ∈ listsToCheck, found ∈
      (screenCandidates matcher (matcher.lower fullName) listName (matcher.entries screening.lists listName)).1 := by
  have screened := (screening.files.screen_of_loaded screening.loaded fullName).symm.trans screening.screened
  rw [(screenLists_eq_ok matcher screened).2, List.mem_flatMap]

theorem Screening.reported {found : SanctionMatch} (member : found ∈ screening.result.hits) :
    ∃ listName ∈ listsToCheck,
      matcher.Reports fullName listName (matcher.entries screening.lists listName) found := by
  obtain ⟨listName, checked, searched⟩ := (screening.mem_hits_iff found).mp member
  exact ⟨listName, checked, reports_of_mem_screenCandidates _ found searched⟩

/-- The early end of a search loses no list. -/
theorem Screening.named {listName : String} (checked : listName ∈ listsToCheck)
    (listed : matcher.Lists screening.lists fullName listName) :
    ∃ found ∈ screening.result.hits, found.listName = listName := by
  have hit := @screenCandidates_hit matcher fullName listName (matcher.entries screening.lists listName)
  obtain ⟨found, searched⟩ := List.exists_mem_of_ne_nil _ (hit.2.mp (hit.1.mpr listed))
  exact ⟨found, (screening.mem_hits_iff found).mpr ⟨listName, checked, searched⟩,
    (reports_of_mem_screenCandidates _ found searched).named⟩

theorem Screening.hit_iff_hits : screening.result.hit = true ↔ screening.result.hits ≠ [] := by
  constructor
  · intro hit
    obtain ⟨listName, checked, listed⟩ := screening.hit_iff.mp hit
    obtain ⟨found, member, _⟩ := screening.named checked listed
    exact List.ne_nil_of_mem member
  · intro occupied
    obtain ⟨found, member⟩ := List.exists_mem_of_ne_nil _ occupied
    obtain ⟨listName, checked, reported⟩ := screening.reported member
    exact screening.hit_iff.mpr ⟨listName, checked, found.matchedName, reported.candidate, reported.matching⟩

/-- These are the laws of a screening; those of two screenings compare only which entries the seven lists have. -/
structure ScreeningLaws (matcher : Matcher) : Prop where
  answers : ∀ (files : Files) toolkit cache lists fullName,
    (∃ later, files.run (getSanctionsLists toolkit cache) = .ok (lists, later)) → Searchable lists →
      ∃ result, files.screen matcher toolkit cache fullName = .ok result
  hit : ∀ fullName (screening : Screening matcher fullName), screening.result.hit = true ↔
    ∃ listName ∈ listsToCheck, ∃ candidate ∈ matcher.entries screening.lists listName,
      matcher.Matches fullName candidate
  occupied : ∀ fullName (screening : Screening matcher fullName),
    screening.result.hit = true ↔ screening.result.hits ≠ []
  named : ∀ fullName (screening : Screening matcher fullName), ∀ listName ∈ listsToCheck,
    (∃ candidate ∈ matcher.entries screening.lists listName, matcher.Matches fullName candidate) →
      ∃ found ∈ screening.result.hits, found.listName = listName
  reported : ∀ fullName (screening : Screening matcher fullName), ∀ found ∈ screening.result.hits,
    ∃ listName ∈ listsToCheck, matcher.Reports fullName listName (matcher.entries screening.lists listName) found
  unordered : ∀ fullName (first second : Screening matcher fullName),
    (∀ listName ∈ listsToCheck, ∀ candidate,
      candidate ∈ matcher.entries first.lists listName ↔ candidate ∈ matcher.entries second.lists listName) →
        first.result.hit = second.result.hit
  monotone : ∀ fullName (first second : Screening matcher fullName),
    (∀ listName ∈ listsToCheck, matcher.entries first.lists listName ⊆ matcher.entries second.lists listName) →
      first.result.hit = true → second.result.hit = true

/-- A screening hits exactly the names that match an entry, in whatever order and how often the entries come. -/
theorem screening_laws (matcher : Matcher) : ScreeningLaws matcher := by
  have monotone (fullName : String) (first second : Screening matcher fullName)
      (included : ∀ listName ∈ listsToCheck,
        matcher.entries first.lists listName ⊆ matcher.entries second.lists listName)
      (hit : first.result.hit = true) : second.result.hit = true := by
    obtain ⟨listName, checked, candidate, listed, matching⟩ := first.hit_iff.mp hit
    exact second.hit_iff.mpr ⟨listName, checked, candidate, included listName checked listed, matching⟩
  constructor
  · intro files toolkit cache lists fullName loaded searchable
    rw [files.screen_of_loaded loaded]
    exact exists_screenLists matcher searchable fullName
  · exact fun fullName screening => screening.hit_iff
  · exact fun fullName screening => screening.hit_iff_hits
  · exact fun fullName screening listName checked listed => screening.named checked listed
  · exact fun fullName screening found member => screening.reported member
  · intro fullName first second same
    rw [Bool.eq_iff_iff]
    constructor
    · exact monotone fullName first second fun listName checked _ listed => (same listName checked _).mp listed
    · exact monotone fullName second first fun listName checked _ listed => (same listName checked _).mpr listed
  · exact monotone

end Screenings

end Pxtly.Compliance
