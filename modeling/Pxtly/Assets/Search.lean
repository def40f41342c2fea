/-
This file gives the query of the asset search and tells when its selector means what its filters say.
-/

import Pxtly.Chaincode.Provenance
import Pxtly.Foundation.Python

namespace Pxtly.Assets

open Foundation
open Chaincode (Call FinancialAsset Ledger Proposal QueryEngine Stub queryAssets)

section Query

structure SearchFilters where
  assetStatus : Option String
  assetType : Option String
  owner : Option String

/-- Python takes an empty text for no filter. -/
def givenFilter (filter : Option String) : Option String := filter.filter fun text => text != ""

def selectorMember (field : String) (filter : Option String) : List (String × Json) :=
  (givenFilter filter).toList.map fun text => (field, .string text)

def SearchFilters.selector (filters : SearchFilters) : List (String × Json) :=
  selectorMember "status" filters.assetStatus ++ selectorMember "assetType" filters.assetType ++
    selectorMember "owner" filters.owner

def searchQuery (filters : SearchFilters) (limit offset : Nat) : Json :=
  .object [("selector", .object filters.selector), ("limit", .integer limit), ("skip", .integer offset)]

end Query

section Selection

/-- The values of a selector are texts. -/
def equalsText : Json → Json → Bool
  | .string expected, .string actual => expected == actual
  | _, _ => false

/-- A member of a selector asks for a field of the document with an equal value. -/
def fieldEquals (document : List (String × Json)) (condition : String × Json) : Bool :=
  ((dictGet document condition.1).map (equalsText condition.2)).getD false

def selectorOf : Json → List (String × Json)
  | .object members =>
      match dictGet members "selector" with
      | some (.object selector) => selector
      | _ => []
  | _ => []

/-- CouchDB selects the documents for which every member of the selector holds. -/
def selects (query : Json) : Json → Bool
  | .object document => (selectorOf query).all (fieldEquals document)
  | _ => false

/-- The asset has the status, the type and the owner that the filters give. -/
structure SearchFilters.Describes (filters : SearchFilters) (asset : FinancialAsset) : Prop where
  status : ∀ text, givenFilter filters.assetStatus = some text → asset.status.text = text
  assetType : ∀ text, givenFilter filters.assetType = some text → asset.assetType.text = text
  owner : ∀ text, givenFilter filters.owner = some text → asset.currentOwner = text

/-- The selector selects the documents of the described assets and no others. -/
def SelectsDescribed (ledger : Ledger) (filters : SearchFilters) (limit offset : Nat) : Prop :=
  ∀ key document asset, ledger.worldState.lookup key = some document → FinancialAsset.unmarshal document = .ok asset →
    (selects (searchQuery filters limit offset) document = true ↔ filters.Describes asset)

theorem selectorOf_searchQuery (filters : SearchFilters) (limit offset : Nat) :
    selectorOf (searchQuery filters limit offset) = filters.selector :=
  rfl

/-- The fields that the filters mean carry the texts of the asset, and no field is called `owner`. -/
theorem document_fields {asset : FinancialAsset} {document : Json} (marshalled : asset.marshal = .ok document) :
    ∃ members, document = .object members ∧ dictGet members "status" = some (.string asset.status.text) ∧
      dictGet members "assetType" = some (.string asset.assetType.text) ∧ dictGet members "owner" = none := by
  simp only [FinancialAsset.marshal, bind_eq_ok] at marshalled
  obtain ⟨nominalValue, _, currentValue, _, couponRate, _, provenance, _, same⟩ := marshalled
  exact ⟨_, (Except.ok.inj same).symm, rfl, rfl, rfl⟩

/-- A condition on a field holds when the filter is not given or names the text of the field. -/
theorem all_selectorMember {document : List (String × Json)} {field text : String} {filter : Option String}
    (stored : dictGet document field = some (.string text)) :
    (selectorMember field filter).all (fieldEquals document) = true ↔
      ∀ wanted, givenFilter filter = some wanted → text = wanted := by
  unfold selectorMember
  cases givenFilter filter with
  | none => simp
  | some wanted =>
      simp only [Option.toList_some, List.map_cons, List.map_nil, List.all_cons, List.all_nil, Bool.and_true,
        fieldEquals, stored, Option.map_some, equalsText, Option.getD_some, beq_iff_eq, Option.some.injEq, forall_eq']
      exact eq_comm

/-- A condition on a field that the document lacks holds only when the filter is not given. -/
theorem all_selectorMember_missing {document : List (String × Json)} {field : String} {filter : Option String}
    (missing : dictGet document field = none) :
    (selectorMember field filter).all (fieldEquals document) = true ↔ givenFilter filter = none := by
  unfold selectorMember
  cases givenFilter filter with
  | none => simp
  | some wanted => simp [fieldEquals, missing]

/-- The selector tells the status and the type apart, and it selects nothing once an owner is given. -/
theorem selects_document {asset : FinancialAsset} {document : Json} (marshalled : asset.marshal = .ok document)
    (filters : SearchFilters) (limit offset : Nat) :
    selects (searchQuery filters limit offset) document = true ↔
      givenFilter filters.owner = none ∧ filters.Describes asset := by
  obtain ⟨members, rfl, status, assetType, owner⟩ := document_fields marshalled
  rw [selects, selectorOf_searchQuery, SearchFilters.selector, List.all_append, List.all_append, Bool.and_eq_true,
    Bool.and_eq_true, all_selectorMember status, all_selectorMember assetType, all_selectorMember_missing owner]
  constructor
  · rintro ⟨⟨sameStatus, sameType⟩, absent⟩
    exact ⟨absent, sameStatus, sameType, fun text given => by cases absent.symm.trans given⟩
  · rintro ⟨absent, described⟩
    exact ⟨⟨described.status, described.assetType⟩, absent⟩

end Selection

section Search

variable {calls : List Call} {filters : SearchFilters} {limit offset : Nat}

theorem selects_stored {key : String} {document : Json} {asset : FinancialAsset}
    (stored : (Ledger.empty.run calls).worldState.lookup key = some document)
    (decoded : FinancialAsset.unmarshal document = .ok asset) :
    selects (searchQuery filters limit offset) document = true ↔
      givenFilter filters.owner = none ∧ filters.Describes asset := by
  obtain ⟨written, marshalled⟩ := Ledger.run_serialised Ledger.empty_serialised calls key document stored
  obtain rfl := Except.ok.inj ((written.unmarshal_marshal document marshalled).symm.trans decoded)
  exact selects_document marshalled filters limit offset

/-- The state database answers a query with stored documents that the query selects. -/
def FollowsSelectors (documentText : Json → String) (richQuery : QueryEngine) : Prop :=
  ∀ query worldState documents, richQuery (documentText query) worldState = .ok documents →
    ∀ document ∈ documents, selects query document = true ∧ ∃ key, worldState.lookup key = some document

/-- A search by owner finds nothing, whatever the ledger holds. -/
theorem queryAssets_by_owner {documentText : Json → String} {proposal : Proposal} {assets : List FinancialAsset}
    (follows : FollowsSelectors documentText proposal.richQuery) (byOwner : givenFilter filters.owner ≠ none)
    (answered : queryAssets (proposal.context (Ledger.empty.run calls))
      (documentText (searchQuery filters limit offset)) = .ok assets) : assets = [] := by
  simp only [queryAssets, bind_eq_ok, wrapping_eq_ok, Stub.getQueryResult, Stub.ask_eq_ok] at answered
  obtain ⟨documents, ⟨_, chosen⟩, decoded⟩ := answered
  have none : documents = [] := by
    rw [List.eq_nil_iff_forall_not_mem]
    intro document member
    obtain ⟨selected, key, stored⟩ := follows _ _ _ chosen document member
    obtain ⟨asset, decoded, _⟩ := Ledger.run_sound Ledger.empty_sound calls key document stored
    exact byOwner ((selects_stored stored decoded).mp selected).1
  rw [none] at decoded
  exact (Except.ok.inj decoded).symm

end Search

/-- The search finds what it says unless an owner is given whom some described asset has. -/
theorem selectsDescribed_iff (calls : List Call) (filters : SearchFilters) (limit offset : Nat) :
    SelectsDescribed (Ledger.empty.run calls) filters limit offset ↔
      givenFilter filters.owner = none ∨
        ∀ key asset, (Ledger.empty.run calls).find key = some asset → ¬ filters.Describes asset := by
  constructor
  · intro means
    by_cases absent : givenFilter filters.owner = none
    · exact .inl absent
    · refine .inr fun key asset found described => absent ?_
      obtain ⟨document, stored, decoded⟩ := (Ledger.find_eq_some _ _ _).mp found
      have chosen := (means key document asset stored decoded).mpr described
      exact ((selects_stored stored decoded).mp chosen).1
  · intro condition key document asset stored decoded
    rw [selects_stored stored decoded]
    constructor
    · exact fun both => both.2
    · intro described
      rcases condition with absent | none
      · exact ⟨absent, described⟩
      · exact absurd described (none key asset ((Ledger.find_eq_some _ _ _).mpr ⟨document, stored, decoded⟩))

section Samples

def assetsOfAlice : SearchFilters := ⟨none, none, some "alice@bank01.com"⟩

/-- The bond belongs to Alice, and a search for her assets does not select it. -/
theorem aliceBond_missed : ∃ asset,
    (Ledger.empty.run (Chaincode.frozenSale.take 2)).find "RWA-BANK-BOND-2026-001" = some asset ∧
      assetsOfAlice.Describes asset ∧
      ¬ SelectsDescribed (Ledger.empty.run (Chaincode.frozenSale.take 2)) assetsOfAlice 10 0 := by
  have seen : ((Ledger.empty.run (Chaincode.frozenSale.take 2)).find "RWA-BANK-BOND-2026-001").map (·.currentOwner) =
      some "alice@bank01.com" := by decide +kernel
  obtain ⟨asset, found, owner⟩ := Option.map_eq_some_iff.mp seen
  have described : assetsOfAlice.Describes asset := by
    refine ⟨(by nofun), (by nofun), ?_⟩
    intro text given
    have same : givenFilter assetsOfAlice.owner = some "alice@bank01.com" := by decide
    rw [owner]
    exact Option.some.inj (same.symm.trans given)
  refine ⟨asset, found, described, ?_⟩
  intro means
  obtain ⟨document, stored, decoded⟩ := (Ledger.find_eq_some _ _ _).mp found
  have chosen := (means _ document asset stored decoded).mpr described
  cases ((selects_stored stored decoded).mp chosen).1

end Samples

end Pxtly.Assets
