import FacetSearch.Search.Facet
/-!
# Search domains

A domain binds an index, the fields returned for each hit, the fields searched for free text,
sort options, filters and facets into one search definition. It is checked once, when it is
built from its draft, and does not change after.
-/

namespace FacetSearch

/-- A named ordering of results. -/
structure SortOption where
  id : String
  label : String
  clauses : List SortClause
  isDefault : Bool
  deriving DecidableEq, Inhabited, Repr

/-- The parts of a domain, as declared. -/
structure DomainDraft where
  index : String
  returnedFields : List String
  relevanceFields : List String
  sortOptions : List SortOption
  filters : List Filter
  facets : List Facet

structure Domain where
  index : String
  returnedFields : List String
  relevanceFields : List String
  sortOptions : List SortOption
  /-- Where the default sort option stands. -/
  defaultIndex : Nat
  /-- The declared filters, then those of the facets that declared none. -/
  filters : List Filter
  /-- Every facet names the filter behind it. -/
  facets : List Facet

namespace Domain

/-- The default sort option. The index of a domain that was built is in range. -/
def defaultSort (d : Domain) : SortOption := d.sortOptions[d.defaultIndex]!

def sortOption? (d : Domain) (id : String) : Option SortOption :=
  d.sortOptions.find? fun option => option.id = id

def filter? (d : Domain) (identifier : String) : Option Filter :=
  d.filters.find? fun filter => filter.identifier = identifier

def facet? (d : Domain) (identifier : String) : Option Facet :=
  d.facets.find? fun facet => facet.identifier = identifier

end Domain

/-- The first item that occurred before. -/
def firstRepeated? [DecidableEq α] (seen : List α) : List α → Option α
  | [] => none
  | a :: rest => if a ∈ seen then some a else firstRepeated? (a :: seen) rest

theorem firstRepeated?_eq_none_iff [DecidableEq α] {seen items : List α} :
    firstRepeated? seen items = none ↔ items.Nodup ∧ ∀ a ∈ items, a ∉ seen := by
  induction items generalizing seen with
  | nil => simp [firstRepeated?]
  | cons a rest ih =>
    by_cases h : a ∈ seen
    · simp [firstRepeated?, h]
    · simp only [firstRepeated?, h, if_false, ih, List.nodup_cons, List.mem_cons, not_or]
      constructor
      · rintro ⟨hn, hr⟩
        refine ⟨⟨fun ha => (hr a ha).1 rfl, hn⟩, ?_⟩
        rintro b (rfl | hb)
        · exact h
        · exact (hr b hb).2
      · rintro ⟨⟨ha, hn⟩, hr⟩
        exact ⟨hn, fun b hb => ⟨fun e => ha (e ▸ hb), hr b (Or.inr hb)⟩⟩

namespace DomainDraft

/-- The sort options marked default, with their places. -/
def marked (d : DomainDraft) : List (SortOption × Nat) :=
  d.sortOptions.zipIdx.filter fun (option, _) => option.isDefault

/-- The place of the only sort option marked default. -/
def defaultIndex (d : DomainDraft) : Except SearchError Nat :=
  match d.marked with
  | [(_, place)] => .ok place
  | [] => .error (.missingDefaultSort d.index)
  | _ :: _ :: _ => .error (.multipleDefaultSorts d.index)

/-- Filters and facets share one space of identifiers. -/
def identifiers (d : DomainDraft) : List String :=
  d.filters.map Filter.identifier ++ d.facets.map Facet.identifier

/-- A facet is sound by itself, and the filter it names is declared. -/
def checkFacet (d : DomainDraft) (facet : Facet) : Except SearchError Unit := do
  facet.validate
  match facet.filter with
  | none => .ok ()
  | some filter =>
    if filter ∈ d.filters.map Filter.identifier then .ok ()
    else .error (.undeclaredFilter facet.identifier filter)

/-- The filters of the facets that declared none. -/
def implicitFilters (d : DomainDraft) : List Filter :=
  (d.facets.filter (·.filter.isNone)).map Facet.implicitFilter

/-- A facet without a filter is backed by the one under its own identifier. -/
def backed (facet : Facet) : Facet :=
  { facet with filter := some (facet.filter.getD facet.identifier) }

/-- Check the draft and freeze it. -/
def build (d : DomainDraft) : Except SearchError Domain := do
  if Text.trim d.index.toList = [] then
    throw (.invalidConfiguration "index name must not be empty")
  if let some field := firstRepeated? [] d.returnedFields then
    throw (.invalidConfiguration
      s!"returned field '{field}' listed twice in domain '{d.index}'")
  if let some id := firstRepeated? [] (d.sortOptions.map SortOption.id) then
    throw (.duplicateSortOption d.index id)
  let defaultIndex ← d.defaultIndex
  if let some identifier := firstRepeated? [] d.identifiers then
    throw (.duplicateIdentifier d.index identifier)
  d.facets.forM d.checkFacet
  return {
    index := d.index
    returnedFields := d.returnedFields
    relevanceFields := d.relevanceFields
    sortOptions := d.sortOptions
    defaultIndex := defaultIndex
    filters := d.filters ++ d.implicitFilters
    facets := d.facets.map backed
  }

end DomainDraft

end FacetSearch
