import FacetSearch.Search.Compile
import FacetSearch.Search.Engine
import FacetSearch.Search.Page
import FacetSearch.Search.Projection
/-!
# Results

An engine response rendered for a client: hits restricted to the returned fields, one option
list per facet with its selected options marked, and the applied filters. Results are complete
or an error.
-/

namespace FacetSearch

/-- A hit with the returned fields of its document, in declared order. -/
structure Hit where
  id : String
  score : Option Float
  fields : List (String × Json)

structure FacetResult where
  identifier : String
  label : String
  display : String
  multipleSelect : Bool
  options : List FacetOption

structure Results where
  total : UInt64
  /-- The free text without surrounding blanks. -/
  query : String
  /-- Id and label of every sort option. -/
  sortOptions : List (String × String)
  hits : List Hit
  page : PageInfo
  facets : List FacetResult
  appliedFilters : List AppliedFilter
  /-- The id of the sort option applied. -/
  sortedBy : String

namespace Domain

/-- The values that the query honoured for the filter behind a facet. -/
def selectedValues (d : Domain) (r : Request) (facet : Facet) : List String :=
  (do
    let identifier ← facet.filter
    let filter ← d.filter? identifier
    let values ← r.selection identifier
    return filter.effectiveValues values).getD []

def facetResult (d : Domain) (r : Request) (response : EngineResponse) (facet : Facet) :
    Except SearchError FacetResult := do
  match response.aggregations.get? facet.identifier with
  | none => .error (.malformedResponse s!"missing aggregation for facet '{facet.identifier}'")
  | some buckets =>
    let options ← facet.options buckets (d.selectedValues r facet)
    return ⟨facet.identifier, facet.label, facet.display, facet.multipleSelect, options⟩

/-- The honoured values of all filters, in request order. -/
def appliedFilters (d : Domain) (r : Request) : List AppliedFilter :=
  r.filters.entries.flatMap fun (identifier, values) =>
    match d.filter? identifier with
    | some filter => filter.describe values
    | none => []

/-- The results for a request whose compiled query the engine answered. -/
def decompile (d : Domain) (r : Request) (q : CompiledQuery) (response : EngineResponse) :
    Except SearchError Results := do
  let facets ← d.facets.mapM (d.facetResult r response)
  return {
    total := response.total
    query := r.term.getD ""
    sortOptions := d.sortOptions.map fun option => (option.id, option.label)
    hits := response.hits.map fun hit => ⟨hit.id, hit.score, hit.source.project d.returnedFields⟩
    page := .of q.start q.size response.total
    facets := facets
    appliedFilters := d.appliedFilters r
    sortedBy := q.sortId
  }

end Domain

end FacetSearch
