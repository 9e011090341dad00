import FacetSearch.Search.Domain
/-!
# Compiling requests

The engine query for a request against a domain. Filters without a selection contribute nothing.
The fragment of a filter that leaves its own selection out of facet counts restricts hits after
counting, and restricts each facet that it does not back itself.
-/

namespace FacetSearch

namespace Domain

/-- Between 1 and 100 hits on a page. -/
def checkPage (page : PageWindow) : Except SearchError Unit :=
  if 1 ≤ page.size ∧ page.size ≤ 100 then .ok ()
  else .error (.invalidPage "size: Validation error: range")

/-- The first identifier of the request that names no filter. -/
def checkIdentifiers (d : Domain) (r : Request) : Except SearchError Unit :=
  match r.filters.keys.find? fun identifier => (d.filter? identifier).isNone with
  | some unknown => .error (.unknownFilter unknown)
  | none => .ok ()

/-- Free text in the relevance fields, when there are both; else every document. -/
def relevance (d : Domain) (r : Request) : Fragment :=
  match r.term with
  | some term => if d.relevanceFields.isEmpty then .matchAll else .multiMatch term d.relevanceFields
  | none => .matchAll

/-- The fragment of a filter for its selection, if any. -/
def fragment (r : Request) (filter : Filter) : Except SearchError (Option Fragment) :=
  match r.selection filter.identifier with
  | none => .ok none
  | some values => filter.compile values

/-- The filters with a fragment, in domain order. -/
def activeFilters (d : Domain) (r : Request) : Except SearchError (List (Filter × Fragment)) := do
  let fragments ← d.filters.mapM fun filter => do
    return (filter, ← fragment r filter)
  return fragments.filterMap fun (filter, fragment) => fragment.map fun f => (filter, f)

/-- The sort option asked for, or the default one. -/
def ordering (d : Domain) (r : Request) : Except SearchError SortOption :=
  match r.sortBy with
  | none => .ok d.defaultSort
  | some id =>
    match d.sortOption? id with
    | some option => .ok option
    | none => .error (.unknownSort id)

/-- The aggregation of a facet, under the active filters that exclude their own selection and do
not back the facet. -/
def aggregation (excluding : List (Filter × Fragment)) (facet : Facet) : Aggregation :=
  facet.aggregation ((excluding.filter fun (filter, _) =>
    facet.filter ≠ some filter.identifier).map Prod.snd)

/-- The query for a request: the page is checked first, then the identifiers, the values and
the ordering. -/
def compile (d : Domain) (r : Request) : Except SearchError CompiledQuery := do
  checkPage r.page
  d.checkIdentifiers r
  let active ← d.activeFilters r
  let excluding := active.filter fun (filter, _) => filter.excludesOwn
  let including := active.filter fun (filter, _) => !filter.excludesOwn
  let sort ← d.ordering r
  return {
    index := d.index
    relevance := d.relevance r
    filters := including.map Prod.snd
    postFilters := excluding.map Prod.snd
    aggregations := d.facets.map (aggregation excluding)
    sortId := sort.id
    sort := sort.clauses
    start := r.page.start
    size := r.page.size
    source := d.returnedFields
  }

end Domain

end FacetSearch
