import FacetSearch.Search.Results
import FacetSearch.Schema.Types
/-!
# Results in the schema

The results of a search as a tree of the types of the schema: every object knows its type and
holds all fields of that type.
-/

namespace FacetSearch.Schema

inductive Node where
  | leaf (value : Json)
  | list (items : List Node)
  | object (type : String) (fields : List (String × Node))

namespace Node

def text (s : String) : Node := .leaf (.str s)

def count (n : UInt64) : Node := .leaf (.ofUInt64 n)

def flag (b : Bool) : Node := .leaf (.bool b)

def ofSortOption (option : String × String) : Node :=
  .object "SortOption" [("id", text option.1), ("label", text option.2)]

def ofSummary (r : Results) : Node := .object "SearchSummary" [
  ("total", count r.total), ("query", text r.query),
  ("sortOptions", .list (r.sortOptions.map ofSortOption))]

def ofPage (p : PageInfo) : Node := .object "PageInfo" [
  ("from", count p.start), ("size", count p.size), ("total", count p.total),
  ("totalPages", count p.totalPages), ("pageNumber", count p.pageNumber)]

def ofOption (o : FacetOption) : Node := .object "FacetOption" [
  ("value", text o.value), ("label", text o.label), ("count", count o.count),
  ("selected", flag o.selected)]

def ofFacet (f : FacetResult) : Node := .object "FacetSet" [
  ("identifier", text f.identifier), ("label", text f.label), ("display", text f.display),
  ("multipleSelect", flag f.multipleSelect), ("options", .list (f.options.map ofOption))]

def ofAppliedFilter (f : AppliedFilter) : Node := .object "AppliedFilter" [
  ("type", text f.kind), ("id", text f.id), ("identifier", text f.identifier),
  ("label", text f.label), ("value", text f.value), ("display", text f.display)]

/-- The fields of a hit, each under the name of the returned field that it shows. -/
def ofHitFields (r : Registration) (hit : Hit) : Node :=
  .object r.names.hitFields (r.domain.returnedFields.map fun field =>
    (fieldName field, .leaf ((hit.fields.lookup field).getD .null)))

def ofHit (r : Registration) (hit : Hit) : Node :=
  .object r.names.hitTypeName ([
    ("id", text hit.id), ("score", .leaf (.ofOption .ofFloat hit.score))] ++
    if r.showsFields then [("fields", ofHitFields r hit)] else [])

/-- The results of a search of a registered domain. -/
def ofResults (r : Registration) (results : Results) : Node :=
  .object r.names.typeName [
    ("summary", ofSummary results),
    ("hits", .object r.names.hitResults [
      ("items", .list (results.hits.map (ofHit r))), ("page", ofPage results.page)]),
    ("facets", .list (results.facets.map ofFacet)),
    ("appliedFilters", .list (results.appliedFilters.map ofAppliedFilter)),
    ("sortedBy", text results.sortedBy)]

end Node

end FacetSearch.Schema
