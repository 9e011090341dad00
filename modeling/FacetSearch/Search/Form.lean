import FacetSearch.Json.Record
import FacetSearch.Search.Results
/-!
# JSON forms

How requests and engine responses are written in JSON, and how results are shown.
-/

namespace FacetSearch

open Json

/-! ## Requests -/

def readPage? (j : Json) : Option PageWindow := do
  let r ← j.record? ["from", "size"]
  return ⟨← r.withDefault "from" uint64? 0, ← r.withDefault "size" uint64? 10⟩

/-- The values for one filter; a repeated value counts once. -/
def readSelection? (j : Json) : Option Selection := j.strings?.map OrderedSet.ofList

/-- An object as a map. -/
def readMap? (read : Json → Option α) : Json → Option (OrderedMap String α)
  | .obj members => do
    let entries ← members.mapM fun (key, value) => do return (key, ← read value)
    return .ofList entries
  | _ => none

def readRequest? (j : Json) : Option Request := do
  let r ← j.record? ["query", "filters", "sort_by", "page"]
  return {
    query := ← r.nullable "query" str?
    filters := ← r.withDefault "filters" (readMap? readSelection?) .empty
    sortBy := ← r.nullable "sort_by" str?
    page := ← r.withDefault "page" readPage? {}
  }

def Request.json (r : Request) : Json := .obj [
  ("query", .ofOptionStr r.query),
  ("filters", .obj (r.filters.entries.map fun (identifier, values) =>
    (identifier, .strings values.toList))),
  ("sort_by", .ofOptionStr r.sortBy),
  ("page", .obj [("from", .ofUInt64 r.page.start), ("size", .ofUInt64 r.page.size)])]

/-! ## Engine responses -/

def readBucketForm? (j : Json) : Option Bucket := do
  let r ← j.record? ["key", "count"]
  return ⟨← r.required "key" str?, ← r.required "count" uint64?⟩

def readHitForm? (j : Json) : Option EngineHit := do
  let r ← j.record? ["id", "score", "source"]
  return ⟨← r.required "id" str?, ← r.nullable "score" float?, ← r.required "source" some⟩

def readResponse? (j : Json) : Option EngineResponse := do
  let r ← j.record? ["total", "hits", "aggregations"]
  return {
    total := ← r.required "total" uint64?
    hits := ← r.required "hits" (list? readHitForm?)
    aggregations := ← r.required "aggregations" (readMap? (list? readBucketForm?))
  }

def Bucket.json (b : Bucket) : Json := .obj [("key", .str b.key), ("count", .ofUInt64 b.count)]

def scoreJson (score : Option Float) : Json := .ofOption .ofFloat score

def EngineHit.json (h : EngineHit) : Json :=
  .obj [("id", .str h.id), ("score", scoreJson h.score), ("source", h.source)]

def EngineResponse.json (r : EngineResponse) : Json := .obj [
  ("total", .ofUInt64 r.total),
  ("hits", .arr (r.hits.map EngineHit.json)),
  ("aggregations", .obj (r.aggregations.entries.map fun (name, buckets) =>
    (name, .arr (buckets.map Bucket.json))))]

/-! ## Results -/

def AppliedFilter.json (f : AppliedFilter) : Json := .obj [
  ("kind", .str f.kind), ("id", .str f.id), ("identifier", .str f.identifier),
  ("label", .str f.label), ("value", .str f.value), ("display", .str f.display)]

def PageInfo.json (p : PageInfo) : Json := .obj [
  ("from", .ofUInt64 p.start), ("size", .ofUInt64 p.size), ("total", .ofUInt64 p.total),
  ("total_pages", .ofUInt64 p.totalPages), ("page_number", .ofUInt64 p.pageNumber)]

def FacetOption.json (o : FacetOption) : Json := .obj [
  ("value", .str o.value), ("label", .str o.label), ("count", .ofUInt64 o.count),
  ("selected", .bool o.selected)]

def FacetResult.json (f : FacetResult) : Json := .obj [
  ("identifier", .str f.identifier), ("label", .str f.label), ("display", .str f.display),
  ("multiple_select", .bool f.multipleSelect), ("options", .arr (f.options.map FacetOption.json))]

def Hit.json (h : Hit) : Json :=
  .obj [("id", .str h.id), ("score", scoreJson h.score), ("fields", .object h.fields)]

def Results.json (r : Results) : Json := .obj [
  ("summary", .obj [
    ("total", .ofUInt64 r.total),
    ("query", .str r.query),
    ("sort_options", .arr (r.sortOptions.map fun (id, label) =>
      .obj [("id", .str id), ("label", .str label)]))]),
  ("hits", .arr (r.hits.map Hit.json)),
  ("page", r.page.json),
  ("facets", .arr (r.facets.map FacetResult.json)),
  ("applied_filters", .arr (r.appliedFilters.map AppliedFilter.json)),
  ("sorted_by", .str r.sortedBy)]

end FacetSearch
