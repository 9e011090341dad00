import FacetSearch.Json.Value
import FacetSearch.Search.Fragment
/-!
# The request body

A compiled query as the JSON body of a `_search` request. Empty lists and open ends are left
out; an aggregation under extra filters is wrapped in a filter aggregation of the same name.
-/

namespace FacetSearch

def Bound.json : Bound → Json
  | .number x => .ofFloat x
  | .date i => .str i.render

/-- The ends of a range that are not open. -/
def boundMembers (low high : Option Bound) : List (String × Json) :=
  (low.map fun b => ("gte", b.json)).toList ++ (high.map fun b => ("lt", b.json)).toList

/-- A list of clauses, left out when empty. -/
def clauseMember (occur : String) (clauses : List Json) : List (String × Json) :=
  if clauses.isEmpty then [] else [(occur, .arr clauses)]

namespace Fragment

mutual

def json : Fragment → Json
  | .matchAll => .obj [("match_all", .obj [])]
  | .multiMatch query fields =>
    .obj [("multi_match", .obj [("query", .str query), ("fields", .strings fields)])]
  | .term field value => .obj [("term", .obj [(field, .str value)])]
  | .range field low high => .obj [("range", .obj [(field, .obj (boundMembers low high))])]
  | .compound must filter should minimum =>
    .obj [("bool", .obj (
      clauseMember "must" (jsonList must) ++ clauseMember "filter" (jsonList filter) ++
      clauseMember "should" (jsonList should) ++
      (minimum.map fun n => ("minimum_should_match", Json.ofNat n)).toList))]

def jsonList : List Fragment → List Json
  | [] => []
  | f :: rest => f.json :: jsonList rest

end

theorem jsonList_eq_map (fragments : List Fragment) : jsonList fragments = fragments.map json := by
  induction fragments with
  | nil => simp [jsonList]
  | cons f rest ih => simp [jsonList, ih]

end Fragment

/-- The bounds of a date bucket that are not open, after its key. -/
def DateBucket.json (b : DateBucket) : Json :=
  .obj ([("key", .str b.label)] ++ (b.low.map fun low => ("from", Json.str low)).toList ++
    (b.high.map fun high => ("to", Json.str high)).toList)

def AggregationKind.json : AggregationKind → Json
  | .terms field size => .obj [("terms", .obj [("field", .str field), ("size", .ofUInt64 size)])]
  | .histogram field interval min max => .obj [("histogram", .obj [
      ("field", .str field),
      ("interval", .ofFloat interval),
      ("min_doc_count", .int 0),
      ("extended_bounds", .obj [("min", .ofFloat min), ("max", .ofFloat max)])])]
  | .dateRanges field ranges => .obj [("date_range", .obj [
      ("field", .str field), ("ranges", .arr (ranges.map DateBucket.json))])]

def Aggregation.json (a : Aggregation) : Json :=
  if a.filters.isEmpty then a.kind.json
  else .obj [
    ("filter", (Fragment.allOf a.filters).json),
    ("aggs", .obj [(a.name, a.kind.json)])]

def SortClause.json (c : SortClause) : Json :=
  .obj [(c.field, .obj [("order", .str c.order.name)])]

/-- The body of the `_search` request. -/
def CompiledQuery.body (q : CompiledQuery) : Json :=
  let postFilter := (q.postFilter.map fun f => ("post_filter", f.json)).toList
  let aggregations :=
    if q.aggregations.isEmpty then []
    else [("aggs", Json.object (q.aggregations.map fun a => (a.name, a.json)))]
  .obj ([("query", q.query.json)] ++ postFilter ++ aggregations ++ [
    ("sort", .arr (q.sort.map SortClause.json)),
    ("from", .ofUInt64 q.start),
    ("size", .ofUInt64 q.size),
    ("_source", .strings q.source),
    ("track_total_hits", .bool true)])

end FacetSearch
