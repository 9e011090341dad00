import FacetSearch.Calendar.Instant
/-!
# Query fragments

The boolean query tree handed to the engine. Atoms match a document or not; a compound clause
asks for all of its `must` and `filter` parts and for a number of its `should` parts.
-/

namespace FacetSearch

/-- One end of a range. -/
inductive Bound where
  | number (value : Float)
  | date (value : Calendar.Instant)

inductive Fragment where
  /-- Every document. -/
  | matchAll
  /-- Free text in any of several fields. -/
  | multiMatch (query : String) (fields : List String)
  /-- A field that holds exactly a value. -/
  | term (field value : String)
  /-- A half-open range of a field; a missing end is open. -/
  | range (field : String) (low high : Option Bound)
  /-- Scored requirements, unscored requirements and alternatives. -/
  | compound (must filter should : List Fragment) (minimumShouldMatch : Option Nat)

namespace Fragment

/-- Clauses as alternatives: none for no clause, a single clause as it is. -/
def anyOf : List Fragment → Option Fragment
  | [] => none
  | [clause] => some clause
  | clauses => some (.compound [] [] clauses (some 1))

/-- Clauses as unscored requirements. -/
def allOf (clauses : List Fragment) : Fragment := .compound [] clauses [] none

@[simp] theorem anyOf_nil : anyOf [] = none := rfl
@[simp] theorem anyOf_singleton (c : Fragment) : anyOf [c] = some c := rfl
@[simp] theorem anyOf_cons_cons (c d : Fragment) (rest : List Fragment) :
    anyOf (c :: d :: rest) = some (.compound [] [] (c :: d :: rest) (some 1)) := rfl

theorem anyOf_eq_none_iff {clauses : List Fragment} : anyOf clauses = none ↔ clauses = [] := by
  cases clauses with
  | nil => simp
  | cons c rest => cases rest <;> simp

end Fragment

/-! ## Sorting -/

inductive SortOrder where
  | ascending | descending
  deriving DecidableEq, Repr

def SortOrder.name : SortOrder → String
  | .ascending => "asc"
  | .descending => "desc"

structure SortClause where
  field : String
  order : SortOrder
  deriving DecidableEq, Repr

/-! ## Aggregations -/

/-- A named range of dates; a missing end is open. -/
structure DateBucket where
  label : String
  low : Option String
  high : Option String
  deriving DecidableEq, Repr

inductive AggregationKind where
  | terms (field : String) (size : UInt64)
  | histogram (field : String) (interval min max : Float)
  | dateRanges (field : String) (ranges : List DateBucket)

/-- Counts asked for under a name, over the documents that also satisfy `filters`. -/
structure Aggregation where
  name : String
  kind : AggregationKind
  filters : List Fragment

/-! ## The query for one request -/

structure CompiledQuery where
  index : String
  /-- The scored clause. -/
  relevance : Fragment
  /-- What restricts both hits and aggregations. -/
  filters : List Fragment
  /-- What restricts hits only. -/
  postFilters : List Fragment
  aggregations : List Aggregation
  sortId : String
  sort : List SortClause
  start : UInt64
  size : UInt64
  /-- The document fields to return. -/
  source : List String

namespace CompiledQuery

/-- Relevance under `must`, filters under `filter`. -/
def query (q : CompiledQuery) : Fragment := .compound [q.relevance] q.filters [] none

def postFilter (q : CompiledQuery) : Option Fragment :=
  if q.postFilters.isEmpty then none else some (.allOf q.postFilters)

end CompiledQuery

end FacetSearch
