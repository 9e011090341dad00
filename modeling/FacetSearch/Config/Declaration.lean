import FacetSearch.Json.Record
import FacetSearch.Schema.Registration
/-!
# Declarations in JSON

The JSON form of a domain declaration. Filters and facets are tagged with their type; members
that are left out have defaults, unknown members are ignored. How texts, truth values and orders
are read depends on where the declaration comes from, except inside of filters and facets.
-/

namespace FacetSearch.Config

open Json Schema

/-- How single values are read. -/
structure Leaves where
  text : Json → Option String
  flag : Json → Option Bool
  order : Json → Option SortOrder

def readOrder? : Json → Option SortOrder
  | .str "asc" => some .ascending
  | .str "desc" => some .descending
  | .obj [("asc", .null)] => some .ascending
  | .obj [("desc", .null)] => some .descending
  | _ => none

/-- Every value has the JSON type that it is declared with. -/
def Leaves.strict : Leaves := ⟨str?, bool?, readOrder?⟩

namespace Leaves

def readSortClause? (leaves : Leaves) (j : Json) : Option SortClause := do
  let r ← j.record? ["field", "order"]
  return ⟨← r.required "field" leaves.text, ← r.withDefault "order" leaves.order .descending⟩

def readSortOption? (leaves : Leaves) (j : Json) : Option SortOption := do
  let r ← j.record? ["id", "label", "default", "fields"]
  return {
    id := ← r.required "id" leaves.text
    label := ← r.required "label" leaves.text
    isDefault := ← r.withDefault "default" leaves.flag false
    clauses := ← r.required "fields" (list? leaves.readSortClause?)
  }

end Leaves

/-- The tag of an object under `type`, or of an array at its start, with the tagged value. -/
def tagged? : Json → Option (String × Json)
  | .obj members => do
    let tag ← (members.lookup "type").bind str?
    return (tag, .obj members)
  | .arr (.str tag :: items) => some (tag, .arr items)
  | _ => none

def readFilter? (j : Json) : Option Filter := do
  let (tag, j) ← tagged? j
  let range (kind : RangeKind) : Option Filter := do
    let r ← j.record? ["identifier", "field", "label", "exclude_own_filters"]
    return .range kind (← r.required "identifier" str?) (← r.required "field" str?)
      (← r.required "label" str?) (← r.withDefault "exclude_own_filters" bool? false)
  match tag with
  | "value_tag" =>
    let r ← j.record? ["field"]
    return .valueTag (← r.withDefault "field" str? defaultTagField)
  | "term" =>
    let r ← j.record? ["identifier", "field", "label", "multiple_select", "exclude_own_filters"]
    return .term (← r.required "identifier" str?) (← r.required "field" str?)
      (← r.required "label" str?) (← r.withDefault "multiple_select" bool? false)
      (← r.withDefault "exclude_own_filters" bool? false)
  | "numeric_range" => range .numeric
  | "date_range" => range .date
  | _ => none

def readDateBucket? (j : Json) : Option DateBucket := do
  let r ← j.record? ["label", "from", "to"]
  return ⟨← r.required "label" str?, ← r.optional "from" str?, ← r.optional "to" str?⟩

/-- The fields of a facet that are special to its type, in their order. -/
def facetFields? : String → Option (List String)
  | "refinement_select" => some ["multiple_select", "filter", "size"]
  | "range" => some ["interval", "min", "max", "filter"]
  | "date_range" => some ["ranges", "filter"]
  | _ => none

def readFacet? (j : Json) : Option Facet := do
  let (tag, j) ← tagged? j
  let r ← j.record? (["identifier", "field", "label"] ++ (← facetFields? tag))
  let (multiple, kind) : Bool × FacetKind ← match tag with
    | "refinement_select" =>
      pure (← r.withDefault "multiple_select" bool? false,
        FacetKind.refinement (← r.withDefault "size" uint64? defaultFacetSize))
    | "range" =>
      pure (false, FacetKind.histogram (← r.required "interval" float?)
        (← r.required "min" float?) (← r.required "max" float?))
    | _ => pure (false, FacetKind.dateRanges (← r.required "ranges" (list? readDateBucket?)))
  return {
    identifier := ← r.required "identifier" str?
    field := ← r.required "field" str?
    label := ← r.required "label" str?
    multipleSelect := multiple
    filter := ← r.optional "filter" str?
    kind := kind
  }

/-- The declaration that a JSON value holds. -/
def Leaves.readDeclaration? (leaves : Leaves) (j : Json) : Option Declaration := do
  let r ← j.record? ["type_name", "hit_type_name", "query_field", "index", "returned_fields",
    "relevance_fields", "sort_options", "filters", "facets"]
  return {
    names := {
      typeName := ← r.required "type_name" leaves.text
      hitTypeName := ← r.required "hit_type_name" leaves.text
      queryField? := ← r.optional "query_field" leaves.text
    }
    draft := {
      index := ← r.required "index" leaves.text
      returnedFields := ← r.withDefault "returned_fields" (list? leaves.text) []
      relevanceFields := ← r.withDefault "relevance_fields" (list? leaves.text) []
      sortOptions := ← r.withDefault "sort_options" (list? leaves.readSortOption?) []
      filters := ← r.withDefault "filters" (list? readFilter?) []
      facets := ← r.withDefault "facets" (list? readFacet?) []
    }
  }

/-! ## Writing declarations -/

def filterJson : Filter → Json
  | .valueTag field => .obj [("type", .str "value_tag"), ("field", .str field)]
  | .term identifier field label multipleSelect excludeOwn => .obj [
      ("type", .str "term"), ("identifier", .str identifier), ("field", .str field),
      ("label", .str label), ("multiple_select", .bool multipleSelect),
      ("exclude_own_filters", .bool excludeOwn)]
  | .range kind identifier field label excludeOwn => .obj [
      ("type", .str (match kind with
        | .numeric => "numeric_range"
        | .date => "date_range")),
      ("identifier", .str identifier), ("field", .str field), ("label", .str label),
      ("exclude_own_filters", .bool excludeOwn)]

def dateBucketJson (b : DateBucket) : Json := .obj [
  ("label", .str b.label), ("from", .ofOptionStr b.low), ("to", .ofOptionStr b.high)]

def facetJson (f : Facet) : Json :=
  let common : List (String × Json) := [
    ("identifier", .str f.identifier), ("field", .str f.field), ("label", .str f.label),
    ("filter", .ofOptionStr f.filter)]
  .obj (common ++ match f.kind with
    | .refinement size => [("type", .str "refinement_select"),
        ("multiple_select", .bool f.multipleSelect), ("size", .ofUInt64 size)]
    | .histogram interval min max => [("type", .str "range"),
        ("interval", .ofFloat interval), ("min", .ofFloat min), ("max", .ofFloat max)]
    | .dateRanges ranges => [("type", .str "date_range"),
        ("ranges", .arr (ranges.map dateBucketJson))])

def sortOptionJson (s : SortOption) : Json := .obj [
  ("id", .str s.id), ("label", .str s.label), ("default", .bool s.isDefault),
  ("fields", .arr (s.clauses.map fun c =>
    .obj [("field", .str c.field), ("order", .str c.order.name)]))]

/-- The JSON form of a declaration, with nothing left out. -/
def declarationJson (d : Declaration) : Json := .obj [
  ("type_name", .str d.names.typeName), ("hit_type_name", .str d.names.hitTypeName),
  ("query_field", .ofOptionStr d.names.queryField?), ("index", .str d.draft.index),
  ("returned_fields", .strings d.draft.returnedFields),
  ("relevance_fields", .strings d.draft.relevanceFields),
  ("sort_options", .arr (d.draft.sortOptions.map sortOptionJson)),
  ("filters", .arr (d.draft.filters.map filterJson)),
  ("facets", .arr (d.draft.facets.map facetJson))]

end FacetSearch.Config
