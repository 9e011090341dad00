import FacetSearch.Schema.Registration
/-!
# Types of the schema

The types that clients see. Some are shared by all domains; every domain adds a result type, a
type for its page of hits, a hit type and, if it returns document fields, a type with one field
for each of them.
-/

namespace FacetSearch.Schema

/-- How a field or an argument refers to a type. -/
inductive TypeRef where
  | named (name : String)
  | list (element : TypeRef)
  | nonNull (type : TypeRef)
  deriving DecidableEq, Repr

namespace TypeRef

/-- The type without lists and null markers. -/
def base : TypeRef → String
  | named name => name
  | list element => element.base
  | nonNull type => type.base

def text : TypeRef → String
  | named name => name
  | list element => "[" ++ element.text ++ "]"
  | nonNull type => type.text ++ "!"

end TypeRef

/-- An argument of a field, or a field of an input object. -/
structure Argument where
  name : String
  type : TypeRef
  deriving DecidableEq, Repr

structure Field where
  name : String
  type : TypeRef
  arguments : List Argument := []
  description : Option String := none
  deriving DecidableEq, Repr

inductive Shape where
  | object (fields : List Field)
  | input (fields : List Argument)
  | scalar
  deriving DecidableEq, Repr

structure TypeDefinition where
  name : String
  shape : Shape
  description : Option String := none
  deriving DecidableEq, Repr

/-- A field that is never null. -/
def required (name type : String) : Field := { name, type := .nonNull (.named type) }

/-- A field with a list in which nothing is null. -/
def listed (name element : String) : Field :=
  { name, type := .nonNull (.list (.nonNull (.named element))) }

/-! ## Shared types -/

/-- The scalars that every schema has. -/
def builtinScalars : List String := ["Boolean", "Float", "ID", "Int", "String"]

def queryType : String := "Query"

/-- The types that all domains share, the query type apart. -/
def sharedTypes : List TypeDefinition := [
  { name := "JSON", shape := .scalar
    description := some "Arbitrary JSON value of a returned document field" },
  { name := "SearchSummary", shape := .object [
      required "total" "Int", required "query" "String", listed "sortOptions" "SortOption"] },
  { name := "SortOption", shape := .object [required "id" "String", required "label" "String"] },
  { name := "PageInfo", shape := .object [
      required "from" "Int", required "size" "Int", required "total" "Int",
      required "totalPages" "Int", required "pageNumber" "Int"] },
  { name := "FacetSet", shape := .object [
      required "identifier" "String", required "label" "String", required "display" "String",
      required "multipleSelect" "Boolean", listed "options" "FacetOption"] },
  { name := "FacetOption", shape := .object [
      required "value" "String", required "label" "String", required "count" "Int",
      required "selected" "Boolean"] },
  { name := "AppliedFilter", shape := .object [
      required "type" "String", required "id" "ID", required "identifier" "String",
      required "label" "String", required "value" "String", required "display" "String"] },
  { name := "FilterInput", description := some "One selected value of a filter"
    shape := .input [
      ⟨"identifier", .nonNull (.named "String")⟩, ⟨"value", .nonNull (.named "String")⟩] },
  { name := "PageInput", description := some "Pagination window"
    shape := .input [⟨"from", .named "Int"⟩, ⟨"size", .named "Int"⟩] }]

/-! ## Types of a domain -/

/-- The arguments of every root field. -/
def rootArguments : List Argument := [
  ⟨"query", .named "String"⟩,
  ⟨"filters", .list (.nonNull (.named "FilterInput"))⟩,
  ⟨"page", .named "PageInput"⟩,
  ⟨"sortBy", .named "String"⟩]

namespace Registration

/-- The field under which the query type serves a domain. -/
def rootField (r : Registration) : Field where
  name := r.names.queryField
  type := .nonNull (.named r.names.typeName)
  arguments := rootArguments
  description := some s!"Search the {r.domain.index} index"

def resultType (r : Registration) : TypeDefinition where
  name := r.names.typeName
  description := some s!"Search results from the {r.domain.index} index"
  shape := .object [
    required "summary" "SearchSummary", required "hits" r.names.hitResults,
    listed "facets" "FacetSet", listed "appliedFilters" "AppliedFilter",
    required "sortedBy" "String"]

def hitResultsType (r : Registration) : TypeDefinition where
  name := r.names.hitResults
  shape := .object [listed "items" r.names.hitTypeName, required "page" "PageInfo"]

/-- Whether hits of the domain show fields of their documents. -/
def showsFields (r : Registration) : Bool := !r.domain.returnedFields.isEmpty

def hitType (r : Registration) : TypeDefinition where
  name := r.names.hitTypeName
  shape := .object ([required "id" "ID", { name := "score", type := .named "Float" }] ++
    if r.showsFields then [required "fields" r.names.hitFields] else [])

/-- The names of the returned fields, in declared order. -/
def fieldNames (r : Registration) : List String := r.domain.returnedFields.map fieldName

def hitFieldsType (r : Registration) : TypeDefinition where
  name := r.names.hitFields
  shape := .object (r.fieldNames.map fun name => { name, type := .named "JSON" })

/-- The types that a domain adds to the schema. -/
def types (r : Registration) : List TypeDefinition :=
  [r.resultType, r.hitResultsType, r.hitType] ++ if r.showsFields then [r.hitFieldsType] else []

end Registration

end FacetSearch.Schema
