import FacetSearch.Json.Value
import FacetSearch.Text.Blank
/-!
# Projection

The returned fields of a stored document. A dotted path is looked up as a literal key first;
otherwise its first segment is followed, and an array is mapped element by element.
-/

namespace FacetSearch.Json

/-- The value at a dotted path, if there is one. -/
def lookupPath? (document : Json) (path : List Char) : Option Json :=
  match document.get? (String.ofList path) with
  | some value => some value
  | none =>
    match h : Text.cut? ['.'] path with
    | none => none
    | some (head, rest) =>
      have : rest.length < path.length := Text.length_lt_of_cut? (by simp) h
      match document.get? (String.ofList head) with
      | none => none
      | some (.arr items) => some (.arr (items.filterMap fun item => lookupPath? item rest))
      | some nested => lookupPath? nested rest
  termination_by path.length

/-- The given fields of a document, null for one that it lacks. -/
def project (document : Json) (fields : List String) : List (String × Json) :=
  fields.map fun field => (field, (lookupPath? document field.toList).getD .null)

end FacetSearch.Json
