/-!
# Search errors

Everything that can go wrong while a domain is declared, a request is compiled or an engine is
asked. Each error belongs to one of three kinds, which decide where it surfaces.
-/

namespace FacetSearch

inductive ErrorKind where
  /-- The declared domains are malformed; nothing may be served. -/
  | configuration
  /-- A client sent a bad request. -/
  | validation
  /-- The engine failed, was silent or answered garbage. -/
  | engine
  deriving DecidableEq, Repr

inductive SearchError where
  | invalidConfiguration (reason : String)
  | duplicateIdentifier (index identifier : String)
  | missingDefaultSort (index : String)
  | multipleDefaultSorts (index : String)
  | duplicateSortOption (index id : String)
  | undeclaredFilter (facet filter : String)
  | duplicateTypeName (name first second : String)
  | unknownSort (id : String)
  | unknownFilter (identifier : String)
  | invalidFilterValue (identifier value reason : String)
  | invalidPage (reason : String)
  | engineUnavailable (reason : String)
  | engineFailed (status : Nat) (message : String)
  | engineTimeout (milliseconds : UInt64)
  | malformedResponse (what : String)
  deriving DecidableEq, Repr

namespace SearchError

def kind : SearchError → ErrorKind
  | invalidConfiguration _ | duplicateIdentifier _ _ | missingDefaultSort _
  | multipleDefaultSorts _ | duplicateSortOption _ _ | undeclaredFilter _ _
  | duplicateTypeName _ _ _ => .configuration
  | unknownSort _ | unknownFilter _ | invalidFilterValue _ _ _ | invalidPage _ => .validation
  | engineUnavailable _ | engineFailed _ _ | engineTimeout _ | malformedResponse _ => .engine

/-- The code that clients see: one per kind, and one of its own for a timeout. -/
def code : SearchError → String
  | engineTimeout _ => "ENGINE_TIMEOUT"
  | e => match e.kind with
    | .configuration => "CONFIGURATION_ERROR"
    | .validation => "VALIDATION_ERROR"
    | .engine => "ENGINE_ERROR"

def message : SearchError → String
  | invalidConfiguration reason => s!"Invalid configuration: {reason}"
  | duplicateIdentifier index identifier =>
    s!"Duplicate identifier '{identifier}' in domain '{index}'"
  | missingDefaultSort index => s!"Domain '{index}' declares no default sort option"
  | multipleDefaultSorts index => s!"Domain '{index}' declares more than one default sort option"
  | duplicateSortOption index id => s!"Duplicate sort option '{id}' in domain '{index}'"
  | undeclaredFilter facet filter => s!"Facet '{facet}' references undeclared filter '{filter}'"
  | duplicateTypeName name first second =>
    s!"Name '{name}' is claimed by both '{first}' and '{second}'"
  | unknownSort id => s!"Unknown sort option: {id}"
  | unknownFilter identifier => s!"Unknown filter: {identifier}"
  | invalidFilterValue identifier value reason =>
    s!"Invalid value '{value}' for filter '{identifier}': {reason}"
  | invalidPage reason => s!"Invalid page: {reason}"
  | engineUnavailable reason => s!"Search engine unavailable: {reason}"
  | engineFailed status message => s!"Search engine returned {status}: {message}"
  | engineTimeout milliseconds => s!"Search engine timed out after {milliseconds}ms"
  | malformedResponse what => s!"Malformed engine response: {what}"

end SearchError

end FacetSearch
