import FacetSearch.Json.Value
/-!
# Faults

What a client is told when a request is refused outside of a document, with its status.
-/

namespace FacetSearch.Http

inductive Fault where
  | notFound (reason : String)
  | validation (reason : String)
  | serialization (reason : String)
  deriving DecidableEq, Repr

namespace Fault

def status : Fault → Nat
  | notFound _ => 404
  | validation _ => 400
  | serialization _ => 500

def code : Fault → String
  | notFound _ => "NOT_FOUND"
  | validation _ => "VALIDATION_ERROR"
  | serialization _ => "SERIALIZATION_ERROR"

def message : Fault → String
  | notFound reason => s!"Not found: {reason}"
  | validation reason => s!"Validation error: {reason}"
  | serialization reason => s!"Serialization error: {reason}"

/-- The body of the response. -/
def json (f : Fault) : Json := .obj [("error", .obj [
  ("code", .str f.code), ("message", .str f.message), ("status", .ofNat f.status)])]

end Fault

end FacetSearch.Http
