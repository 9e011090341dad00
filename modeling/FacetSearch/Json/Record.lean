import FacetSearch.Json.Value
/-!
# Records

A record with named fields is written as an object, or as the array of its fields in their
order, in which fields at the end may be missing. Other members of the object are ignored.
-/

namespace FacetSearch.Json

structure Record where
  field? : String → Option Json
  /-- Written as an array. -/
  positional : Bool

def record? (names : List String) : Json → Option Record
  | .obj members => some ⟨fun name => members.lookup name, false⟩
  | .arr items =>
    if items.length ≤ names.length then some ⟨fun name => (names.zip items).lookup name, true⟩
    else none
  | _ => none

namespace Record

/-- A field that must be there. -/
def required (r : Record) (name : String) (read : Json → Option α) : Option α :=
  (r.field? name).bind read

/-- A field with a default. -/
def withDefault (r : Record) (name : String) (read : Json → Option α) (default : α) : Option α :=
  match r.field? name with
  | some value => read value
  | none => some default

/-- A field that may be null, or missing from an object. -/
def nullable (r : Record) (name : String) (read : Json → Option α) : Option (Option α) :=
  match r.field? name with
  | some value => optional? read value
  | none => if r.positional then none else some none

/-- A field that may be null or missing. -/
def optional (r : Record) (name : String) (read : Json → Option α) : Option (Option α) :=
  r.withDefault name (optional? read) none

end Record

end FacetSearch.Json
