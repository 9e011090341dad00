import FacetSearch.Schema.Name
/-!
# The registry of names

Which domain holds which type name and which root field. The first to claim a name keeps it;
type names and root fields are claimed independently. The names of the shared types are held
from the start.
-/

namespace FacetSearch.Schema

/-- The types that all domains share. -/
def reservedTypes : List String :=
  ["Query", "JSON", "SearchSummary", "SortOption", "PageInfo", "FacetSet", "FacetOption",
   "AppliedFilter", "FilterInput", "PageInput"]

/-- Who holds the names of the shared types. -/
def sharedOwner : String := "<shared>"

/-- Held names with their owners, in the order of the claims. -/
structure Registry where
  types : List (String × String) := []
  queryFields : List (String × String) := []
  deriving DecidableEq, Repr

/-- Claim a name that is valid and not yet held. -/
def claim (held : List (String × String)) (name owner : String) :
    Except SearchError (List (String × String)) := do
  checkName name
  match held.lookup name with
  | some first => .error (.duplicateTypeName name first owner)
  | none => .ok (held ++ [(name, owner)])

namespace Registry

/-- The shared types are held already. -/
def initial : Registry := { types := reservedTypes.map fun name => (name, sharedOwner) }

def claimType (r : Registry) (name owner : String) : Except SearchError Registry := do
  return { r with types := ← claim r.types name owner }

def claimQueryField (r : Registry) (name owner : String) : Except SearchError Registry := do
  return { r with queryFields := ← claim r.queryFields name owner }

def owner? (r : Registry) (name : String) : Option String := r.types.lookup name

/-- The held type names, sorted. -/
def typeNames (r : Registry) : List String := (r.types.map Prod.fst).mergeSort fun a b => a ≤ b

end Registry

end FacetSearch.Schema
