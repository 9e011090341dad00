import FacetSearch.Ordered
import FacetSearch.Text.Blank
/-!
# Search requests

What a client asks of a domain: a free-text term, the values selected for each filter, an
ordering and a page. Selections keep the order of the request, and a repeated value counts once.
-/

namespace FacetSearch

/-- The hits to return: `size` of them, after the first `start`. -/
structure PageWindow where
  start : UInt64 := 0
  size : UInt64 := 10
  deriving DecidableEq, Repr

abbrev Selection := OrderedSet String

structure Request where
  query : Option String := none
  /-- The selected values, by filter identifier. -/
  filters : OrderedMap String Selection := .empty
  /-- The id of a sort option; the default of the domain when absent. -/
  sortBy : Option String := none
  page : PageWindow := {}

namespace Request

def withQuery (r : Request) (query : String) : Request := { r with query := some query }

def withSort (r : Request) (id : String) : Request := { r with sortBy := some id }

def withPage (r : Request) (start size : UInt64) : Request := { r with page := ⟨start, size⟩ }

/-- Add one value to the selection of a filter. -/
def select (r : Request) (identifier value : String) : Request :=
  let values := (r.filters.get? identifier).getD .empty
  { r with filters := r.filters.insert identifier (values.insert value) }

/-- Empty the selection of a filter; its identifier keeps its place. -/
def clear (r : Request) (identifier : String) : Request :=
  { r with filters := r.filters.insert identifier .empty }

/-- The selection of a filter, unless it is empty. -/
def selection (r : Request) (identifier : String) : Option Selection :=
  (r.filters.get? identifier).filter fun values => !values.isEmpty

/-- The free text without surrounding blanks, unless it is blank. -/
def term (r : Request) : Option String :=
  (r.query.map fun query => String.ofList (Text.trim query.toList)).filter (· ≠ "")

end Request

end FacetSearch
