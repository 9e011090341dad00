import FacetSearch.Document.Validity
import FacetSearch.Search.Request
/-!
# Arguments

The request that the arguments of a root field stand for. What is absent or null leaves the
default of the request.
-/

namespace FacetSearch

namespace Document

/-- Why a document has no answer. -/
inductive Problem where
  /-- The document cannot be read, does not fit the schema, or lacks a value that it needs. -/
  | document
  /-- A search failed. -/
  | search (error : SearchError)
  deriving DecidableEq, Repr

def Value.text : Value → Except Problem String
  | .str s => .ok s
  | _ => .error .document

def Value.items : Value → Except Problem (List Value)
  | .list items => .ok items
  | _ => .error .document

def Value.fields : Value → Except Problem (List (String × Value))
  | .object fields => .ok fields
  | _ => .error .document

/-- An argument or field that is there and not null. -/
def given? (fields : List (String × Value)) (name : String) : Option Value :=
  match fields.lookup name with
  | some .null => none
  | value => value

/-- The identifier and the value of a selected filter value. -/
def Value.filterPair (v : Value) : Except Problem (String × String) := do
  let fields ← v.fields
  let identifier ← ((fields.lookup "identifier").getD .null).text
  let value ← ((fields.lookup "value").getD .null).text
  return (identifier, value)

/-- A number of a page window: an integer of 64 bits that is not negative. -/
def pageNumber (name : String) (default : UInt64) : Option Value → Except Problem UInt64
  | none => .ok default
  | some (.int n) =>
    if !Json.isInt64 n then .error .document
    else if n < 0 then
      .error (.search (.invalidPage s!"page.{name} must not be negative, got {n}"))
    else .ok n.toNat.toUInt64
  | some _ => .error .document

def pageWindow : Option Value → Except Problem PageWindow
  | none => .ok {}
  | some page => do
    let fields ← page.fields
    let start ← pageNumber "from" ({} : PageWindow).start (given? fields "from")
    let size ← pageNumber "size" ({} : PageWindow).size (given? fields "size")
    return ⟨start, size⟩

/-- An optional text. -/
def optionalText : Option Value → Except Problem (Option String)
  | none => .ok none
  | some value => value.text.map some

/-- The selected filter values, in the order given. -/
def filterPairs : Option Value → Except Problem (List (String × String))
  | none => .ok []
  | some value => do (← value.items).mapM Value.filterPair

end Document

/-- Select values of filters one after the other. -/
def Request.selectAll (r : Request) (pairs : List (String × String)) : Request :=
  pairs.foldl (fun r (identifier, value) => r.select identifier value) r

namespace Document

/-- The request that arguments stand for. -/
def readArguments (arguments : List (String × Value)) : Except Problem Request := do
  let query ← optionalText (given? arguments "query")
  let pairs ← filterPairs (given? arguments "filters")
  let page ← pageWindow (given? arguments "page")
  let sortBy ← optionalText (given? arguments "sortBy")
  return ({ query, page, sortBy } : Request).selectAll pairs

end Document

end FacetSearch
