import FacetSearch.Search.Error
import FacetSearch.Text.Lowercase
/-!
# Schema names

A name of the schema consists of ASCII letters, digits and underscores, does not begin with a
digit and not with two underscores, which are kept for introspection.
-/

namespace FacetSearch.Schema

def isNameStart (c : Char) : Bool := c.isAlpha || c = '_'

def isNameChar (c : Char) : Bool := c.isAlphanum || c = '_'

/-- The names that a domain may claim. -/
def isName (name : String) : Bool :=
  match name.toList with
  | '_' :: '_' :: _ => false
  | c :: rest => isNameStart c && rest.all isNameChar
  | [] => false

def checkName (name : String) : Except SearchError Unit :=
  if isName name then .ok ()
  else .error (.invalidConfiguration s!"'{name}' is not a valid GraphQL name")

/-- `ResultSet` becomes `resultSet`. -/
def lowerCamel (name : String) : String := String.ofList (Text.lowerFirst name.toList)

/-- A document field as a field name: other characters become underscores, and an underscore
goes before a digit at the start. -/
def fieldName (field : String) : String :=
  let chars := field.toList.map fun c => if isNameChar c then c else '_'
  match chars with
  | [] => "_"
  | c :: _ => String.ofList (if c.isDigit then '_' :: chars else chars)

end FacetSearch.Schema
