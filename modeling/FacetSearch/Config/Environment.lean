import FacetSearch.Config.Setting
import FacetSearch.Decimal.Numeral
import FacetSearch.Json.Value
/-!
# Settings in the environment

Environment variables with the prefix of the program are settings. Two underscores separate the
names on the way to a setting, and case does not matter. A value is a truth value, an integer, a
double or, if it is none of these, a text.
-/

namespace FacetSearch.Config

/-- What the names of the variables begin with. -/
def environmentStart : String := "facet_gateway__"

/-- Every pair of underscores is written as a point. -/
def dotted : List Char → List Char
  | '_' :: '_' :: rest => '.' :: dotted rest
  | c :: rest => c :: dotted rest
  | [] => []

/-- The key of a setting that a variable holds. -/
def variableKey? (name : String) : Option String :=
  let name := (lowercase name).toList
  if environmentStart.toList.isPrefixOf name then
    some (String.ofList (dotted (name.drop environmentStart.length)))
  else none

/-- An integer of 64 bits, with any sign in front. -/
def int64? (s : List Char) : Option Int :=
  let (negative, digits) := Decimal.splitSign s
  match Decimal.allDigits? digits with
  | some n =>
    let n : Int := if negative then -(n : Int) else n
    if Json.isInt64 n then some n else none
  | none => none

/-- The setting that a value spells. -/
def variableValue (value : String) : Setting :=
  if lowercase value = "true" then .bool true
  else if lowercase value = "false" then .bool false
  else match int64? value.toList with
    | some n => .int n
    | none => match Decimal.readDouble value.toList with
      | .ok x => .float x
      | .error _ => .text value

/-- The settings in an environment. -/
def environmentSettings (environment : List (String × String)) : Members :=
  environment.filterMap fun (name, value) =>
    (variableKey? name).map fun key => (key, variableValue value)

end FacetSearch.Config
