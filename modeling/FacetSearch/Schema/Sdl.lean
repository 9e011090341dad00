import FacetSearch.Schema.Compose
/-!
# Schema definition texts

A schema written in the schema definition language: all types by name, then the root. A built-in
scalar has no definition and leaves an empty line.
-/

namespace FacetSearch.Schema

/-- A text in front of an item; lines after the first are indented like the item. -/
def describe (indent : String) : Option String → String
  | none => ""
  | some text =>
    let text := String.ofList (text.toList.flatMap fun c =>
      if c = '\n' then '\n' :: indent.toList else [c])
    indent ++ "\"\"\"\n" ++ indent ++ text ++ "\n" ++ indent ++ "\"\"\"\n"

def Argument.sdl (a : Argument) : String := a.name ++ ": " ++ a.type.text

def Field.sdl (f : Field) : String :=
  let arguments :=
    if f.arguments.isEmpty then ""
    else "(" ++ ", ".intercalate (f.arguments.map Argument.sdl) ++ ")"
  describe "\t" f.description ++ "\t" ++ f.name ++ arguments ++ ": " ++ f.type.text ++ "\n"

def TypeDefinition.sdl (t : TypeDefinition) : String :=
  let block (word : String) (lines : List String) : String :=
    word ++ " " ++ t.name ++ " \x7b\n" ++ String.join lines ++ "\x7d\n"
  match t.shape with
  | .object fields => describe "" t.description ++ block "type" (fields.map Field.sdl)
  | .input fields =>
    describe "" t.description ++ block "input" (fields.map fun a => "\t" ++ a.sdl ++ "\n")
  | .scalar =>
    if t.name ∈ builtinScalars then ""
    else describe "" t.description ++ "scalar " ++ t.name ++ "\n"

/-- The definition of the whole schema. -/
def Composed.sdl (s : Composed) : String :=
  let names := (builtinScalars ++ s.types.map TypeDefinition.name).eraseDups.mergeSort
    fun a b => a ≤ b
  let definitions := names.filterMap fun name => (s.type? name).map fun t => t.sdl ++ "\n"
  String.join definitions ++ "schema \x7b\n\tquery: " ++ queryType ++ "\n\x7d\n"

end FacetSearch.Schema
