import FacetSearch.Document.Reader
import FacetSearch.Json.Merge
import FacetSearch.Schema.Node
/-!
# Picks

What a selection asks for once fragments are expanded and skipped selections are left out: a
tree of fields, which cuts the answer out of a node. In a valid document a fragment stands only
where its type does, so its condition need not be looked at again.
-/

namespace FacetSearch.Document

open Schema (Node)

/-- A field to answer under a key, with the fields to answer of what it holds. -/
structure Pick where
  key : String
  name : String
  arguments : List (String × Value)
  picks : List Pick

/-! ## From selections -/

/-- The truth of the condition of a directive. Only variables that were provided count, and what
has no truth is false. -/
def truth (provided : List (String × Value)) (condition : Value) : Bool :=
  match condition.substitute fun name => provided.lookup name with
  | some (.bool b) => b
  | _ => false

/-- A directive keeps the selection that it stands at. -/
def Directive.keeps (provided : List (String × Value)) (d : Directive) : Bool :=
  match d.arguments.lookup "if" with
  | none => true
  | some condition =>
    if d.name = "skip" then !truth provided condition
    else if d.name = "include" then truth provided condition
    else true

mutual

def Selection.picks (d : Document) (provided : List (String × Value)) :
    Nat → Selection → List Pick
  | depth, .field key name arguments directives selections =>
    if directives.all (Directive.keeps provided) then
      [⟨key, name, arguments, picksOf d provided depth selections⟩]
    else []
  | 0, _ => []
  | depth + 1, .spread name directives =>
    match d.fragment? name, directives.all (Directive.keeps provided) with
    | some f, true => picksOf d provided depth f.selections
    | _, _ => []
  | depth + 1, .inline _ directives selections =>
    if directives.all (Directive.keeps provided) then picksOf d provided depth selections else []
  termination_by depth selection => (depth, sizeOf selection)

def picksOf (d : Document) (provided : List (String × Value)) : Nat → List Selection → List Pick
  | _, [] => []
  | depth, selection :: rest =>
    selection.picks d provided depth ++ picksOf d provided depth rest
  termination_by depth selections => (depth, sizeOf selections)

end

/-- The picks of an operation. -/
def Operation.picks (o : Operation) (d : Document) (provided : List (String × Value)) :
    List Pick :=
  picksOf d provided (maxNesting + 1) o.selections

/-! ## Answers -/

mutual

/-- The value of a node, given what its objects show. -/
def cut (members : String → List (String × Node) → Option (List (String × Json))) :
    Node → Option Json
  | .leaf value => some value
  | .list items => (cutItems members items).map .arr
  | .object type fields =>
    (members type fields).map fun shown => .obj (Json.mergeMembers [] shown)

def cutItems (members : String → List (String × Node) → Option (List (String × Json))) :
    List Node → Option (List Json)
  | [] => some []
  | item :: rest => do
    let item ← cut members item
    let rest ← cutItems members rest
    return item :: rest

end

mutual

/-- What a pick shows of an object. -/
def Pick.answer (type : String) (fields : List (String × Node)) : Pick → Option Json
  | ⟨_, name, _, picks⟩ =>
    if name = typenameField then some (.str type)
    else match fields.lookup name with
      | none => none
      | some node => cut (fun type fields => answers type fields picks) node

/-- The keys and values that picks show of an object. -/
def answers (type : String) (fields : List (String × Node)) :
    List Pick → Option (List (String × Json))
  | [] => some []
  | pick :: rest => do
    let value ← pick.answer type fields
    let rest ← answers type fields rest
    return (pick.key, value) :: rest

end

/-- The picked part of a node. -/
def select (picks : List Pick) (node : Node) : Option Json :=
  cut (fun type fields => answers type fields picks) node

end FacetSearch.Document
