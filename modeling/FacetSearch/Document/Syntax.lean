import FacetSearch.Json.Value
import FacetSearch.Schema.Types
/-!
# Documents

What a client sends: operations that select fields of the schema, and fragments that they share.
Values may mention variables, whose values come along with the document.
-/

namespace FacetSearch

namespace Document

open Schema (TypeRef)

inductive Value where
  /-- A variable. -/
  | reference (name : String)
  | null
  | bool (value : Bool)
  | int (value : Int)
  | float (value : Float)
  | str (value : String)
  /-- A bare name. -/
  | word (name : String)
  | list (items : List Value)
  | object (fields : List (String × Value))
  deriving Inhabited

structure Directive where
  name : String
  arguments : List (String × Value)

inductive Selection where
  /-- A field; it is answered under its key, which is the name unless another one is given. -/
  | field (key name : String) (arguments : List (String × Value)) (directives : List Directive)
      (selections : List Selection)
  /-- The selections of a fragment. -/
  | spread (fragment : String) (directives : List Directive)
  /-- Selections that may be meant for one type only. -/
  | inline (condition : Option String) (directives : List Directive) (selections : List Selection)

inductive OperationKind where
  | query | mutation | subscription
  deriving DecidableEq, Repr

structure VariableDefinition where
  name : String
  type : TypeRef
  default : Option Value

structure Operation where
  kind : OperationKind
  name : Option String
  parameters : List VariableDefinition
  directives : List Directive
  selections : List Selection

/-- Selections with a name, for one type. -/
structure FragmentDefinition where
  name : String
  condition : String
  directives : List Directive
  selections : List Selection

end Document

structure Document where
  operations : List Document.Operation
  fragments : List Document.FragmentDefinition

namespace Document

def fragment? (d : Document) (name : String) : Option FragmentDefinition :=
  d.fragments.find? fun f => f.name = name

/-- The field that names the type of an object. -/
def typenameField : String := "__typename"

/-! ## Values -/

namespace Value

mutual

def ofJson : Json → Value
  | .null => .null
  | .bool b => .bool b
  | .int n => .int n
  | .float x => .float x
  | .str s => .str s
  | .arr items => .list (ofItems items)
  | .obj members => .object (ofMembers members)

def ofItems : List Json → List Value
  | [] => []
  | item :: rest => ofJson item :: ofItems rest

def ofMembers : List (String × Json) → List (String × Value)
  | [] => []
  | (key, value) :: rest => (key, ofJson value) :: ofMembers rest

end

mutual

/-- The value with every variable replaced; nothing when one of them has no value. -/
def substitute (lookup : String → Option Value) : Value → Option Value
  | .reference name => lookup name
  | .list items => (substituteItems lookup items).map .list
  | .object fields => (substituteFields lookup fields).map .object
  | .null => some .null
  | .bool b => some (.bool b)
  | .int n => some (.int n)
  | .float x => some (.float x)
  | .str s => some (.str s)
  | .word name => some (.word name)

def substituteItems (lookup : String → Option Value) : List Value → Option (List Value)
  | [] => some []
  | item :: rest => do
    let item ← substitute lookup item
    let rest ← substituteItems lookup rest
    return item :: rest

def substituteFields (lookup : String → Option Value) :
    List (String × Value) → Option (List (String × Value))
  | [] => some []
  | (key, value) :: rest => do
    let value ← substitute lookup value
    let rest ← substituteFields lookup rest
    return (key, value) :: rest

end

mutual

/-- Two values are the same; the order of the fields of an object does not matter. -/
def same : Value → Value → Bool
  | .reference a, .reference b => a = b
  | .null, .null => true
  | .bool a, .bool b => a = b
  | .int a, .int b => a = b
  | .float a, .float b => a == b
  | .str a, .str b => a = b
  | .word a, .word b => a = b
  | .list a, .list b => sameItems a b
  | .object a, .object b => a.length = b.length && sameFields a b
  | _, _ => false

def sameItems : List Value → List Value → Bool
  | [], [] => true
  | a :: as, b :: bs => same a b && sameItems as bs
  | _, _ => false

/-- Every field occurs among the others with the same value. -/
def sameFields : List (String × Value) → List (String × Value) → Bool
  | [], _ => true
  | (key, value) :: rest, others =>
    (match others.lookup key with
      | some other => same value other
      | none => false) && sameFields rest others

end

end Value

end Document

end FacetSearch
