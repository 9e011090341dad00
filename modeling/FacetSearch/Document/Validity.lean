import FacetSearch.Document.Reader
import FacetSearch.Schema.Compose
/-!
# Valid documents

A document fits a schema when its fields, arguments, directives, fragments and variables do. All
operations of a document are checked, whichever is run. The fields that describe the schema itself
are not among those of a type.
-/

namespace FacetSearch.Schema

namespace TypeRef

def isNonNull : TypeRef → Bool
  | nonNull _ => true
  | _ => false

def nullable : TypeRef → TypeRef
  | nonNull type => type
  | type => type

/-- A variable of the second type may stand where the first is expected. A list that is never
null does not fit where a list that may be null is expected. -/
def covers : TypeRef → TypeRef → Bool
  | nonNull expected, nonNull type => covers expected type
  | named expected, nonNull type => covers (named expected) type
  | named expected, named type => expected = type
  | list expected, list type => covers expected type
  | _, _ => false

end TypeRef

namespace Composed

def inputFields? (s : Composed) (name : String) : Option (List Argument) :=
  match s.type? name with
  | some { shape := .input fields, .. } => some fields
  | _ => none

def objectFields? (s : Composed) (name : String) : Option (List Field) :=
  match s.type? name with
  | some { shape := .object fields, .. } => some fields
  | _ => none

def isScalar (s : Composed) (name : String) : Bool :=
  match s.type? name with
  | some { shape := .scalar, .. } => true
  | _ => false

/-- A field of an object type. -/
def field? (s : Composed) (type name : String) : Option Field :=
  (s.objectFields? type).bind fun fields => fields.find? fun f => f.name = name

end Composed

end FacetSearch.Schema

namespace FacetSearch.Document

open Schema

/-! ## Values and their types -/

/-- A scalar with the given name may have a value that is not null. -/
def scalarAccepts (name : String) (value : Value) : Bool :=
  if name = "Int" then match value with
    | .int n => Json.isInt64 n
    | _ => false
  else if name = "Float" then match value with
    | .int _ | .float _ => true
    | _ => false
  else if name = "String" then match value with
    | .str _ => true
    | _ => false
  else if name = "Boolean" then match value with
    | .bool _ => true
    | _ => false
  else if name = "ID" then match value with
    | .str _ => true
    | .int n => Json.isInt64 n
    | _ => false
  else true

/-- A value that is no list, object or null fits the type. Only built-in scalars are checked. -/
def leafAccepts (s : Composed) (name : String) (value : Value) : Bool :=
  !s.isScalar name || scalarAccepts name value

mutual

/-- A value fits a type. A value that is no list counts as a list with one item. -/
def accepts (s : Composed) (type : TypeRef) : Value → Bool
  | .null => !type.isNonNull
  | .list items => match type.nullable with
    | .list element => acceptsItems s element items
    | _ => leafAccepts s type.base (.list items)
  | .object fields => match s.inputFields? type.base with
    | some declared => acceptsFields s declared fields &&
        declared.all fun a => !a.type.isNonNull || fields.any fun (name, _) => name = a.name
    | none => leafAccepts s type.base (.object fields)
  | value => leafAccepts s type.base value

def acceptsItems (s : Composed) (element : TypeRef) : List Value → Bool
  | [] => true
  | item :: rest => accepts s element item && acceptsItems s element rest

def acceptsFields (s : Composed) (declared : List Argument) : List (String × Value) → Bool
  | [] => true
  | (name, value) :: rest =>
    (match declared.find? fun a => a.name = name with
      | some a => accepts s a.type value
      | none => false) && acceptsFields s declared rest

end

/-! ## Variables -/

/-- A variable where it is used, with the type expected there, if that is known. -/
structure Usage where
  name : String
  expected : Option TypeRef

def elementType? : Option TypeRef → Option TypeRef
  | some (.list element) | some (.nonNull (.list element)) => some element
  | _ => none

def argumentType? (declared : List Argument) (name : String) : Option TypeRef :=
  (declared.find? fun a => a.name = name).map Argument.type

/-- The fields of an input object that is expected. -/
def expectedFields (s : Composed) : Option TypeRef → List Argument
  | some (.named name) | some (.nonNull (.named name)) => (s.inputFields? name).getD []
  | _ => []

mutual

def Value.usages (s : Composed) (expected : Option TypeRef) : Value → List Usage
  | .reference name => [⟨name, expected⟩]
  | .list items => itemUsages s (elementType? expected) items
  | .object fields => fieldUsages s (expectedFields s expected) fields
  | _ => []

def itemUsages (s : Composed) (expected : Option TypeRef) : List Value → List Usage
  | [] => []
  | item :: rest => item.usages s expected ++ itemUsages s expected rest

/-- The usages in the fields of an object, or in arguments. -/
def fieldUsages (s : Composed) (declared : List Argument) : List (String × Value) → List Usage
  | [] => []
  | (name, value) :: rest =>
    value.usages s (argumentType? declared name) ++ fieldUsages s declared rest

end

/-! ## Directives -/

/-- The directives that a selection may have. -/
def directiveNames : List String := ["skip", "include"]

/-- Their argument. -/
def directiveArguments : List Argument := [⟨"if", .nonNull (.named "Boolean")⟩]

def directiveUsages (s : Composed) (directives : List Directive) : List Usage :=
  directives.flatMap fun d =>
    fieldUsages s (if d.name ∈ directiveNames then directiveArguments else []) d.arguments

/-! ## Selections -/

mutual

/-- The variables used in a selection of a type, fragments left out. -/
def Selection.usages (s : Composed) (parent : String) : Selection → List Usage
  | .field _ name arguments directives selections =>
    if name = typenameField then []
    else
      let field := s.field? parent name
      fieldUsages s (field.elim [] Field.arguments) arguments ++ directiveUsages s directives ++
        selectionUsages s (field.elim "" fun f => f.type.base) selections
  | .spread _ directives => directiveUsages s directives
  | .inline _ directives selections =>
    directiveUsages s directives ++ selectionUsages s parent selections

def selectionUsages (s : Composed) (parent : String) : List Selection → List Usage
  | [] => []
  | selection :: rest => selection.usages s parent ++ selectionUsages s parent rest

end

mutual

/-- The fragments that a selection names. -/
def Selection.spreads : Selection → List String
  | .field _ name _ _ selections => if name = typenameField then [] else spreadsOf selections
  | .spread fragment _ => [fragment]
  | .inline _ _ selections => spreadsOf selections

def spreadsOf : List Selection → List String
  | [] => []
  | selection :: rest => selection.spreads ++ spreadsOf rest

end

/-- The names together with the fragments that they lead to in a number of steps. -/
def reachable (d : Document) : Nat → List String → List String
  | 0, names => names
  | steps + 1, names =>
    let further := names.flatMap fun name =>
      (d.fragment? name).elim [] fun f => spreadsOf f.selections
    reachable d steps (names ++ further).eraseDups

/-- The fragments that an operation uses. -/
def Operation.fragments (o : Operation) (d : Document) : List FragmentDefinition :=
  (reachable d d.fragments.length (spreadsOf o.selections).eraseDups).filterMap d.fragment?

/-- A field as it is shown: for which type, under which key and from what. -/
structure Output where
  condition : Option String
  key : String
  name : String
  arguments : List (String × Value)

mutual

/-- The outputs of a selection set, fragments included. -/
def Selection.outputs (d : Document) (condition : Option String) :
    Nat → Selection → List Output
  | _, .field key name arguments _ _ => [⟨condition, key, name, arguments⟩]
  | 0, _ => []
  | depth + 1, .spread name _ =>
    match d.fragment? name with
    | some f => outputsOf d (some f.condition) depth f.selections
    | none => []
  | depth + 1, .inline condition _ selections => outputsOf d condition depth selections
  termination_by depth selection => (depth, sizeOf selection)

def outputsOf (d : Document) (condition : Option String) : Nat → List Selection → List Output
  | _, [] => []
  | depth, selection :: rest =>
    selection.outputs d condition depth ++ outputsOf d condition depth rest
  termination_by depth selections => (depth, sizeOf selections)

end

/-- Two outputs with one key can be merged: they come from one field with the same arguments. -/
def Output.agrees (a b : Output) : Bool :=
  a.condition ≠ b.condition || a.key ≠ b.key ||
    (a.name = b.name && a.arguments.length = b.arguments.length &&
      a.arguments.all fun (name, value) => (b.arguments.lookup name).any value.same)

def agree : List Output → Bool
  | [] => true
  | output :: rest => rest.all output.agrees && agree rest

/-- No two outputs of a selection set contradict each other. -/
def mergeable (d : Document) (selections : List Selection) : Bool :=
  agree (outputsOf d none (maxNesting + 1) selections)

/-! ## Checks -/

/-- A schema, a document and the values provided for its variables. -/
structure Check where
  schema : Composed
  document : Document
  provided : List (String × Value)

namespace Check

/-- Arguments are declared, distinct and complete, and their values fit. A value with a variable
that is not provided is not checked. -/
def arguments (c : Check) (declared : List Argument) (given : List (String × Value)) : Bool :=
  decide (given.map Prod.fst).Nodup &&
    (given.all fun (name, value) =>
      match argumentType? declared name with
      | none => false
      | some type =>
        ((value.substitute fun name => c.provided.lookup name).map (accepts c.schema type)).getD true) &&
    declared.all fun a => !a.type.isNonNull || given.any fun (name, _) => name = a.name

def directives (c : Check) (given : List Directive) : Bool :=
  decide (given.map Directive.name).Nodup &&
    given.all fun d => decide (d.name ∈ directiveNames) && c.arguments directiveArguments d.arguments

mutual

/-- A selection of an object type. -/
def selection (c : Check) (parent : String) : Selection → Bool
  | .field _ name given applied selections =>
    name = typenameField || match c.schema.field? parent name with
      | none => false
      | some f => c.arguments f.arguments given && c.directives applied &&
        if (c.schema.objectFields? f.type.base).isSome then
          !selections.isEmpty && mergeable c.document selections &&
            allSelections c f.type.base selections
        else selections.isEmpty
  | .spread name applied =>
    c.directives applied && (c.document.fragment? name).any fun f => f.condition = parent
  | .inline condition applied selections =>
    c.directives applied && (condition.all fun type => type = parent) &&
      mergeable c.document selections && allSelections c parent selections

def allSelections (c : Check) (parent : String) : List Selection → Bool
  | [] => true
  | first :: rest => selection c parent first && allSelections c parent rest

end

/-- A fragment is for an object type. No directive applies to a fragment as a whole. -/
def fragment (c : Check) (f : FragmentDefinition) : Bool :=
  (c.schema.objectFields? f.condition).isSome && f.directives.isEmpty &&
    mergeable c.document f.selections && c.allSelections f.condition f.selections

/-- A variable has an input type. Its default fits the type, which must then allow null. -/
def variableDefinition (c : Check) (v : VariableDefinition) : Bool :=
  (c.schema.isScalar v.type.base || (c.schema.inputFields? v.type.base).isSome) &&
    v.default.all fun value => !v.type.isNonNull && accepts c.schema v.type value

/-- The type that a variable can be relied on to have. -/
def reliableType (v : VariableDefinition) : TypeRef :=
  if v.default.isSome && !v.type.isNonNull then .nonNull v.type else v.type

/-- Variables are defined once each, used at all, defined where used, and used where they fit. -/
def parameters (c : Check) (o : Operation) : Bool :=
  let usages := selectionUsages c.schema queryType o.selections ++
    (o.fragments c.document).flatMap fun f => selectionUsages c.schema f.condition f.selections
  decide (o.parameters.map VariableDefinition.name).Nodup &&
    o.parameters.all c.variableDefinition &&
    (o.parameters.all fun v => usages.any fun u => u.name = v.name) &&
    usages.all fun u =>
      match o.parameters.find? fun v => v.name = u.name with
      | none => false
      | some v => u.expected.all fun type => type.covers (reliableType v)

/-- An operation is a query. No directive applies to it as a whole. -/
def operation (c : Check) (o : Operation) : Bool :=
  decide (o.kind = .query) && o.directives.isEmpty && c.parameters o &&
    mergeable c.document o.selections && c.allSelections queryType o.selections

/-- The whole document is valid, and each of its fragments is used. -/
def valid (c : Check) : Bool :=
  let d := c.document
  d.operations.all c.operation && d.fragments.all c.fragment &&
    d.fragments.all fun f => d.operations.any fun o =>
      (o.fragments d).any fun used => used.name = f.name

end Check

end FacetSearch.Document
