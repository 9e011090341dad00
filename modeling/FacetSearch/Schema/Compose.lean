import FacetSearch.Schema.Registry
import FacetSearch.Schema.Types
/-!
# Composition

Any number of domains in one schema. Every name is claimed first, and the first collision ends
the composition before a schema exists.
-/

namespace FacetSearch.Schema

/-- The first two returned fields that would have one name, as `(earlier, later)`. -/
def collision? (seen : List String) : List String → Option (String × String)
  | [] => none
  | field :: rest =>
    match seen.find? fun earlier => fieldName earlier = fieldName field with
    | some earlier => some (earlier, field)
    | none => collision? (seen ++ [field]) rest

/-- The returned fields of a hit type get distinct names. -/
def checkFieldNames (hitType : String) (fields : List String) : Except SearchError Unit :=
  match collision? [] fields with
  | none => .ok ()
  | some (earlier, later) => .error (.invalidConfiguration
      (s!"returned fields '{earlier}' and '{later}' of {hitType} both map to GraphQL field " ++
        s!"'{fieldName later}'"))

/-- The names of the types that a domain adds, in the order in which they are claimed. -/
def Registration.claimedTypes (r : Registration) : List String :=
  [r.names.typeName, r.names.hitTypeName, r.names.hitResults] ++
    if r.showsFields then [r.names.hitFields] else []

/-- Claim all names of a domain. -/
def Registry.claimAll (registry : Registry) (r : Registration) : Except SearchError Registry := do
  let owner := r.names.typeName
  let registry ← r.claimedTypes.foldlM (fun registry name => registry.claimType name owner) registry
  let registry ← registry.claimQueryField r.names.queryField owner
  checkFieldNames r.names.hitTypeName r.domain.returnedFields
  return registry

/-- The registry after the claims of all domains, of which there is at least one. -/
def validate (registrations : List Registration) : Except SearchError Registry :=
  if registrations.isEmpty then
    .error (.invalidConfiguration "at least one search domain must be registered")
  else registrations.foldlM Registry.claimAll .initial

/-- A schema, with the names that it serves. -/
structure Composed where
  registrations : List Registration
  registry : Registry

namespace Composed

/-- The root fields with their result types, in the order of the registrations. -/
def queryFields (s : Composed) : List (String × String) :=
  s.registrations.map fun r => (r.names.queryField, r.names.typeName)

def queryDefinition (s : Composed) : TypeDefinition where
  name := queryType
  shape := .object (s.registrations.map Registration.rootField)

/-- The types that are shared or belong to a domain. -/
def types (s : Composed) : List TypeDefinition :=
  sharedTypes ++ [s.queryDefinition] ++ s.registrations.flatMap Registration.types

/-- A type by its name: a built-in scalar, or one of the others. -/
def type? (s : Composed) (name : String) : Option TypeDefinition :=
  if name ∈ builtinScalars then some { name, shape := .scalar }
  else s.types.find? fun t => t.name = name

def registration? (s : Composed) (queryField : String) : Option Registration :=
  s.registrations.find? fun r => r.names.queryField = queryField

/-- The first type, in the order in which they are added, with a name that is taken by a built-in
scalar. -/
def takenName? (s : Composed) : Option String :=
  (s.types.map TypeDefinition.name).find? fun name => name ∈ builtinScalars

/-- The first field of a hit that has a name kept for introspection, after its type. -/
def introspectionField? (s : Composed) : Option (String × String) :=
  s.registrations.findSome? fun r =>
    (r.fieldNames.find? fun name => "__".isPrefixOf name).map fun name => (r.names.hitFields, name)

/-- Why the types make up no schema: all are added first, then their fields are checked. -/
def fault? (s : Composed) : Option String :=
  match s.takenName?, s.introspectionField? with
  | some name, _ => some s!"Type \"{name}\" already exists"
  | none, some (type, name) => some
      (s!"Field \"{type}.{name}\" must not have a name which begins with " ++
        "the characters \"__\" (two underscores)")
  | none, none => none

end Composed

/-- The schema that serves all domains. -/
def compose (registrations : List Registration) : Except SearchError Composed := do
  let s : Composed := ⟨registrations, ← validate registrations⟩
  match s.fault? with
  | none => return s
  | some fault => .error (.invalidConfiguration s!"schema build failed: {fault}")

end FacetSearch.Schema
