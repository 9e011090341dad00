import FacetSearch.Schema.Name
import FacetSearch.Search.Domain
/-!
# Registrations

A domain with the names under which the schema serves it. A declaration is a registration whose
domain is not built yet.
-/

namespace FacetSearch.Schema

/-- The names that a domain has in the schema. -/
structure Names where
  /-- The result type. -/
  typeName : String
  hitTypeName : String
  /-- The root field, if it is not the result type in lower camel case. -/
  queryField? : Option String
  deriving DecidableEq, Repr

namespace Names

def queryField (n : Names) : String := n.queryField?.getD (lowerCamel n.typeName)

def hitResults (n : Names) : String := n.typeName ++ "HitResults"

def hitFields (n : Names) : String := n.hitTypeName ++ "Fields"

end Names

structure Registration where
  names : Names
  domain : Domain

structure Declaration where
  names : Names
  draft : DomainDraft

def Declaration.register (d : Declaration) : Except SearchError Registration := do
  return ⟨d.names, ← d.draft.build⟩

/-- The first declaration that cannot be built decides the error. -/
def registrations (declarations : List Declaration) : Except SearchError (List Registration) :=
  declarations.mapM Declaration.register

end FacetSearch.Schema
