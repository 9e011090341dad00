import FacetSearch.Document.Arguments
import FacetSearch.Document.Pick
import FacetSearch.Search.Service
/-!
# Running documents

A document is read, checked against the schema, and one of its operations is run: each root field
is one search. The first failure ends the operation, and then there is no answer at all.

Documents that are refused and root fields are counted, the fields under their keys.
-/

namespace FacetSearch.Document

open Schema

/-- What serves documents: a schema and the service behind it. -/
structure Server where
  schema : Composed
  service : Service

/-- A root field on its way. -/
inductive Started where
  | answered (value : Json)
  /-- The engine was asked. -/
  | asked (registration : Registration) (request : Request) (query : CompiledQuery)

/-- The field label for documents that are refused before any field. -/
def noField : String := "none"

/-- Count a root field. -/
def countField (key : String) (result : Except Problem α) (t : Trace) :
    Except Problem α × Trace :=
  let outcome := match result with
    | .ok _ => "success"
    | .error _ => "error"
  (result, { t with metrics := t.metrics.countOperation key outcome })

/-- Refuse a document. -/
def refuse (outcome : String) (t : Trace) : Except Problem α × Trace :=
  (.error .document, { t with metrics := t.metrics.countOperation noField outcome })

/-- The value of a variable in an operation: the one provided, else its default, else null if its
type allows that. -/
def Operation.value? (o : Operation) (provided : List (String × Value)) (name : String) :
    Option Value := do
  let v ← o.parameters.find? fun v => v.name = name
  match provided.lookup name, v.default with
  | some value, _ => some value
  | none, some value => some value
  | none, none => if v.type.isNonNull then none else some .null

namespace Server

/-- Start a root field: read its arguments and prepare its search. -/
def start (s : Server) (values : String → Option Value) (pick : Pick) (t : Trace) :
    Except Problem (Pick × Started) × Trace :=
  if pick.name = typenameField then (.ok (pick, .answered (.str queryType)), t)
  else match Value.substituteFields values pick.arguments, s.schema.registration? pick.name with
    | some arguments, some registration =>
      match readArguments arguments with
      | .error problem => countField pick.key (.error problem) t
      | .ok request =>
        match Service.prepare registration.names.typeName registration.domain request t with
        | (.error e, t) => countField pick.key (.error (.search e)) t
        | (.ok query, t) => (.ok (pick, .asked registration request query), t)
    | _, _ => (.error .document, t)

/-- Finish a root field that was started. -/
def finish (s : Server) : Pick × Started → Trace → Except Problem (String × Json) × Trace
  | (pick, .answered value), t => (.ok (pick.key, value), t)
  | (pick, .asked registration request query), t =>
    match s.service.finish registration.names.typeName registration.domain request query t with
    | (.error e, t) => countField pick.key (.error (.search e)) t
    | (.ok results, t) =>
      let value := select pick.picks (Node.ofResults registration results)
      countField pick.key (value.elim (.error .document) fun value => .ok (pick.key, value)) t

/-- Start and finish a root field. -/
def resolve (s : Server) (values : String → Option Value) (pick : Pick) (t : Trace) :
    Except Problem (String × Json) × Trace :=
  match s.start values pick t with
  | (.error problem, t) => (.error problem, t)
  | (.ok started, t) => s.finish started t

end Server

/-- One step after the other, up to the first that fails. -/
def inTurn (step : α → Trace → Except Problem β × Trace) :
    List α → Trace → Except Problem (List β) × Trace
  | [], t => (.ok [], t)
  | a :: rest, t =>
    match step a t with
    | (.error problem, t) => (.error problem, t)
    | (.ok b, t) =>
      match inTurn step rest t with
      | (.error problem, t) => (.error problem, t)
      | (.ok bs, t) => (.ok (b :: bs), t)

namespace Server

/-- The members of the answer to root fields. When the engine answers at once, each field is done
before the next one starts; otherwise all are started before the first one is finished. -/
def members (s : Server) (values : String → Option Value) (picks : List Pick) (t : Trace) :
    Except Problem (List (String × Json)) × Trace :=
  if s.service.engine.latency = .immediate then inTurn (s.resolve values) picks t
  else match inTurn (s.start values) picks t with
    | (.error problem, t) => (.error problem, t)
    | (.ok started, t) => inTurn s.finish started t

/-- Run an operation of a valid document. -/
def execute (s : Server) (d : Document) (o : Operation) (provided : List (String × Value))
    (t : Trace) : Except Problem Json × Trace :=
  match s.members (o.value? provided) (o.picks d provided) t with
  | (.error problem, t) => (.error problem, t)
  | (.ok members, t) => (.ok (.obj (Json.mergeMembers [] members)), t)

end Server

/-- The operation to run: the one with the given name, or the only one. -/
def chosen? (d : Document) : Option String → Option Operation
  | some name => d.operations.find? fun o => o.name = some name
  | none => match d.operations with
    | [o] => some o
    | _ => none

namespace Server

/-- Read, check and run a document. -/
def run (s : Server) (text : String) (operationName : Option String)
    (provided : List (String × Value)) (t : Trace) : Except Problem Json × Trace :=
  match read? text with
  | none => refuse "parse_error" t
  | some d =>
    if (Check.mk s.schema d provided).valid then
      match d.chosen? operationName with
      | some o => s.execute d o provided t
      | none => (.error .document, t)
    else refuse "invalid" t

end Server

end FacetSearch.Document
