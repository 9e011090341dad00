import FacetSearch.Document.Execution
import FacetSearch.Http.Fault
import FacetSearch.Http.MediaType
import FacetSearch.Http.Submission
/-!
# The gateway

The paths that the service answers: documents, health and metrics. Every response may be read
from any origin. A request for the head of a response is answered like one for the whole, without
the body.
-/

namespace FacetSearch.Http

open Document (Problem Server Value)

structure Gateway where
  server : Server
  /-- Whether the metrics can be read. -/
  metricsEnabled : Bool

structure Call where
  method : String
  path : String
  contentType : Option String
  body : String

/-- What a response carries. -/
inductive Body where
  /-- Nothing, or a text that is not told here. -/
  | untold
  | json (value : Json)
  | lines (lines : List String)

structure Response where
  status : Nat
  contentType : Option String
  /-- The origins that may read the response. -/
  origin : String := "*"
  body : Body

namespace Response

/-- A response without a body. -/
def bare (status : Nat) : Response := { status, contentType := none, body := .untold }

def ofJson (status : Nat) (value : Json) : Response :=
  { status, contentType := some "application/json", body := .json value }

def ofFault (f : Fault) : Response := ofJson f.status f.json

/-- A refusal with a plain text. -/
def plain (status : Nat) : Response :=
  { status, contentType := some "text/plain; charset=utf-8", body := .untold }

/-- The page on which documents can be tried out. -/
def playground : Response :=
  { status := 200, contentType := some "text/html; charset=utf-8", body := .untold }

/-- The response without its body. -/
def head (r : Response) : Response :=
  { r with body := match r.body with
    | .lines _ => .lines []
    | _ => .untold }

end Response

/-- Run a submission; variables that are no object are refused before anything else. -/
def submit (server : Server) (s : Submission) (t : Trace) :
    Except Fault (Except Problem Json) × Trace :=
  match s.provided? with
  | none => (.error (.validation "invalid variables"), t)
  | some members =>
    let (result, t) := server.run s.query s.operationName (Value.ofMembers members) t
    (.ok result, t)

/-- How a problem is reported. The error of a search is reported with its code; of a document that
cannot be run only the fact is told here. -/
def problemJson : Problem → Json
  | .document => .obj [("library", .bool true)]
  | .search e => .obj [("message", .str e.message), ("extensions", .obj [("code", .str e.code)])]

/-- The answer to a document: either its data or its problem. -/
def answerJson : Except Problem Json → Json
  | .ok data => .obj [("data", data)]
  | .error problem => .obj [("errors", .arr [problemJson problem])]

namespace Gateway

/-- The version that the health report shows. -/
def version : String := "0.1.0"

def health (g : Gateway) : Response := .ofJson 200 (.obj [
  ("status", .str "healthy"), ("version", .str version),
  ("domains", .strings (g.server.schema.queryFields.map Prod.fst))])

def metrics (g : Gateway) (t : Trace) : Response :=
  if g.metricsEnabled then
    { status := 200, contentType := some "text/plain; version=0.0.4"
      body := .lines t.metrics.exposition }
  else .ofFault (.notFound "metrics are disabled")

/-- Answer a document that was posted. -/
def post (g : Gateway) (c : Call) (t : Trace) : Response × Trace :=
  if ((c.contentType.bind MediaType.read?).map MediaType.isJson).getD false then
    match Submission.read c.body with
    | .error .malformed => (.plain 400, t)
    | .error .wrongShape => (.plain 422, t)
    | .ok submission =>
      match submit g.server submission t with
      | (.error fault, t) => (.ofFault fault, t)
      | (.ok result, t) => (.ofJson 200 (answerJson result), t)
  else (.plain 415, t)

/-- What can be read at a path. -/
def page? (g : Gateway) (t : Trace) (path : String) : Option Response :=
  if path ∈ ["/health", "/health/live", "/health/ready"] then some g.health
  else if path = "/metrics" then some (g.metrics t)
  else if path = "/graphql" then some .playground
  else none

/-- The path without the query that may follow it. -/
def location (path : String) : String :=
  String.ofList (path.toList.takeWhile fun c => c ≠ '?' && c ≠ '#')

def respond (g : Gateway) (c : Call) (t : Trace) : Response × Trace :=
  let path := location c.path
  if c.method = "OPTIONS" then (.bare 200, t)
  else match g.page? t path with
    | none => (.bare 404, t)
    | some page =>
      if c.method = "GET" then (page, t)
      else if c.method = "HEAD" then (page.head, t)
      else if c.method = "POST" ∧ path = "/graphql" then g.post c t
      else (.bare 405, t)

end Gateway

end FacetSearch.Http
