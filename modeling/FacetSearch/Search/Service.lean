import FacetSearch.Search.Metrics
import FacetSearch.Search.Results
/-!
# The search service

Compile, ask the engine, decompile: one search against one domain, counted once. An engine that
does not answer in time is given up.
-/

namespace FacetSearch

structure Service where
  engine : Engine
  /-- How long an engine may take, in milliseconds. -/
  timeout : UInt64

/-- What the searches so far did: the queries the engine was asked, in order, and the counts. -/
structure Trace where
  calls : List CompiledQuery := []
  metrics : Metrics := {}

namespace Service

/-- How long a service waits for the engine unless told otherwise. -/
def defaultTimeout : UInt64 := 5000

/-- What the engine does for a query: its answer, its error, or silence past the timeout. -/
def ask (s : Service) (q : CompiledQuery) : Except SearchError EngineResponse :=
  if s.engine.latency.Within s.timeout then s.engine.answer q
  else .error (.engineTimeout s.timeout)

/-- The label under which a search is counted. -/
def outcome : Except SearchError Results → String
  | .ok _ => "success"
  | .error e => e.code

/-- The first half of a search: its compiled query, for which the engine is called. A request that
cannot be compiled ends the search. -/
def prepare (name : String) (d : Domain) (r : Request) (t : Trace) :
    Except SearchError CompiledQuery × Trace :=
  match d.compile r with
  | .error e => (.error e, { t with metrics := t.metrics.countSearch name e.code })
  | .ok q => (.ok q, { t with calls := t.calls ++ [q] })

/-- The second half: what comes of the engine's answer. -/
def finish (s : Service) (name : String) (d : Domain) (r : Request) (q : CompiledQuery)
    (t : Trace) : Except SearchError Results × Trace :=
  let (result, m) : Except SearchError Results × Metrics :=
    match s.ask q with
    | .error e => (.error e, t.metrics)
    | .ok response => (d.decompile r q response, t.metrics.countAnswer name)
  (result, { t with metrics := m.countSearch name (outcome result) })

/-- One search of a domain under a name. -/
def search (s : Service) (name : String) (d : Domain) (r : Request) (t : Trace) :
    Except SearchError Results × Trace :=
  match prepare name d r t with
  | (.error e, t) => (.error e, t)
  | (.ok q, t) => s.finish name d r q t

end Service

end FacetSearch
