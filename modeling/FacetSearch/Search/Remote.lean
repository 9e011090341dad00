import FacetSearch.Http.Target
import FacetSearch.Json.Reader
import FacetSearch.Search.Answer
import FacetSearch.Search.Body
/-!
# Remote engines

A search engine that is asked over HTTP: where a query is sent, and what the exchange comes to.
-/

namespace FacetSearch

structure RemoteEngine where
  /-- The URL of the engine, without slashes at its end. -/
  host : String
  /-- How long an exchange may take, in milliseconds. -/
  timeout : UInt64

/-- How an exchange ends. -/
inductive Reply where
  | answered (status : Nat) (body : String)
  /-- Nothing came in time. -/
  | silent
  /-- The connection was closed without an answer. -/
  | closed
  /-- There was no connection. -/
  | refused
  deriving DecidableEq, Repr

namespace RemoteEngine

def ofUrl (url : String) (timeout : UInt64) : RemoteEngine :=
  ⟨String.ofList (url.toList.reverse.dropWhile (· = '/')).reverse, timeout⟩

/-- The path to which a query is sent, on a host whose own path is given. -/
def path (base index : String) : String := Http.target (base ++ "/" ++ index ++ "/_search")

/-- What is said of a body that is not JSON. -/
def undecodable : String := "error decoding response body"

/-- What the engine answers to a query when the exchange ends in a certain way. Two statuses mean
that there is no body. -/
def interpret (e : RemoteEngine) (q : CompiledQuery) : Reply → Except SearchError EngineResponse
  | .silent => .error (.engineTimeout e.timeout)
  | .closed => .error (.engineUnavailable "connection closed before message completed")
  | .refused => .error (.engineUnavailable "connection refused")
  | .answered status body =>
    let body := if status = 204 ∨ status = 304 then "" else body
    if status < 200 ∨ 300 ≤ status then .error (.engineFailed status body)
    else match Json.read? body with
      | some answer => q.readAnswer answer
      | none => .error (.malformedResponse undecodable)

/-- An engine of which it is known how every exchange ends. -/
def engine (e : RemoteEngine) (reply : Reply) : Engine where
  latency := match reply with
    | .silent => .after e.timeout.toNat
    | _ => .immediate
  answer q := e.interpret q reply

end RemoteEngine

end FacetSearch
