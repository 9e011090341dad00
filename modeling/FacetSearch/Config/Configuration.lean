import FacetSearch.Config.Declaration
import FacetSearch.Config.Environment
import FacetSearch.Config.Reference
import FacetSearch.Decimal.Layout
import FacetSearch.Toml.Reader
/-!
# Configuration

What a running gateway needs to know. It is read from built-in defaults, a file laid over them
and the environment laid over both. Single values are converted to the type that is expected,
where that can be done.
-/

namespace FacetSearch.Config

open Json Schema

structure Configuration where
  /-- The address to listen on. -/
  serverHost : String
  serverPort : UInt16
  /-- The URL of the search engine. -/
  engineHost : String
  /-- How long the engine may take, in milliseconds. -/
  engineTimeout : UInt64
  /-- Which log lines are written. -/
  logLevel : String
  jsonLogs : Bool
  serviceName : String
  metricsEnabled : Bool
  domains : List Declaration

/-- Why a configuration cannot be loaded. -/
inductive LoadFault where
  /-- The file is not written in TOML. -/
  | unreadable
  /-- A setting is missing, or cannot be converted. -/
  | mismatch
  deriving DecidableEq, Repr

/-! ## Defaults -/

def defaultHost : String := "0.0.0.0"
def defaultPort : UInt16 := 8080
def defaultEngineHost : String := "http://127.0.0.1:9200"
def defaultEngineTimeout : UInt64 := 5000
def defaultLogLevel : String := "facet_gateway=info,tower_http=info"
def defaultServiceName : String := "facet-gateway"

/-- The settings under all others. -/
def defaults : Members := [
  ("server", .table [
    ("host", .text defaultHost), ("http_port", .int defaultPort.toNat)]),
  ("engine", .table [
    ("host", .text defaultEngineHost), ("timeout_ms", .int defaultEngineTimeout.toNat)]),
  ("observability", .table [
    ("log_level", .text defaultLogLevel), ("json_logs", .bool false),
    ("service_name", .text defaultServiceName), ("prometheus_enabled", .bool true)])]

/-! ## Conversions -/

mutual

def Setting.json : Setting → Json
  | .nil => .null
  | .bool b => .bool b
  | .int n => .int n
  | .float x => .float x
  | .text s => .str s
  | .list items => .arr (jsonItems items)
  | .table members => .obj (jsonMembers members)

def jsonItems : List Setting → List Json
  | [] => []
  | item :: rest => item.json :: jsonItems rest

def jsonMembers : Members → List (String × Json)
  | [] => []
  | (name, value) :: rest => (name, value.json) :: jsonMembers rest

end

/-- Numbers and truth values are written out. -/
def anyText : Json → Option String
  | .str s => some s
  | .bool b => some (if b then "true" else "false")
  | .int n => some (toString n)
  | .float x => some (Decimal.plain.render x)
  | _ => none

/-- Numbers that are not zero are true, and so are a few words. -/
def anyFlag : Json → Option Bool
  | .bool b => some b
  | .int n => some (n ≠ 0)
  | .float x => some (x != 0)
  | .str s =>
    if lowercase s ∈ ["1", "true", "on", "yes"] then some true
    else if lowercase s ∈ ["0", "false", "off", "no"] then some false
    else none
  | _ => none

/-- A natural number of 64 bits, possibly after a plus sign. -/
def naturalText? (s : List Char) : Option UInt64 :=
  let digits := match s with
    | '+' :: rest => rest
    | s => s
  match Decimal.allDigits? digits with
  | some n => if Json.isUInt64 n then some n.toUInt64 else none
  | none => none

/-- Truth values count as 0 and 1, and doubles are rounded. -/
def anyNatural : Json → Option UInt64
  | .int n => Json.uint64? (.int n)
  | .bool b => some (if b then 1 else 0)
  | .float x => some x.round.toUInt64
  | .str s =>
    if lowercase s ∈ ["true", "on", "yes"] then some 1
    else if lowercase s ∈ ["false", "off", "no"] then some 0
    else naturalText? s.toList
  | _ => none

/-- An order in any case. -/
def anyOrder : Json → Option SortOrder
  | .str s => named s
  | .obj [(s, _)] => named s
  | _ => none
where
  named (s : String) : Option SortOrder :=
    if lowercase s = "asc" then some .ascending
    else if lowercase s = "desc" then some .descending
    else none

/-- Single values are converted. -/
def Leaves.lenient : Leaves := ⟨anyText, anyFlag, anyOrder⟩

/-! ## Loading -/

/-- The configuration that settings hold. -/
def readConfiguration? (settings : Setting) : Option Configuration := do
  let root ← settings.json.record? ["server", "engine", "observability", "domains"]
  let server ← root.required "server" (record? ["host", "http_port"])
  let engine ← root.required "engine" (record? ["host", "timeout_ms"])
  let observability ← root.required "observability"
    (record? ["log_level", "json_logs", "service_name", "prometheus_enabled"])
  return {
    serverHost := ← server.withDefault "host" anyText defaultHost
    -- a port has 16 bits, and higher bits are dropped
    serverPort := ← server.withDefault "http_port"
      (fun j => (anyNatural j).map UInt64.toUInt16) defaultPort
    engineHost := ← engine.withDefault "host" anyText defaultEngineHost
    engineTimeout := ← engine.withDefault "timeout_ms" anyNatural defaultEngineTimeout
    logLevel := ← observability.withDefault "log_level" anyText defaultLogLevel
    jsonLogs := ← observability.withDefault "json_logs" anyFlag false
    serviceName := ← observability.withDefault "service_name" anyText defaultServiceName
    metricsEnabled := ← observability.withDefault "prometheus_enabled" anyFlag true
    domains := ← root.withDefault "domains" (list? Leaves.lenient.readDeclaration?) []
  }

/-- Load the configuration. The file may be missing; the reference domains are served when no
source declares any. -/
def load (file : Option String) (environment : List (String × String)) :
    Except LoadFault Configuration := do
  let fileSettings ← match file with
    | none => pure []
    | some text => match Toml.read? text with
      | some settings => pure settings
      | none => throw .unreadable
  let sources := [defaults, fileSettings, environmentSettings environment]
  match readConfiguration? (sources.foldl overlaySource (.table [])) with
  | none => throw .mismatch
  | some configuration =>
    return if configuration.domains.isEmpty then { configuration with domains := referenceDomains }
      else configuration

end FacetSearch.Config
