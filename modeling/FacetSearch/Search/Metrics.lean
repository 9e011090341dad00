/-!
# Metrics

Counters kept as logs: each event is recorded with its labels, and the value of a counter is the
number of times its labels occur. The text exposition lists the counters that have samples, by
name, each with its samples in the order of their labels.
-/

namespace FacetSearch

structure Metrics where
  /-- Searches handled, by domain name and outcome. -/
  searches : List (String × String) := []
  /-- Engine answers that came in time, by domain name. -/
  engineAnswers : List String := []
  /-- Root fields resolved and documents refused, by field and outcome. -/
  operations : List (String × String) := []
  deriving DecidableEq, Repr

namespace Metrics

def countSearch (m : Metrics) (name outcome : String) : Metrics :=
  { m with searches := (name, outcome) :: m.searches }

def countAnswer (m : Metrics) (name : String) : Metrics :=
  { m with engineAnswers := name :: m.engineAnswers }

def countOperation (m : Metrics) (field outcome : String) : Metrics :=
  { m with operations := (field, outcome) :: m.operations }

/-! ## The text exposition -/

/-- Quotes, backslashes and line feeds of a label value are escaped. -/
def labelValue (value : String) : String :=
  value.toList.foldl (fun out c => out ++
    if c = '\\' then "\\\\" else if c = '\x22' then "\\\"" else if c = '\n' then "\\n"
    else c.toString) ""

/-- A sample: the name, the labels and the count. -/
def sample (name : String) (labels : List (String × String)) (count : Nat) : String :=
  let labels := labels.map fun (key, value) => key ++ "=\"" ++ labelValue value ++ "\""
  name ++ "\x7b" ++ ",".intercalate labels ++ "\x7d " ++ toString count

/-- Label values in order: the first that differs decides. -/
def inOrder : List String → List String → Bool
  | [], _ => true
  | _ :: _, [] => false
  | a :: as, b :: bs => a < b || (a = b && inOrder as bs)

/-- The distinct label values of a log, sorted. -/
def samples (log : List (List String)) : List (List String) := log.eraseDups.mergeSort inOrder

/-- One counter in the text exposition. -/
structure Family where
  name : String
  help : String
  kind : String
  /-- What follows the name in the samples shown. -/
  sampleSuffix : String
  labels : List String
  log : List (List String)

def Family.lines (f : Family) : List String :=
  (samples f.log).map fun values =>
    sample (f.name ++ f.sampleSuffix) (f.labels.zip values) (f.log.count values)

def Family.header (f : Family) : List String :=
  ["# HELP " ++ f.name ++ " " ++ f.help, "# TYPE " ++ f.name ++ " " ++ f.kind]

/-- The counters, by name. -/
def families (m : Metrics) : List Family := [
  { name := "facet_gateway_engine_request_duration_seconds"
    help := "Search engine request duration in seconds"
    kind := "histogram"
    sampleSuffix := "_count"
    labels := ["domain"]
    log := m.engineAnswers.map fun name => [name] },
  { name := "facet_gateway_graphql_operations_total"
    help := "Total number of GraphQL operations"
    kind := "counter"
    sampleSuffix := ""
    labels := ["field", "outcome"]
    log := m.operations.map fun (field, outcome) => [field, outcome] },
  { name := "facet_gateway_search_requests_total"
    help := "Total number of search requests"
    kind := "counter"
    sampleSuffix := ""
    labels := ["domain", "outcome"]
    log := m.searches.map fun (name, outcome) => [name, outcome] }]

/-- The samples without their headers. -/
def sampleLines (m : Metrics) : List String := m.families.flatMap Family.lines

/-- The text exposition: header and samples of each counter that has samples. Durations are not
kept, so of the duration histogram only the number of its observations is shown. -/
def exposition (m : Metrics) : List String :=
  m.families.flatMap fun f => if f.log.isEmpty then [] else f.header ++ f.lines

end Metrics

end FacetSearch
