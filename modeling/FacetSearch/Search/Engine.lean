import FacetSearch.Json.Value
import FacetSearch.Search.Facet
/-!
# Engines

What a search engine answers, and how it behaves when it is asked.
-/

namespace FacetSearch

/-- A document found by the engine. -/
structure EngineHit where
  id : String
  score : Option Float
  /-- The stored document. -/
  source : Json

structure EngineResponse where
  /-- How many documents match in all. -/
  total : UInt64
  /-- Hits, already sorted. -/
  hits : List EngineHit
  /-- Buckets by aggregation name. -/
  aggregations : OrderedMap String (List Bucket)

/-- When an engine answers. -/
inductive Latency where
  | immediate
  | after (milliseconds : Nat)
  | never
  deriving DecidableEq, Repr

structure Engine where
  latency : Latency
  answer : CompiledQuery → Except SearchError EngineResponse

/-- The answer comes within the milliseconds allowed. -/
def Latency.Within (allowed : UInt64) : Latency → Prop
  | .immediate => True
  | .after milliseconds => milliseconds < allowed.toNat
  | .never => False

instance (allowed : UInt64) (l : Latency) : Decidable (l.Within allowed) := by
  cases l <;> unfold Latency.Within <;> infer_instance

end FacetSearch
