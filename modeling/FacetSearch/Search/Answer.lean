import FacetSearch.Decimal.Layout
import FacetSearch.Search.Engine
/-!
# The answer of the engine

Reading the JSON answer to a `_search` request. Each aggregation is looked up where the request
put it; one that the answer lacks is left out.
-/

namespace FacetSearch

/-- What an answer lacks. -/
inductive AnswerFault where
  | noHits | noTotal | noHitList | noId | noInnerResult | noBuckets | noKey | noCount
  deriving DecidableEq, Repr

def AnswerFault.message : AnswerFault → String
  | noHits => "missing 'hits'"
  | noTotal => "missing 'hits.total'"
  | noHitList => "missing 'hits.hits'"
  | noId => "hit without '_id'"
  | noInnerResult => "filtered aggregation without inner result"
  | noBuckets => "aggregation without 'buckets'"
  | noKey => "bucket without 'key'"
  | noCount => "bucket without 'doc_count'"

def orFault (fault : AnswerFault) : Option α → Except AnswerFault α
  | some a => .ok a
  | none => .error fault

/-- The text of a bucket key: a number as people write it. -/
def bucketKey? : Json → Option String
  | .str key => some key
  | .int n => some (Decimal.display (Json.floatOfInt n))
  | .float x => some (Decimal.display x)
  | .bool b => some (if b then "true" else "false")
  | _ => none

def readBucket (bucket : Json) : Except AnswerFault Bucket := do
  let key ← orFault .noKey ((bucket.get? "key").bind bucketKey?)
  let count ← orFault .noCount ((bucket.get? "doc_count").bind Json.uint64?)
  return ⟨key, count⟩

def readHit (hit : Json) : Except AnswerFault EngineHit := do
  let id ← orFault .noId ((hit.get? "_id").bind Json.str?)
  return {
    id := id
    score := (hit.get? "_score").bind Json.float?
    source := (hit.get? "_source").getD .null
  }

/-- The total as a number, or as the value of an object. -/
def readTotal? (hits : Json) : Option UInt64 :=
  match hits.get? "total" with
  | some (.int n) => (Json.int n).uint64?
  | some (.float _) => none
  | some total => (total.get? "value").bind Json.uint64?
  | none => none

/-- The buckets of an aggregation, if the answer has it. -/
def readAggregation (answer : Json) (a : Aggregation) :
    Except AnswerFault (Option (List Bucket)) :=
  match (answer.get? "aggregations").bind (·.get? a.name) with
  | none => .ok none
  | some node => do
    let node ← if a.filters.isEmpty then .ok node
      else orFault .noInnerResult (node.get? a.name)
    let buckets ← orFault .noBuckets ((node.get? "buckets").bind Json.arr?)
    some <$> buckets.mapM readBucket

/-- The buckets of all aggregations that the answer has. -/
def readAggregations (answer : Json) (found : OrderedMap String (List Bucket)) :
    List Aggregation → Except AnswerFault (OrderedMap String (List Bucket))
  | [] => .ok found
  | a :: rest => do
    match ← readAggregation answer a with
    | some buckets => readAggregations answer (found.insert a.name buckets) rest
    | none => readAggregations answer found rest

def readAnswer (answer : Json) (q : CompiledQuery) : Except AnswerFault EngineResponse := do
  let hits ← orFault .noHits (answer.get? "hits")
  let total ← orFault .noTotal (readTotal? hits)
  let list ← orFault .noHitList ((hits.get? "hits").bind Json.arr?)
  let found ← list.mapM readHit
  let aggregations ← readAggregations answer .empty q.aggregations
  return ⟨total, found, aggregations⟩

/-- The engine response that a JSON answer to a query holds. -/
def CompiledQuery.readAnswer (q : CompiledQuery) (answer : Json) :
    Except SearchError EngineResponse :=
  (FacetSearch.readAnswer answer q).mapError fun fault => .malformedResponse fault.message

end FacetSearch
