import FacetSearch.Search.Answer
import FacetSearch.Search.Results
import FacetSearch.Proofs.RequestBody
/-!
# Answers to requests

An engine that answers a request body: the total in one of two shapes, the hits, and for each
aggregation of the body its buckets, inside a result of the same name when the body restricts the
aggregation by a filter. Such an answer is read for exactly what the engine put into it.
-/

namespace FacetSearch

/-! ## An engine that answers the body of a request -/

/-- How an engine states the total. -/
inductive TotalShape where
  | number | object
  deriving DecidableEq, Repr

def TotalShape.json (shape : TotalShape) (total : UInt64) : Json :=
  match shape with
  | .number => .ofUInt64 total
  | .object => .obj [("value", .ofUInt64 total)]

namespace EngineHit

/-- A hit as an engine writes it. -/
def answerJson (h : EngineHit) : Json :=
  .obj [("_id", .str h.id), ("_score", .ofOption .ofFloat h.score), ("_source", h.source)]

/-- The score, if any, is a number that JSON can hold. -/
def Scored (h : EngineHit) : Prop := ∀ x, h.score = some x → x.isFinite = true

end EngineHit

def Bucket.answerJson (b : Bucket) : Json :=
  .obj [("key", .str b.key), ("doc_count", .ofUInt64 b.count)]

def bucketsJson (buckets : List Bucket) : Json :=
  .obj [("buckets", .arr (buckets.map Bucket.answerJson))]

/-- The result of a requested aggregation: one that is wrapped in a filter aggregation has its
buckets one level further down. -/
def aggregationResult (name : String) (request : Json) (buckets : List Bucket) : Json :=
  if (request.get? "filter").isSome then .obj [(name, bucketsJson buckets)] else bucketsJson buckets

/-- The aggregations that a request body asks for, with their names. -/
def requestedAggregations (body : Json) : List (String × Json) :=
  match body.get? "aggs" with
  | some (.obj members) => members
  | _ => []

/-- The hits and their total. -/
def hitsJson (shape : TotalShape) (total : UInt64) (hits : List EngineHit) : Json :=
  .obj [("total", shape.json total), ("hits", .arr (hits.map EngineHit.answerJson))]

/-- The answer to a request body. -/
def answerTo (body : Json) (shape : TotalShape) (total : UInt64) (hits : List EngineHit)
    (buckets : String → List Bucket) : Json :=
  .obj [
    ("hits", hitsJson shape total hits),
    ("aggregations", .obj ((requestedAggregations body).map fun (name, request) =>
      (name, aggregationResult name request (buckets name))))]

/-! ## Reading it back -/

theorem readTotal?_hitsJson (shape : TotalShape) (total : UInt64) (hits : List EngineHit) :
    readTotal? (hitsJson shape total hits) = some total := by
  cases shape with
  | number => exact Json.uint64?_ofUInt64 total
  | object =>
    have hvalue : (TotalShape.object.json total).get? "value" = some (.ofUInt64 total) := rfl
    have hread : readTotal? (hitsJson .object total hits) =
      ((TotalShape.object.json total).get? "value").bind Json.uint64? := rfl
    rw [hread, Json.bind_get? hvalue, Json.uint64?_ofUInt64]

theorem readHit_answerJson {h : EngineHit} (hs : h.Scored) : readHit h.answerJson = .ok h := by
  have hid : (h.answerJson.get? "_id").bind Json.str? = some h.id := rfl
  have hscore : (h.answerJson.get? "_score").bind Json.float? = h.score := by
    change (Json.ofOption Json.ofFloat h.score).float? = h.score
    cases hx : h.score with
    | none => rfl
    | some x => rw [Json.ofOption, Json.ofFloat_of_isFinite (hs x hx), Json.float?]
  have hsource : (h.answerJson.get? "_source").getD .null = h.source := rfl
  rw [readHit, hid, hscore, hsource]
  rfl

theorem readBucket_answerJson (b : Bucket) : readBucket b.answerJson = .ok b := by
  have hkey : (b.answerJson.get? "key").bind bucketKey? = some b.key := rfl
  have hcount : (b.answerJson.get? "doc_count").bind Json.uint64? = some b.count := by
    have h : b.answerJson.get? "doc_count" = some (.ofUInt64 b.count) := rfl
    rw [Json.bind_get? h, Json.uint64?_ofUInt64]
  rw [readBucket, hkey, hcount]
  rfl

/-! ## Aggregations -/

/-- The body asks for every aggregation of the query under its name. -/
theorem requestedAggregations_body {q : CompiledQuery}
    (hn : (q.aggregations.map Aggregation.name).Nodup) :
    requestedAggregations q.body = q.aggregations.map fun a => (a.name, a.json) := by
  rw [requestedAggregations, CompiledQuery.get?_aggs_body, aggregationsJson?_eq hn]
  cases q.aggregations <;> rfl

/-- The result of an aggregation stands in the answer under its name. -/
theorem get?_answerTo_body {q : CompiledQuery} (hn : (q.aggregations.map Aggregation.name).Nodup)
    (shape : TotalShape) (total : UInt64) (hits : List EngineHit) (buckets : String → List Bucket)
    {a : Aggregation} (ha : a ∈ q.aggregations) :
    ((answerTo q.body shape total hits buckets).get? "aggregations").bind (·.get? a.name) =
      some (aggregationResult a.name a.json (buckets a.name)) := by
  have haggs : (answerTo q.body shape total hits buckets).get? "aggregations" =
      some (.obj (q.aggregations.map fun a =>
        (a.name, aggregationResult a.name a.json (buckets a.name)))) := by
    rw [answerTo, requestedAggregations_body hn, List.map_map]
    rfl
  rw [Json.bind_get? haggs, Json.get?_obj, lookup_map_key hn ha]

theorem readBuckets_bucketsJson (buckets : List Bucket) :
    (do
      let found ← orFault .noBuckets (((bucketsJson buckets).get? "buckets").bind Json.arr?)
      some <$> found.mapM readBucket) = .ok (some buckets) := by
  have hmap : (buckets.map Bucket.answerJson).mapM readBucket = .ok buckets :=
    mapM_map_eq_ok fun b _ => readBucket_answerJson b
  change some <$> (buckets.map Bucket.answerJson).mapM readBucket = _
  rw [hmap]
  rfl

/-- The reader finds the buckets where the body made the engine put them. -/
theorem readAggregation_eq_ok {answer : Json} {a : Aggregation} {buckets : List Bucket}
    (h : (answer.get? "aggregations").bind (·.get? a.name) =
      some (aggregationResult a.name a.json buckets)) :
    readAggregation answer a = .ok (some buckets) := by
  have hread := readBuckets_bucketsJson buckets
  rw [readAggregation, h, aggregationResult, Aggregation.isSome_get?_filter]
  cases a.filters.isEmpty with
  | true => exact hread
  | false =>
    have hinner : (Json.obj [(a.name, bucketsJson buckets)]).get? a.name =
        some (bucketsJson buckets) := List.lookup_cons_self
    simp only [Bool.not_false, if_true, Bool.false_eq_true, if_false, hinner]
    exact hread

/-- When every aggregation has its buckets in the answer, all of them are found. -/
theorem readAggregations_eq_ok {answer : Json} {buckets : String → List Bucket}
    {aggregations : List Aggregation}
    (h : ∀ a ∈ aggregations, readAggregation answer a = .ok (some (buckets a.name)))
    (found : OrderedMap String (List Bucket)) :
    readAggregations answer found aggregations =
      .ok (aggregations.foldl (fun m a => m.insert a.name (buckets a.name)) found) := by
  induction aggregations generalizing found with
  | nil => rfl
  | cons a rest ih =>
    obtain ⟨ha, hrest⟩ := List.forall_mem_cons.mp h
    rw [readAggregations, ha]
    exact ih hrest _

/-! ## Whole answers -/

namespace CompiledQuery

/-- An answer to the body of a query is read for the total, the hits and the buckets. -/
theorem readAnswer_answerTo {q : CompiledQuery} (hn : (q.aggregations.map Aggregation.name).Nodup)
    (shape : TotalShape) (total : UInt64) {hits : List EngineHit} (hs : ∀ h ∈ hits, h.Scored)
    (buckets : String → List Bucket) :
    q.readAnswer (answerTo q.body shape total hits buckets) = .ok ⟨total, hits,
      .ofList (q.aggregations.map fun a => (a.name, buckets a.name))⟩ := by
  have hhits : (hits.map EngineHit.answerJson).mapM readHit = .ok hits :=
    mapM_map_eq_ok fun h hm => readHit_answerJson (hs h hm)
  have haggs := readAggregations_eq_ok (fun a ha =>
    readAggregation_eq_ok (get?_answerTo_body hn shape total hits buckets ha)) .empty
  have hlist : ((hitsJson shape total hits).get? "hits").bind Json.arr? =
    some (hits.map EngineHit.answerJson) := rfl
  have hread : FacetSearch.readAnswer (answerTo q.body shape total hits buckets) q =
      .ok ⟨total, hits, .ofList (q.aggregations.map fun a => (a.name, buckets a.name))⟩ := by
    refine bind_eq_ok_iff.mpr ⟨hitsJson shape total hits, rfl, ?_⟩
    refine bind_eq_ok_iff.mpr ⟨total, by rw [readTotal?_hitsJson]; rfl, ?_⟩
    refine bind_eq_ok_iff.mpr ⟨_, by rw [hlist]; rfl, ?_⟩
    refine bind_eq_ok_iff.mpr ⟨hits, hhits, ?_⟩
    refine bind_eq_ok_iff.mpr ⟨_, haggs, ?_⟩
    rw [OrderedMap.ofList, List.foldl_map]
    rfl
  rw [readAnswer, hread]
  rfl

end CompiledQuery

/-- What is wrong with a bucket is told of its facet. -/
theorem Facet.optionValue_error {facet : Facet} {key : String} {e : SearchError}
    (h : facet.optionValue key = .error e) :
    ∃ what, e = .malformedResponse ("facet '" ++ what) := by
  unfold optionValue at h
  split at h
  · cases h
  · split at h
    · cases h
    · exact ⟨_, by simpa [toString, String.append_assoc] using h.symm⟩
  · split at h
    · cases h
    · exact ⟨_, by simpa [toString, String.append_assoc] using h.symm⟩

namespace Domain

variable {draft : DomainDraft} {d : Domain} {r : Request} {q : CompiledQuery}

/-- Facets whose aggregation is there are not reported as lacking it. -/
theorem decompile_ne_missing {response : EngineResponse}
    (h : ∀ facet ∈ d.facets, ∃ buckets, response.aggregations.get? facet.identifier = some buckets)
    (name : String) : d.decompile r q response ≠
      .error (.malformedResponse s!"missing aggregation for facet '{name}'") := by
  intro he
  obtain hfacets | ⟨_, _, hpure⟩ := bind_eq_error_iff.mp he
  · obtain ⟨facet, hm, hfacet⟩ := exists_error_of_mapM hfacets
    obtain ⟨buckets, hb⟩ := h facet hm
    unfold facetResult at hfacet
    rw [hb] at hfacet
    obtain hoptions | ⟨_, _, hpure⟩ := bind_eq_error_iff.mp hfacet
    · obtain ⟨bucket, _, hoption⟩ := exists_error_of_mapM hoptions
      obtain hvalue | ⟨_, _, hpure⟩ := bind_eq_error_iff.mp hoption
      · obtain ⟨what, hwhat⟩ := Facet.optionValue_error hvalue
        have htext := congrArg String.toList (SearchError.malformedResponse.inj hwhat)
        simp [toString] at htext
      · cases hpure
    · cases hpure
  · cases hpure

/-- An engine that answers the body of a compiled query is understood: whatever it puts into the
answer, in either shape of the total and with each aggregation nested as the body asks for it, is
what the query reads, and no facet lacks its aggregation. -/
theorem answer_read_back (hb : draft.build = .ok d) (hq : d.compile r = .ok q)
    (shape : TotalShape) (total : UInt64) {hits : List EngineHit} (hs : ∀ h ∈ hits, h.Scored)
    (buckets : String → List Bucket) :
    ∃ response, q.readAnswer (answerTo q.body shape total hits buckets) = .ok response ∧
      response.total = total ∧ response.hits = hits ∧
      (∀ facet ∈ d.facets,
        response.aggregations.get? facet.identifier = some (buckets facet.identifier)) ∧
      ∀ name : String, d.decompile r q response ≠
        .error (.malformedResponse s!"missing aggregation for facet '{name}'") := by
  have hnames := aggregations_names_of_compile hq
  have hn := aggregationNames_nodup hb hq
  have hget : ∀ facet ∈ d.facets,
      (OrderedMap.ofList (q.aggregations.map fun a => (a.name, buckets a.name))).get?
        facet.identifier = some (buckets facet.identifier) := by
    intro facet hm
    obtain ⟨a, ha, hname⟩ := List.mem_map.mp (hnames ▸ List.mem_map_of_mem hm)
    rw [OrderedMap.get?, OrderedMap.entries_ofList (by rwa [List.map_map]), ← hname]
    exact lookup_map_key hn ha
  refine ⟨_, CompiledQuery.readAnswer_answerTo hn shape total hs buckets, rfl, rfl, hget, ?_⟩
  exact decompile_ne_missing fun facet hm => ⟨_, hget facet hm⟩

/-- Buckets for the sample request. -/
def verseBuckets (name : String) : List Bucket :=
  if name = "genres" then [⟨"poem", 3⟩, ⟨"novel", 1⟩] else [⟨"Sappho", 2⟩]

/-- Of the two counts asked for, one is direct and one is wrapped. -/
theorem bookshop_answered : bookshopDraft.build = .ok bookshop ∧
    bookshop.compile verseRequest = .ok (bookshop.queryFor verseRequest bookshop.defaultSort) ∧
    ((bookshop.queryFor verseRequest bookshop.defaultSort).aggregations.map fun a =>
      a.filters.isEmpty) = [true, false] ∧
    ∃ response, (bookshop.queryFor verseRequest bookshop.defaultSort).readAnswer
        (answerTo (bookshop.queryFor verseRequest bookshop.defaultSort).body .object 2
          [⟨"ode", some 2.5, .null⟩, ⟨"hymn", none, .obj []⟩] verseBuckets) = .ok response ∧
      response.total = 2 ∧ response.hits = [⟨"ode", some 2.5, .null⟩, ⟨"hymn", none, .obj []⟩] ∧
      response.aggregations.get? "genres" = some [⟨"poem", 3⟩, ⟨"novel", 1⟩] ∧
      response.aggregations.get? "author" = some [⟨"Sappho", 2⟩] := by
  have hb : bookshopDraft.build = .ok bookshop := rfl
  have hq : bookshop.compile verseRequest =
    .ok (bookshop.queryFor verseRequest bookshop.defaultSort) := rfl
  have hfinite : (2.5 : Float).isFinite = true := by decide
  have hs : ∀ h ∈ [⟨"ode", some 2.5, .null⟩, ⟨"hymn", none, .obj []⟩], EngineHit.Scored h := by
    simp [EngineHit.Scored, hfinite]
  obtain ⟨response, hread, htotal, hhits, hget, _⟩ :=
    answer_read_back hb hq .object 2 hs verseBuckets
  exact ⟨hb, hq, rfl, response, hread, htotal, hhits, hget _ List.mem_cons_self,
    hget _ (List.mem_cons_of_mem _ List.mem_cons_self)⟩

end Domain

end FacetSearch
