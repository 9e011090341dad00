import FacetSearch.Search.Body
import FacetSearch.Proofs.JsonObject
import FacetSearch.Proofs.Writable
/-!
# Request bodies

The body of a request tells the whole query, but for the name of its index, the id of its sort
option and the order of its aggregations. Every part of a query is written under keys of its own,
and what the body leaves out, an empty list or an open end, is told by its absence.
-/

namespace FacetSearch

open Json (Alike)

/-! ## Fragments -/

theorem Bound.alike_json_iff {b c : Bound} (hb : b.Writable) (hc : c.Writable) :
    Alike b.json c.json ↔ b = c := by
  cases b with
  | number x =>
    have hx : x.isFinite = true := hb
    cases c with
    | number y => rw [json, json, Json.alike_ofFloat_iff hx hc, number.injEq]
    | date j => simp [json, Json.ofFloat_of_isFinite hx]
  | date i =>
    cases c with
    | number y =>
      have hy : y.isFinite = true := hc
      simp [json, Json.ofFloat_of_isFinite hy]
    | date j =>
      rw [json, json, Json.alike_str_iff, date.injEq]
      exact ⟨Calendar.Instant.render_inj hb hc, congrArg _⟩

namespace Fragment

/-- The clauses of one kind, left out when there are none. -/
def clauses? (fragments : List Fragment) : Option Json :=
  if fragments.isEmpty then none else some (.arr (fragments.map json))

theorem rel_clauses?_iff {fragments others : List Fragment}
    (h : ∀ f ∈ fragments, ∀ g ∈ others, (Alike f.json g.json ↔ f = g)) :
    Option.Rel Alike (clauses? fragments) (clauses? others) ↔ fragments = others := by
  cases fragments with
  | nil => cases others <;> simp [clauses?]
  | cons f rest =>
    cases others with
    | nil => simp [clauses?]
    | cons g others => simpa [clauses?] using Json.alike_arr_map_iff _ _ h

theorem clauseMember_map_json (occur : String) (fragments : List Fragment) :
    clauseMember occur (fragments.map json) =
      ((clauses? fragments).map fun v => (occur, v)).toList := by
  cases fragments <;> rfl

theorem json_range (field : String) (low high : Option Bound) :
    (range field low high).json = .obj [("range", .obj [(field, .obj (Json.present [
      ("gte", low.map Bound.json), ("lt", high.map Bound.json)]))])] := by
  simp [json, boundMembers, Json.present_cons, Function.comp_def]

theorem json_compound (must filter should : List Fragment) (minimum : Option Nat) :
    (compound must filter should minimum).json = .obj [("bool", .obj (Json.present [
      ("must", clauses? must), ("filter", clauses? filter), ("should", clauses? should),
      ("minimum_should_match", minimum.map Json.ofNat)]))] := by
  simp [json, jsonList_eq_map, clauseMember_map_json, Json.present_cons, Function.comp_def]

/-- A fragment is told by its JSON, however deep it is nested. -/
theorem alike_json_iff {f g : Fragment} (hf : f.Writable) (hg : g.Writable) :
    Alike f.json g.json ↔ f = g := by
  induction hf generalizing g with
  | matchAll =>
    cases hg with
    | matchAll => simp [Alike.refl]
    | _ => simp [json]
  | multiMatch query fields =>
    cases hg with
    | multiMatch query' fields' => simp [json]
    | _ => simp [json]
  | term field value =>
    cases hg with
    | term field' value' => simp [json]
    | _ => simp [json]
  | @range field low high hlow hhigh =>
    cases hg with
    | @range field' low' high' hlow' hhigh' =>
      have hl := Json.rel_map_iff low low' fun b hb c hc =>
        Bound.alike_json_iff (hlow b hb) (hlow' c hc)
      have hh := Json.rel_map_iff high high' fun b hb c hc =>
        Bound.alike_json_iff (hhigh b hb) (hhigh' c hc)
      simp [json_range, Json.alike_present_iff, hl, hh]
    | _ => simp [json]
  | @compound must filter should minimum hmust hfilter hshould ihm ihf ihs =>
    cases hg with
    | @compound must' filter' should' minimum' hmust' hfilter' hshould' =>
      have hm := rel_clauses?_iff fun f hf g hg => ihm f hf (hmust' g hg)
      have hfi := rel_clauses?_iff fun f hf g hg => ihf f hf (hfilter' g hg)
      have hs := rel_clauses?_iff fun f hf g hg => ihs f hf (hshould' g hg)
      have hn := Json.rel_map_iff minimum minimum' fun a _ b _ => Json.alike_ofNat_iff
      simp [json_compound, Json.alike_present_iff, hm, hfi, hs, hn]
    | _ => simp [json]

end Fragment

/-! ## Sort clauses -/

theorem SortOrder.name_inj {o p : SortOrder} : o.name = p.name ↔ o = p := by
  cases o <;> cases p <;> simp [name]

theorem SortClause.alike_json_iff {c e : SortClause} : Alike c.json e.json ↔ c = e := by
  obtain ⟨field, order⟩ := c
  obtain ⟨field', order'⟩ := e
  simp [json, SortOrder.name_inj]

/-! ## Aggregations -/

theorem DateBucket.json_eq (b : DateBucket) : b.json = .obj (Json.present [
    ("key", some (.str b.label)), ("from", b.low.map .str), ("to", b.high.map .str)]) := by
  simp [json, Json.present_cons, Function.comp_def]

theorem DateBucket.alike_json_iff {b c : DateBucket} : Alike b.json c.json ↔ b = c := by
  obtain ⟨label, low, high⟩ := b
  obtain ⟨label', low', high'⟩ := c
  have hl := Json.rel_map_iff low low' fun a _ b _ => Json.alike_str_iff
  have hh := Json.rel_map_iff high high' fun a _ b _ => Json.alike_str_iff
  simp [json_eq, Json.alike_present_iff, hl, hh]

theorem AggregationKind.json_histogram (field : String) (interval min max : Float) :
    (histogram field interval min max).json = .obj [("histogram", .obj (Json.present [
      ("field", some (.str field)),
      ("interval", some (.ofFloat interval)),
      ("min_doc_count", some (.int 0)),
      ("extended_bounds", some (.obj [("min", .ofFloat min), ("max", .ofFloat max)]))]))] := rfl

theorem AggregationKind.alike_json_iff {k l : AggregationKind} (hk : k.Writable)
    (hl : l.Writable) : Alike k.json l.json ↔ k = l := by
  cases k with
  | terms field size =>
    cases l with
    | terms field' size' => simp [json]
    | _ => simp [json]
  | histogram field interval min max =>
    cases l with
    | histogram field' interval' min' max' =>
      obtain ⟨hinterval, hmin, hmax⟩ := hk
      obtain ⟨hinterval', hmin', hmax'⟩ := hl
      simp [json_histogram, Json.alike_present_iff, Json.alike_ofFloat_iff, hinterval, hmin, hmax,
        hinterval', hmin', hmax']
    | _ => simp [json]
  | dateRanges field ranges =>
    cases l with
    | dateRanges field' ranges' =>
      have hr := Json.alike_arr_map_iff ranges ranges' fun b _ c _ => DateBucket.alike_json_iff
      simp [json, hr]
    | _ => simp [json]

/-- The body wraps an aggregation in a filter exactly when the query restricts it. -/
theorem Aggregation.isSome_get?_filter (a : Aggregation) :
    (a.json.get? "filter").isSome = !a.filters.isEmpty := by
  unfold json
  cases a.filters.isEmpty with
  | false => rfl
  | true => cases hk : a.kind <;> rfl

/-- Restricted or not, an aggregation is told by its JSON and its name. -/
theorem Aggregation.alike_json_iff {a b : Aggregation} (ha : a.Writable) (hb : b.Writable)
    (hname : a.name = b.name) : Alike a.json b.json ↔ a = b := by
  obtain ⟨name, kind, filters⟩ := a
  obtain ⟨name', kind', filters'⟩ := b
  obtain rfl : name = name' := hname
  have hkind := AggregationKind.alike_json_iff ha.kind hb.kind
  have hfilter := Fragment.alike_json_iff (Fragment.writable_allOf ha.filters)
    (Fragment.writable_allOf hb.filters)
  have hwrapped (h : Alike (mk name kind filters).json (mk name kind' filters').json) :
      filters.isEmpty = filters'.isEmpty := by
    simpa [isSome_get?_filter] using h.isSome_get? "filter"
  cases filters with
  | nil =>
    cases filters' with
    | nil => simpa [json] using hkind
    | cons f' rest' => exact iff_of_false (fun h => nomatch hwrapped h) (by simp)
  | cons f rest =>
    cases filters' with
    | nil => exact iff_of_false (fun h => nomatch hwrapped h) (by simp)
    | cons f' rest' =>
      simpa [json, Fragment.allOf, and_comm] using and_congr hfilter hkind

/-- The aggregations of a query under their names, left out when there are none. -/
def aggregationsJson? (aggregations : List Aggregation) : Option Json :=
  if aggregations.isEmpty then none
  else some (.object (aggregations.map fun a => (a.name, a.json)))

theorem aggregationsJson?_eq {aggregations : List Aggregation}
    (hn : (aggregations.map Aggregation.name).Nodup) : aggregationsJson? aggregations =
      if aggregations.isEmpty then none
      else some (.obj (aggregations.map fun a => (a.name, a.json))) := by
  rw [aggregationsJson?, Json.object_eq_obj (by rwa [List.map_map])]

theorem rel_aggregationsJson?_iff {aggregations others : List Aggregation}
    (hw : ∀ a ∈ aggregations, a.Writable) (hw' : ∀ b ∈ others, b.Writable)
    (hn : (aggregations.map Aggregation.name).Nodup) (hn' : (others.map Aggregation.name).Nodup) :
    Option.Rel Alike (aggregationsJson? aggregations) (aggregationsJson? others) ↔
      aggregations.Perm others := by
  have hobjects := Json.alike_obj_map_iff hn hn' fun a ha b hb =>
    Aggregation.alike_json_iff (hw a ha) (hw' b hb)
  rw [aggregationsJson?_eq hn, aggregationsJson?_eq hn']
  cases aggregations with
  | nil => cases others <;> simp
  | cons a rest =>
    cases others with
    | nil => simp
    | cons b others => simpa using hobjects

/-! ## The whole body -/

namespace CompiledQuery

/-- The members of the body, those that may be left out included. -/
def slots (q : CompiledQuery) : List (String × Option Json) := [
  ("query", some q.query.json),
  ("post_filter", q.postFilter.map Fragment.json),
  ("aggs", aggregationsJson? q.aggregations),
  ("sort", some (.arr (q.sort.map SortClause.json))),
  ("from", some (.ofUInt64 q.start)),
  ("size", some (.ofUInt64 q.size)),
  ("_source", some (.strings q.source)),
  ("track_total_hits", some (.bool true))]

theorem body_eq_present (q : CompiledQuery) : q.body = .obj (Json.present q.slots) := by
  unfold body slots aggregationsJson?
  cases q.aggregations.isEmpty <;> simp [Json.present_cons, Function.comp_def]

theorem get?_aggs_body (q : CompiledQuery) :
    q.body.get? "aggs" = aggregationsJson? q.aggregations := by
  rw [body_eq_present, Json.get?_obj, slots, Json.lookup_present_other _ _ (by decide),
    Json.lookup_present_other _ _ (by decide), Json.lookup_present_self _ (by simp)]

theorem query_inj {q p : CompiledQuery} :
    q.query = p.query ↔ q.relevance = p.relevance ∧ q.filters = p.filters := by
  simp [query]

theorem postFilter_inj {q p : CompiledQuery} :
    q.postFilter = p.postFilter ↔ q.postFilters = p.postFilters := by
  unfold postFilter
  cases q.postFilters <;> cases p.postFilters <;> simp [Fragment.allOf]

/-- A body tells everything about a query that can be written but the index, the sort id and the
order of the aggregations, and a fragment of any shape is told by its JSON. -/
theorem alike_body_iff {q p : CompiledQuery} (hq : q.Writable) (hp : p.Writable) :
    (Alike q.body p.body ↔
      q.relevance = p.relevance ∧ q.filters = p.filters ∧ q.postFilters = p.postFilters ∧
      q.sort = p.sort ∧ q.start = p.start ∧ q.size = p.size ∧ q.source = p.source ∧
      q.aggregations.Perm p.aggregations) ∧
    ∀ f g : Fragment, f.Writable → g.Writable → (Alike f.json g.json ↔ f = g) := by
  refine ⟨?_, fun f g hf hg => Fragment.alike_json_iff hf hg⟩
  have hquery := (Fragment.alike_json_iff hq.query hp.query).trans query_inj
  have hpost := (Json.rel_map_iff q.postFilter p.postFilter fun f hf g hg =>
    Fragment.alike_json_iff (hq.postFilter f hf) (hp.postFilter g hg)).trans postFilter_inj
  have haggs := rel_aggregationsJson?_iff hq.aggregations hp.aggregations hq.names hp.names
  have hsort := Json.alike_arr_map_iff q.sort p.sort fun c _ e _ => SortClause.alike_json_iff
  have hslots := Json.alike_present_iff q.slots p.slots rfl (by simp [slots])
  rw [body_eq_present, body_eq_present, hslots]
  simp only [slots, List.forall₂_cons, Option.rel_some_some, hquery, hpost, haggs, hsort,
    Json.alike_ofUInt64_iff, Json.alike_strings_iff, Json.alike_bool_iff]
  constructor
  · rintro ⟨⟨hrelevance, hfilters⟩, hpost, haggs, hsort, hstart, hsize, hsource, _⟩
    exact ⟨hrelevance, hfilters, hpost, hsort, hstart, hsize, hsource, haggs⟩
  · rintro ⟨hrelevance, hfilters, hpost, hsort, hstart, hsize, hsource, haggs⟩
    exact ⟨⟨hrelevance, hfilters⟩, hpost, haggs, hsort, hstart, hsize, hsource, trivial, .nil⟩

/-- A sample: books from a price on, added since the middle of a leap second, with two counts. -/
def lateBooks (index sortId : String) (aggregations : List Aggregation) : CompiledQuery where
  index := index
  relevance := .matchAll
  filters := [.range "price" (some (.number 2.5)) none]
  postFilters := [.range "added" (some (.date ⟨1483228799, 1500000000⟩)) none]
  aggregations := aggregations
  sortId := sortId
  sort := [⟨"_score", .descending⟩]
  start := 0
  size := 10
  source := ["title"]

def lateCounts : List Aggregation := [
  ⟨"genre", .terms "genre" 10, [.range "added" (some (.date ⟨1483228799, 1500000000⟩)) none]⟩,
  ⟨"price", .histogram "price" 2.5 0.5 9.5, []⟩]

theorem lateBooks_writable (index sortId : String) {aggregations : List Aggregation}
    (h : aggregations.Perm lateCounts) : (lateBooks index sortId aggregations).Writable := by
  have hprice : (Bound.number 2.5).Writable := by decide
  have hadded : (Bound.date ⟨1483228799, 1500000000⟩).Writable := by decide
  refine ⟨.matchAll, ?_, ?_, fun a ha => ?_, ?_⟩
  · simpa [lateBooks] using Fragment.writable_from "price" hprice
  · simpa [lateBooks] using Fragment.writable_from "added" hadded
  · rcases List.mem_pair.mp (h.mem_iff.mp ha) with rfl | rfl
    · exact ⟨trivial, by simpa using Fragment.writable_from "added" hadded⟩
    · exact ⟨by decide, by simp⟩
  · exact (h.map Aggregation.name).nodup_iff.mpr (by decide)

/-- The index, the sort id and the order of the counts are not written; a leap second is told from
the second after it. -/
theorem lateBooks_alike :
    (lateBooks "books" "best" lateCounts).Writable ∧
    (lateBooks "films" "newest" lateCounts.reverse).Writable ∧
    Alike (lateBooks "books" "best" lateCounts).body
      (lateBooks "films" "newest" lateCounts.reverse).body ∧
    ¬ Alike (Fragment.range "added" (some (.date ⟨1483228799, 1500000000⟩)) none).json
      (Fragment.range "added" (some (.date ⟨1483228800, 500000000⟩)) none).json := by
  have hq := lateBooks_writable "books" "best" (List.Perm.refl lateCounts)
  have hp := lateBooks_writable "films" "newest" (List.reverse_perm lateCounts)
  have h := alike_body_iff hq hp
  refine ⟨hq, hp, h.1.mpr ⟨rfl, rfl, rfl, rfl, rfl, rfl, rfl, (List.reverse_perm _).symm⟩, ?_⟩
  have hleap : (Bound.date ⟨1483228799, 1500000000⟩).Writable := by decide
  have hnext : (Bound.date ⟨1483228800, 500000000⟩).Writable := by decide
  have hiff := h.2 _ _ (Fragment.writable_from "added" hleap) (Fragment.writable_from "added" hnext)
  exact mt hiff.mp (by simp)

end CompiledQuery

end FacetSearch
