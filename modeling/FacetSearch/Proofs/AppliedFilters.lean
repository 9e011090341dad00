import FacetSearch.Search.Results
import FacetSearch.Proofs.CompiledQuery
import Mathlib.Data.List.Basic
/-!
# Applied filters

What a client is told about the filters applied. The values listed under an identifier are those
that the query was compiled from, the options marked as selected are the ones listed, and the list
follows the request.
-/

namespace FacetSearch

/-- When each group holds items of its own key, the items with one key are one group. -/
theorem OrderedMap.filter_groups {α κ ν : Type} [DecidableEq κ] (m : OrderedMap κ ν)
    {group : κ × ν → List α} {key : α → κ} (hg : ∀ entry, ∀ a ∈ group entry, key a = entry.1)
    (k : κ) :
    (m.entries.flatMap group).filter (fun a => decide (key a = k)) =
      ((m.get? k).map fun value => group (k, value)).getD [] := by
  obtain ⟨entries, hn⟩ := m
  unfold get?
  induction entries with
  | nil => rfl
  | cons entry rest ih =>
    obtain ⟨k', value⟩ := entry
    rw [List.map_cons, List.nodup_cons] at hn
    rw [List.flatMap_cons, List.filter_append, ih hn.2]
    by_cases hk : k' = k
    · subst hk
      have hself : (group (k', value)).filter (fun a => decide (key a = k')) = group (k', value) :=
        List.filter_eq_self.mpr fun a ha => decide_eq_true (hg _ a ha)
      have hnone : rest.lookup k' = none := by
        rw [List.lookup_eq_none_iff]
        intro e he
        exact bne_iff_ne.mpr fun h => hn.1 (List.mem_map.mpr ⟨e, he, h.symm⟩)
      simp [hself, hnone]
    · have hnil : (group (k', value)).filter (fun a => decide (key a = k)) = [] :=
        List.filter_eq_nil_iff.mpr fun a ha => by simpa [hg _ a ha] using hk
      have hbeq : (k == k') = false := by simpa using fun h => hk h.symm
      rw [hnil, List.nil_append, List.lookup_cons, hbeq]

/-- The values listed under an identifier, in order. -/
def Results.valuesUnder (results : Results) (identifier : String) : List String :=
  (results.appliedFilters.filter fun a => decide (a.identifier = identifier)).map
    AppliedFilter.value

theorem Results.valuesUnder_eq_nil_iff {results : Results} {identifier : String} :
    results.valuesUnder identifier = [] ↔
      ∀ a ∈ results.appliedFilters, a.identifier ≠ identifier := by
  simp [valuesUnder]

theorem Results.mem_valuesUnder {results : Results} {identifier value : String} :
    value ∈ results.valuesUnder identifier ↔
      ∃ a ∈ results.appliedFilters, a.identifier = identifier ∧ a.value = value := by
  simp [valuesUnder, and_assoc]

namespace Domain

variable {draft : DomainDraft} {d : Domain} {r : Request} {q : CompiledQuery}
  {response : EngineResponse} {results : Results}

/-- The descriptions of the values that one entry of a request selects. -/
def describeEntry (d : Domain) (entry : String × Selection) : List AppliedFilter :=
  match d.filter? entry.1 with
  | some f => f.describe entry.2
  | none => []

theorem identifier_of_mem_describeEntry (entry : String × Selection) (a : AppliedFilter)
    (h : a ∈ d.describeEntry entry) : a.identifier = entry.1 := by
  unfold describeEntry at h
  cases hf : d.filter? entry.1 with
  | none => simp [hf] at h
  | some f =>
    have hid : f.identifier = entry.1 := by simpa using List.find?_some hf
    obtain ⟨value, _, rfl⟩ := List.mem_map.mp (by simpa only [hf, Filter.describe] using h)
    exact hid

theorem appliedFilters_eq_flatMap (d : Domain) (r : Request) :
    d.appliedFilters r = r.filters.entries.flatMap d.describeEntry := rfl

/-- The values described for an identifier are those that count for the filter it names. -/
theorem map_value_describeEntry {f : Filter} (hf : d.filter? f.identifier = some f)
    (r : Request) :
    ((d.appliedFilters r).filter fun a => decide (a.identifier = f.identifier)).map
      AppliedFilter.value = r.honoured f := by
  rw [appliedFilters_eq_flatMap, OrderedMap.filter_groups _ identifier_of_mem_describeEntry]
  cases hv : r.filters.get? f.identifier with
  | none =>
    have hnone : r.selection f.identifier = none := by simp [Request.selection, hv]
    rw [Request.honoured_eq_nil_iff.mpr hnone]
    rfl
  | some values =>
    rw [Request.honoured_eq_effectiveValues hv]
    simp only [Option.map_some, Option.getD_some, describeEntry, hf, Filter.describe, List.map_map]
    exact List.map_id _

/-- The list of applied filters is the concatenation of its groups in request order. -/
theorem appliedFilters_grouped (d : Domain) (r : Request) :
    d.appliedFilters r = r.filters.keys.flatMap fun k =>
      (d.appliedFilters r).filter fun a => decide (a.identifier = k) := by
  rw [OrderedMap.keys, List.flatMap_map]
  conv_lhs => rw [appliedFilters_eq_flatMap]
  refine List.flatMap_congr fun entry he => ?_
  rw [appliedFilters_eq_flatMap, OrderedMap.filter_groups _ identifier_of_mem_describeEntry,
    OrderedMap.get?_eq_some_iff.mpr he]
  rfl

theorem appliedFilters_of_decompile (h : d.decompile r q response = .ok results) :
    results.appliedFilters = d.appliedFilters r := by
  obtain ⟨_, _, hres⟩ := bind_eq_ok_iff.mp h
  rw [← pure_eq_ok_iff.mp hres]

theorem facets_of_decompile (h : d.decompile r q response = .ok results) :
    List.Forall₂ (fun facet result => d.facetResult r response facet = .ok result)
      d.facets results.facets := by
  obtain ⟨facets, hf, hres⟩ := bind_eq_ok_iff.mp h
  rw [← pure_eq_ok_iff.mp hres]
  exact mapM_eq_ok_iff.mp hf

/-- The options of a facet are marked by membership of their value. -/
theorem options_of_facetResult {facet : Facet} {result : FacetResult}
    (h : d.facetResult r response facet = .ok result) :
    result.identifier = facet.identifier ∧ ∀ option ∈ result.options,
      (option.selected = true ↔ option.value ∈ d.selectedValues r facet) := by
  unfold facetResult at h
  cases hb : response.aggregations.get? facet.identifier with
  | none =>
    rw [hb] at h
    cases h
  | some buckets =>
    rw [hb] at h
    obtain ⟨options, ho, hr⟩ := bind_eq_ok_iff.mp h
    obtain rfl := pure_eq_ok_iff.mp hr
    refine ⟨rfl, fun option hm => ?_⟩
    obtain ⟨bucket, _, hopt⟩ := exists_item_of_mapM ho hm
    obtain ⟨⟨value, label⟩, _, hv⟩ := bind_eq_ok_iff.mp hopt
    obtain rfl := pure_eq_ok_iff.mp hv
    exact List.contains_iff_mem

/-- The values marked for a facet are those that count for the filter behind it. -/
theorem selectedValues_eq (hb : draft.build = .ok d) {facet : Facet} {f : Filter}
    (h : d.backing? facet = some f) : d.selectedValues r facet = r.honoured f := by
  obtain ⟨hmem, hf⟩ := (backing?_eq_some_iff hb).mp h
  have hfind := (filter?_eq_some_iff hb).mpr ⟨hmem, rfl⟩
  unfold selectedValues Request.honoured
  simp only [hf, hfind, Option.bind_eq_bind, Option.bind_some]
  cases r.selection f.identifier <;> rfl

/-- The values listed for a filter are those that the query honoured for it. -/
theorem valuesUnder_of_decompile (hb : draft.build = .ok d)
    (h : d.decompile r q response = .ok results) {f : Filter} (hf : f ∈ d.filters) :
    results.valuesUnder f.identifier = r.honoured f := by
  rw [Results.valuesUnder, appliedFilters_of_decompile h]
  exact map_value_describeEntry ((filter?_eq_some_iff hb).mpr ⟨hf, rfl⟩) r

/-- The fragment of a filter is made from the values listed for it, and there is one exactly when
some value is listed. -/
theorem contribution_of_listed (hb : draft.build = .ok d) (hr : d.Readable r)
    (h : d.decompile r q response = .ok results) {f : Filter} (hf : f ∈ d.filters) :
    ((results.valuesUnder f.identifier).mapM f.clause).map Fragment.anyOf =
        .ok (contribution r f) ∧
      ((contribution r f).isSome = true ↔
        ∃ a ∈ results.appliedFilters, a.identifier = f.identifier) := by
  have hvalues := valuesUnder_of_decompile hb h hf
  constructor
  · rw [hvalues]
    exact map_eq_ok_iff.mpr (fragment_eq_ok_iff.mp (hr f hf))
  · rw [Option.isSome_iff_ne_none, ne_eq, fragment_eq_none_iff (hr f hf), ← hvalues,
      Results.valuesUnder_eq_nil_iff]
    simp

/-- An option is marked exactly when its value is listed for the filter behind the facet. -/
theorem selected_iff_listed (hb : draft.build = .ok d)
    (h : d.decompile r q response = .ok results) {facet : Facet} (hm : facet ∈ d.facets)
    {value : String} : value ∈ d.selectedValues r facet ↔
      ∃ a ∈ results.appliedFilters, facet.filter = some a.identifier ∧ a.value = value := by
  obtain ⟨f, hf⟩ := exists_backing? hb hm
  obtain ⟨hmem, hid⟩ := (backing?_eq_some_iff hb).mp hf
  rw [selectedValues_eq hb hf, ← valuesUnder_of_decompile hb h hmem, Results.mem_valuesUnder, hid]
  simp only [Option.some.injEq, eq_comm]

/-- In a built domain the results tell of each filter what the query did with it. The values
listed for it, in order, are those whose clauses make up its fragment, which stands among the
filters or the post-filters; one is listed exactly when there is a fragment. An option of a facet
is marked exactly when its value is listed for the filter behind the facet. The list goes through
the identifiers in the order of the request. -/
theorem appliedFilters_agree (hb : draft.build = .ok d) (hq : d.compile r = .ok q)
    (h : d.decompile r q response = .ok results) :
    (∃ fragments : Filter → Option Fragment,
      (∀ f ∈ d.filters,
        ((results.valuesUnder f.identifier).mapM f.clause).map Fragment.anyOf = .ok (fragments f) ∧
        ((fragments f).isSome = true ↔
          ∃ a ∈ results.appliedFilters, a.identifier = f.identifier)) ∧
      q.filters = (d.filters.filter fun f => !f.excludesOwn).filterMap fragments ∧
      q.postFilters = (d.filters.filter Filter.excludesOwn).filterMap fragments) ∧
    List.Forall₂ (fun facet result => result.identifier = facet.identifier ∧
      ∀ option ∈ result.options, (option.selected = true ↔ ∃ a ∈ results.appliedFilters,
        facet.filter = some a.identifier ∧ a.value = option.value)) d.facets results.facets ∧
    results.appliedFilters = r.filters.keys.flatMap fun k =>
      results.appliedFilters.filter fun a => decide (a.identifier = k) := by
  refine ⟨?_, ?_, ?_⟩
  · obtain ⟨_, _, hr, ordering, _, rfl⟩ := compile_eq_ok_iff.mp hq
    exact ⟨contribution r, fun f hf => contribution_of_listed hb hr h hf, rfl, rfl⟩
  · have hpairs := (List.forall₂_and_left d.facets results.facets).mpr
      ⟨fun _ hm => hm, facets_of_decompile h⟩
    refine hpairs.imp fun facet result ⟨hm, hresult⟩ => ?_
    obtain ⟨hid, hmarked⟩ := options_of_facetResult hresult
    exact ⟨hid, fun option ho => (hmarked option ho).trans (selected_iff_listed hb h hm)⟩
  · rw [appliedFilters_of_decompile h]
    exact d.appliedFilters_grouped r

/-- Counts of the sample request: one genre that is selected and one that is not. -/
def verseAnswer : EngineResponse :=
  ⟨2, [], .ofList [("genres", [⟨"poem", 3⟩, ⟨"novel", 1⟩]), ("author", [⟨"Sappho", 2⟩])]⟩

theorem bookshop_listed : bookshopDraft.build = .ok bookshop ∧
    bookshop.compile verseRequest = .ok (bookshop.queryFor verseRequest bookshop.defaultSort) ∧
    ∃ results, bookshop.decompile verseRequest
        (bookshop.queryFor verseRequest bookshop.defaultSort) verseAnswer = .ok results ∧
      results.valuesUnder "genre" = ["poem", "play"] ∧
      List.Forall₂ (fun facet result => result.identifier = facet.identifier ∧
        ∀ option ∈ result.options, (option.selected = true ↔ ∃ a ∈ results.appliedFilters,
          facet.filter = some a.identifier ∧ a.value = option.value))
        bookshop.facets results.facets := by
  have hb : bookshopDraft.build = .ok bookshop := rfl
  have hq : bookshop.compile verseRequest =
    .ok (bookshop.queryFor verseRequest bookshop.defaultSort) := rfl
  have hr : bookshop.decompile verseRequest
    (bookshop.queryFor verseRequest bookshop.defaultSort) verseAnswer = .ok _ := rfl
  exact ⟨hb, hq, _, hr, rfl, (appliedFilters_agree hb hq hr).2.1⟩

end Domain

end FacetSearch
