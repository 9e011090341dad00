import FacetSearch.Proofs.OptionTotal
/-!
# What a query depends on

Two requests to one domain are compared. As far as the fragments are concerned, a request is its
text and what each filter selects: page, ordering, the order of the identifiers and empty
selections leave no mark. The counts of a facet whose filter excludes itself do not even depend on
what that filter selects.
-/

namespace FacetSearch

variable {draft : DomainDraft} {d : Domain} {r r' : Request} {q q' : CompiledQuery}

/-- For each of the filters the requests select the same values in the same order, or none. -/
def Request.AgreeOn (filters : List Filter) (r r' : Request) : Prop :=
  ∀ f ∈ filters, r.selection f.identifier = r'.selection f.identifier

theorem Request.AgreeOn.mono {filters fewer : List Filter} (h : r.AgreeOn filters r')
    (hsub : fewer ⊆ filters) : r.AgreeOn fewer r' :=
  fun f hf => h f (hsub hf)

namespace Domain

/-- A filter sees its own selection only. -/
theorem contribution_congr {f : Filter}
    (h : r.selection f.identifier = r'.selection f.identifier) :
    contribution r f = contribution r' f := by
  rw [contribution, contribution, fragment, fragment, h]

theorem relevance_congr (d : Domain) (h : r.term = r'.term) : d.relevance r = d.relevance r' := by
  rw [relevance, relevance, h]

/-- The fragments of chosen filters depend on what is selected for these. -/
theorem fragmentsOf_congr {p : Filter → Bool} (h : r.AgreeOn (d.filters.filter p) r') :
    d.fragmentsOf r p = d.fragmentsOf r' p :=
  List.filterMap_congr fun f hf => contribution_congr (h f hf)

theorem aggregationFor_congr {facet : Facet}
    (h : r.AgreeOn (d.filters.filter (restrictsCounts facet)) r') :
    d.aggregationFor r facet = d.aggregationFor r' facet := by
  rw [aggregationFor, aggregationFor, fragmentsOf_congr h]

/-- An excluding filter has no part in the main query. -/
theorem query_queryFor_congr (ht : r.term = r'.term) {f : Filter} (hex : f.excludesOwn = true)
    (h : r.AgreeOn (d.filters.filter (· ≠ f)) r') (ordering ordering' : SortOption) :
    (d.queryFor r ordering).query = (d.queryFor r' ordering').query := by
  have hfilters : (d.fragmentsOf r fun g => !g.excludesOwn) =
      d.fragmentsOf r' fun g => !g.excludesOwn := by
    refine fragmentsOf_congr (h.mono fun g hg => ?_)
    obtain ⟨hmem, hkeeps⟩ := List.mem_filter.mp hg
    refine List.mem_filter.mpr ⟨hmem, decide_eq_true ?_⟩
    rintro rfl
    simp [hex] at hkeeps
  simp only [CompiledQuery.query, queryFor, relevance_congr d ht, hfilters]

/-- The filter behind a facet has no part in what its aggregation asks for. -/
theorem aggregationFor_congr_of_backing (hb : draft.build = .ok d) {facet : Facet} {f : Filter}
    (hf : d.backing? facet = some f) (h : r.AgreeOn (d.filters.filter (· ≠ f)) r') :
    d.aggregationFor r facet = d.aggregationFor r' facet := by
  refine aggregationFor_congr (h.mono fun g hg => ?_)
  obtain ⟨hmem, hrestricts⟩ := List.mem_filter.mp hg
  refine List.mem_filter.mpr ⟨hmem, decide_eq_true ?_⟩
  rintro rfl
  obtain ⟨_, hid⟩ := (backing?_eq_some_iff hb).mp hf
  simp [restrictsCounts, hid] at hrestricts

/-- Two requests that compile and have the same text are compared. When they select the same for
every filter, their queries differ in page and ordering at most. When they select the same for
every filter but one that excludes itself, their main queries are the same, and so is what each
facet backed by that filter asks the engine to count. -/
theorem compile_agree (hb : draft.build = .ok d) (hq : d.compile r = .ok q)
    (hq' : d.compile r' = .ok q') (ht : r.term = r'.term) :
    (r.AgreeOn d.filters r' →
      q.index = q'.index ∧ q.relevance = q'.relevance ∧ q.filters = q'.filters ∧
        q.postFilters = q'.postFilters ∧ q.aggregations = q'.aggregations ∧
        q.source = q'.source) ∧
    ∀ f ∈ d.filters, f.excludesOwn = true → r.AgreeOn (d.filters.filter (· ≠ f)) r' →
      q.query = q'.query ∧
        ∀ facet ∈ d.facets, d.backing? facet = some f → ∃ a : Aggregation,
          q.aggregations.find? (fun b => decide (b.name = facet.identifier)) = some a ∧
          q'.aggregations.find? (fun b => decide (b.name = facet.identifier)) = some a := by
  obtain ⟨_, _, _, ordering, _, rfl⟩ := compile_eq_ok_iff.mp hq
  obtain ⟨_, _, _, ordering', _, rfl⟩ := compile_eq_ok_iff.mp hq'
  constructor
  · intro h
    have hsome (p : Filter → Bool) : d.fragmentsOf r p = d.fragmentsOf r' p :=
      fragmentsOf_congr (h.mono (List.filter_subset_self _))
    refine ⟨rfl, relevance_congr d ht, hsome _, hsome _, ?_, rfl⟩
    exact List.map_congr_left fun facet _ =>
      aggregationFor_congr (h.mono (List.filter_subset_self _))
  · intro f _ hex h
    refine ⟨query_queryFor_congr ht hex h ordering ordering', fun facet hm hback => ?_⟩
    refine ⟨d.aggregationFor r facet, find?_aggregationFor hb hm r ordering, ?_⟩
    rw [aggregationFor_congr_of_backing hb hback h]
    exact find?_aggregationFor hb hm r' ordering'

/-- The same books on another page, with a shelf that selects nothing; and other genres. -/
theorem bookshop_agree : bookshopDraft.build = .ok bookshop ∧
    ∃ q q' q'', bookshop.compile verseRequest = .ok q ∧
      bookshop.compile ((verseRequest.withPage 20 5).clear "shelf") = .ok q' ∧
      bookshop.compile (verseRequest.choose "genre" "novel") = .ok q'' ∧
      verseRequest.AgreeOn bookshop.filters ((verseRequest.withPage 20 5).clear "shelf") ∧
      q.postFilters = q'.postFilters ∧ q.query = q''.query := by
  have hb : bookshopDraft.build = .ok bookshop := rfl
  have hsame : verseRequest.AgreeOn bookshop.filters
      ((verseRequest.withPage 20 5).clear "shelf") := by
    rintro f (_ | ⟨_, _ | ⟨_, _ | ⟨_, ⟨⟩⟩⟩⟩) <;> rfl
  have hothers : verseRequest.AgreeOn
      (bookshop.filters.filter (· ≠ .term "genre" "genre" "Genre" true true))
      (verseRequest.choose "genre" "novel") := by
    rintro f (_ | ⟨_, _ | ⟨_, ⟨⟩⟩⟩) <;> rfl
  have hq : bookshop.compile verseRequest =
    .ok (bookshop.queryFor verseRequest bookshop.defaultSort) := rfl
  have hq' : bookshop.compile ((verseRequest.withPage 20 5).clear "shelf") = .ok _ := rfl
  have hq'' : bookshop.compile (verseRequest.choose "genre" "novel") = .ok _ := rfl
  have hpage := (compile_agree hb hq hq' rfl).1 hsame
  have hgenre := (compile_agree hb hq hq'' rfl).2 _ (.head _) rfl hothers
  exact ⟨hb, _, _, _, hq, hq', hq'', hsame, hpage.2.2.2.1, hgenre.1⟩

end Domain

end FacetSearch
