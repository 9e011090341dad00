import FacetSearch.Proofs.BuiltDomain
import FacetSearch.Proofs.Selection
/-!
# Compiled queries

When a request compiles and to which query. The fragments of a compiled query are those of the
filters of the domain, in domain order: in the filters for a filter that restricts its own counts,
in the post-filters for one that does not.
-/

namespace FacetSearch

namespace Domain

/-! ## The single checks -/

theorem checkPage_eq_ok_iff {page : PageWindow} :
    checkPage page = .ok () ↔ 1 ≤ page.size ∧ page.size ≤ 100 := by
  unfold checkPage
  split <;> simp_all

/-- Every identifier of the request names a filter. -/
theorem checkIdentifiers_eq_ok_iff {d : Domain} {r : Request} :
    d.checkIdentifiers r = .ok () ↔ ∀ k ∈ r.filters.keys, ∃ f, d.filter? k = some f := by
  have hfind := List.find?_eq_none (l := r.filters.keys) (p := fun k => (d.filter? k).isNone)
  simp only [← Option.isSome_iff_exists, Bool.not_eq_true, Option.isNone_eq_false_iff] at hfind ⊢
  rw [← hfind]
  unfold checkIdentifiers
  split <;> simp_all

/-! ## The fragments -/

/-- The fragment that a filter adds to the query, if it adds one. -/
def contribution (r : Request) (f : Filter) : Option Fragment :=
  match fragment r f with
  | .ok o => o
  | .error _ => none

theorem contribution_eq_of_ok {r : Request} {f : Filter} {o : Option Fragment}
    (h : fragment r f = .ok o) : contribution r f = o := by
  rw [contribution, h]

/-- Every filter of the domain can read the values selected for it. -/
def Readable (d : Domain) (r : Request) : Prop :=
  ∀ f ∈ d.filters, fragment r f = .ok (contribution r f)

theorem activeFilters_eq_ok_iff {d : Domain} {r : Request} {active : List (Filter × Fragment)} :
    d.activeFilters r = .ok active ↔
      d.Readable r ∧ active = d.filters.filterMap fun f => (contribution r f).map fun c => (f, c) := by
  have hpairs (hr : d.Readable r) :
      (d.filters.mapM fun f => do return (f, ← fragment r f)) =
        .ok (d.filters.map fun f => (f, contribution r f)) :=
    mapM_eq_ok_map fun f hf => by rw [hr f hf]; rfl
  unfold activeFilters
  rw [bind_eq_ok_iff]
  constructor
  · rintro ⟨pairs, hp, ha⟩
    have hr : d.Readable r := by
      intro f hf
      obtain ⟨_, _, hb⟩ := exists_ok_of_mapM hp hf
      obtain ⟨o, ho, _⟩ := bind_eq_ok_iff.mp hb
      rw [contribution_eq_of_ok ho, ho]
    refine ⟨hr, ?_⟩
    rw [hpairs hr] at hp
    obtain rfl := Except.ok.inj hp
    rw [← pure_eq_ok_iff.mp ha, List.filterMap_map]
    rfl
  · rintro ⟨hr, rfl⟩
    refine ⟨_, hpairs hr, ?_⟩
    rw [List.filterMap_map]
    rfl

/-- The fragments of the filters with a property, in domain order. -/
def fragmentsOf (d : Domain) (r : Request) (p : Filter → Bool) : List Fragment :=
  (d.filters.filter p).filterMap (contribution r)

/-- Choosing among the active filters is choosing among all filters. -/
theorem map_snd_filter_active (d : Domain) (r : Request) (p : Filter → Bool) :
    ((d.filters.filterMap fun f => (contribution r f).map fun c => (f, c)).filter
      fun x => p x.1).map Prod.snd = d.fragmentsOf r p := by
  unfold fragmentsOf
  induction d.filters with
  | nil => rfl
  | cons f rest ih =>
    cases hc : contribution r f <;> cases hp : p f <;> simp [hc, hp, ih]

/-- The fragments of filters hold exactly when each of the filters admits the document. -/
theorem fragmentsOf_hold_iff {δ : Type} {d : Domain} {r : Request} (hr : d.Readable r)
    (p : Filter → Bool) (I : Interpretation δ) (doc : δ) :
    (∀ c ∈ d.fragmentsOf r p, c.holds I doc = true) ↔
      ∀ f ∈ d.filters, p f = true → f.Admits r I doc := by
  simp only [fragmentsOf, List.mem_filterMap, List.mem_filter, forall_exists_index, and_imp]
  constructor
  · intro h f hf hp
    exact (fragment_holds_iff (hr f hf) I doc).mp fun c hc => h c f hf hp hc
  · intro h c f hf hp hc
    exact (fragment_holds_iff (hr f hf) I doc).mpr (h f hf hp) c hc

/-! ## The whole query -/

/-- An excluding filter restricts the counts of the facets that it does not back. -/
def restrictsCounts (facet : Facet) (f : Filter) : Bool :=
  f.excludesOwn && decide (facet.filter ≠ some f.identifier)

/-- The counts of a facet, over the documents that the filters restricting it admit. -/
def aggregationFor (d : Domain) (r : Request) (facet : Facet) : Aggregation :=
  facet.aggregation (d.fragmentsOf r (restrictsCounts facet))

/-- The query for a request under an ordering. -/
def queryFor (d : Domain) (r : Request) (ordering : SortOption) : CompiledQuery where
  index := d.index
  relevance := d.relevance r
  filters := d.fragmentsOf r fun f => !f.excludesOwn
  postFilters := d.fragmentsOf r Filter.excludesOwn
  aggregations := d.facets.map (d.aggregationFor r)
  sortId := ordering.id
  sort := ordering.clauses
  start := r.page.start
  size := r.page.size
  source := d.returnedFields

theorem aggregations_names (d : Domain) (r : Request) (ordering : SortOption) :
    (d.queryFor r ordering).aggregations.map Aggregation.name =
      d.facets.map Facet.identifier := by
  rw [queryFor, List.map_map]
  rfl

/-- The aggregation built from the active excluding filters is that of the restricting ones. -/
theorem aggregation_active (d : Domain) (r : Request) (facet : Facet) :
    aggregation ((d.filters.filterMap fun f => (contribution r f).map fun c => (f, c)).filter
      fun x => x.1.excludesOwn) facet = d.aggregationFor r facet := by
  rw [aggregation, List.filter_filter, aggregationFor, ← map_snd_filter_active]
  congr 3
  funext x
  rw [restrictsCounts, Bool.and_comm]

/-- Compiling succeeds exactly when every check does, and gives the query of the request. -/
theorem compile_eq_ok_iff {d : Domain} {r : Request} {q : CompiledQuery} :
    d.compile r = .ok q ↔
      checkPage r.page = .ok () ∧ d.checkIdentifiers r = .ok () ∧ d.Readable r ∧
        ∃ ordering, d.ordering r = .ok ordering ∧ q = d.queryFor r ordering := by
  have haggregations : d.facets.map (aggregation
      ((d.filters.filterMap fun f => (contribution r f).map fun c => (f, c)).filter
        fun x => x.1.excludesOwn)) = d.facets.map (d.aggregationFor r) :=
    List.map_congr_left fun facet _ => d.aggregation_active r facet
  have hfilters := d.map_snd_filter_active r fun f => !f.excludesOwn
  have hpost := d.map_snd_filter_active r Filter.excludesOwn
  unfold compile
  simp only [bind_eq_ok_iff, activeFilters_eq_ok_iff, pure_eq_ok_iff]
  constructor
  · rintro ⟨⟨⟩, hpage, ⟨⟩, hids, _, ⟨hr, rfl⟩, ordering, hsort, rfl⟩
    refine ⟨hpage, hids, hr, ordering, hsort, ?_⟩
    rw [haggregations, hfilters, hpost]
    rfl
  · rintro ⟨hpage, hids, hr, ordering, hsort, rfl⟩
    refine ⟨(), hpage, (), hids, _, ⟨hr, rfl⟩, ordering, hsort, ?_⟩
    rw [haggregations, hfilters, hpost]
    rfl

theorem aggregations_names_of_compile {d : Domain} {r : Request} {q : CompiledQuery}
    (hq : d.compile r = .ok q) :
    q.aggregations.map Aggregation.name = d.facets.map Facet.identifier := by
  obtain ⟨_, _, _, ordering, _, rfl⟩ := compile_eq_ok_iff.mp hq
  exact d.aggregations_names r ordering

/-- No two aggregations of a query to a built domain share a name. -/
theorem aggregationNames_nodup {draft : DomainDraft} {d : Domain} {r : Request}
    {q : CompiledQuery} (hb : draft.build = .ok d) (hq : d.compile r = .ok q) :
    (q.aggregations.map Aggregation.name).Nodup := by
  rw [aggregations_names_of_compile hq, facetIdentifiers_eq hb]
  exact facetIdentifiers_nodup hb

end Domain

/-- A request to the bookshop: a text, two values of one filter and one of another. -/
def verseRequest : Request :=
  ((Request.withQuery {} " Sea ").select "genre" "poem" |>.select "genre" "play").select
    "author" "Sappho"

end FacetSearch
