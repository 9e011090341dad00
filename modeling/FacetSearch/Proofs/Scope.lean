import FacetSearch.Proofs.CompiledQuery
/-!
# Which documents a query reaches

Two readings of a compiled query. A document is a hit when it is relevant and every filter admits
it. A facet counts it when it is relevant and every filter admits it but, possibly, the facet's
own: one that leaves its selection out of the counts it backs is not asked.
-/

namespace FacetSearch

variable {δ : Type} {draft : DomainDraft} {d : Domain} {r : Request} {q : CompiledQuery}

/-- The relevance clause: the free text, when there is any, matches in the relevance fields, when
there are any. -/
def Domain.Relevant (d : Domain) (r : Request) (I : Interpretation δ) (doc : δ) : Prop :=
  ∀ term, r.term = some term → d.relevanceFields ≠ [] →
    I.multiMatch term d.relevanceFields doc = true

namespace Domain

theorem relevance_holds_iff (I : Interpretation δ) (doc : δ) :
    (d.relevance r).holds I doc = true ↔ d.Relevant r I doc := by
  unfold relevance Relevant
  cases ht : r.term with
  | none => simp
  | some term =>
    by_cases hf : d.relevanceFields = []
    · simp [hf]
    · simp [hf]

/-- Filters and post-filters together ask every filter of the domain once. -/
theorem queryFor_returns_iff (hr : d.Readable r) (ordering : SortOption) (I : Interpretation δ)
    (doc : δ) :
    (d.queryFor r ordering).returns I doc = true ↔
      d.Relevant r I doc ∧ ∀ f ∈ d.filters, f.Admits r I doc := by
  rw [CompiledQuery.returns_iff, List.forall_mem_append]
  change (d.relevance r).holds I doc = true ∧
    (∀ c ∈ d.fragmentsOf r fun f => !f.excludesOwn, c.holds I doc = true) ∧
    (∀ c ∈ d.fragmentsOf r Filter.excludesOwn, c.holds I doc = true) ↔ _
  rw [relevance_holds_iff, fragmentsOf_hold_iff hr, fragmentsOf_hold_iff hr]
  refine and_congr_right fun _ => ?_
  constructor
  · rintro ⟨hin, hex⟩ f hf
    cases he : f.excludesOwn with
    | false => exact hin f hf (by simp [he])
    | true => exact hex f hf he
  · intro h
    exact ⟨fun f hf _ => h f hf, fun f hf _ => h f hf⟩

/-- Filters and the restrictions of a facet together ask every filter of the domain once, but not
an excluding one that backs the facet. -/
theorem queryFor_counts_iff (hb : draft.build = .ok d) (hr : d.Readable r)
    (ordering : SortOption) (facet : Facet) (I : Interpretation δ) (doc : δ) :
    (d.queryFor r ordering).counts (d.aggregationFor r facet) I doc = true ↔
      d.Relevant r I doc ∧ ∀ f ∈ d.filters,
        ¬ (d.backing? facet = some f ∧ f.excludesOwn = true) → f.Admits r I doc := by
  rw [CompiledQuery.counts_iff, List.forall_mem_append]
  change (d.relevance r).holds I doc = true ∧
    (∀ c ∈ d.fragmentsOf r fun f => !f.excludesOwn, c.holds I doc = true) ∧
    (∀ c ∈ d.fragmentsOf r (restrictsCounts facet), c.holds I doc = true) ↔ _
  rw [relevance_holds_iff, fragmentsOf_hold_iff hr, fragmentsOf_hold_iff hr]
  refine and_congr_right fun _ => ?_
  -- the code compares identifiers, the statement filters: they agree as identifiers are distinct
  have hback (f : Filter) (hf : f ∈ d.filters) :
      d.backing? facet = some f ↔ facet.filter = some f.identifier := by
    rw [backing?_eq_some_iff hb]
    exact and_iff_right hf
  constructor
  · rintro ⟨hin, hex⟩ f hf hnot
    cases he : f.excludesOwn with
    | false => exact hin f hf (by simp [he])
    | true =>
      refine hex f hf ?_
      simpa [restrictsCounts, he, hback f hf] using hnot
  · intro h
    refine ⟨fun f hf hkept => h f hf ?_, fun f hf hasked => h f hf ?_⟩
    · rintro ⟨_, hex⟩
      simp [hex] at hkept
    · rintro ⟨hown, _⟩
      simp [restrictsCounts, (hback f hf).mp hown] at hasked

/-- The hits of a query are the relevant documents that every filter of the domain admits, be its
fragment among the filters or among the post-filters. -/
theorem returns_iff_admits (hq : d.compile r = .ok q) (I : Interpretation δ) (doc : δ) :
    q.returns I doc = true ↔
      d.Relevant r I doc ∧ ∀ f ∈ d.filters, f.Admits r I doc := by
  obtain ⟨_, _, hr, ordering, _, rfl⟩ := compile_eq_ok_iff.mp hq
  exact queryFor_returns_iff hr ordering I doc

/-- A play by the author passes both selections. -/
theorem bookshop_hit : ∃ q, bookshop.compile verseRequest = .ok q ∧
    q.returns pairsEngine.reading [("title", "Sea"), ("genre", "play"), ("author", "Sappho")] =
      true ∧
    ∀ f ∈ bookshop.filters, f.Admits verseRequest pairsEngine.reading
      [("title", "Sea"), ("genre", "play"), ("author", "Sappho")] :=
  ⟨_, rfl, rfl, ((returns_iff_admits rfl _ _).mp rfl).2⟩

/-- The aggregations of a query are those of the facets, one each, in declared order and under
their own identifiers. A facet counts the relevant documents that every filter of the domain
admits; only its backing filter is passed over, when that one leaves out its own selection. -/
theorem aggregations_count (hb : draft.build = .ok d) (hq : d.compile r = .ok q) :
    q.aggregations.map Aggregation.name = draft.facets.map Facet.identifier ∧
      (q.aggregations.map Aggregation.name).Nodup ∧
      List.Forall₂ (fun facet a => a.name = facet.identifier ∧
        ∀ (I : Interpretation δ) (doc : δ), q.counts a I doc = true ↔
          d.Relevant r I doc ∧ ∀ f ∈ d.filters,
            ¬ (d.backing? facet = some f ∧ f.excludesOwn = true) → f.Admits r I doc)
        d.facets q.aggregations := by
  obtain ⟨_, _, hr, ordering, _, rfl⟩ := compile_eq_ok_iff.mp hq
  have hnames : (d.queryFor r ordering).aggregations.map Aggregation.name =
      draft.facets.map Facet.identifier := by
    rw [aggregations_names, facetIdentifiers_eq hb]
  refine ⟨hnames, ?_, ?_⟩
  · rw [hnames]
    exact facetIdentifiers_nodup hb
  · refine List.forall₂_map_right_iff.mpr (List.forall₂_same.mpr fun facet _ => ⟨rfl, ?_⟩)
    exact queryFor_counts_iff hb hr ordering facet

/-- The genres are counted whatever genres are selected, the authors are not. -/
theorem bookshop_counts : bookshopDraft.build = .ok bookshop ∧
    ∃ q, bookshop.compile verseRequest = .ok q ∧
      q.aggregations.map Aggregation.name = ["genres", "author"] ∧
      List.Forall₂ (fun facet a => a.name = facet.identifier ∧
        ∀ doc, q.counts a pairsEngine.reading doc = true ↔
          bookshop.Relevant verseRequest pairsEngine.reading doc ∧ ∀ f ∈ bookshop.filters,
            ¬ (bookshop.backing? facet = some f ∧ f.excludesOwn = true) →
              f.Admits verseRequest pairsEngine.reading doc)
        bookshop.facets q.aggregations := by
  refine ⟨rfl, _, rfl, rfl, ?_⟩
  have hb : bookshopDraft.build = .ok bookshop := rfl
  exact (aggregations_count hb rfl).2.2.imp fun _ _ h => ⟨h.1, h.2 pairsEngine.reading⟩

end Domain

end FacetSearch
