import FacetSearch.Proofs.Scope
/-!
# Options keep their promise

The count shown beside an option is the number of hits that choosing the option leads to. Two
requests are compared: the one that was counted, and the one in which the selection of the filter
behind the facet is replaced by the value of the option.
-/

namespace FacetSearch

/-! ## Choosing a value -/

/-- The request in which a filter selects a single value, whatever it selected before. -/
def Request.choose (r : Request) (identifier value : String) : Request :=
  { r with filters := r.filters.insert identifier (.ofList [value]) }

namespace Request

theorem get?_choose (r : Request) (identifier value : String) :
    (r.choose identifier value).filters.get? identifier = some (.ofList [value]) :=
  OrderedMap.get?_insert ..

theorem get?_choose_other (r : Request) {identifier other : String} (value : String)
    (h : other ≠ identifier) :
    (r.choose identifier value).filters.get? other = r.filters.get? other :=
  OrderedMap.get?_insert_other _ _ h

theorem mem_keys_choose {r : Request} {identifier value k : String}
    (h : k ∈ (r.choose identifier value).filters.keys) : k ∈ r.filters.keys ∨ k = identifier := by
  rw [choose, OrderedMap.keys_insert] at h
  split at h
  · exact .inl h
  · simpa using h

theorem selection_choose_other (r : Request) {identifier other : String} (value : String)
    (h : other ≠ identifier) :
    (r.choose identifier value).selection other = r.selection other := by
  rw [selection, selection, r.get?_choose_other value h]

end Request

/-- A filter that matches a field exactly. -/
def Filter.IsTermOn (f : Filter) (field : String) : Prop :=
  ∃ identifier label multipleSelect excludeOwn,
    f = .term identifier field label multipleSelect excludeOwn

theorem Filter.IsTermOn.clause_eq {f : Filter} {field : String} (h : f.IsTermOn field)
    (value : String) : f.clause value = .ok (.term field value) := by
  obtain ⟨_, _, _, _, rfl⟩ := h
  rfl

theorem Filter.IsTermOn.effectiveValues_singleton {f : Filter} {field : String}
    (h : f.IsTermOn field) (value : String) : f.effectiveValues (.ofList [value]) = [value] := by
  obtain ⟨_, _, multipleSelect, _, rfl⟩ := h
  cases multipleSelect <;> rfl

variable {δ : Type} {draft : DomainDraft} {d : Domain}

/-- A filter that has chosen one value admits the documents with that value in its field. -/
theorem Filter.IsTermOn.admits_choose_iff {f : Filter} {field : String} (h : f.IsTermOn field)
    (r : Request) (value : String) (I : Interpretation δ) (doc : δ) :
    f.Admits (r.choose f.identifier value) I doc ↔ I.term field value doc = true := by
  constructor
  · intro ha
    obtain ⟨v, hv, clause, hc, hh⟩ := ha _ (r.get?_choose f.identifier value) (by simp)
    obtain rfl : v = value := by simpa [h.effectiveValues_singleton] using hv
    obtain rfl := Except.ok.inj ((h.clause_eq v).symm.trans hc)
    rwa [Fragment.holds_term] at hh
  · intro hterm values hv _
    rw [r.get?_choose] at hv
    obtain rfl := Option.some.inj hv
    refine ⟨value, by simp [h.effectiveValues_singleton], _, h.clause_eq value, ?_⟩
    rwa [Fragment.holds_term]

/-- The choice of one filter is nothing to the others. -/
theorem Filter.admits_choose_other_iff {g : Filter} {identifier : String}
    (h : g.identifier ≠ identifier) (r : Request) (value : String) (I : Interpretation δ)
    (doc : δ) : g.Admits (r.choose identifier value) I doc ↔ g.Admits r I doc := by
  rw [Admits, Admits, r.get?_choose_other value h]

namespace Domain

theorem fragment_choose_other {g : Filter} {identifier : String} (h : g.identifier ≠ identifier)
    (r : Request) (value : String) : fragment (r.choose identifier value) g = fragment r g := by
  rw [fragment, fragment, r.selection_choose_other value h]

theorem fragment_choose {f : Filter} {field : String} (h : f.IsTermOn field) (r : Request)
    (value : String) :
    fragment (r.choose f.identifier value) f = .ok (some (.term field value)) := by
  refine fragment_eq_ok_iff.mpr ⟨[.term field value], ?_, rfl⟩
  rw [Request.honoured_eq_effectiveValues (r.get?_choose f.identifier value),
    h.effectiveValues_singleton]
  exact mapM_eq_ok_iff.mpr (.cons (h.clause_eq value) .nil)

/-- Choosing a value of a term filter keeps a request compilable. -/
theorem compile_choose (hb : draft.build = .ok d) {f : Filter} (hf : f ∈ d.filters)
    {field : String} (ht : f.IsTermOn field) {r : Request} {q : CompiledQuery}
    (hq : d.compile r = .ok q) (value : String) :
    ∃ q', d.compile (r.choose f.identifier value) = .ok q' := by
  obtain ⟨hpage, hids, hr, ordering, hsort, _⟩ := compile_eq_ok_iff.mp hq
  refine ⟨_, compile_eq_ok_iff.mpr ⟨hpage, ?_, ?_, ordering, hsort, rfl⟩⟩
  · rw [checkIdentifiers_eq_ok_iff] at hids ⊢
    intro k hk
    rcases Request.mem_keys_choose hk with hk | rfl
    · exact hids k hk
    · exact ⟨f, (filter?_eq_some_iff hb).mpr ⟨hf, rfl⟩⟩
  · intro g hg
    by_cases he : g.identifier = f.identifier
    · obtain rfl := List.inj_on_of_nodup_map (filterIdentifiers_nodup hb) hg hf he
      have hc := fragment_choose ht r value
      rw [contribution_eq_of_ok hc, hc]
    · rw [contribution, fragment_choose_other he, ← contribution]
      exact hr g hg

end Domain

/-! ## The count of an option -/

namespace Domain

/-- The options of the facet are values of its field, and are chosen through a filter that matches
the same field exactly. -/
structure RefinedBy (d : Domain) (facet : Facet) (f : Filter) : Prop where
  kind : ∃ size, facet.kind = .refinement size
  backing : d.backing? facet = some f
  term : f.IsTermOn facet.field

/-- A refinement facet that declares no filter is refined by the one made for it. -/
theorem refinedBy_implicitFilter (hb : draft.build = .ok d) {facet : Facet}
    (hm : facet ∈ draft.facets) (hn : facet.filter = none)
    (hk : ∃ size, facet.kind = .refinement size) :
    d.RefinedBy (DomainDraft.backed facet) facet.implicitFilter where
  kind := hk
  backing := backing?_backed hb hm hn
  term := by
    obtain ⟨size, hk⟩ := hk
    refine ⟨facet.identifier, facet.label, facet.multipleSelect, false, ?_⟩
    rw [Facet.implicitFilter, hk]
    rfl

/-- The documents counted for a value of a facet are the hits of the request that chooses it. -/
theorem counts_and_mem_iff_returns (hb : draft.build = .ok d) {facet : Facet} {f : Filter}
    (hf : d.RefinedBy facet f) {r : Request} (hr : d.Readable r) {value : String}
    (hr' : d.Readable (r.choose f.identifier value))
    (hfree : f.excludesOwn = true ∨ r.selection f.identifier = none)
    (ordering ordering' : SortOption) (e : ExactEngine δ) (doc : δ) :
    (d.queryFor r ordering).counts (d.aggregationFor r facet) e.reading doc = true ∧
        value ∈ e.values doc facet.field ↔
      (d.queryFor (r.choose f.identifier value) ordering').returns e.reading doc = true := by
  obtain ⟨hmem, _⟩ := (backing?_eq_some_iff hb).mp hf.backing
  have hchosen := hf.term.admits_choose_iff r value e.reading doc
  have hother {g : Filter} (hg : g ∈ d.filters) (hne : g ≠ f) :
      g.Admits (r.choose f.identifier value) e.reading doc ↔ g.Admits r e.reading doc := by
    refine Filter.admits_choose_other_iff (fun he => hne ?_) r value e.reading doc
    exact List.inj_on_of_nodup_map (filterIdentifiers_nodup hb) hg hmem he
  rw [queryFor_counts_iff hb hr, queryFor_returns_iff hr', and_assoc]
  refine and_congr_right fun _ => ?_
  constructor
  · rintro ⟨hall, hvalue⟩ g hg
    by_cases he : g = f
    · subst he
      exact hchosen.mpr (decide_eq_true hvalue)
    · refine (hother hg he).mpr (hall g hg ?_)
      rintro ⟨hback, _⟩
      exact he (Option.some.inj (hback.symm.trans hf.backing))
  · intro hall
    refine ⟨fun g hg hnot => ?_, of_decide_eq_true (hchosen.mp (hall f hmem))⟩
    by_cases he : g = f
    · subst he
      rcases hfree with hex | hnone
      · exact absurd ⟨hf.backing, hex⟩ hnot
      · exact Filter.admits_iff.mpr (.inl (Request.honoured_eq_nil_iff.mpr hnone))
    · exact (hother hg he).mp (hall g hg)

/-- The name of a facet finds its own aggregation. -/
theorem find?_aggregationFor (hb : draft.build = .ok d) {facet : Facet} (hm : facet ∈ d.facets)
    (r : Request) (ordering : SortOption) :
    (d.queryFor r ordering).aggregations.find? (fun a => decide (a.name = facet.identifier)) =
      some (d.aggregationFor r facet) := by
  have hn : ((d.queryFor r ordering).aggregations.map Aggregation.name).Nodup := by
    rw [aggregations_names, facetIdentifiers_eq hb]
    exact facetIdentifiers_nodup hb
  exact (find?_key_eq_some_iff hn).mpr ⟨List.mem_map_of_mem hm, rfl⟩

/-- In a built domain, take a refinement facet whose options are chosen through a term filter on
its own field, as they are when the facet declares no filter. Let the filter leave its selection
out of the counts it backs, or have none. Then choosing a value gives a request that compiles, and
as many hits as the facet counted for the value. -/
theorem facetCount_eq_total (hb : draft.build = .ok d) :
    (∀ facet ∈ draft.facets, facet.filter = none → (∃ size, facet.kind = .refinement size) →
      d.RefinedBy (DomainDraft.backed facet) facet.implicitFilter) ∧
    ∀ facet ∈ d.facets, ∀ f, d.RefinedBy facet f → ∀ r q, d.compile r = .ok q →
      (f.excludesOwn = true ∨ r.selection f.identifier = none) →
      ∀ value, ∃ q', d.compile (r.choose f.identifier value) = .ok q' ∧
        ∀ (e : ExactEngine δ) (docs : List δ),
          e.facetCount docs q facet.identifier value = e.total docs q' := by
  refine ⟨fun facet hm hn hk => refinedBy_implicitFilter hb hm hn hk, ?_⟩
  intro facet hm f hf r q hq hfree value
  obtain ⟨hmem, _⟩ := (backing?_eq_some_iff hb).mp hf.backing
  obtain ⟨q', hq'⟩ := compile_choose hb hmem hf.term hq value
  refine ⟨q', hq', fun e docs => ?_⟩
  obtain ⟨_, _, hr, ordering, _, rfl⟩ := compile_eq_ok_iff.mp hq
  obtain ⟨_, _, hr', ordering', _, rfl⟩ := compile_eq_ok_iff.mp hq'
  obtain ⟨size, hkind⟩ := hf.kind
  have hterms : (d.aggregationFor r facet).kind = .terms facet.field size := by
    simp only [aggregationFor, Facet.aggregation, hkind]
  simp only [ExactEngine.facetCount, find?_aggregationFor hb hm, ExactEngine.bucket, hterms,
    ExactEngine.total]
  refine List.countP_congr fun doc _ => ?_
  rw [Bool.and_eq_true, decide_eq_true_eq]
  exact counts_and_mem_iff_returns hb hf hr hr' hfree ordering ordering' e doc

/-- A genre that is not selected is counted as if it were the one selected. -/
theorem bookshop_novels : bookshopDraft.build = .ok bookshop ∧
    ∃ q q', bookshop.compile verseRequest = .ok q ∧
      bookshop.compile (verseRequest.choose "genre" "novel") = .ok q' ∧
      pairsEngine.total [[("title", "Sea"), ("author", "Sappho"), ("genre", "novel")],
        [("title", "Sea"), ("author", "Sappho"), ("genre", "poem")],
        [("title", "Sea"), ("genre", "novel")]] q' = 1 := by
  have hb : bookshopDraft.build = .ok bookshop := rfl
  have hf : bookshop.RefinedBy ⟨"genres", "genre", "Genre", true, some "genre", .refinement 10⟩
      (.term "genre" "genre" "Genre" true true) := ⟨⟨10, rfl⟩, rfl, _, _, _, _, rfl⟩
  obtain ⟨q', hq', hcount⟩ :=
    (facetCount_eq_total hb).2 _ (.head _) _ hf verseRequest _ rfl (.inl rfl) "novel"
  exact ⟨hb, _, q', rfl, hq', (hcount pairsEngine _).symm.trans rfl⟩

end Domain

end FacetSearch
