import FacetSearch.Proofs.BuiltDomain
/-!
# What a built domain represents

The whole invariant of a domain that was built from a draft. The lists of the draft are kept in
order; filters are added for the facets that declare none, after which every facet is backed. No
name is given twice, so each look-up finds the one item that has the name.
-/

namespace FacetSearch

namespace Domain

/-- What holds of a domain and the draft that it was built from. -/
structure Represents (d : Domain) (draft : DomainDraft) : Prop where
  index : d.index = draft.index
  returnedFields : d.returnedFields = draft.returnedFields
  relevanceFields : d.relevanceFields = draft.relevanceFields
  sortOptions : d.sortOptions = draft.sortOptions
  /-- The declared filters, then one for each facet that declares none. -/
  filters : d.filters =
    draft.filters ++ (draft.facets.filter (·.filter.isNone)).map Facet.implicitFilter
  /-- A facet that declares no filter names its own identifier; the others stay as they are. -/
  facets : d.facets = draft.facets.map fun facet =>
    if facet.filter = none then { facet with filter := some facet.identifier } else facet
  defaultIndex : d.defaultIndex < d.sortOptions.length
  /-- The default ordering stands at that index, the only place that is marked. -/
  defaultSort : d.sortOptions[d.defaultIndex]? = some d.defaultSort ∧
    ∀ (j : Nat) (option : SortOption), d.sortOptions[j]? = some option →
      (option.isDefault = true ↔ j = d.defaultIndex)
  fieldsDistinct : d.returnedFields.Nodup
  sortIdsDistinct : (d.sortOptions.map SortOption.id).Nodup
  filtersDistinct : (d.filters.map Filter.identifier).Nodup
  facetsDistinct : (d.facets.map Facet.identifier).Nodup
  sortOption? : ∀ id option,
    d.sortOption? id = some option ↔ option ∈ d.sortOptions ∧ option.id = id
  filter? : ∀ identifier f, d.filter? identifier = some f ↔ f ∈ d.filters ∧ f.identifier = identifier
  facet? : ∀ identifier facet,
    d.facet? identifier = some facet ↔ facet ∈ d.facets ∧ facet.identifier = identifier
  /-- The filter that a facet names is there to be found. -/
  backed : ∀ facet ∈ d.facets, ∃ f ∈ d.filters,
    facet.filter = some f.identifier ∧ d.filter? f.identifier = some f
  /-- A facet shares its identifier with a filter only when the filter was made for it. -/
  shared : ∀ facet ∈ draft.facets,
    facet.identifier ∈ d.filters.map Filter.identifier ↔ facet.filter = none

variable {draft : DomainDraft} {d : Domain}

theorem backed_eq (facet : Facet) : DomainDraft.backed facet =
    if facet.filter = none then { facet with filter := some facet.identifier } else facet := by
  obtain ⟨identifier, field, label, multipleSelect, filter, kind⟩ := facet
  cases filter <;> rfl

/-- Sort options with distinct ids stand at one place each. -/
theorem isDefault_iff_place (h : draft.build = .ok d) {j : Nat} {option : SortOption}
    (hj : d.sortOptions[j]? = some option) : option.isDefault = true ↔ j = d.defaultIndex := by
  have hn : d.sortOptions.Nodup := .of_map SortOption.id (sortIds_nodup h)
  have hmem : option ∈ d.sortOptions := List.mem_iff_getElem?.mpr ⟨j, hj⟩
  obtain ⟨hlt, _⟩ := List.getElem?_eq_some_iff.mp hj
  calc option.isDefault = true
      ↔ option = d.defaultSort := by rw [eq_defaultSort_iff h, and_iff_right hmem]
    _ ↔ d.sortOptions[j]? = d.sortOptions[d.defaultIndex]? := by
        rw [sortOptions_defaultIndex h, hj, Option.some.injEq]
    _ ↔ j = d.defaultIndex := List.getElem?_inj hlt hn

/-- The identifiers of facets are not those of declared filters, nor of one another. -/
theorem identifier_mem_iff (h : draft.build = .ok d) {facet : Facet} (hm : facet ∈ draft.facets) :
    facet.identifier ∈ d.filters.map Filter.identifier ↔ facet.filter = none := by
  have hn := (DomainDraft.build_eq_ok_iff.mp h).1.identifiers
  rw [filters_eq_of_build h, List.map_append, DomainDraft.identifiers_implicitFilters,
    List.mem_append]
  constructor
  · rintro (hdeclared | himplicit)
    · exact absurd rfl ((List.nodup_append.mp hn).2.2 _ hdeclared _ (List.mem_map_of_mem hm))
    · obtain ⟨g, hg, hid⟩ := List.mem_map.mp himplicit
      obtain ⟨hgm, hnone⟩ := List.mem_filter.mp hg
      obtain rfl := List.inj_on_of_nodup_map (facetIdentifiers_nodup h) hgm hm hid
      exact Option.isNone_iff_eq_none.mp hnone
  · intro hnone
    exact .inr (List.mem_map_of_mem (List.mem_filter.mpr ⟨hm, by simp [hnone]⟩))

/-- Every domain that is built keeps its draft and satisfies the invariant. -/
theorem represents_of_build (h : draft.build = .ok d) : d.Represents draft := by
  have hfacets : (d.facets.map Facet.identifier).Nodup := by
    rw [facetIdentifiers_eq h]
    exact facetIdentifiers_nodup h
  obtain ⟨hs, _, _, hd⟩ := DomainDraft.build_eq_ok_iff.mp h
  constructor
  case index | returnedFields | relevanceFields | sortOptions => rw [hd]; rfl
  case filters => exact filters_eq_of_build h
  case facets =>
    rw [facets_eq_of_build h]
    exact List.map_congr_left fun facet _ => backed_eq facet
  case defaultIndex => exact (List.getElem?_eq_some_iff.mp (sortOptions_defaultIndex h)).1
  case defaultSort =>
    exact ⟨sortOptions_defaultIndex h, fun j option hj => isDefault_iff_place h hj⟩
  case fieldsDistinct => rw [hd]; exact hs.returnedFields
  case sortIdsDistinct => exact sortIds_nodup h
  case filtersDistinct => exact filterIdentifiers_nodup h
  case facetsDistinct => exact hfacets
  case sortOption? => exact fun id option => sortOption?_eq_some_iff h
  case filter? => exact fun identifier f => filter?_eq_some_iff h
  case facet? => exact fun identifier facet => find?_key_eq_some_iff hfacets
  case backed =>
    intro facet hm
    obtain ⟨f, hback⟩ := exists_backing? h hm
    obtain ⟨hf, hname⟩ := (backing?_eq_some_iff h).mp hback
    exact ⟨f, hf, hname, (filter?_eq_some_iff h).mpr ⟨hf, rfl⟩⟩
  case shared => exact fun facet hm => identifier_mem_iff h hm

/-- The author facet declares no filter: one is made under its identifier and is found there. The
genres facet declares one, and nothing is found under its identifier. -/
theorem bookshop_represents : bookshopDraft.build = .ok bookshop ∧
    bookshop.filter? "author" = some (.term "author" "author" "Author" false false) ∧
    "genres" ∉ bookshop.filters.map Filter.identifier := by
  have hb : bookshopDraft.build = .ok bookshop := rfl
  have hr := represents_of_build hb
  have hmade : Filter.term "author" "author" "Author" false false ∈ bookshop.filters := by
    rw [hr.filters]
    exact List.mem_append_right _ (List.mem_singleton_self _)
  have hdeclared := (hr.shared ⟨"genres", "genre", "Genre", true, some "genre", .refinement 10⟩
    (.head _)).not.mpr (by simp)
  exact ⟨hb, (hr.filter? _ _).mpr ⟨hmade, rfl⟩, hdeclared⟩

end Domain

end FacetSearch
