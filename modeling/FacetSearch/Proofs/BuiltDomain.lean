import FacetSearch.Search.Domain
import FacetSearch.Proofs.Outcome
import Mathlib.Data.List.Nodup
/-!
# Built domains

What the checks of a draft establish. In a domain that was built, an identifier names at most one
filter, and every facet is backed by a filter: the one that it names, or the one made for it.
-/

namespace FacetSearch

/-- Among items with pairwise distinct keys, a search by key finds the only item that has it. -/
theorem find?_key_eq_some_iff {α κ : Type} [DecidableEq κ] {key : α → κ} {items : List α}
    (hn : (items.map key).Nodup) {k : κ} {a : α} :
    items.find? (fun b => decide (key b = k)) = some a ↔ a ∈ items ∧ key a = k := by
  constructor
  · intro h
    exact ⟨List.mem_of_find?_eq_some h, by simpa using List.find?_some h⟩
  · rintro ⟨ha, rfl⟩
    cases h : items.find? fun b => decide (key b = key a) with
    | none => simpa using List.find?_eq_none.mp h a ha
    | some b =>
      have hk : key b = key a := by simpa using List.find?_some h
      rw [List.inj_on_of_nodup_map hn (List.mem_of_find?_eq_some h) ha hk]

theorem Facet.identifier_implicitFilter (f : Facet) :
    f.implicitFilter.identifier = f.identifier := by
  unfold implicitFilter
  cases f.kind <;> rfl

namespace DomainDraft

/-- A draft that passes every check but the one of its default sort option. -/
structure Sound (draft : DomainDraft) : Prop where
  index : Text.trim draft.index.toList ≠ []
  returnedFields : draft.returnedFields.Nodup
  sortOptions : (draft.sortOptions.map SortOption.id).Nodup
  identifiers : draft.identifiers.Nodup
  facets : ∀ facet ∈ draft.facets, draft.checkFacet facet = .ok ()

/-- The domain that a draft declares. -/
def frozen (draft : DomainDraft) (defaultIndex : Nat) : Domain where
  index := draft.index
  returnedFields := draft.returnedFields
  relevanceFields := draft.relevanceFields
  sortOptions := draft.sortOptions
  defaultIndex := defaultIndex
  filters := draft.filters ++ draft.implicitFilters
  facets := draft.facets.map backed

theorem firstRepeated?_nil_eq_none_iff {α : Type} [DecidableEq α] {items : List α} :
    firstRepeated? [] items = none ↔ items.Nodup := by
  simp [firstRepeated?_eq_none_iff]

theorem nodup_of_firstRepeated? {α : Type} [DecidableEq α] {items : List α}
    (h : ∀ a, firstRepeated? [] items = some a → False) : items.Nodup := by
  rw [← firstRepeated?_nil_eq_none_iff, Option.eq_none_iff_forall_ne_some]
  exact h

/-- Building succeeds exactly on sound drafts with one default sort option. -/
theorem build_eq_ok_iff {draft : DomainDraft} {d : Domain} :
    draft.build = .ok d ↔
      draft.Sound ∧ ∃ place, draft.defaultIndex = .ok place ∧ d = draft.frozen place := by
  constructor
  · intro h
    simp only [build, bind, Except.bind, throw, throwThe, MonadExceptOf.throw, pure,
      Except.pure] at h
    split at h
    · cases h
    next hindex =>
    split at h
    · cases h
    next hfields =>
    split at h
    · cases h
    next hsorts =>
    split at h
    · cases h
    next place hplace =>
    split at h
    · cases h
    next hidentifiers =>
    split at h
    · cases h
    next hfacets =>
    refine ⟨⟨hindex, ?_, ?_, ?_, forM_eq_ok_iff.mp hfacets⟩, place, hplace,
      (Except.ok.inj h).symm⟩
    · exact nodup_of_firstRepeated? hfields
    · exact nodup_of_firstRepeated? hsorts
    · exact nodup_of_firstRepeated? hidentifiers
  · rintro ⟨hs, place, hplace, rfl⟩
    have hfields := firstRepeated?_nil_eq_none_iff.mpr hs.returnedFields
    have hsorts := firstRepeated?_nil_eq_none_iff.mpr hs.sortOptions
    have hidentifiers := firstRepeated?_nil_eq_none_iff.mpr hs.identifiers
    have hfacets := forM_eq_ok_iff.mpr hs.facets
    simp only [build, if_neg hs.index, hfields, hsorts, hplace, hidentifiers, hfacets]
    rfl

theorem map_marked (draft : DomainDraft) :
    draft.marked.map Prod.fst = draft.sortOptions.filter (·.isDefault) := by
  conv_rhs => rw [← List.zipIdx_map_fst 0 draft.sortOptions, List.filter_map]
  rfl

/-- One sort option is marked default, and no other. -/
theorem defaultIndex_eq_ok_iff {draft : DomainDraft} {place : Nat} :
    draft.defaultIndex = .ok place ↔ ∃ option, draft.marked = [(option, place)] := by
  unfold defaultIndex
  generalize draft.marked = marked
  match marked with
  | [] => simp
  | [_] => simp [Prod.ext_iff]
  | _ :: _ :: _ => simp

/-- The place of the default sort option is that of the one marked default. -/
theorem sortOptions_of_defaultIndex {draft : DomainDraft} {place : Nat}
    (h : draft.defaultIndex = .ok place) : ∃ option, draft.sortOptions[place]? = some option ∧
      draft.sortOptions.filter (·.isDefault) = [option] := by
  obtain ⟨option, hmarked⟩ := defaultIndex_eq_ok_iff.mp h
  have hm : (option, place) ∈ draft.marked := by
    rw [hmarked]
    exact List.mem_singleton_self _
  refine ⟨option, List.mk_mem_zipIdx_iff_getElem?.mp (List.mem_filter.mp hm).1, ?_⟩
  rw [← map_marked, hmarked]
  rfl

theorem checkFacet_eq_ok_iff {draft : DomainDraft} {facet : Facet} :
    draft.checkFacet facet = .ok () ↔ facet.validate = .ok () ∧
      ∀ identifier, facet.filter = some identifier →
        identifier ∈ draft.filters.map Filter.identifier := by
  unfold checkFacet
  rw [bind_eq_ok_iff]
  constructor
  · rintro ⟨⟨⟩, hv, hf⟩
    refine ⟨hv, fun identifier hid => ?_⟩
    simpa [hid] using hf
  · rintro ⟨hv, hdeclared⟩
    refine ⟨(), hv, ?_⟩
    cases hid : facet.filter with
    | none => rfl
    | some identifier => exact if_pos (hdeclared identifier hid)

theorem identifiers_implicitFilters (draft : DomainDraft) :
    draft.implicitFilters.map Filter.identifier =
      (draft.facets.filter (·.filter.isNone)).map Facet.identifier := by
  rw [implicitFilters, List.map_map]
  exact List.map_congr_left fun f _ => f.identifier_implicitFilter

/-- The filters made for facets stand under identifiers of facets, so no two filters share one. -/
theorem Sound.filterIdentifiers {draft : DomainDraft} (h : draft.Sound) :
    ((draft.filters ++ draft.implicitFilters).map Filter.identifier).Nodup := by
  rw [List.map_append, identifiers_implicitFilters]
  refine h.identifiers.sublist (List.Sublist.append_left ?_ _)
  exact List.filter_sublist.map Facet.identifier

end DomainDraft

/-! ## Identifiers of a built domain -/

namespace Domain

/-- The filter whose selection marks the options of a facet. -/
def backing? (d : Domain) (facet : Facet) : Option Filter := facet.filter.bind d.filter?

variable {draft : DomainDraft} {d : Domain}

theorem filters_eq_of_build (h : draft.build = .ok d) :
    d.filters = draft.filters ++ draft.implicitFilters := by
  obtain ⟨_, _, _, rfl⟩ := DomainDraft.build_eq_ok_iff.mp h
  rfl

theorem facets_eq_of_build (h : draft.build = .ok d) :
    d.facets = draft.facets.map DomainDraft.backed := by
  obtain ⟨_, _, _, rfl⟩ := DomainDraft.build_eq_ok_iff.mp h
  rfl

theorem filterIdentifiers_nodup (h : draft.build = .ok d) :
    (d.filters.map Filter.identifier).Nodup := by
  rw [filters_eq_of_build h]
  exact (DomainDraft.build_eq_ok_iff.mp h).1.filterIdentifiers

theorem facetIdentifiers_eq (h : draft.build = .ok d) :
    d.facets.map Facet.identifier = draft.facets.map Facet.identifier := by
  rw [facets_eq_of_build h, List.map_map]
  rfl

theorem facetIdentifiers_nodup (h : draft.build = .ok d) :
    (draft.facets.map Facet.identifier).Nodup :=
  (List.nodup_append.mp (DomainDraft.build_eq_ok_iff.mp h).1.identifiers).2.1

/-- The index of the default sort option is in range. -/
theorem sortOptions_defaultIndex (h : draft.build = .ok d) :
    d.sortOptions[d.defaultIndex]? = some d.defaultSort := by
  obtain ⟨_, place, hplace, rfl⟩ := DomainDraft.build_eq_ok_iff.mp h
  obtain ⟨option, hoption, _⟩ := DomainDraft.sortOptions_of_defaultIndex hplace
  have hfound : draft.sortOptions[place]! = option := by
    rw [List.getElem!_eq_getElem?_getD, hoption, Option.getD_some]
  exact hoption.trans (congrArg some hfound.symm)

theorem filter_isDefault_of_build (h : draft.build = .ok d) :
    d.sortOptions.filter (·.isDefault) = [d.defaultSort] := by
  have hfound := sortOptions_defaultIndex h
  obtain ⟨_, place, hplace, rfl⟩ := DomainDraft.build_eq_ok_iff.mp h
  obtain ⟨option, hoption, honly⟩ := DomainDraft.sortOptions_of_defaultIndex hplace
  obtain rfl := Option.some.inj (hoption.symm.trans hfound)
  exact honly

/-- The default sort option is the only one marked default. -/
theorem eq_defaultSort_iff (h : draft.build = .ok d) {option : SortOption} :
    option = d.defaultSort ↔ option ∈ d.sortOptions ∧ option.isDefault = true := by
  rw [← List.mem_filter, filter_isDefault_of_build h, List.mem_singleton]

theorem sortIds_nodup (h : draft.build = .ok d) : (d.sortOptions.map SortOption.id).Nodup := by
  obtain ⟨hs, _, _, rfl⟩ := DomainDraft.build_eq_ok_iff.mp h
  exact hs.sortOptions

/-- An id finds exactly the sort option that has it. -/
theorem sortOption?_eq_some_iff (h : draft.build = .ok d) {id : String} {option : SortOption} :
    d.sortOption? id = some option ↔ option ∈ d.sortOptions ∧ option.id = id :=
  find?_key_eq_some_iff (sortIds_nodup h)

/-- An identifier finds exactly the filter that has it. -/
theorem filter?_eq_some_iff (h : draft.build = .ok d) {identifier : String} {f : Filter} :
    d.filter? identifier = some f ↔ f ∈ d.filters ∧ f.identifier = identifier :=
  find?_key_eq_some_iff (filterIdentifiers_nodup h)

theorem backing?_eq_some_iff (h : draft.build = .ok d) {facet : Facet} {f : Filter} :
    d.backing? facet = some f ↔ f ∈ d.filters ∧ facet.filter = some f.identifier := by
  simp only [backing?, Option.bind_eq_some_iff, filter?_eq_some_iff h]
  constructor
  · rintro ⟨_, hf, hmem, rfl⟩
    exact ⟨hmem, hf⟩
  · rintro ⟨hmem, hf⟩
    exact ⟨_, hf, hmem, rfl⟩

/-- A facet that names no filter is backed by the one made for it. -/
theorem backing?_backed (h : draft.build = .ok d) {facet : Facet} (hm : facet ∈ draft.facets)
    (hn : facet.filter = none) :
    d.backing? (DomainDraft.backed facet) = some facet.implicitFilter := by
  rw [backing?_eq_some_iff h, filters_eq_of_build h, Facet.identifier_implicitFilter]
  refine ⟨List.mem_append_right _ ?_, by simp [DomainDraft.backed, hn]⟩
  exact List.mem_map_of_mem (List.mem_filter.mpr ⟨hm, by simp [hn]⟩)

theorem exists_backing? (h : draft.build = .ok d) {facet : Facet} (hm : facet ∈ d.facets) :
    ∃ f, d.backing? facet = some f := by
  rw [facets_eq_of_build h] at hm
  obtain ⟨declared, hd, rfl⟩ := List.mem_map.mp hm
  cases hf : declared.filter with
  | none => exact ⟨_, backing?_backed h hd hf⟩
  | some identifier =>
    have hs := (DomainDraft.build_eq_ok_iff.mp h).1
    have hmem := (DomainDraft.checkFacet_eq_ok_iff.mp (hs.facets declared hd)).2 identifier hf
    obtain ⟨f, hfm, rfl⟩ := List.mem_map.mp hmem
    refine ⟨f, (backing?_eq_some_iff h).mpr ⟨?_, by simp [DomainDraft.backed, hf]⟩⟩
    rw [filters_eq_of_build h]
    exact List.mem_append_left _ hfm

end Domain

/-- A sample: two filters on one field, one of which leaves itself out of the counts that it backs,
and a facet that declares no filter. -/
def bookshopDraft : DomainDraft where
  index := "books"
  returnedFields := ["title"]
  relevanceFields := ["title"]
  sortOptions := [⟨"best", "Best match", [⟨"_score", .descending⟩], true⟩]
  filters := [.term "genre" "genre" "Genre" true true, .term "shelf" "genre" "Shelf" false false]
  facets := [⟨"genres", "genre", "Genre", true, some "genre", .refinement 10⟩,
    ⟨"author", "author", "Author", false, none, .refinement 10⟩]

def bookshop : Domain :=
  bookshopDraft.frozen 0

example : bookshopDraft.build = .ok bookshop := rfl

end FacetSearch
