import FacetSearch.Proofs.BuiltDomain
import Mathlib.Data.List.Induction
/-!
# Refused drafts

Which drafts are not built, and which error is given for one that is not. The checks come in a
fixed order: the index, the returned fields, the ids of the sort options, the default among them,
the identifiers of filters and facets, the facets one by one. The first fault in that order is the
one reported, and a draft without a fault is built.
-/

namespace FacetSearch

/-! ## The first repetition -/

section

variable {α : Type} {items : List α} {a : α}

/-- The first item that repeats an earlier one. -/
def FirstRepeat (items : List α) (a : α) : Prop :=
  ∃ before after, items = before ++ a :: after ∧ a ∈ before ∧ before.Nodup

/-- Items that are not pairwise distinct have a first repetition. -/
theorem exists_firstRepeat (h : ¬ items.Nodup) : ∃ a, FirstRepeat items a := by
  -- from the right: the shortest start with a repetition ends in the item that repeats
  induction items using List.reverseRecOn with
  | nil => exact absurd List.nodup_nil h
  | append_singleton start c ih =>
    by_cases hstart : start.Nodup
    · have hc : c ∈ start := by
        by_contra hc
        exact h (List.nodup_append_comm.mp (List.nodup_cons.mpr ⟨hc, hstart⟩))
      exact ⟨c, start, [], rfl, hc, hstart⟩
    · obtain ⟨a, before, after, rfl, ha, hn⟩ := ih hstart
      exact ⟨a, before, after ++ [c], by simp, ha, hn⟩

variable [DecidableEq α]

/-- Distinct items that did not occur before are passed. -/
theorem firstRepeated?_append {seen before : List α} (hn : before.Nodup)
    (hnew : ∀ b ∈ before, b ∉ seen) (rest : List α) :
    firstRepeated? seen (before ++ rest) = firstRepeated? (before.reverse ++ seen) rest := by
  induction before generalizing seen with
  | nil => rfl
  | cons b before ih =>
    obtain ⟨hb, hn⟩ := List.nodup_cons.mp hn
    obtain ⟨hseen, hnew⟩ := List.forall_mem_cons.mp hnew
    have hnew' : ∀ c ∈ before, c ∉ b :: seen := by
      intro c hc hmem
      rcases List.mem_cons.mp hmem with rfl | hmem
      · exact hb hc
      · exact hnew c hc hmem
    rw [List.cons_append, firstRepeated?, if_neg hseen, ih hn hnew', List.reverse_cons,
      List.append_assoc]
    rfl

theorem firstRepeated?_of_firstRepeat (h : FirstRepeat items a) :
    firstRepeated? [] items = some a := by
  obtain ⟨before, after, rfl, ha, hn⟩ := h
  rw [firstRepeated?_append hn (by simp), firstRepeated?, if_pos (by simpa using ha)]

end

namespace DomainDraft

/-! ## Faults of a draft -/

/-- The facet is sound by itself, and a filter that it names is declared. The filters made for
facets do not count. -/
def Admits (draft : DomainDraft) (facet : Facet) : Prop :=
  facet.validate = .ok () ∧
    ∀ identifier, facet.filter = some identifier →
      identifier ∈ draft.filters.map Filter.identifier

/-- The error for a facet that is not admitted: its own fault, or else the filter that it names. -/
inductive FacetRefused (draft : DomainDraft) (facet : Facet) : SearchError → Prop
  | unsound {e : SearchError} (h : facet.validate = .error e) : FacetRefused draft facet e
  | undeclared {identifier : String} (hvalid : facet.validate = .ok ())
    (hfilter : facet.filter = some identifier)
    (h : identifier ∉ draft.filters.map Filter.identifier) :
    FacetRefused draft facet (.undeclaredFilter facet.identifier identifier)

/-- How many sort options are marked default. -/
def defaultCount (draft : DomainDraft) : Nat := draft.sortOptions.countP (·.isDefault)

/-- The error for a draft that is not built. A fault counts when all that is checked before it is in
order. -/
inductive Refused (draft : DomainDraft) : SearchError → Prop
  | index (h : Text.trim draft.index.toList = []) :
    Refused draft (.invalidConfiguration "index name must not be empty")
  | returnedField {field : String} (hindex : Text.trim draft.index.toList ≠ [])
    (h : FirstRepeat draft.returnedFields field) :
    Refused draft (.invalidConfiguration
      s!"returned field '{field}' listed twice in domain '{draft.index}'")
  | sortOption {id : String} (hindex : Text.trim draft.index.toList ≠ [])
    (hfields : draft.returnedFields.Nodup)
    (h : FirstRepeat (draft.sortOptions.map SortOption.id) id) :
    Refused draft (.duplicateSortOption draft.index id)
  | noDefault (hindex : Text.trim draft.index.toList ≠ []) (hfields : draft.returnedFields.Nodup)
    (hsorts : (draft.sortOptions.map SortOption.id).Nodup) (h : draft.defaultCount = 0) :
    Refused draft (.missingDefaultSort draft.index)
  | manyDefaults (hindex : Text.trim draft.index.toList ≠ [])
    (hfields : draft.returnedFields.Nodup)
    (hsorts : (draft.sortOptions.map SortOption.id).Nodup) (h : 2 ≤ draft.defaultCount) :
    Refused draft (.multipleDefaultSorts draft.index)
  | identifier {identifier : String} (hindex : Text.trim draft.index.toList ≠ [])
    (hfields : draft.returnedFields.Nodup)
    (hsorts : (draft.sortOptions.map SortOption.id).Nodup) (hdefault : draft.defaultCount = 1)
    (h : FirstRepeat draft.identifiers identifier) :
    Refused draft (.duplicateIdentifier draft.index identifier)
  | facet {facet : Facet} {e : SearchError} (hindex : Text.trim draft.index.toList ≠ [])
    (hfields : draft.returnedFields.Nodup)
    (hsorts : (draft.sortOptions.map SortOption.id).Nodup) (hdefault : draft.defaultCount = 1)
    (hidentifiers : draft.identifiers.Nodup)
    (hfirst : FirstWith (fun f => ¬ draft.Admits f) draft.facets facet)
    (h : draft.FacetRefused facet e) : Refused draft e

variable {draft : DomainDraft} {e : SearchError}

/-! ## The single checks -/

theorem checkFacet_eq_error_iff {facet : Facet} :
    draft.checkFacet facet = .error e ↔ draft.FacetRefused facet e := by
  unfold checkFacet
  rw [bind_eq_error_iff]
  constructor
  · rintro (h | ⟨⟨⟩, hvalid, h⟩)
    · exact .unsound h
    · cases hfilter : facet.filter with
      | none => simp [hfilter] at h
      | some identifier =>
        simp only [hfilter] at h
        split at h
        · cases h
        · next hundeclared =>
          obtain rfl := Except.error.inj h
          exact .undeclared hvalid hfilter hundeclared
  · intro h
    cases h with
    | unsound h => exact .inl h
    | undeclared hvalid hfilter h =>
      refine .inr ⟨(), hvalid, ?_⟩
      rw [hfilter]
      exact if_neg h

/-- Facets are refused for the first one that is not admitted. -/
theorem checkFacets_eq_error_iff :
    draft.facets.forM draft.checkFacet = .error e ↔
      ∃ facet, FirstWith (fun f => ¬ draft.Admits f) draft.facets facet ∧
        draft.FacetRefused facet e := by
  simp only [forM_eq_error_iff, checkFacet_eq_ok_iff, checkFacet_eq_error_iff, Admits]

theorem defaultCount_eq_length : draft.defaultCount = draft.marked.length := by
  rw [← List.length_map Prod.fst, map_marked]
  exact List.countP_eq_length_filter

theorem defaultIndex_of_none (h : draft.defaultCount = 0) :
    draft.defaultIndex = .error (.missingDefaultSort draft.index) := by
  rw [defaultCount_eq_length, List.length_eq_zero_iff] at h
  rw [defaultIndex, h]

theorem defaultIndex_of_many (h : 2 ≤ draft.defaultCount) :
    draft.defaultIndex = .error (.multipleDefaultSorts draft.index) := by
  rw [defaultCount_eq_length] at h
  unfold defaultIndex
  split
  · next hone => simp [hone] at h
  · next hnone => simp [hnone] at h
  · rfl

theorem exists_defaultIndex_iff :
    (∃ place, draft.defaultIndex = .ok place) ↔ draft.defaultCount = 1 := by
  rw [defaultCount_eq_length, List.length_eq_one_iff]
  simp only [defaultIndex_eq_ok_iff, Prod.exists]
  exact exists_comm

/-! ## The order of the checks -/

theorem build_of_refused (h : draft.Refused e) : draft.build = .error e := by
  have hpass {items : List String} (hn : items.Nodup) : firstRepeated? [] items = none :=
    firstRepeated?_nil_eq_none_iff.mpr hn
  cases h with
  | index h =>
    simp only [build, if_pos h]
    rfl
  | returnedField hindex h =>
    simp only [build, if_neg hindex, firstRepeated?_of_firstRepeat h]
    rfl
  | sortOption hindex hfields h =>
    simp only [build, if_neg hindex, hpass hfields, firstRepeated?_of_firstRepeat h]
    rfl
  | noDefault hindex hfields hsorts h =>
    simp only [build, if_neg hindex, hpass hfields, hpass hsorts, defaultIndex_of_none h]
    rfl
  | manyDefaults hindex hfields hsorts h =>
    simp only [build, if_neg hindex, hpass hfields, hpass hsorts, defaultIndex_of_many h]
    rfl
  | identifier hindex hfields hsorts hdefault h =>
    obtain ⟨place, hplace⟩ := exists_defaultIndex_iff.mpr hdefault
    simp only [build, if_neg hindex, hpass hfields, hpass hsorts, hplace,
      firstRepeated?_of_firstRepeat h]
    rfl
  | facet hindex hfields hsorts hdefault hidentifiers hfirst h =>
    obtain ⟨place, hplace⟩ := exists_defaultIndex_iff.mpr hdefault
    have hfacets := checkFacets_eq_error_iff.mpr ⟨_, hfirst, h⟩
    simp only [build, if_neg hindex, hpass hfields, hpass hsorts, hplace, hpass hidentifiers,
      hfacets]
    rfl

theorem exists_build_iff :
    (∃ d, draft.build = .ok d) ↔
      Text.trim draft.index.toList ≠ [] ∧ draft.returnedFields.Nodup ∧
        (draft.sortOptions.map SortOption.id).Nodup ∧ draft.defaultCount = 1 ∧
        draft.identifiers.Nodup ∧ ∀ facet ∈ draft.facets, draft.Admits facet := by
  simp only [build_eq_ok_iff, ← exists_defaultIndex_iff, Admits, ← checkFacet_eq_ok_iff]
  constructor
  · rintro ⟨_, hs, place, hplace, rfl⟩
    exact ⟨hs.index, hs.returnedFields, hs.sortOptions, ⟨place, hplace⟩, hs.identifiers,
      hs.facets⟩
  · rintro ⟨hindex, hfields, hsorts, ⟨place, hplace⟩, hidentifiers, hfacets⟩
    exact ⟨_, ⟨hindex, hfields, hsorts, hidentifiers, hfacets⟩, place, hplace, rfl⟩

/-- A draft in which no fault is found passes one check after the other. -/
theorem exists_build_of_not_refused (h : ∀ e, ¬ draft.Refused e) :
    ∃ d, draft.build = .ok d := by
  have hdistinct {items : List String} (hrepeat : ∀ a, ¬ FirstRepeat items a) : items.Nodup := by
    by_contra hn
    obtain ⟨a, ha⟩ := exists_firstRepeat hn
    exact hrepeat a ha
  have hindex : Text.trim draft.index.toList ≠ [] := fun hblank => h _ (.index hblank)
  have hfields : draft.returnedFields.Nodup :=
    hdistinct fun _ hrepeat => h _ (.returnedField hindex hrepeat)
  have hsorts : (draft.sortOptions.map SortOption.id).Nodup :=
    hdistinct fun _ hrepeat => h _ (.sortOption hindex hfields hrepeat)
  have hdefault : draft.defaultCount = 1 := by
    have hsome : draft.defaultCount ≠ 0 := fun hnone => h _ (.noDefault hindex hfields hsorts hnone)
    have hfew : ¬ 2 ≤ draft.defaultCount :=
      fun hmany => h _ (.manyDefaults hindex hfields hsorts hmany)
    omega
  have hidentifiers : draft.identifiers.Nodup :=
    hdistinct fun _ hrepeat => h _ (.identifier hindex hfields hsorts hdefault hrepeat)
  have hfacets : draft.facets.forM draft.checkFacet = .ok () := by
    cases hcheck : draft.facets.forM draft.checkFacet with
    | ok => rfl
    | error e =>
      obtain ⟨facet, hfirst, hrefused⟩ := checkFacets_eq_error_iff.mp hcheck
      exact absurd (.facet hindex hfields hsorts hdefault hidentifiers hfirst hrefused) (h e)
  refine exists_build_iff.mpr
    ⟨hindex, hfields, hsorts, hdefault, hidentifiers, fun facet hm => ?_⟩
  exact checkFacet_eq_ok_iff.mp (forM_eq_ok_iff.mp hfacets facet hm)

/-- The error that building gives is the one of the first fault. -/
theorem build_eq_error_iff : draft.build = .error e ↔ draft.Refused e := by
  constructor
  · intro herror
    by_contra hrefused
    have hnone : ∀ other, ¬ draft.Refused other := by
      intro other hother
      have hsame := (build_of_refused hother).symm.trans herror
      exact hrefused (Except.error.inj hsame ▸ hother)
    obtain ⟨d, hd⟩ := exists_build_of_not_refused hnone
    cases hd.symm.trans herror
  · exact build_of_refused

/-- Building a draft fails for its first fault, in the order of the checks. It succeeds when the
index is not blank, returned fields, ids of sort options and identifiers of filters and facets are
distinct, one sort option is the default, and every facet is sound and names a declared filter if
any. -/
theorem build_first_fault (draft : DomainDraft) :
    (∀ e, draft.build = .error e ↔ draft.Refused e) ∧
    ((∃ d, draft.build = .ok d) ↔
      Text.trim draft.index.toList ≠ [] ∧ draft.returnedFields.Nodup ∧
        (draft.sortOptions.map SortOption.id).Nodup ∧ draft.defaultCount = 1 ∧
        draft.identifiers.Nodup ∧ ∀ facet ∈ draft.facets, draft.Admits facet) := by
  constructor
  · intro e
    exact build_eq_error_iff
  · exact exists_build_iff

/-- A facet that names itself names no declared filter. -/
example : DomainDraft.build { bookshopDraft with
    facets := [⟨"author", "author", "Author", false, some "author", .refinement 10⟩] } =
      .error (.undeclaredFilter "author" "author") := rfl

end DomainDraft

end FacetSearch
