import FacetSearch.Proofs.CompleteResults
import Mathlib.Data.List.Perm.Subperm
/-!
# Single selection

What the selection flag that is reported for a facet says of its options. For a facet of values the
filter made for it carries the flag, so without it at most one option is marked. The filters made
for histograms and for ranges of dates have no single selection: there every selected value counts,
and the flag says nothing.
-/

namespace FacetSearch

/-! ## Filters -/

/-- Of several selected values only the first one counts. -/
def Filter.Single : Filter → Prop
  | .term _ _ _ multipleSelect _ => multipleSelect = false
  | .valueTag _ | .range _ _ _ _ _ => False

namespace Request

variable {r : Request} {f : Filter} {value : String}

theorem length_honoured_le_one (h : f.Single) : (r.honoured f).length ≤ 1 := by
  unfold honoured
  cases r.selection f.identifier with
  | none => exact Nat.zero_le 1
  | some values =>
    cases f with
    | term _ _ _ multipleSelect _ =>
      obtain rfl : multipleSelect = false := h
      exact List.length_take_le 1 _
    | valueTag _ => exact h.elim
    | range _ _ _ _ _ => exact h.elim

/-- Without single selection all selected values count. -/
theorem mem_honoured_iff (h : ¬ f.Single) : value ∈ r.honoured f ↔
    ∃ values, r.filters.get? f.identifier = some values ∧ value ∈ values.toList := by
  have hall (values : Selection) : f.effectiveValues values = values.toList := by
    cases f with
    | term _ _ _ multipleSelect _ =>
      obtain rfl : multipleSelect = true := by simpa [Filter.Single] using h
      rfl
    | valueTag _ => rfl
    | range _ _ _ _ _ => rfl
  cases hv : r.filters.get? f.identifier with
  | none =>
    have hnone : r.selection f.identifier = none := by simp [selection, hv]
    simp [honoured_eq_nil_iff.mpr hnone]
  | some values => simp [honoured_eq_effectiveValues hv, hall]

end Request

/-- The filter made for a facet passes the flag on for a facet of values only. -/
theorem Facet.single_implicitFilter_iff {facet : Facet} : facet.implicitFilter.Single ↔
    (∃ size, facet.kind = .refinement size) ∧ facet.multipleSelect = false := by
  unfold implicitFilter
  cases facet.kind with
  | refinement size => simp [Filter.Single]
  | histogram interval min max => simp [Filter.Single]
  | dateRanges ranges => simp [Filter.Single]

/-! ## Options -/

namespace Domain

variable {draft : DomainDraft} {d : Domain} {r : Request} {q : CompiledQuery}
  {response : EngineResponse} {results : Results} {facet : Facet} {result : FacetResult}

theorem multipleSelect_of_facetResult (h : d.facetResult r response facet = .ok result) :
    result.multipleSelect = facet.multipleSelect := by
  obtain ⟨_, buckets, hbuckets, _⟩ := buckets_of_facetResult h
  rw [facetResult_of_buckets hbuckets] at h
  obtain ⟨options, _, hresult⟩ := bind_eq_ok_iff.mp h
  rw [← pure_eq_ok_iff.mp hresult]

/-- Of options with distinct values, no more are marked than there are values that count. -/
theorem countP_selected_le (h : d.facetResult r response facet = .ok result)
    (hn : (result.options.map FacetOption.value).Nodup) :
    result.options.countP (·.selected) ≤ (d.selectedValues r facet).length := by
  obtain ⟨_, hmarked⟩ := options_of_facetResult h
  have hdistinct : ((result.options.filter (·.selected)).map FacetOption.value).Nodup :=
    hn.sublist (List.filter_sublist.map _)
  have hcount : (result.options.filter (·.selected)).map FacetOption.value ⊆
      d.selectedValues r facet := by
    intro value hvalue
    obtain ⟨option, hoption, rfl⟩ := List.mem_map.mp hvalue
    obtain ⟨hm, hselected⟩ := List.mem_filter.mp hoption
    exact (hmarked option hm).mp hselected
  rw [List.countP_eq_length_filter, ← List.length_map (f := FacetOption.value)]
  exact (List.Nodup.subperm hdistinct hcount).length_le

/-- The result under the identifier of a declared facet is that facet's. -/
theorem facetResult_of_mem (hb : draft.build = .ok d)
    (h : d.decompile r q response = .ok results) (hm : facet ∈ draft.facets)
    (hresult : result ∈ results.facets) (hid : result.identifier = facet.identifier) :
    d.facetResult r response (DomainDraft.backed facet) = .ok result := by
  obtain ⟨_, hmade, hfound⟩ :=
    exists_item_of_mapM (mapM_eq_ok_iff.mpr (facets_of_decompile h)) hresult
  rw [facets_eq_of_build hb] at hmade
  obtain ⟨other, hother, rfl⟩ := List.mem_map.mp hmade
  have hsame : other.identifier = facet.identifier := by
    rw [← hid, (options_of_facetResult hfound).1, identifier_backed]
  rwa [← List.inj_on_of_nodup_map (facetIdentifiers_nodup hb) hother hm hsame]

/-- A facet of values that declares no filter has at most one option marked when it is reported
without multiple selection. A histogram or a facet of date ranges that declares none has its options
marked for every value that the request selects, whatever is reported. -/
theorem selected_of_flag (hb : draft.build = .ok d) (hm : facet ∈ draft.facets)
    (hn : facet.filter = none) (h : d.decompile r q response = .ok results)
    (hresult : result ∈ results.facets) (hid : result.identifier = facet.identifier)
    (hdistinct : (result.options.map FacetOption.value).Nodup) :
    ((∃ size, facet.kind = .refinement size) → result.multipleSelect = false →
      result.options.countP (·.selected) ≤ 1) ∧
    ((¬ ∃ size, facet.kind = .refinement size) → ∀ option ∈ result.options,
      (option.selected = true ↔ ∃ values, r.filters.get? facet.identifier = some values ∧
        option.value ∈ values.toList)) := by
  have hfound := facetResult_of_mem hb h hm hresult hid
  have hvalues : d.selectedValues r (DomainDraft.backed facet) = r.honoured facet.implicitFilter :=
    selectedValues_eq hb (backing?_backed hb hm hn)
  constructor
  · intro hkind hflag
    have hsingle : facet.implicitFilter.Single :=
      Facet.single_implicitFilter_iff.mpr ⟨hkind, multipleSelect_of_facetResult hfound ▸ hflag⟩
    calc result.options.countP (·.selected)
        ≤ (d.selectedValues r (DomainDraft.backed facet)).length :=
          countP_selected_le hfound hdistinct
      _ = (r.honoured facet.implicitFilter).length := by rw [hvalues]
      _ ≤ 1 := Request.length_honoured_le_one hsingle
  · intro hkind option hoption
    have hall : ¬ facet.implicitFilter.Single := fun hsingle =>
      hkind (Facet.single_implicitFilter_iff.mp hsingle).1
    rw [(options_of_facetResult hfound).2 option hoption, hvalues, Request.mem_honoured_iff hall,
      Facet.identifier_implicitFilter]

/-- Members by the half of the year in which they joined. -/
def halvesDraft : DomainDraft :=
  { membersDraft with
    facets := [⟨"joined", "joined_at", "Joined", false, none, .dateRanges
      [⟨"Before July", none, some "2024-07-01"⟩, ⟨"Since July", some "2024-07-01", none⟩]⟩] }

def halves : Domain := halvesDraft.frozen 0

/-- Both halves selected. -/
def halvesRequest : Request :=
  (Request.select {} "joined" "..2024-07-01").select "joined" "2024-07-01.."

def halvesAnswer : EngineResponse :=
  ⟨5, [], .ofList [("joined", [⟨"Before July", 2⟩, ⟨"Since July", 3⟩])]⟩

/-- Two poets selected, of whom the shop counts the first only. -/
def poetsRequest : Request := (Request.select {} "author" "Sappho").select "author" "Homer"

def poetsAnswer : EngineResponse :=
  ⟨3, [], .ofList [("genres", [⟨"poem", 3⟩]), ("author", [⟨"Homer", 2⟩, ⟨"Sappho", 1⟩])]⟩

/-- One poet is marked; of the halves each is marked that is selected. -/
theorem selected_poets : bookshopDraft.build = .ok bookshop ∧
    (∃ facet ∈ bookshopDraft.facets, facet.filter = none ∧ facet.kind = .refinement 10 ∧
      ∃ q results, bookshop.compile poetsRequest = .ok q ∧
        bookshop.decompile poetsRequest q poetsAnswer = .ok results ∧
        ∃ result ∈ results.facets, result.identifier = facet.identifier ∧
          result.options.map FacetOption.value = ["Homer", "Sappho"] ∧
          result.multipleSelect = false ∧ result.options.countP (·.selected) ≤ 1) ∧
    halvesDraft.build = .ok halves ∧
    ∃ facet ∈ halvesDraft.facets, facet.filter = none ∧
      ∃ q results, halves.compile halvesRequest = .ok q ∧
        halves.decompile halvesRequest q halvesAnswer = .ok results ∧
        ∃ result ∈ results.facets, result.identifier = facet.identifier ∧
          ∀ option ∈ result.options, (option.selected = true ↔
            ∃ values, halvesRequest.filters.get? facet.identifier = some values ∧
              option.value ∈ values.toList) := by
  have hshop : bookshopDraft.build = .ok bookshop := rfl
  have hhalves : halvesDraft.build = .ok halves := rfl
  have hpoets : bookshop.decompile poetsRequest
    (bookshop.queryFor poetsRequest bookshop.defaultSort) poetsAnswer = .ok _ := rfl
  have hjoined : halves.decompile halvesRequest
    (halves.queryFor halvesRequest halves.defaultSort) halvesAnswer = .ok _ := rfl
  refine ⟨hshop, ⟨_, .tail _ (.head _), rfl, rfl, _, _, rfl, hpoets, _, .tail _ (.head _), rfl, rfl,
    rfl, ?_⟩, hhalves, _, .head _, rfl, _, _, rfl, hjoined, _, .head _, rfl, ?_⟩
  · exact (selected_of_flag hshop (.tail _ (.head _)) rfl hpoets (.tail _ (.head _)) rfl
      (by decide)).1 ⟨10, rfl⟩ rfl
  · exact (selected_of_flag hhalves (.head _) rfl hjoined (.head _) rfl (by decide)).2
      (fun ⟨_, hkind⟩ => nomatch hkind)

/-- Both halves are marked, although the facet is reported without multiple selection. -/
theorem selected_halves : halvesDraft.build = .ok halves ∧
    ∃ facet ∈ halvesDraft.facets, facet.filter = none ∧
      ∃ q results, halves.compile halvesRequest = .ok q ∧
        halves.decompile halvesRequest q halvesAnswer = .ok results ∧
        ∃ result ∈ results.facets, result.identifier = facet.identifier ∧
          (result.options.map FacetOption.value).Nodup ∧ result.multipleSelect = false ∧
          ¬ result.options.countP (·.selected) ≤ 1 :=
  ⟨rfl, _, .head _, rfl, _, _, rfl, rfl, _, .head _, rfl, by decide, rfl, by decide⟩

end Domain

end FacetSearch
