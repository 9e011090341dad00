import FacetSearch.Proofs.Acceptance
import FacetSearch.Proofs.AppliedFilters
import FacetSearch.Proofs.Numeral
import FacetSearch.Proofs.Representation
/-!
# Results are complete or an error

What a response must hold to be rendered: an aggregation for every facet, with keys that the facet
can offer. The first facet that lacks it decides the error. Otherwise nothing of the response is
dropped, repeated or moved: there is a hit for each hit, an option for each bucket, and one option
list for each facet.
-/

namespace FacetSearch

/-! ## What a response can lack -/

/-- The key of a bucket cannot be offered as an option, and what is told of it. -/
inductive Facet.KeyFault (f : Facet) (key : String) : String → Prop
  | notNumeric {interval min max : Float} (hk : f.kind = .histogram interval min max)
    (hkey : ¬ Decimal.IsNumeral key.toList) :
    KeyFault f key s!"facet '{f.identifier}': histogram key '{key}' is not numeric"
  | unknownRange {ranges : List DateBucket} (hk : f.kind = .dateRanges ranges)
    (hkey : ∀ range ∈ ranges, range.label ≠ key) :
    KeyFault f key s!"facet '{f.identifier}': unknown date range '{key}'"

/-- A response lacks what a facet needs: its aggregation, or a key that can be offered in the place
of the first one that cannot. -/
inductive EngineResponse.Fault (response : EngineResponse) (f : Facet) : String → Prop
  | missing (h : response.aggregations.get? f.identifier = none) :
    Fault response f s!"missing aggregation for facet '{f.identifier}'"
  | key {buckets : List Bucket} {bucket : Bucket} {what : String}
    (h : response.aggregations.get? f.identifier = some buckets)
    (hfirst : FirstWith (fun b => ∃ what, f.KeyFault b.key what) buckets bucket)
    (hwhat : f.KeyFault bucket.key what) : Fault response f what

/-- What a response lacks, apart from the texts. -/
theorem EngineResponse.exists_fault_iff {response : EngineResponse} {f : Facet} :
    (∃ what, response.Fault f what) ↔
      response.aggregations.get? f.identifier = none ∨
        ∃ buckets, response.aggregations.get? f.identifier = some buckets ∧
          ∃ b ∈ buckets, ∃ what, f.KeyFault b.key what := by
  constructor
  · rintro ⟨what, h⟩
    cases h with
    | missing h => exact .inl h
    | key h hfirst hwhat => exact .inr ⟨_, h, _, hfirst.mem, _, hwhat⟩
  · rintro (h | ⟨buckets, h, hbad⟩)
    · exact ⟨_, .missing h⟩
    · obtain ⟨bucket, hfirst⟩ := exists_firstWith_iff.mpr hbad
      obtain ⟨what, hwhat⟩ := hfirst.holds
      exact ⟨what, .key h hfirst hwhat⟩

/-! ## Options -/

namespace Facet

variable {f : Facet} {key : String} {e : SearchError}

theorem optionValue_eq_error_iff :
    f.optionValue key = .error e ↔ ∃ what, f.KeyFault key what ∧ e = .malformedResponse what := by
  have hread : (∃ fault, Decimal.readDouble key.toList = .error fault) ↔
      ¬ Decimal.IsNumeral key.toList := by
    rw [← Decimal.exists_readDouble_iff, not_exists_ok_iff]
  constructor
  · intro h
    unfold optionValue at h
    split at h
    · cases h
    · next hk =>
      split at h
      · cases h
      · next hfault =>
        cases h
        exact ⟨_, .notNumeric hk (hread.mp ⟨_, hfault⟩), rfl⟩
    · next hk =>
      split at h
      · cases h
      · next hnone =>
        cases h
        exact ⟨_, .unknownRange hk (by simpa using hnone), rfl⟩
  · rintro ⟨what, h, rfl⟩
    unfold optionValue
    cases h with
    | notNumeric hk hkey =>
      obtain ⟨fault, hfault⟩ := hread.mpr hkey
      simp [hk, hfault]
    | @unknownRange ranges hk hkey =>
      have hnone : ranges.find? (fun range => range.label = key) = none := by simpa using hkey
      simp [hk, hnone]

theorem option_eq_error_iff {selected : List String} {bucket : Bucket} :
    f.option selected bucket = .error e ↔
      ∃ what, f.KeyFault bucket.key what ∧ e = .malformedResponse what := by
  rw [← optionValue_eq_error_iff, option, bind_eq_error_iff]
  simp [pure, Except.pure]

end Facet

/-! ## Complete results -/

/-- The results for a response: nothing of it is left out, and nothing that was declared. -/
structure Results.Complete (draft : DomainDraft) (response : EngineResponse)
    (results : Results) : Prop where
  /-- One hit for each hit, with the returned fields of its document. -/
  hits : List.Forall₂ (fun found hit => hit.id = found.id ∧ hit.score = found.score ∧
      hit.fields.map Prod.fst = draft.returnedFields ∧
      ∀ name value, (name, value) ∈ hit.fields →
        value = (found.source.lookupPath? name.toList).getD .null)
    response.hits results.hits
  fieldsDistinct : draft.returnedFields.Nodup
  /-- One option list for each facet, with one option for each bucket. -/
  facets : List.Forall₂ (fun facet result => result.identifier = facet.identifier ∧
      ∃ buckets, response.aggregations.get? facet.identifier = some buckets ∧
        List.Forall₂ (fun bucket option => option.count = bucket.count ∧
          facet.optionValue bucket.key = .ok (option.value, option.label)) buckets result.options)
    draft.facets results.facets
  facetsDistinct : (draft.facets.map Facet.identifier).Nodup
  total : results.total = response.total
  pageTotal : results.page.total = response.total

namespace Domain

variable {draft : DomainDraft} {d : Domain} {r : Request} {q : CompiledQuery}
  {response : EngineResponse} {facet : Facet} {results : Results} {e : SearchError}

theorem facetResult_of_missing (h : response.aggregations.get? facet.identifier = none) :
    d.facetResult r response facet =
      .error (.malformedResponse s!"missing aggregation for facet '{facet.identifier}'") := by
  rw [facetResult, h]

theorem facetResult_of_buckets {buckets : List Bucket}
    (h : response.aggregations.get? facet.identifier = some buckets) :
    d.facetResult r response facet = do
      let options ← facet.options buckets (d.selectedValues r facet)
      return ⟨facet.identifier, facet.label, facet.display, facet.multipleSelect, options⟩ := by
  rw [facetResult, h]

theorem facetResult_eq_error_iff : d.facetResult r response facet = .error e ↔
    ∃ what, response.Fault facet what ∧ e = .malformedResponse what := by
  cases h : response.aggregations.get? facet.identifier with
  | none =>
    rw [facetResult_of_missing h]
    constructor
    · rintro ⟨⟩
      exact ⟨_, .missing h, rfl⟩
    · rintro ⟨what, hfault, rfl⟩
      cases hfault with
      | missing _ => rfl
      | key hbuckets _ _ => cases h.symm.trans hbuckets
  | some buckets =>
    rw [facetResult_of_buckets h, bind_eq_error_iff]
    simp only [pure, Except.pure, reduceCtorEq, and_false, exists_false, or_false]
    rw [Facet.options, mapM_eq_error_iff]
    simp only [not_exists_ok_iff, Facet.option_eq_error_iff]
    constructor
    · rintro ⟨bucket, hfirst, what, hwhat, rfl⟩
      refine ⟨what, .key h ?_ hwhat, rfl⟩
      exact (FirstWith.congr fun b _ => by simp).mp hfirst
    · rintro ⟨what, hfault, rfl⟩
      cases hfault with
      | missing hmissing => cases h.symm.trans hmissing
      | key hbuckets hfirst hwhat =>
        obtain rfl := Option.some.inj (h.symm.trans hbuckets)
        exact ⟨_, (FirstWith.congr fun b _ => by simp).mpr hfirst, what, hwhat, rfl⟩

/-- The error tells of the first facet for which something is lacking. -/
theorem decompile_eq_error_iff : d.decompile r q response = .error e ↔
    ∃ facet what, FirstWith (fun f => ∃ what, response.Fault f what) d.facets facet ∧
      response.Fault facet what ∧ e = .malformedResponse what := by
  have hpure : d.decompile r q response = .error e ↔
      d.facets.mapM (d.facetResult r response) = .error e := by
    rw [decompile, bind_eq_error_iff]
    simp [pure, Except.pure]
  rw [hpure, mapM_eq_error_iff]
  simp only [not_exists_ok_iff, facetResult_eq_error_iff]
  constructor
  · rintro ⟨facet, hfirst, what, hwhat, rfl⟩
    exact ⟨facet, what, (FirstWith.congr fun f _ => by simp).mp hfirst, hwhat, rfl⟩
  · rintro ⟨facet, what, hfirst, hwhat, rfl⟩
    exact ⟨facet, (FirstWith.congr fun f _ => by simp).mpr hfirst, what, hwhat, rfl⟩

/-- The options of a facet stand for its buckets, one each. -/
theorem buckets_of_facetResult {result : FacetResult}
    (h : d.facetResult r response facet = .ok result) :
    result.identifier = facet.identifier ∧
      ∃ buckets, response.aggregations.get? facet.identifier = some buckets ∧
        List.Forall₂ (fun bucket option => option.count = bucket.count ∧
          facet.optionValue bucket.key = .ok (option.value, option.label))
          buckets result.options := by
  cases hbuckets : response.aggregations.get? facet.identifier with
  | none =>
    rw [facetResult_of_missing hbuckets] at h
    cases h
  | some buckets =>
    rw [facetResult_of_buckets hbuckets] at h
    obtain ⟨options, hoptions, hresult⟩ := bind_eq_ok_iff.mp h
    obtain rfl := pure_eq_ok_iff.mp hresult
    refine ⟨rfl, buckets, rfl, (mapM_eq_ok_iff.mp hoptions).imp fun bucket option hoption => ?_⟩
    obtain ⟨⟨value, label⟩, hvalue, hfound⟩ := bind_eq_ok_iff.mp hoption
    obtain rfl := pure_eq_ok_iff.mp hfound
    exact ⟨rfl, hvalue⟩

@[simp] theorem identifier_backed (facet : Facet) :
    (DomainDraft.backed facet).identifier = facet.identifier := by
  obtain ⟨_, _, _, _, filter, _⟩ := facet
  cases filter <;> rfl

/-- A facet offers the same whether or not its filter was declared. -/
@[simp] theorem optionValue_backed (facet : Facet) (key : String) :
    (DomainDraft.backed facet).optionValue key = facet.optionValue key := by
  obtain ⟨_, _, _, _, filter, _⟩ := facet
  cases filter <;> rfl

theorem complete_of_decompile (hb : draft.build = .ok d)
    (h : d.decompile r q response = .ok results) : results.Complete draft response := by
  have hr := represents_of_build hb
  have hfacets := facets_of_decompile h
  obtain ⟨_, _, hresults⟩ := bind_eq_ok_iff.mp h
  obtain rfl := pure_eq_ok_iff.mp hresults
  constructor
  case total | pageTotal => rfl
  case fieldsDistinct => exact hr.returnedFields ▸ hr.fieldsDistinct
  case facetsDistinct => exact facetIdentifiers_nodup hb
  case hits =>
    rw [List.forall₂_map_right_iff, List.forall₂_same]
    refine fun found _ => ⟨rfl, rfl, ?_, ?_⟩
    · rw [hr.returnedFields]
      simp [Json.project, Function.comp_def]
    · intro name value hm
      obtain ⟨_, _, heq⟩ := List.mem_map.mp hm
      cases heq
      rfl
  case facets =>
    rw [facets_eq_of_build hb, List.forall₂_map_left_iff] at hfacets
    refine hfacets.imp fun facet result hresult => ?_
    simpa using buckets_of_facetResult hresult

/-- Decompiling fails exactly when a facet has no aggregation in the response or one with a key
that it cannot offer, with an error that tells of the first such facet. Otherwise the results are
complete. -/
theorem decompile_complete (hb : draft.build = .ok d) (r : Request) (q : CompiledQuery)
    (response : EngineResponse) :
    ((∃ e, d.decompile r q response = .error e) ↔ ∃ facet ∈ d.facets,
      response.aggregations.get? facet.identifier = none ∨
        ∃ buckets, response.aggregations.get? facet.identifier = some buckets ∧
          ∃ b ∈ buckets, ∃ what, facet.KeyFault b.key what) ∧
    (∀ e, d.decompile r q response = .error e ↔
      ∃ facet what, FirstWith (fun f => ∃ what, response.Fault f what) d.facets facet ∧
        response.Fault facet what ∧ e = .malformedResponse what) ∧
    ((∀ e, d.decompile r q response ≠ .error e) →
      ∃ results, d.decompile r q response = .ok results ∧ results.Complete draft response) := by
  refine ⟨?_, fun e => decompile_eq_error_iff, fun hne => ?_⟩
  case refine_2 =>
    cases h : d.decompile r q response with
    | error e => exact absurd h (hne e)
    | ok results => exact ⟨results, rfl, complete_of_decompile hb h⟩
  calc (∃ e, d.decompile r q response = .error e)
      ↔ ∃ facet, FirstWith (fun f => ∃ what, response.Fault f what) d.facets facet := by
        simp only [decompile_eq_error_iff]
        constructor
        · rintro ⟨_, facet, _, hfirst, _⟩
          exact ⟨facet, hfirst⟩
        · rintro ⟨facet, hfirst⟩
          obtain ⟨what, hwhat⟩ := hfirst.holds
          exact ⟨_, facet, what, hfirst, hwhat, rfl⟩
    _ ↔ ∃ facet ∈ d.facets, ∃ what, response.Fault facet what := exists_firstWith_iff
    _ ↔ _ := by simp only [EngineResponse.exists_fault_iff]

/-- The only facet of the members, with the filter that is made for it. -/
def joinedFacet : Facet :=
  ⟨"joined", "joined_at", "Joined", false, some "joined", .dateRanges
    [⟨"Since 2024", some "2024-01-01", none⟩,
      ⟨"Backwards", some "2024-01-01", some "2023-01-01"⟩]⟩

/-- Three members, counted under two ranges of which the second was never declared. -/
def joinedAnswer : EngineResponse :=
  ⟨3, [], .ofList [("joined", [⟨"Since 2024", 2⟩, ⟨"Before 2024", 1⟩])]⟩

/-- The count that can be offered is not, because the one after it cannot. -/
theorem members_before_2024 : membersDraft.build = .ok members ∧
    members.decompile {} (members.queryFor {} members.defaultSort) joinedAnswer =
      .error (.malformedResponse "facet 'joined': unknown date range 'Before 2024'") := by
  have hb : membersDraft.build = .ok members := rfl
  obtain ⟨_, herror, _⟩ :=
    decompile_complete hb {} (members.queryFor {} members.defaultSort) joinedAnswer
  have hsince : ¬ ∃ what, joinedFacet.KeyFault "Since 2024" what := by
    rintro ⟨_, ⟨⟨⟩⟩ | ⟨⟨⟩, hkey⟩⟩
    exact hkey _ List.mem_cons_self rfl
  have hbefore : joinedFacet.KeyFault "Before 2024"
      "facet 'joined': unknown date range 'Before 2024'" := .unknownRange rfl (by decide)
  have hfirst : FirstWith (fun b : Bucket => ∃ what, joinedFacet.KeyFault b.key what)
      [⟨"Since 2024", 2⟩, ⟨"Before 2024", 1⟩] ⟨"Before 2024", 1⟩ :=
    ⟨[⟨"Since 2024", 2⟩], [], rfl, ⟨_, hbefore⟩, by simpa using hsince⟩
  have hfault : joinedAnswer.Fault joinedFacet
      "facet 'joined': unknown date range 'Before 2024'" := .key rfl hfirst hbefore
  exact ⟨hb, (herror _).mpr ⟨joinedFacet, _, ⟨[], [], rfl, ⟨_, hfault⟩, by simp⟩, hfault, rfl⟩⟩

end Domain

end FacetSearch
