import FacetSearch.Proofs.Acceptance
import FacetSearch.Proofs.Composition
import FacetSearch.Proofs.EngineAnswer
import FacetSearch.Proofs.ServiceRun
import FacetSearch.Search.Remote
/-!
# Kinds of errors

Each phase fails with errors of its own kind: declarations with those of the configuration,
requests with those of validation, and what an engine answers with those of the engine. So a
search never reports the configuration, and it blames the request before the engine is called.
-/

namespace FacetSearch

namespace SearchError

variable {e : SearchError}

theorem code_eq_configuration_iff : e.code = "CONFIGURATION_ERROR" ↔ e.kind = .configuration := by
  cases e <;> simp [code, kind]

theorem code_eq_validation_iff : e.code = "VALIDATION_ERROR" ↔ e.kind = .validation := by
  cases e <;> simp [code, kind]

end SearchError

/-- All errors of a step are of one kind. -/
abbrev FailsAs (k : ErrorKind) {α : Type} (x : Except SearchError α) : Prop :=
  FailsOnly (fun e => e.kind = k) x

/-! ## Declarations -/

theorem Facet.validate_failsAs (f : Facet) : FailsAs .configuration f.validate :=
  .mapError fun _ => rfl

namespace DomainDraft

theorem defaultIndex_failsAs (draft : DomainDraft) : FailsAs .configuration draft.defaultIndex := by
  unfold defaultIndex
  split
  · exact .ok _
  · exact .error rfl
  · exact .error rfl

theorem checkFacet_failsAs (draft : DomainDraft) (facet : Facet) :
    FailsAs .configuration (draft.checkFacet facet) := by
  refine facet.validate_failsAs.bind fun _ => ?_
  split
  · exact .ok _
  · split
    · exact .ok _
    · exact .error rfl

theorem build_failsAs (draft : DomainDraft) : FailsAs .configuration draft.build := by
  unfold build
  dsimp only
  split
  · exact .throw_bind (by rfl) _
  split
  · exact .throw_bind (by rfl) _
  split
  · exact .throw_bind (by rfl) _
  refine draft.defaultIndex_failsAs.bind fun _ => ?_
  split
  · exact .throw_bind (by rfl) _
  · exact (FailsOnly.forM draft.checkFacet_failsAs _).bind fun _ => .ok _

end DomainDraft

namespace Schema

theorem registrations_failsAs (declarations : List Declaration) :
    FailsAs .configuration (registrations declarations) :=
  .mapM (fun d => d.draft.build_failsAs.bind fun _ => .ok _) declarations

theorem checkName_failsAs (name : String) : FailsAs .configuration (checkName name) := by
  unfold checkName
  split
  · exact .ok _
  · exact .error rfl

theorem claim_failsAs (held : List (String × String)) (name owner : String) :
    FailsAs .configuration (claim held name owner) := by
  refine (checkName_failsAs name).bind fun _ => ?_
  split
  · exact .error rfl
  · exact .ok _

theorem checkFieldNames_failsAs (hitType : String) (fields : List String) :
    FailsAs .configuration (checkFieldNames hitType fields) := by
  unfold checkFieldNames
  split
  · exact .ok _
  · exact .error rfl

theorem Registry.claimAll_failsAs (registry : Registry) (r : Registration) :
    FailsAs .configuration (registry.claimAll r) := by
  refine FailsOnly.bind (.foldlM (fun registry name => ?_) _ _) fun registry => ?_
  · exact (claim_failsAs registry.types name _).bind fun _ => .ok _
  refine FailsOnly.bind ?_ fun registry => ?_
  · exact (claim_failsAs registry.queryFields _ _).bind fun _ => .ok _
  · exact (checkFieldNames_failsAs _ _).bind fun _ => .ok _

theorem validate_failsAs (rs : List Registration) : FailsAs .configuration (validate rs) := by
  unfold validate
  split
  · exact .error rfl
  · exact .foldlM Registry.claimAll_failsAs _ _

end Schema

/-! ## Requests -/

/-- Each check of a request fails with an error of its own, and all of them blame the request. -/
theorem Domain.compile_failsAs (d : Domain) (r : Request) : FailsAs .validation (d.compile r) := by
  intro e he
  rcases compile_eq_error_iff.mp he with hpage | ⟨_, hknown | ⟨_, hactive | ⟨_, hsort⟩⟩⟩
  · obtain ⟨_, rfl⟩ := checkPage_eq_error_iff.mp hpage
    rfl
  · obtain ⟨_, _, rfl⟩ := checkIdentifiers_eq_error_iff.mp hknown
    rfl
  · obtain ⟨_, _, _, _, _, rfl⟩ := activeFilters_eq_error_iff.mp hactive
    rfl
  · obtain ⟨_, _, _, rfl⟩ := ordering_eq_error_iff.mp hsort
    rfl

/-! ## Engines -/

/-- The error says that a response has not the shape expected. -/
def SearchError.IsMalformed (e : SearchError) : Prop := ∃ what, e = .malformedResponse what

theorem CompiledQuery.readAnswer_failsOnly (q : CompiledQuery) (answer : Json) :
    FailsOnly SearchError.IsMalformed (q.readAnswer answer) :=
  .mapError fun _ => ⟨_, rfl⟩

theorem Facet.option_failsOnly (f : Facet) (selected : List String) (bucket : Bucket) :
    FailsOnly SearchError.IsMalformed (f.option selected bucket) := by
  refine FailsOnly.bind (fun e he => ?_) fun _ => .ok _
  obtain ⟨_, rfl⟩ := optionValue_error he
  exact ⟨_, rfl⟩

theorem Domain.decompile_failsOnly (d : Domain) (r : Request) (q : CompiledQuery)
    (response : EngineResponse) :
    FailsOnly SearchError.IsMalformed (d.decompile r q response) := by
  refine FailsOnly.bind (.mapM (fun facet => ?_) _) fun _ => .ok _
  unfold facetResult
  split
  · exact .error ⟨_, rfl⟩
  · exact (FailsOnly.mapM (facet.option_failsOnly _) _).bind fun _ => .ok _

/-- However an exchange with a remote engine ends, its errors are those of an engine. -/
theorem RemoteEngine.interpret_failsAs (e : RemoteEngine) (q : CompiledQuery) (reply : Reply) :
    FailsAs .engine (e.interpret q reply) := by
  unfold interpret
  split
  · exact .error rfl
  · exact .error rfl
  · exact .error rfl
  dsimp only
  split
  · exact .error rfl
  split
  · refine (q.readAnswer_failsOnly _).mono ?_
    rintro _ ⟨_, rfl⟩
    rfl
  · exact .error rfl

/-! ## Searches -/

/-- Who is to blame for a failed search: the request, before the engine is called for anything; or
the engine, with an error that it gives, or because of what it does not answer. -/
theorem Service.search_eq_error {s : Service} {name : String} {d : Domain} {r : Request}
    {t : Trace} {e : SearchError} (h : (s.search name d r t).1 = .error e) :
    d.compile r = .error e ∧ (s.search name d r t).2.calls = t.calls ∨
      (∃ q, d.compile r = .ok q ∧ s.engine.answer q = .error e) ∨ e.kind = .engine := by
  obtain ⟨result, hends, hperform⟩ := SearchStep.perform_spec s.timeout ⟨name, d, r, s.engine⟩ t
  change s.search name d r t = _ at hperform
  rw [hperform] at h ⊢
  obtain rfl : result = .error e := h
  -- The endings are told apart by what they result in, here an error.
  generalize hresult : (Except.error e : Except SearchError Results) = result at hends
  cases hends with
  | refused hc =>
    obtain rfl := Except.error.inj hresult
    exact .inl ⟨hc, by simp [SearchStep.record, SearchStep.asked, hc, Except.toOption]⟩
  | silent hc hl =>
    obtain rfl := Except.error.inj hresult
    exact .inr (.inr rfl)
  | failed hc hl ha =>
    obtain rfl := Except.error.inj hresult
    exact .inr (.inl ⟨_, hc, ha⟩)
  | answered hc hl ha =>
    obtain ⟨_, rfl⟩ := d.decompile_failsOnly r _ _ e hresult.symm
    exact .inr (.inr rfl)

/-- Drafts, declarations and schemas fail with errors of the configuration, requests with those of
validation, answers and responses of an engine as malformed ones. So with an engine that reports no
error of the configuration no search does, and a search reports one of validation without a call of
the engine, unless the engine gave it. -/
theorem phases_fail_in_kind :
    (∀ draft : DomainDraft, FailsAs .configuration draft.build) ∧
    (∀ declarations, FailsAs .configuration (Schema.registrations declarations)) ∧
    (∀ rs, FailsAs .configuration (Schema.validate rs)) ∧
    (∀ (d : Domain) r, FailsAs .validation (d.compile r)) ∧
    (∀ (q : CompiledQuery) answer, FailsOnly SearchError.IsMalformed (q.readAnswer answer)) ∧
    (∀ (d : Domain) r q response,
      FailsOnly SearchError.IsMalformed (d.decompile r q response)) ∧
    (∀ e : SearchError, e.IsMalformed → e.kind = .engine) ∧
    ∀ s : Service, (∀ q e, s.engine.answer q = .error e → e.kind ≠ .configuration) →
      ∀ name d r t e, (s.search name d r t).1 = .error e →
        e.code ≠ "CONFIGURATION_ERROR" ∧ (e.code = "VALIDATION_ERROR" →
          (s.search name d r t).2.calls = t.calls ∨
            ∃ q, d.compile r = .ok q ∧ s.engine.answer q = .error e) := by
  refine ⟨DomainDraft.build_failsAs, Schema.registrations_failsAs, Schema.validate_failsAs,
    Domain.compile_failsAs, CompiledQuery.readAnswer_failsOnly, Domain.decompile_failsOnly, ?_, ?_⟩
  · rintro _ ⟨_, rfl⟩
    rfl
  intro s hs name d r t e he
  rw [ne_eq, SearchError.code_eq_configuration_iff, SearchError.code_eq_validation_iff]
  rcases Service.search_eq_error he with ⟨hc, hcalls⟩ | ⟨q, hc, ha⟩ | hkind
  · have hkind : e.kind = .validation := d.compile_failsAs r e hc
    exact ⟨by simp [hkind], fun _ => .inl hcalls⟩
  · exact ⟨hs q e ha, fun _ => .inr ⟨q, hc, ha⟩⟩
  · exact ⟨by simp [hkind], fun h => by simp [hkind] at h⟩

/-- A shop whose remote engine accepts no connection. -/
def closedShop : Service := ⟨RemoteEngine.engine ⟨"http://localhost:9200", 50⟩ .refused, 50⟩

/-- A page of no size is blamed on the request, and the engine is not called to find that out. -/
theorem closedShop_empty_page :
    (∀ q e, closedShop.engine.answer q = .error e → e.kind ≠ .configuration) ∧
    ∃ e, (closedShop.search "Books" bookshop (verseRequest.withPage 0 0) {}).1 = .error e ∧
      e.code = "VALIDATION_ERROR" ∧
      (closedShop.search "Books" bookshop (verseRequest.withPage 0 0) {}).2.calls = [] := by
  have hkind : ∀ q e, closedShop.engine.answer q = .error e → e.kind = .engine :=
    fun q => RemoteEngine.interpret_failsAs ⟨"http://localhost:9200", 50⟩ q .refused
  have hs : ∀ q e, closedShop.engine.answer q = .error e → e.kind ≠ .configuration :=
    fun q e he => by simp [hkind q e he]
  have herror : (closedShop.search "Books" bookshop (verseRequest.withPage 0 0) {}).1 =
    .error (.invalidPage "size: Validation error: range") := rfl
  obtain ⟨_, _, _, _, _, _, _, hsearch⟩ := phases_fail_in_kind
  obtain ⟨_, hvalidation⟩ := hsearch closedShop hs _ _ _ _ _ herror
  refine ⟨hs, _, herror, rfl, ?_⟩
  rcases hvalidation rfl with hcalls | ⟨q, _, ha⟩
  · exact hcalls
  · cases hkind q _ ha

end FacetSearch
