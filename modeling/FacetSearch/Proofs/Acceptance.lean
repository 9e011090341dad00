import FacetSearch.Proofs.CompiledQuery
import FacetSearch.Proofs.RangeValue
/-!
# Accepted requests

Which requests compile, and which error is given for one that does not. The checks come in a fixed
order: the page, the identifiers in the order of the request, the values that count in the order of
the filters of the domain, the ordering. The first fault in that order is the one reported.
-/

namespace FacetSearch

namespace Domain

/-- Every identifier of the request is that of a filter. -/
def Knows (d : Domain) (r : Request) : Prop :=
  ∀ k ∈ r.filters.keys, k ∈ d.filters.map Filter.identifier

/-- Every value that counts can be read by its filter. -/
def Reads (d : Domain) (r : Request) : Prop :=
  ∀ f ∈ d.filters, ∀ value ∈ r.honoured f, f.Parses value

/-- The first value that counts and cannot be read, of the first filter that has one. -/
def FirstUnreadable (d : Domain) (r : Request) (f : Filter) (value : String) : Prop :=
  FirstWith (fun f => ∃ v ∈ r.honoured f, ¬ f.Parses v) d.filters f ∧
    FirstWith (fun v => ¬ f.Parses v) (r.honoured f) value

/-- The ordering of a request: the sort option that it names, or else one marked default. -/
def Orders (d : Domain) (r : Request) (option : SortOption) : Prop :=
  option ∈ d.sortOptions ∧ match r.sortBy with
    | some id => option.id = id
    | none => option.isDefault = true

variable {d : Domain} {r : Request} {e : SearchError}

/-! ## The single checks -/

theorem checkPage_eq_error_iff {page : PageWindow} :
    checkPage page = .error e ↔
      ¬ (1 ≤ page.size ∧ page.size ≤ 100) ∧ e = .invalidPage "size: Validation error: range" := by
  unfold checkPage
  split <;> simp_all [eq_comm]

theorem isNone_filter?_iff {k : String} :
    (d.filter? k).isNone = true ↔ k ∉ d.filters.map Filter.identifier := by
  simp [filter?]

theorem checkIdentifiers_eq_ok_iff_knows : d.checkIdentifiers r = .ok () ↔ d.Knows r := by
  rw [checkIdentifiers_eq_ok_iff, Knows]
  refine forall₂_congr fun k _ => ?_
  rw [← not_iff_not, ← isNone_filter?_iff, Option.isNone_iff_eq_none,
    Option.eq_none_iff_forall_ne_some, not_exists]

theorem checkIdentifiers_eq_error_iff :
    d.checkIdentifiers r = .error e ↔
      ∃ k, FirstWith (fun k => k ∉ d.filters.map Filter.identifier) r.filters.keys k ∧
        e = .unknownFilter k := by
  have hfind {k : String} :
      r.filters.keys.find? (fun k => (d.filter? k).isNone) = some k ↔
        FirstWith (fun k => k ∉ d.filters.map Filter.identifier) r.filters.keys k := by
    rw [find?_eq_some_iff_firstWith]
    exact FirstWith.congr fun k _ => isNone_filter?_iff
  simp only [← hfind]
  unfold checkIdentifiers
  cases r.filters.keys.find? fun k => (d.filter? k).isNone <;> simp [eq_comm]

/-- The first value that counts and cannot be read gives the error of a filter. -/
theorem fragment_eq_error_iff {f : Filter} :
    fragment r f = .error e ↔
      ∃ value, FirstWith (fun v => ¬ f.Parses v) (r.honoured f) value ∧
        f.clause value = .error e := by
  simp only [Filter.parses_iff, ← mapM_eq_error_iff]
  unfold fragment Request.honoured
  cases r.selection f.identifier with
  | none => simp [pure, Except.pure]
  | some values =>
    simp only [Filter.compile]
    cases (f.effectiveValues values).mapM f.clause <;> simp [Except.map]

theorem exists_fragment_iff {f : Filter} :
    (∃ o, fragment r f = .ok o) ↔ ∀ value ∈ r.honoured f, f.Parses value := by
  simp only [fragment_eq_ok_iff, Filter.parses_iff]
  constructor
  · rintro ⟨_, clauses, hc, _⟩ value hv
    obtain ⟨c, _, hvalue⟩ := exists_ok_of_mapM hc hv
    exact ⟨c, hvalue⟩
  · intro h
    cases hc : (r.honoured f).mapM f.clause with
    | ok clauses => exact ⟨_, clauses, rfl, rfl⟩
    | error e =>
      obtain ⟨value, hv, herror⟩ := exists_error_of_mapM hc
      obtain ⟨c, hvalue⟩ := h value hv
      cases hvalue.symm.trans herror

theorem readable_iff_reads : d.Readable r ↔ d.Reads r := by
  refine forall₂_congr fun f _ => ?_
  rw [← exists_fragment_iff]
  constructor
  · intro h
    exact ⟨_, h⟩
  · rintro ⟨o, ho⟩
    rw [contribution_eq_of_ok ho, ho]

theorem activeFilters_eq_error_iff :
    d.activeFilters r = .error e ↔
      ∃ f value, d.FirstUnreadable r f value ∧ f.clause value = .error e ∧
        ∃ reason, e = .invalidFilterValue f.identifier value reason := by
  have hstep (f : Filter) : (∃ v ∈ r.honoured f, ¬ f.Parses v) ↔
      ¬ ∃ c, (do return (f, ← fragment r f) : Except SearchError _) = .ok c := by
    rw [← not_iff_not, not_not]
    simp only [bind_eq_ok_iff, pure_eq_ok_iff, not_exists, not_and, not_not]
    rw [← exists_fragment_iff]
    simp
  have hreason {f : Filter} {value : String} : f.clause value = .error e ↔
      f.clause value = .error e ∧ ∃ reason, e = .invalidFilterValue f.identifier value reason :=
    (and_iff_left_of_imp Filter.clause_error).symm
  simp only [← hreason, FirstUnreadable, and_assoc, exists_and_left, ← fragment_eq_error_iff,
    FirstWith.congr fun f _ => hstep f]
  unfold activeFilters
  simp [bind_eq_error_iff, mapM_eq_error_iff, pure, Except.pure]

theorem sortOption?_eq_none_iff {id : String} :
    d.sortOption? id = none ↔ ∀ option ∈ d.sortOptions, option.id ≠ id := by
  simp [sortOption?]

theorem ordering_eq_error_iff :
    d.ordering r = .error e ↔
      ∃ id, r.sortBy = some id ∧ (∀ option ∈ d.sortOptions, option.id ≠ id) ∧
        e = .unknownSort id := by
  simp only [← sortOption?_eq_none_iff]
  unfold ordering
  cases r.sortBy with
  | none => simp
  | some id => cases h : d.sortOption? id <;> simp [h, eq_comm]

/-- In a built domain a request has at most one ordering, and it is the one applied. -/
theorem ordering_eq_ok_iff {draft : DomainDraft} (hb : draft.build = .ok d)
    {option : SortOption} : d.ordering r = .ok option ↔ d.Orders r option := by
  unfold ordering Orders
  cases r.sortBy with
  | none => rw [Except.ok.injEq, eq_comm, eq_defaultSort_iff hb]
  | some id =>
    dsimp only
    rw [← sortOption?_eq_some_iff hb]
    cases d.sortOption? id <;> simp

/-- Only a sort option that is named can be missing. -/
theorem exists_orders_iff {draft : DomainDraft} (hb : draft.build = .ok d) :
    (∃ option, d.Orders r option) ↔
      ∀ id, r.sortBy = some id → ∃ option ∈ d.sortOptions, option.id = id := by
  unfold Orders
  cases r.sortBy with
  | none =>
    have hdefault := (eq_defaultSort_iff hb).mp rfl
    simpa using ⟨d.defaultSort, hdefault⟩
  | some id => simp

/-! ## The order of the checks -/

/-- The checks in their order, each made when those before it pass. -/
theorem compile_eq_error_iff :
    d.compile r = .error e ↔
      checkPage r.page = .error e ∨ checkPage r.page = .ok () ∧
        (d.checkIdentifiers r = .error e ∨ d.checkIdentifiers r = .ok () ∧
          (d.activeFilters r = .error e ∨ d.Readable r ∧ d.ordering r = .error e)) := by
  have hunit {x : Except SearchError Unit} : (∃ u, x = .ok u) ↔ x = .ok () := by
    constructor
    · rintro ⟨_, h⟩
      exact h
    · intro h
      exact ⟨_, h⟩
  unfold compile
  simp [bind_eq_error_iff, activeFilters_eq_ok_iff, hunit, pure, Except.pure]

/-- The error of a value that cannot be read, when all that is checked before it passes. -/
theorem compile_eq_invalidFilterValue_iff {identifier value : String} :
    (∃ reason, d.compile r = .error (.invalidFilterValue identifier value reason)) ↔
      checkPage r.page = .ok () ∧ d.checkIdentifiers r = .ok () ∧
        ∃ f, f.identifier = identifier ∧ d.FirstUnreadable r f value := by
  simp only [compile_eq_error_iff, checkPage_eq_error_iff, checkIdentifiers_eq_error_iff,
    ordering_eq_error_iff, activeFilters_eq_error_iff, reduceCtorEq, and_false, exists_false,
    or_false, false_or, exists_and_left]
  refine and_congr_right fun _ => and_congr_right fun _ => ?_
  constructor
  · rintro ⟨reason, f, v, hfirst, _, _, he⟩
    obtain ⟨rfl, rfl, _⟩ := SearchError.invalidFilterValue.inj he
    exact ⟨f, rfl, hfirst⟩
  · rintro ⟨f, rfl, hfirst⟩
    cases hclause : f.clause value with
    | ok c => exact absurd (Filter.parses_iff.mpr ⟨c, hclause⟩) hfirst.2.holds
    | error e =>
      obtain ⟨reason, rfl⟩ := Filter.clause_error hclause
      exact ⟨reason, f, value, hfirst, hclause, reason, rfl⟩

/-- A request compiles in a built domain when it passes every check. -/
theorem exists_compile_iff {draft : DomainDraft} (hb : draft.build = .ok d) :
    (∃ q, d.compile r = .ok q) ↔
      (1 ≤ r.page.size ∧ r.page.size ≤ 100) ∧ d.Knows r ∧ d.Reads r ∧
        ∀ id, r.sortBy = some id → ∃ option ∈ d.sortOptions, option.id = id := by
  simp only [compile_eq_ok_iff, checkPage_eq_ok_iff, checkIdentifiers_eq_ok_iff_knows,
    readable_iff_reads, ordering_eq_ok_iff hb, ← exists_orders_iff hb]
  constructor
  · rintro ⟨_, hpage, hknows, hreads, option, horders, _⟩
    exact ⟨hpage, hknows, hreads, option, horders⟩
  · rintro ⟨hpage, hknows, hreads, option, horders⟩
    exact ⟨_, hpage, hknows, hreads, option, horders, rfl⟩

/-- In a built domain, a request fails for its page when that has no admissible size. Otherwise it
fails for its first identifier that is that of no filter. Otherwise it fails for the first value
that counts and cannot be read, of the first filter that has one. Otherwise it fails for a sort
option that does not exist. Otherwise it compiles, in the order of the only sort option that it
can mean. -/
theorem compile_first_fault {draft : DomainDraft} (hb : draft.build = .ok d) (r : Request) :
    ((∃ reason, d.compile r = .error (.invalidPage reason)) ↔
      ¬ (1 ≤ r.page.size ∧ r.page.size ≤ 100)) ∧
    (∀ k, d.compile r = .error (.unknownFilter k) ↔ (1 ≤ r.page.size ∧ r.page.size ≤ 100) ∧
      FirstWith (fun k => k ∉ d.filters.map Filter.identifier) r.filters.keys k) ∧
    (∀ identifier value,
      (∃ reason, d.compile r = .error (.invalidFilterValue identifier value reason)) ↔
        (1 ≤ r.page.size ∧ r.page.size ≤ 100) ∧ d.Knows r ∧
          ∃ f, f.identifier = identifier ∧ d.FirstUnreadable r f value) ∧
    (∀ id, d.compile r = .error (.unknownSort id) ↔
      (1 ≤ r.page.size ∧ r.page.size ≤ 100) ∧ d.Knows r ∧ d.Reads r ∧
        r.sortBy = some id ∧ ∀ option ∈ d.sortOptions, option.id ≠ id) ∧
    ((∃ q, d.compile r = .ok q) ↔
      (1 ≤ r.page.size ∧ r.page.size ≤ 100) ∧ d.Knows r ∧ d.Reads r ∧
        ∀ id, r.sortBy = some id → ∃ option ∈ d.sortOptions, option.id = id) ∧
    ∀ q, d.compile r = .ok q → ∃ option, (∀ other, d.Orders r other ↔ other = option) ∧
      q.sortId = option.id ∧ q.sort = option.clauses := by
  refine ⟨?_, fun k => ?_, fun identifier value => ?_, fun id => ?_, ?_, fun q hq => ?_⟩
  · simp only [compile_eq_error_iff, checkPage_eq_error_iff, checkIdentifiers_eq_error_iff,
      activeFilters_eq_error_iff, ordering_eq_error_iff, reduceCtorEq, and_false, exists_false,
      or_false, SearchError.invalidPage.injEq, exists_and_left, exists_eq, and_true]
  · simp only [compile_eq_error_iff, checkPage_eq_error_iff, checkPage_eq_ok_iff,
      checkIdentifiers_eq_error_iff, activeFilters_eq_error_iff, ordering_eq_error_iff,
      reduceCtorEq, and_false, exists_false, or_false, false_or,
      SearchError.unknownFilter.injEq, exists_eq_right']
  · rw [compile_eq_invalidFilterValue_iff, checkPage_eq_ok_iff, checkIdentifiers_eq_ok_iff_knows]
  · simp only [compile_eq_error_iff, checkPage_eq_error_iff, checkPage_eq_ok_iff,
      checkIdentifiers_eq_error_iff, checkIdentifiers_eq_ok_iff_knows, readable_iff_reads,
      activeFilters_eq_error_iff, ordering_eq_error_iff, reduceCtorEq, and_false, exists_false,
      false_or, SearchError.unknownSort.injEq, ← and_assoc, exists_eq_right']
  · exact exists_compile_iff hb
  · obtain ⟨_, _, _, option, hsort, rfl⟩ := compile_eq_ok_iff.mp hq
    refine ⟨option, fun other => ?_, rfl, rfl⟩
    rw [← ordering_eq_ok_iff hb, hsort, Except.ok.injEq, eq_comm]

end Domain

/-- A sample with ranges: a numeric filter, and a facet of dates that declares no filter and has
one range whose ends are the wrong way round. -/
def membersDraft : DomainDraft where
  index := "members"
  returnedFields := ["name"]
  relevanceFields := ["name"]
  sortOptions := [⟨"best", "Best match", [⟨"_score", .descending⟩], true⟩]
  filters := [.range .numeric "rate" "hourly_rate" "Rate" false]
  facets := [⟨"joined", "joined_at", "Joined", false, none, .dateRanges
    [⟨"Since 2024", some "2024-01-01", none⟩,
      ⟨"Backwards", some "2024-01-01", some "2023-01-01"⟩]⟩]

def members : Domain := membersDraft.frozen 0

/-- A request to the members with three faults: no value that it selects is a range, and there is
no such ordering. -/
def tangledRequest : Request :=
  ((Request.withSort {} "nearest").select "joined" "2024-01-01..2023-01-01").select "rate" "many"

/-- The filter declared first decides, although the request names it last. -/
theorem Domain.members_first_fault : membersDraft.build = .ok members ∧
    tangledRequest.filters.keys = ["joined", "rate"] ∧
    ∃ f, f.identifier = "rate" ∧ members.FirstUnreadable tangledRequest f "many" := by
  have hb : membersDraft.build = .ok members := rfl
  obtain ⟨_, _, hvalues, _⟩ := compile_first_fault hb tangledRequest
  exact ⟨hb, rfl, ((hvalues "rate" "many").mp ⟨_, rfl⟩).2.2⟩

end FacetSearch
