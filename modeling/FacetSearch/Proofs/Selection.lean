import FacetSearch.Search.Compile
import FacetSearch.Proofs.Meaning
import FacetSearch.Proofs.Ordered
/-!
# Selections

What a request selects, and what a filter makes of it. Main statement: the fragment compiled for a
filter holds of a document exactly when the filter admits the document, that is, when nothing is
selected or the clause of one of the values that count holds.
-/

namespace FacetSearch

/-! ## What a request selects -/

namespace Request

/-- A selection counts only when it is not empty. -/
theorem selection_eq_some_iff {r : Request} {identifier : String} {values : Selection} :
    r.selection identifier = some values ↔
      r.filters.get? identifier = some values ∧ values.toList ≠ [] := by
  simp [selection, Option.filter_eq_some_iff, OrderedSet.isEmpty]

end Request

/-! ## What a filter makes of a selection -/

theorem Filter.effectiveValues_eq_nil_iff {f : Filter} {values : Selection} :
    f.effectiveValues values = [] ↔ values.toList = [] := by
  unfold effectiveValues
  split <;> simp

/-- The selected values of a filter that count. -/
def Request.honoured (r : Request) (f : Filter) : List String :=
  match r.selection f.identifier with
  | some values => f.effectiveValues values
  | none => []

theorem Request.honoured_eq_nil_iff {r : Request} {f : Filter} :
    r.honoured f = [] ↔ r.selection f.identifier = none := by
  unfold honoured
  cases h : r.selection f.identifier with
  | none => simp
  | some values =>
    have hne := (selection_eq_some_iff.mp h).2
    simpa [Filter.effectiveValues_eq_nil_iff] using hne

/-- An empty selection has no value that counts, just like an absent one. -/
theorem Request.honoured_eq_effectiveValues {r : Request} {f : Filter} {values : Selection}
    (h : r.filters.get? f.identifier = some values) :
    r.honoured f = f.effectiveValues values := by
  by_cases hv : values.toList = []
  · have hnone : r.selection f.identifier = none := by
      simp [selection, h, OrderedSet.isEmpty, hv]
    rw [honoured_eq_nil_iff.mpr hnone, Filter.effectiveValues_eq_nil_iff.mpr hv]
  · rw [honoured, selection_eq_some_iff.mpr ⟨h, hv⟩]

variable {δ : Type}

/-- The document passes the filter: the request selects nothing for it, or the clause of one of
the selected values that count holds. -/
def Filter.Admits (f : Filter) (r : Request) (I : Interpretation δ) (doc : δ) : Prop :=
  ∀ values, r.filters.get? f.identifier = some values → values.toList ≠ [] →
    ∃ value ∈ f.effectiveValues values, ∃ clause,
      f.clause value = .ok clause ∧ clause.holds I doc = true

theorem Filter.admits_iff {f : Filter} {r : Request} {I : Interpretation δ} {doc : δ} :
    f.Admits r I doc ↔ r.honoured f = [] ∨
      ∃ value ∈ r.honoured f, ∃ clause, f.clause value = .ok clause ∧ clause.holds I doc = true := by
  constructor
  · intro h
    rw [Request.honoured_eq_nil_iff, or_iff_not_imp_left, ← ne_eq, Option.ne_none_iff_exists']
    rintro ⟨values, hs⟩
    obtain ⟨hv, hne⟩ := Request.selection_eq_some_iff.mp hs
    rw [Request.honoured_eq_effectiveValues hv]
    exact h values hv hne
  · rintro h values hv hne
    rw [Request.honoured_eq_effectiveValues hv, effectiveValues_eq_nil_iff] at h
    exact h.resolve_left hne

namespace Domain

/-- The fragment of a filter joins the clauses of the values that count. -/
theorem fragment_eq_ok_iff {r : Request} {f : Filter} {o : Option Fragment} :
    fragment r f = .ok o ↔
      ∃ clauses, (r.honoured f).mapM f.clause = .ok clauses ∧ Fragment.anyOf clauses = o := by
  unfold fragment Request.honoured
  cases r.selection f.identifier with
  | none => simp
  | some values => exact map_eq_ok_iff

/-- A filter adds a fragment exactly when it has a value that counts. -/
theorem fragment_eq_none_iff {r : Request} {f : Filter} {o : Option Fragment}
    (h : fragment r f = .ok o) : o = none ↔ r.honoured f = [] := by
  obtain ⟨clauses, hc, rfl⟩ := fragment_eq_ok_iff.mp h
  have hlen := (mapM_eq_ok_iff.mp hc).length_eq
  rw [Fragment.anyOf_eq_none_iff, ← List.length_eq_zero_iff, ← hlen, List.length_eq_zero_iff]

/-- The fragment of a filter holds exactly of the documents that the filter admits. -/
theorem fragment_holds_iff {r : Request} {f : Filter} {o : Option Fragment}
    (h : fragment r f = .ok o) (I : Interpretation δ) (doc : δ) :
    (∀ c, o = some c → c.holds I doc = true) ↔ f.Admits r I doc := by
  have hnone := fragment_eq_none_iff h
  obtain ⟨clauses, hc, hany⟩ := fragment_eq_ok_iff.mp h
  rw [Filter.admits_iff, ← hnone]
  cases o with
  | none => simp
  | some c =>
    rw [← exists_mem_results_iff hc (P := fun c => c.holds I doc = true), ← Fragment.holds_anyOf hany]
    simp

end Domain

end FacetSearch
