import FacetSearch.Proofs.CompiledQuery
import FacetSearch.Proofs.InstantText
/-!
# What a body can hold

A number is written as such only when it is finite, and an instant is named by its text only when
it occurs. Whatever a filter reads from a selected value is of that kind, so a compiled query can
be written as soon as the histograms of its domain have finite numbers.
-/

namespace FacetSearch

/-- A number that JSON can hold, or an instant of the UTC time line. -/
def Bound.Writable : Bound → Prop
  | .number x => x.isFinite = true
  | .date i => i.Occurs

instance : (b : Bound) → Decidable b.Writable
  | .number x => inferInstanceAs (Decidable (x.isFinite = true))
  | .date i => inferInstanceAs (Decidable i.Occurs)

/-- Every bound in the tree can be written. -/
inductive Fragment.Writable : Fragment → Prop
  | matchAll : Writable .matchAll
  | multiMatch (query : String) (fields : List String) : Writable (.multiMatch query fields)
  | term (field value : String) : Writable (.term field value)
  | range (field : String) {low high : Option Bound} (hlow : ∀ b ∈ low, b.Writable)
    (hhigh : ∀ b ∈ high, b.Writable) : Writable (.range field low high)
  | compound {must filter should : List Fragment} (minimum : Option Nat)
    (hmust : ∀ f ∈ must, Writable f) (hfilter : ∀ f ∈ filter, Writable f)
    (hshould : ∀ f ∈ should, Writable f) : Writable (.compound must filter should minimum)

/-- The numbers of a histogram are ones that JSON can hold. -/
def AggregationKind.Writable : AggregationKind → Prop
  | .histogram _ interval min max =>
    interval.isFinite = true ∧ min.isFinite = true ∧ max.isFinite = true
  | _ => True

instance : (k : AggregationKind) → Decidable k.Writable
  | .terms _ _ => inferInstanceAs (Decidable True)
  | .histogram _ interval min max => inferInstanceAs (Decidable
      (interval.isFinite = true ∧ min.isFinite = true ∧ max.isFinite = true))
  | .dateRanges _ _ => inferInstanceAs (Decidable True)

structure Aggregation.Writable (a : Aggregation) : Prop where
  kind : a.kind.Writable
  filters : ∀ f ∈ a.filters, f.Writable

/-- Everything in the query can be written, and no two aggregations share a name. -/
structure CompiledQuery.Writable (q : CompiledQuery) : Prop where
  relevance : q.relevance.Writable
  filters : ∀ f ∈ q.filters, f.Writable
  postFilters : ∀ f ∈ q.postFilters, f.Writable
  aggregations : ∀ a ∈ q.aggregations, a.Writable
  names : (q.aggregations.map Aggregation.name).Nodup

/-- A range that is open above. -/
theorem Fragment.writable_from (field : String) {low : Bound} (h : low.Writable) :
    (range field (some low) none).Writable :=
  .range field (by simpa using h) (by simp)

theorem Fragment.writable_allOf {clauses : List Fragment} (h : ∀ f ∈ clauses, f.Writable) :
    (allOf clauses).Writable :=
  .compound none (by simp) h (by simp)

theorem Fragment.writable_anyOf {clauses : List Fragment} {f : Fragment}
    (h : ∀ c ∈ clauses, c.Writable) (hf : anyOf clauses = some f) : f.Writable := by
  match clauses, hf with
  | [c], hf =>
    obtain rfl : c = f := Option.some.inj hf
    exact h c (List.mem_singleton_self c)
  | c :: d :: rest, hf =>
    obtain rfl : compound [] [] (c :: d :: rest) (some 1) = f := Option.some.inj hf
    exact .compound (some 1) (by simp) (by simp) h

namespace CompiledQuery.Writable

variable {q : CompiledQuery}

theorem query (h : q.Writable) : q.query.Writable :=
  .compound none (by simpa using h.relevance) h.filters (by simp)

theorem postFilter (h : q.Writable) : ∀ f ∈ q.postFilter, f.Writable := by
  unfold CompiledQuery.postFilter
  split
  · simp
  · rintro _ ⟨⟩
    exact Fragment.writable_allOf h.postFilters

end CompiledQuery.Writable

/-! ## Selected values -/

section

variable {α : Type} {read : List Char → Except RangeFault α} {P : α → Prop}

/-- A bound that is not open was read from some text. -/
theorem readBound_all (hread : ∀ {t a}, read t = .ok a → P a) {s : List Char} {bound : Option α}
    (h : readBound read s = .ok bound) : ∀ a ∈ bound, P a := by
  unfold readBound at h
  split at h
  · obtain rfl := Except.ok.inj h
    simp
  · obtain ⟨a, ha, rfl⟩ := map_eq_ok_iff.mp h
    rintro _ ⟨⟩
    exact hread ha

theorem readRange_all (hread : ∀ {t a}, read t = .ok a → P a) {exceeds : α → α → Bool}
    {value : String} {low high : Option α} (h : readRange read exceeds value = .ok (low, high)) :
    (∀ a ∈ low, P a) ∧ ∀ a ∈ high, P a := by
  unfold readRange at h
  split at h
  · cases h
  · obtain ⟨l, hl, h⟩ := bind_eq_ok_iff.mp h
    obtain ⟨u, hu, h⟩ := bind_eq_ok_iff.mp h
    have hbounds : (l, u) = (low, high) := by
      split at h
      · cases h
      · split at h
        · cases h
        · exact Except.ok.inj h
      · exact Except.ok.inj h
    obtain ⟨rfl, rfl⟩ := Prod.mk.inj hbounds
    exact ⟨readBound_all hread hl, readBound_all hread hu⟩

end

theorem readNumber_writable {s : List Char} {x : Float} (h : readNumber s = .ok x) :
    (Bound.number x).Writable := by
  unfold readNumber at h
  split at h
  · split at h
    · next hx =>
      obtain rfl := Except.ok.inj h
      exact hx
    · cases h
  · cases h

theorem readDate_writable {s : List Char} {i : Calendar.Instant} (h : readDate s = .ok i) :
    (Bound.date i).Writable := by
  unfold readDate at h
  split at h
  · next hi =>
    obtain rfl := Except.ok.inj h
    exact Calendar.readInstant?_occurs hi
  · cases h

/-- The bounds of a range value can be written, whichever kind they are of. -/
theorem RangeKind.readBounds_writable {kind : RangeKind} {value : String}
    {low high : Option Bound} (h : kind.readBounds value = .ok (low, high)) :
    (∀ b ∈ low, b.Writable) ∧ ∀ b ∈ high, b.Writable := by
  cases kind with
  | numeric =>
    obtain ⟨_, hr, h⟩ := bind_eq_ok_iff.mp h
    obtain ⟨rfl, rfl⟩ := Prod.mk.inj (pure_eq_ok_iff.mp h)
    simpa using readRange_all readNumber_writable hr
  | date =>
    obtain ⟨_, hr, h⟩ := bind_eq_ok_iff.mp h
    obtain ⟨rfl, rfl⟩ := Prod.mk.inj (pure_eq_ok_iff.mp h)
    simpa using readRange_all readDate_writable hr

theorem Filter.clause_writable {f : Filter} {value : String} {c : Fragment}
    (h : f.clause value = .ok c) : c.Writable := by
  cases f with
  | valueTag field =>
    obtain rfl := Except.ok.inj h
    exact .term field value
  | term _ field =>
    obtain rfl := Except.ok.inj h
    exact .term field value
  | range kind _ field =>
    simp only [clause] at h
    split at h
    · next hb =>
      obtain rfl := Except.ok.inj h
      obtain ⟨hlow, hhigh⟩ := kind.readBounds_writable hb
      exact .range field hlow hhigh
    · cases h

/-! ## Compiled queries -/

namespace Domain

theorem fragment_writable {r : Request} {f : Filter} {c : Fragment}
    (h : fragment r f = .ok (some c)) : c.Writable := by
  obtain ⟨clauses, hc, hany⟩ := fragment_eq_ok_iff.mp h
  refine Fragment.writable_anyOf (fun clause hm => ?_) hany
  obtain ⟨_, _, hclause⟩ := exists_item_of_mapM hc hm
  exact Filter.clause_writable hclause

theorem fragmentsOf_writable {d : Domain} {r : Request} (hr : d.Readable r) (p : Filter → Bool) :
    ∀ c ∈ d.fragmentsOf r p, c.Writable := by
  intro c hc
  obtain ⟨f, hf, hcontribution⟩ := List.mem_filterMap.mp hc
  have hfragment := hr f (List.mem_of_mem_filter hf)
  rw [hcontribution] at hfragment
  exact fragment_writable hfragment

theorem relevance_writable (d : Domain) (r : Request) : (d.relevance r).Writable := by
  unfold relevance
  split
  · split
    · exact .matchAll
    · exact .multiMatch _ _
  · exact .matchAll

/-- What a built domain makes of a request can be written, if its histograms can. -/
theorem compile_writable {draft : DomainDraft} {d : Domain} {r : Request} {q : CompiledQuery}
    (hb : draft.build = .ok d) (hq : d.compile r = .ok q)
    (hfacets : ∀ facet ∈ d.facets, (facet.aggregation []).kind.Writable) : q.Writable := by
  have hn := aggregationNames_nodup hb hq
  obtain ⟨_, _, hr, ordering, _, rfl⟩ := compile_eq_ok_iff.mp hq
  refine ⟨d.relevance_writable r, fragmentsOf_writable hr _, fragmentsOf_writable hr _, ?_, hn⟩
  intro a ha
  obtain ⟨facet, hm, rfl⟩ := List.mem_map.mp ha
  exact ⟨hfacets facet hm, fragmentsOf_writable hr _⟩

end Domain

end FacetSearch
