import FacetSearch.Search.Filter
import FacetSearch.Proofs.Outcome
import Mathlib.Data.Set.Defs
/-!
# The meaning of queries

A fragment read as a condition on documents. What an atom says of a document is left to an
interpretation; a compound clause counts the alternatives that hold.
-/

namespace FacetSearch

variable {δ : Type}

/-- Which documents the atoms hold of. -/
structure Interpretation (δ : Type) where
  multiMatch : String → List String → δ → Bool
  term : String → String → δ → Bool
  range : String → Option Bound → Option Bound → δ → Bool

namespace Fragment

/-- How many alternatives must hold when a compound clause does not say: one when there is
nothing else to hold. -/
def impliedMinimum (must filter should : List Fragment) : Nat :=
  if must.isEmpty && filter.isEmpty && !should.isEmpty then 1 else 0

mutual

def holds (I : Interpretation δ) (doc : δ) : Fragment → Bool
  | .matchAll => true
  | .multiMatch query fields => I.multiMatch query fields doc
  | .term field value => I.term field value doc
  | .range field low high => I.range field low high doc
  | .compound must filter should minimum =>
    allHold I doc must && allHold I doc filter &&
      decide (minimum.getD (impliedMinimum must filter should) ≤ countHolding I doc should)

def allHold (I : Interpretation δ) (doc : δ) : List Fragment → Bool
  | [] => true
  | f :: rest => f.holds I doc && allHold I doc rest

def countHolding (I : Interpretation δ) (doc : δ) : List Fragment → Nat
  | [] => 0
  | f :: rest => (if f.holds I doc then 1 else 0) + countHolding I doc rest

end

@[simp] theorem holds_matchAll (I : Interpretation δ) (doc : δ) : matchAll.holds I doc = true := by
  rw [holds]

@[simp] theorem holds_multiMatch (I : Interpretation δ) (doc : δ) (query : String)
    (fields : List String) :
    (multiMatch query fields).holds I doc = I.multiMatch query fields doc := by
  rw [holds]

@[simp] theorem holds_term (I : Interpretation δ) (doc : δ) (field value : String) :
    (term field value).holds I doc = I.term field value doc := by
  rw [holds]

theorem allHold_eq_all (I : Interpretation δ) (doc : δ) (fragments : List Fragment) :
    allHold I doc fragments = fragments.all (holds I doc) := by
  induction fragments with
  | nil => simp [allHold]
  | cons f rest ih => simp [allHold, ih]

theorem countHolding_eq_countP (I : Interpretation δ) (doc : δ) (fragments : List Fragment) :
    countHolding I doc fragments = fragments.countP (holds I doc) := by
  induction fragments with
  | nil => simp [countHolding]
  | cons f rest ih => rw [countHolding, ih, List.countP_cons, Nat.add_comm]

/-- Every requirement holds, and enough alternatives do. -/
theorem holds_compound (I : Interpretation δ) (doc : δ) (must filter should : List Fragment)
    (minimum : Option Nat) :
    (compound must filter should minimum).holds I doc =
      (must.all (holds I doc) && filter.all (holds I doc) &&
        decide (minimum.getD (impliedMinimum must filter should) ≤
          should.countP (holds I doc))) := by
  rw [holds, allHold_eq_all, allHold_eq_all, countHolding_eq_countP]

/-- Alternatives hold when one of them does, however they are wrapped. -/
theorem holds_anyOf {I : Interpretation δ} {doc : δ} {clauses : List Fragment} {f : Fragment}
    (h : anyOf clauses = some f) :
    f.holds I doc = true ↔ ∃ c ∈ clauses, c.holds I doc = true := by
  match clauses, h with
  | [c], h =>
    obtain rfl : c = f := Option.some.inj h
    simp
  | c :: d :: rest, h =>
    obtain rfl : compound [] [] (c :: d :: rest) (some 1) = f := Option.some.inj h
    have hpos := List.countP_pos_iff (p := holds I doc) (l := c :: d :: rest)
    simpa only [holds_compound, List.all_nil, Bool.and_self, Bool.true_and, Option.getD_some,
      decide_eq_true_eq, Nat.one_le_iff_ne_zero, Nat.pos_iff_ne_zero] using hpos

theorem holds_allOf (I : Interpretation δ) (doc : δ) (clauses : List Fragment) :
    (allOf clauses).holds I doc = clauses.all (holds I doc) := by
  simp [allOf, holds_compound, impliedMinimum]

end Fragment

/-! ## Hits and counts -/

namespace CompiledQuery

theorem holds_query (q : CompiledQuery) (I : Interpretation δ) (doc : δ) :
    q.query.holds I doc = (q.relevance.holds I doc && q.filters.all (Fragment.holds I doc)) := by
  simp [query, Fragment.holds_compound, Fragment.impliedMinimum]

/-- The document is a hit: it satisfies the main query and the post-filter, if there is one. -/
def returns (q : CompiledQuery) (I : Interpretation δ) (doc : δ) : Bool :=
  q.query.holds I doc && q.postFilter.all (Fragment.holds I doc)

/-- The document is one that an aggregation of the query counts. -/
def counts (q : CompiledQuery) (a : Aggregation) (I : Interpretation δ) (doc : δ) : Bool :=
  q.query.holds I doc && a.filters.all (Fragment.holds I doc)

theorem all_postFilter (q : CompiledQuery) (I : Interpretation δ) (doc : δ) :
    q.postFilter.all (Fragment.holds I doc) = q.postFilters.all (Fragment.holds I doc) := by
  unfold postFilter
  cases h : q.postFilters with
  | nil => simp
  | cons f rest => simp [Fragment.holds_allOf]

/-- Filters and post-filters restrict the hits alike. -/
theorem returns_iff (q : CompiledQuery) (I : Interpretation δ) (doc : δ) :
    q.returns I doc = true ↔ q.relevance.holds I doc = true ∧
      ∀ f ∈ q.filters ++ q.postFilters, f.holds I doc = true := by
  simp only [returns, holds_query, all_postFilter, Bool.and_eq_true, List.all_eq_true,
    List.forall_mem_append, and_assoc]

theorem counts_iff (q : CompiledQuery) (a : Aggregation) (I : Interpretation δ) (doc : δ) :
    q.counts a I doc = true ↔ q.relevance.holds I doc = true ∧
      ∀ f ∈ q.filters ++ a.filters, f.holds I doc = true := by
  simp only [counts, holds_query, Bool.and_eq_true, List.all_eq_true, List.forall_mem_append,
    and_assoc]

end CompiledQuery

/-! ## An exact engine -/

/-- An engine that neither samples nor cuts off: a document has a set of values in each field.
How free text and ranges match is left open. -/
structure ExactEngine (δ : Type) where
  values : δ → String → Set String
  decidableValues : ∀ doc field, DecidablePred (· ∈ values doc field)
  multiMatch : String → List String → δ → Bool
  range : String → Option Bound → Option Bound → δ → Bool

namespace ExactEngine

instance (e : ExactEngine δ) (doc : δ) (field : String) :
    DecidablePred (· ∈ e.values doc field) := e.decidableValues doc field

/-- A term holds when its value is in the field. -/
def reading (e : ExactEngine δ) : Interpretation δ where
  multiMatch := e.multiMatch
  term field value doc := decide (value ∈ e.values doc field)
  range := e.range

/-- How many of the documents are hits. -/
def total (e : ExactEngine δ) (docs : List δ) (q : CompiledQuery) : Nat :=
  docs.countP (q.returns e.reading)

/-- How many of the documents that an aggregation counts have a value in its field. -/
def bucket (e : ExactEngine δ) (docs : List δ) (q : CompiledQuery) (a : Aggregation)
    (value : String) : Nat :=
  match a.kind with
  | .terms field _ =>
    docs.countP fun doc => q.counts a e.reading doc && decide (value ∈ e.values doc field)
  | _ => 0

/-- The count for a value under the name of a facet. -/
def facetCount (e : ExactEngine δ) (docs : List δ) (q : CompiledQuery) (name value : String) :
    Nat :=
  match q.aggregations.find? fun a => a.name = name with
  | some a => e.bucket docs q a value
  | none => 0

end ExactEngine

/-- Documents as pairs of a field and a value, in which a text matches a whole value. -/
def pairsEngine : ExactEngine (List (String × String)) where
  values doc field := { value | (field, value) ∈ doc }
  decidableValues doc field value := inferInstanceAs (Decidable ((field, value) ∈ doc))
  multiMatch query fields doc := fields.any fun field => doc.contains (field, query)
  range _ _ _ _ := false

end FacetSearch
