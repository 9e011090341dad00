import FacetSearch.Proofs.OfferedOptions
import FacetSearch.Search.Body
/-!
# Histograms

What building a domain establishes of its histograms. The interval is positive, and the minimum
lies below the maximum unless one of the two is no number. Whether the numbers are finite is not
checked. Main statement: a histogram is well formed, and asked for with three numbers, exactly when
its numbers are finite.
-/

namespace FacetSearch

namespace Json

/-- The value at the end of a path of keys. -/
def at? (j : Json) (path : List String) : Option Json := path.foldlM (fun j key => j.get? key) j

def IsNumber : Json → Prop
  | .int _ | .float _ => True
  | _ => False

theorem isNumber_ofFloat_iff {x : Float} : (ofFloat x).IsNumber ↔ x.isFinite = true := by
  unfold ofFloat
  split
  · next hx => simp [IsNumber, hx]
  · next hx => simp [IsNumber, hx]

/-- A number stands at the end of the path. -/
def HasNumber (j : Json) (path : List String) : Prop :=
  ∃ value, j.at? path = some value ∧ value.IsNumber

end Json

/-- Where the numbers of a histogram stand in its aggregation. -/
def histogramPaths : List (List String) :=
  [["histogram", "interval"], ["histogram", "extended_bounds", "min"],
    ["histogram", "extended_bounds", "max"]]

namespace AggregationKind

variable (field : String) (interval min max : Float)

theorem at?_interval : (histogram field interval min max).json.at? ["histogram", "interval"] =
    some (.ofFloat interval) := rfl

theorem at?_min : (histogram field interval min max).json.at?
    ["histogram", "extended_bounds", "min"] = some (.ofFloat min) := rfl

theorem at?_max : (histogram field interval min max).json.at?
    ["histogram", "extended_bounds", "max"] = some (.ofFloat max) := rfl

/-- Numbers that are not finite are left out of the aggregation. -/
theorem hasNumbers_histogram_iff :
    (∀ path ∈ histogramPaths, (histogram field interval min max).json.HasNumber path) ↔
      interval.isFinite = true ∧ min.isFinite = true ∧ max.isFinite = true := by
  simp [histogramPaths, Json.HasNumber, at?_interval, at?_min, at?_max, Json.isNumber_ofFloat_iff]

end AggregationKind

namespace Facet

/-- What the check of a histogram asks of its numbers. -/
theorem validate_histogram_iff {f : Facet} {interval min max : Float}
    (hk : f.kind = .histogram interval min max) :
    f.validate = .ok () ↔
      f.field ≠ "" ∧ interval > 0 ∧ (min < max ∨ min.isNaN = true ∨ max.isNaN = true) := by
  rw [validate_eq_ok_iff, ← Decimal.not_ge_iff]
  unfold check
  rw [hk]
  by_cases hfield : f.field = ""
  · simp [hfield]
  by_cases hinterval : interval > 0
  · by_cases hrange : min ≥ max
    · simp [hfield, hinterval, hrange]
    · simp [hfield, hinterval, hrange]
  · simp [hfield, hinterval]

/-- The interval of the histogram is positive, its minimum lies below its maximum, all three numbers
are finite, and the aggregation asks for it with numbers. -/
structure WellFormedHistogram (f : Facet) (interval min max : Float) : Prop where
  positive : interval > 0
  ordered : min < max
  finite : interval.isFinite = true ∧ min.isFinite = true ∧ max.isFinite = true
  numbers : ∀ filters, ∀ path ∈ histogramPaths, (f.aggregation filters).kind.json.HasNumber path

theorem hasNumbers_aggregation_iff {f : Facet} {interval min max : Float}
    (hk : f.kind = .histogram interval min max) (filters : List Fragment) :
    (∀ path ∈ histogramPaths, (f.aggregation filters).kind.json.HasNumber path) ↔
      interval.isFinite = true ∧ min.isFinite = true ∧ max.isFinite = true := by
  have hkind : (f.aggregation filters).kind = .histogram f.field interval min max := by
    rw [aggregation, hk]
  rw [hkind, AggregationKind.hasNumbers_histogram_iff]

end Facet

namespace Domain

variable {draft : DomainDraft} {d : Domain} {facet : Facet} {interval min max : Float}

/-- In a built domain the interval of a histogram is positive, and the minimum lies below the
maximum unless one of the two is no number. -/
theorem histogram_checked (hb : draft.build = .ok d) (hm : facet ∈ d.facets)
    (hk : facet.kind = .histogram interval min max) :
    interval > 0 ∧ (min < max ∨ min.isNaN = true ∨ max.isNaN = true) := by
  rw [facets_eq_of_build hb] at hm
  obtain ⟨declared, hd, rfl⟩ := List.mem_map.mp hm
  have hsound := (DomainDraft.build_eq_ok_iff.mp hb).1
  have hvalid := (DomainDraft.checkFacet_eq_ok_iff.mp (hsound.facets declared hd)).1
  have hkind : declared.kind = .histogram interval min max := hk
  exact ((Facet.validate_histogram_iff hkind).mp hvalid).2

/-- In a built domain a histogram passes its check also when its numbers are not finite. It is well
formed exactly when they are. -/
theorem histogram_wellFormed_iff (hb : draft.build = .ok d) (hm : facet ∈ d.facets)
    (hk : facet.kind = .histogram interval min max) :
    (interval > 0 ∧ (min < max ∨ min.isNaN = true ∨ max.isNaN = true)) ∧
    (facet.WellFormedHistogram interval min max ↔
      interval.isFinite = true ∧ min.isFinite = true ∧ max.isFinite = true) ∧
    ∀ filters, (∀ path ∈ histogramPaths, (facet.aggregation filters).kind.json.HasNumber path) ↔
      interval.isFinite = true ∧ min.isFinite = true ∧ max.isFinite = true := by
  obtain ⟨hpositive, hordered⟩ := histogram_checked hb hm hk
  have hnumbers := Facet.hasNumbers_aggregation_iff hk
  refine ⟨⟨hpositive, hordered⟩, ⟨fun h => h.finite, fun hfinite => ?_⟩, hnumbers⟩
  have hbelow : min < max := by
    rcases hordered with hbelow | hnan | hnan
    · exact hbelow
    · cases (Decimal.isNaN_of_isFinite hfinite.2.1).symm.trans hnan
    · cases (Decimal.isNaN_of_isFinite hfinite.2.2).symm.trans hnan
  exact ⟨hpositive, hbelow, hfinite, fun filters => (hnumbers filters).mpr hfinite⟩

end Domain

/-- A sample: books by price, from a minimum on. -/
def pricesDraft (min : Float) : DomainDraft where
  index := "books"
  returnedFields := ["title"]
  relevanceFields := ["title"]
  sortOptions := [⟨"best", "Best match", [⟨"_score", .descending⟩], true⟩]
  filters := []
  facets := [⟨"price", "price", "Price", false, none, .histogram 10 min 100⟩]

def prices (min : Float) : Domain :=
  (pricesDraft min).frozen 0

namespace Domain

/-- Prices from half a unit on make up a well-formed histogram. -/
theorem prices_wellFormed : (pricesDraft 0.5).build = .ok (prices 0.5) ∧
    ∃ facet ∈ (prices 0.5).facets, facet.kind = .histogram 10 0.5 100 ∧
      facet.WellFormedHistogram 10 0.5 100 := by
  have hb : (pricesDraft 0.5).build = .ok (prices 0.5) := rfl
  have hm : _ ∈ (prices 0.5).facets := List.mem_cons_self
  refine ⟨hb, _, hm, rfl, ?_⟩
  exact (histogram_wellFormed_iff hb hm rfl).2.1.mpr ⟨rfl, rfl, rfl⟩

/-- A minimum that is no number is let through, and asked for as null. -/
theorem prices_from_nan : (pricesDraft (0.0 / 0.0)).build = .ok (prices (0.0 / 0.0)) ∧
    ∃ facet ∈ (prices (0.0 / 0.0)).facets, facet.kind = .histogram 10 (0.0 / 0.0) 100 ∧
      ¬ facet.WellFormedHistogram 10 (0.0 / 0.0) 100 ∧
      (facet.aggregation []).kind.json.at? ["histogram", "extended_bounds", "min"] =
        some .null := by
  refine ⟨rfl, _, List.mem_cons_self, rfl, ?_, rfl⟩
  intro h
  exact absurd h.ordered (by decide)

end Domain

end FacetSearch
