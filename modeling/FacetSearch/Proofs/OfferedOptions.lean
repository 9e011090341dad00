import FacetSearch.Proofs.Acceptance
import FacetSearch.Proofs.DateText
import FacetSearch.Proofs.DecimalText
/-!
# Offered options

Which options of a facet can be selected again under the filter made for it. An option that offers
a value always can, one that offers an interval can when both of its ends are finite, and one that
offers a range of dates can when it has an end and its ends are not the wrong way round. Building a
domain checks that the ends are dates, but not their order.
-/

namespace FacetSearch

/-! ## Selecting one value -/

namespace Request

/-- A value that is selected on its own counts, whatever the filter makes of several ones. -/
theorem honoured_select_empty (f : Filter) (identifier value : String) :
    (Request.select {} identifier value).honoured f =
      if f.identifier = identifier then [value] else [] := by
  have hfilters : (Request.select {} identifier value).filters =
      OrderedMap.empty.insert identifier (.ofList [value]) := rfl
  split
  · next hid =>
    have hget : (Request.select {} identifier value).filters.get? f.identifier =
        some (.ofList [value]) := by
      rw [hfilters, hid, OrderedMap.get?_insert]
    rw [honoured_eq_effectiveValues hget]
    unfold Filter.effectiveValues
    split <;> rfl
  · next hid =>
    rw [honoured_eq_nil_iff, selection, hfilters, OrderedMap.get?_insert_other _ _ hid]
    rfl

end Request

namespace Domain

variable {draft : DomainDraft} {d : Domain} {facet : Facet}

/-- The filter made for a facet decides whether a value can be selected under the facet. -/
theorem exists_compile_select_iff (hb : draft.build = .ok d) (hm : facet ∈ draft.facets)
    (hn : facet.filter = none) (value : String) :
    (∃ q, d.compile (Request.select {} facet.identifier value) = .ok q) ↔
      facet.implicitFilter.Parses value := by
  obtain ⟨hfilter, _⟩ := (backing?_eq_some_iff hb).mp (backing?_backed hb hm hn)
  have hid := facet.identifier_implicitFilter
  have hknows : d.Knows (Request.select {} facet.identifier value) := by
    intro k hk
    obtain rfl := List.mem_singleton.mp hk
    rw [← hid]
    exact List.mem_map_of_mem hfilter
  have hreads : d.Reads (Request.select {} facet.identifier value) ↔
      facet.implicitFilter.Parses value := by
    simp only [Reads, Request.honoured_select_empty]
    constructor
    · intro h
      exact h _ hfilter value (by simp [hid])
    · intro h f hf v hv
      split at hv
      · next hsame =>
        obtain rfl := List.mem_singleton.mp hv
        rwa [List.inj_on_of_nodup_map (filterIdentifiers_nodup hb) hf hfilter
          (hsame.trans hid.symm)]
      · cases hv
  rw [exists_compile_iff hb, hreads]
  constructor
  · exact fun h => h.2.2.1
  · intro h
    have hpage : 1 ≤ (10 : UInt64) ∧ (10 : UInt64) ≤ 100 := by decide
    exact ⟨hpage, hknows, h, by rintro id ⟨⟩⟩

end Domain

/-! ## Options for intervals -/

namespace Decimal

/-- The double that the text of a finite one is read as: the sign of a zero is lost. -/
def reread (x : Float) : Float := if x.toBits.toNat % signBit = 0 then 0 else x

theorem isFinite_reread {x : Float} (h : x.isFinite = true) : (reread x).isFinite = true := by
  unfold reread
  split
  · rfl
  · exact h

/-- Losing the sign of a zero does not change how doubles compare. -/
theorem reread_gt_iff {x y : Float} : reread x > reread y ↔ x > y := by
  have hzero : (0 : Float).toModel.unpack = .zero .positive := rfl
  have hx : ∀ w : Float.Model.UnpackedFloat, w.lt (reread x).toModel.unpack = w.lt x.toModel.unpack := by
    intro w
    unfold reread
    split
    · next h => rw [unpack_of_magnitude_zero h, hzero, lt_zero_right]
    · rfl
  have hy : ∀ w : Float.Model.UnpackedFloat, (reread y).toModel.unpack.lt w = y.toModel.unpack.lt w := by
    intro w
    unfold reread
    split
    · next h => rw [unpack_of_magnitude_zero h, hzero, lt_zero_left]
    · rfl
  rw [gt_iff, gt_iff, hx, hy]

end Decimal

namespace RangeKind

/-- The text of a double is that of a bound when the double is finite. -/
theorem side_display_iff {x : Float} {bound : Option Bound} :
    RangeKind.numeric.Side (Decimal.display x).toList bound ↔
      x.isFinite = true ∧ bound = some (.number (Decimal.reread x)) := by
  obtain ⟨htrim, hne⟩ := Decimal.trim_display x
  cases bound with
  | none => simp [Side, htrim, hne]
  | some bound =>
    cases bound with
    | date i => simp [Side, Accepts]
    | number y =>
      simp only [Side, Accepts, htrim, Option.some.injEq, Bound.number.injEq]
      by_cases hx : x.isFinite = true
      · rw [Decimal.readDouble_display hx, Except.ok.injEq, ← Decimal.reread]
        constructor
        · rintro ⟨_, rfl, _⟩
          exact ⟨hx, rfl⟩
        · rintro ⟨_, rfl⟩
          exact ⟨hne, rfl, Decimal.isFinite_reread hx⟩
      · obtain ⟨z, hz, hinfinite⟩ :=
          Decimal.readDouble_display_of_not_isFinite (Bool.eq_false_of_not_eq_true hx)
        rw [hz, Except.ok.injEq]
        constructor
        · rintro ⟨_, rfl, hy⟩
          cases hinfinite.symm.trans hy
        · rintro ⟨h, _⟩
          exact absurd h hx

theorem names_display_iff {x y : Float} {low high : Option Bound} :
    RangeKind.numeric.Names (Decimal.display x ++ rangeSeparator ++ Decimal.display y) low high ↔
      (x.isFinite = true ∧ y.isFinite = true ∧ ¬ x > y) ∧
        low = some (.number (Decimal.reread x)) ∧ high = some (.number (Decimal.reread y)) := by
  rw [names_join_iff (Decimal.undotted_display x), side_display_iff, side_display_iff]
  constructor
  · rintro ⟨⟨hx, rfl⟩, ⟨hy, rfl⟩, _, hordered⟩
    have hcrossed := hordered _ rfl _ rfl
    exact ⟨⟨hx, hy, fun h => hcrossed (Decimal.reread_gt_iff.mpr h)⟩, rfl, rfl⟩
  · rintro ⟨⟨hx, hy, hordered⟩, rfl, rfl⟩
    refine ⟨⟨hx, rfl⟩, ⟨hy, rfl⟩, by simp, ?_⟩
    rintro _ ⟨⟩ _ ⟨⟩ h
    exact hordered (Decimal.reread_gt_iff.mp h)

end RangeKind

/-! ## Options for ranges of dates -/

/-- The instant at an end of a range, if that end is given and is a date. -/
def DateBucket.instant? (bound : Option String) : Option Calendar.Instant :=
  bound.bind fun text => Calendar.readInstant? text.toList

/-- Each end that is given is a date. -/
def DateBucket.Dated (range : DateBucket) : Prop :=
  ∀ bound, range.low = some bound ∨ range.high = some bound →
    ∃ i, Calendar.readInstant? bound.toList = some i

/-- A range has an end, and its ends are not the wrong way round. -/
def DateBucket.Proper (range : DateBucket) : Prop :=
  (instant? range.low ≠ none ∨ instant? range.high ≠ none) ∧
    ∀ low ∈ instant? range.low, ∀ high ∈ instant? range.high, ¬ high.Before low

/-- The check of date ranges passes when no label is repeated and each end is a date. -/
theorem checkRanges_eq_ok_iff {seen : List String} {ranges : List DateBucket} :
    checkRanges seen ranges = .ok () ↔
      (∀ range ∈ ranges, range.label ∉ seen) ∧ (ranges.map DateBucket.label).Nodup ∧
        ∀ range ∈ ranges, range.Dated := by
  induction ranges generalizing seen with
  | nil => simp [checkRanges]
  | cons range rest ih =>
    have hdated : ([range.low, range.high].filterMap id).find?
        (fun bound => (Calendar.readInstant? bound.toList).isNone) = none ↔ range.Dated := by
      simp only [List.find?_eq_none, List.mem_filterMap, List.mem_cons, List.not_mem_nil,
        or_false, id_eq, exists_eq_right, Option.isNone_iff_eq_none, ← ne_eq,
        Option.ne_none_iff_exists', DateBucket.Dated, eq_comm (b := range.low),
        eq_comm (b := range.high)]
    unfold checkRanges
    by_cases hseen : range.label ∈ seen
    · simp [hseen]
    · rw [if_neg hseen]
      dsimp only
      split
      · next bound hfind =>
        have hnot : ¬ range.Dated := by
          rw [← hdated, hfind]
          exact Option.some_ne_none bound
        simp [hnot]
      · next hfind =>
        have hr : range.Dated := hdated.mp hfind
        rw [ih, List.forall_mem_cons, List.forall_mem_cons, List.map_cons, List.nodup_cons]
        constructor
        · rintro ⟨hlabels, hnodup, hrest⟩
          have hnew : range.label ∉ rest.map DateBucket.label := by
            intro hmem
            obtain ⟨other, ho, hsame⟩ := List.mem_map.mp hmem
            exact hlabels other ho (hsame ▸ List.mem_cons_self)
          exact ⟨⟨hseen, fun other ho hs => hlabels other ho (List.mem_cons_of_mem _ hs)⟩,
            ⟨hnew, hnodup⟩, hr, hrest⟩
        · rintro ⟨⟨_, hlabels⟩, ⟨hnew, hnodup⟩, _, hrest⟩
          refine ⟨fun other ho hs => ?_, hnodup, hrest⟩
          rcases List.mem_cons.mp hs with hsame | hs
          · exact hnew (hsame ▸ List.mem_map_of_mem ho)
          · exact hlabels other ho hs

namespace RangeKind

/-- A text that is an end of a checked range stands for the instant that it names. -/
theorem side_end_iff {text : Option String} {bound : Option Bound}
    (h : ∀ t, text = some t → ∃ i, Calendar.readInstant? t.toList = some i) :
    RangeKind.date.Side (text.getD "").toList bound ↔
      bound = (DateBucket.instant? text).map .date := by
  cases text with
  | none =>
    have hblank : Text.trim ((none : Option String).getD "").toList = [] := rfl
    cases bound <;> simp only [Side, hblank, ne_eq, not_true_eq_false, false_and,
      DateBucket.instant?, Option.bind_none, Option.map_none, reduceCtorEq]
  | some t =>
    obtain ⟨i, hi⟩ := h t rfl
    have hinstant : DateBucket.instant? (some t) = some i := hi
    rw [hinstant]
    have htrim := Calendar.readInstant?_trim hi
    have hne := Calendar.trim_ne_nil_of_readInstant? hi
    cases bound with
    | none => simp [Side, hne]
    | some bound => cases bound <;> simp [Side, Accepts, hne, htrim, eq_comm]

/-- The value of the option for a range of dates names the range when that is proper. -/
theorem names_dates_iff {range : DateBucket} (h : range.Dated) {low high : Option Bound} :
    RangeKind.date.Names (range.low.getD "" ++ rangeSeparator ++ range.high.getD "") low high ↔
      range.Proper ∧ low = (DateBucket.instant? range.low).map .date ∧
        high = (DateBucket.instant? range.high).map .date := by
  have hundotted : Text.Undotted (range.low.getD "").toList := by
    cases hlow : range.low with
    | none => trivial
    | some text =>
      obtain ⟨i, hi⟩ := h text (.inl hlow)
      exact Calendar.undotted_of_readInstant? hi
  rw [names_join_iff hundotted, side_end_iff fun t ht => h t (.inl ht),
    side_end_iff fun t ht => h t (.inr ht), DateBucket.Proper]
  constructor
  · rintro ⟨rfl, rfl, hbounded, hordered⟩
    refine ⟨⟨by simpa using hbounded, fun i hi j hj => ?_⟩, rfl, rfl⟩
    exact hordered _ (Option.mem_map_of_mem _ hi) _ (Option.mem_map_of_mem _ hj)
  · rintro ⟨⟨hbounded, hordered⟩, rfl, rfl⟩
    refine ⟨rfl, rfl, by simpa using hbounded, ?_⟩
    intro _ ha _ hb
    obtain ⟨i, hi, rfl⟩ := Option.map_eq_some_iff.mp ha
    obtain ⟨j, hj, rfl⟩ := Option.map_eq_some_iff.mp hb
    exact hordered i hi j hj

end RangeKind

/-! ## Options of a facet -/

namespace Facet

/-- The option for a bucket with this key can be selected. -/
def Selectable (f : Facet) (key : String) : Prop :=
  match f.kind with
  | .refinement _ => True
  | .histogram interval _ _ => ∃ low, Decimal.readDouble key.toList = .ok low ∧
      low.isFinite = true ∧ (low + interval).isFinite = true ∧ ¬ low > low + interval
  | .dateRanges ranges => ∃ range ∈ ranges, range.label = key ∧ range.Proper

theorem validate_eq_ok_iff {f : Facet} : f.validate = .ok () ↔ f.check = .ok () := by
  unfold validate
  cases f.check <;> simp [Except.mapError]

/-- The ranges of a checked facet have labels of their own, and their ends are dates. -/
theorem dated_of_validate {f : Facet} {ranges : List DateBucket} (hf : f.validate = .ok ())
    (hk : f.kind = .dateRanges ranges) :
    (ranges.map DateBucket.label).Nodup ∧ ∀ range ∈ ranges, range.Dated := by
  have hcheck := validate_eq_ok_iff.mp hf
  unfold check at hcheck
  rw [hk] at hcheck
  split at hcheck
  · cases hcheck
  dsimp only at hcheck
  split at hcheck
  · cases hcheck
  · exact (checkRanges_eq_ok_iff.mp hcheck).2

/-- The filter made for a facet reads exactly the values of the options that can be selected. -/
theorem parses_optionValue_iff {f : Facet} (hf : f.validate = .ok ()) {key value label : String}
    (h : f.optionValue key = .ok (value, label)) :
    f.implicitFilter.Parses value ↔ f.Selectable key := by
  unfold optionValue at h
  unfold implicitFilter Selectable
  cases hk : f.kind with
  | refinement size => simp [Filter.Parses]
  | histogram interval min max =>
    simp only [hk] at h ⊢
    split at h
    · next low hlow =>
      obtain ⟨rfl, rfl⟩ := Prod.mk.inj (Except.ok.inj h)
      simp [Filter.Parses, RangeKind.names_display_iff, hlow]
    · cases h
  | dateRanges ranges =>
    simp only [hk] at h ⊢
    split at h
    · next range hfind =>
      obtain ⟨rfl, rfl⟩ := Prod.mk.inj (Except.ok.inj h)
      obtain ⟨hlabels, hdated⟩ := dated_of_validate hf hk
      obtain ⟨hm, hkey⟩ := (find?_key_eq_some_iff hlabels).mp hfind
      simp only [Filter.Parses, RangeKind.names_dates_iff (hdated range hm), exists_and_left,
        exists_eq, and_true]
      constructor
      · intro h
        exact ⟨range, hm, hkey, h⟩
      · rintro ⟨other, ho, hsame, h⟩
        rwa [List.inj_on_of_nodup_map hlabels hm ho (hkey.trans hsame.symm)]
    · cases h

end Facet

namespace Domain

variable {draft : DomainDraft} {d : Domain} {facet : Facet}

/-- Selecting what a facet offers compiles for the options that can be selected, and for no others:
those with a range whose ends are given, finite and in order. -/
theorem options_compile_iff (hb : draft.build = .ok d) (hm : facet ∈ draft.facets)
    (hn : facet.filter = none) {buckets : List Bucket} {selected : List String}
    {options : List FacetOption} (ho : facet.options buckets selected = .ok options) :
    List.Forall₂ (fun bucket option =>
      (∃ q, d.compile (Request.select {} facet.identifier option.value) = .ok q) ↔
        facet.Selectable bucket.key) buckets options := by
  have hsound := (DomainDraft.build_eq_ok_iff.mp hb).1
  have hvalid := (DomainDraft.checkFacet_eq_ok_iff.mp (hsound.facets facet hm)).1
  refine (mapM_eq_ok_iff.mp ho).imp fun bucket option hoption => ?_
  obtain ⟨⟨value, label⟩, hvalue, hresult⟩ := bind_eq_ok_iff.mp hoption
  obtain rfl := pure_eq_ok_iff.mp hresult
  rw [exists_compile_select_iff hb hm hn, Facet.parses_optionValue_iff hvalid hvalue]

/-- The members who joined since 2024 can be selected. -/
theorem members_since_2024 : membersDraft.build = .ok members ∧
    ∃ facet ∈ membersDraft.facets, facet.filter = none ∧
      facet.options [⟨"Since 2024", 2⟩] [] = .ok [⟨"2024-01-01..", "Since 2024", 2, false⟩] ∧
      ∃ q, members.compile (Request.select {} facet.identifier "2024-01-01..") = .ok q := by
  have hb : membersDraft.build = .ok members := rfl
  refine ⟨hb, _, List.mem_cons_self, rfl, rfl, ?_⟩
  have hoptions {options : List FacetOption}
      (ho : Facet.options _ [⟨"Since 2024", 2⟩] [] = .ok options) :=
    options_compile_iff hb List.mem_cons_self rfl ho
  cases hoptions rfl with
  | cons hoption _ =>
    have hproper : DateBucket.Proper ⟨"Since 2024", some "2024-01-01", none⟩ := by
      refine ⟨.inl (by decide), ?_⟩
      rintro _ _ _ ⟨⟩
    exact hoption.mpr ⟨_, List.mem_cons_self, rfl, hproper⟩

/-- A range whose ends are the wrong way round is offered, although its value is refused. -/
theorem members_backwards : membersDraft.build = .ok members ∧
    ∃ facet ∈ membersDraft.facets, facet.filter = none ∧
      facet.options [⟨"Backwards", 3⟩] [] =
        .ok [⟨"2024-01-01..2023-01-01", "Backwards", 3, false⟩] ∧
      members.compile (Request.select {} facet.identifier "2024-01-01..2023-01-01") =
        .error (.invalidFilterValue "joined" "2024-01-01..2023-01-01"
          "lower bound exceeds upper bound") :=
  ⟨rfl, _, List.mem_cons_self, rfl, rfl, rfl⟩

end Domain

end FacetSearch
