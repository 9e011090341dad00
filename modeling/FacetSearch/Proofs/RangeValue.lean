import FacetSearch.Proofs.Outcome
import FacetSearch.Search.Filter
/-!
# Range values

Which texts name a range. A value is cut at the first separator; each side is blank or names a
bound, not both sides are blank, and the lower bound does not exceed the upper one. Main
statement: a filter has a clause for exactly the values that it can read.
-/

namespace FacetSearch

namespace Text

/-- A text cut in two at the first place where a separator stands. -/
structure CutsAt (separator s before after : List Char) : Prop where
  parts : s = before ++ separator ++ after
  first : ∀ n < before.length, ¬ separator <+: s.drop n

theorem cut?_eq_some_iff {separator s before after : List Char} :
    cut? separator s = some (before, after) ↔ CutsAt separator s before after := by
  induction s generalizing before with
  | nil =>
    unfold cut?
    constructor
    · intro h
      split at h
      · next hs =>
        obtain ⟨rfl, rfl⟩ := Prod.mk.inj (Option.some.inj h)
        exact ⟨by simp [hs], by simp⟩
      · cases h
    · rintro ⟨hparts, _⟩
      simp only [List.append_assoc, List.nil_eq, List.append_eq_nil_iff] at hparts
      obtain ⟨rfl, rfl, rfl⟩ := hparts
      rfl
  | cons c rest ih =>
    by_cases hp : separator <+: c :: rest
    · have hcut : cut? separator (c :: rest) = some ([], (c :: rest).drop separator.length) :=
        if_pos (List.isPrefixOf_iff_prefix.mpr hp)
      rw [hcut]
      constructor
      · intro h
        obtain ⟨rfl, rfl⟩ := Prod.mk.inj (Option.some.inj h)
        exact ⟨by simpa using List.prefix_iff_eq_append.mp hp |>.symm, by simp⟩
      · rintro ⟨hparts, hfirst⟩
        cases before with
        | nil => simp [hparts]
        | cons b before => exact absurd hp (hfirst 0 (by simp))
    · have hcut : cut? separator (c :: rest) =
          (cut? separator rest).map fun parts => (c :: parts.1, parts.2) :=
        if_neg (fun h => hp (List.isPrefixOf_iff_prefix.mp h))
      rw [hcut, Option.map_eq_some_iff]
      constructor
      · rintro ⟨⟨b, a⟩, hb, h⟩
        obtain ⟨rfl, rfl⟩ := Prod.mk.inj h
        obtain ⟨hparts, hfirst⟩ := ih.mp hb
        refine ⟨by simp [hparts], ?_⟩
        rintro (_ | n) hn
        · exact hp
        · exact hfirst n (by simpa using hn)
      · rintro ⟨hparts, hfirst⟩
        cases before with
        | nil => exact absurd ⟨after, hparts.symm⟩ hp
        | cons b before =>
          obtain ⟨rfl, hrest⟩ := List.cons.inj hparts
          refine ⟨(before, after), ih.mpr ⟨hrest, fun n hn => ?_⟩, rfl⟩
          exact hfirst (n + 1) (by simpa using hn)

theorem trimStart_eq_self {s : List Char} (h : ∀ c ∈ s.head?, isBlank c = false) :
    trimStart s = s := by
  cases s with
  | nil => rfl
  | cons c rest => exact List.dropWhile_cons_of_neg (by simp [h c rfl])

theorem trimStart_trimStart (s : List Char) : trimStart (trimStart s) = trimStart s := by
  apply trimStart_eq_self
  intro c hc
  have hhead := List.head?_dropWhile_not isBlank s
  rw [← trimStart, Option.mem_def.mp hc] at hhead
  exact hhead

theorem trimEnd_eq_self {s : List Char} (h : ∀ c ∈ s.getLast?, isBlank c = false) :
    trimEnd s = s := by
  have hreverse : ∀ c ∈ s.reverse.head?, isBlank c = false := by
    rwa [List.head?_reverse]
  rw [trimEnd, ← trimStart, trimStart_eq_self hreverse, List.reverse_reverse]

theorem trim_eq_self {s : List Char} (h : ∀ c ∈ s, isBlank c = false) : trim s = s := by
  have hstart : trimStart s = s := trimStart_eq_self fun c hc => h c (List.mem_of_mem_head? hc)
  rw [trim, hstart]
  exact trimEnd_eq_self fun c hc => h c (List.mem_of_getLast? hc)

/-- No point stands before another point or at the end. -/
def Undotted : List Char → Prop
  | [] => True
  | [c] => c ≠ '.'
  | c :: d :: rest => (c = '.' → d ≠ '.') ∧ Undotted (d :: rest)

theorem undotted_cons {c : Char} {s : List Char} (hc : c ≠ '.') (hs : Undotted s) :
    Undotted (c :: s) := by
  cases s with
  | nil => exact hc
  | cons d rest => exact ⟨fun h => absurd h hc, hs⟩

/-- Characters that are no points can stand before the text. -/
theorem undotted_append {before s : List Char} (hb : ∀ c ∈ before, c ≠ '.') (hs : Undotted s) :
    Undotted (before ++ s) := by
  induction before with
  | nil => exact hs
  | cons c rest ih =>
    obtain ⟨hc, hrest⟩ := List.forall_mem_cons.mp hb
    exact undotted_cons hc (ih hrest)

theorem undotted_of_forall {s : List Char} (h : ∀ c ∈ s, c ≠ '.') : Undotted s := by
  rw [← List.append_nil s]
  exact undotted_append h trivial

/-- Such a text can be joined to another one and is cut off again. -/
theorem cutsAt_of_undotted {s t : List Char} (hs : Undotted s) :
    CutsAt ['.', '.'] (s ++ ['.', '.'] ++ t) s t := by
  refine ⟨rfl, fun n hn => ?_⟩
  rw [List.append_assoc, List.drop_append_of_le_length (Nat.le_of_lt hn)]
  induction s generalizing n with
  | nil => simp at hn
  | cons c rest ih =>
    cases n with
    | zero =>
      rw [List.drop_zero, List.cons_append, List.cons_prefix_cons]
      rintro ⟨rfl, hrest⟩
      cases rest with
      | nil => exact hs rfl
      | cons d rest =>
        rw [List.cons_append, List.cons_prefix_cons] at hrest
        exact hs.1 rfl hrest.1.symm
    | succ n =>
      have htail : Undotted rest := by
        cases rest with
        | nil => trivial
        | cons d rest => exact hs.2
      exact ih htail n (by simpa using hn)

end Text

/-! ## Bounds -/

/-- The lower bound lies above the upper one. -/
def Bound.Exceeds : Bound → Bound → Prop
  | .number low, .number high => low > high
  | .date low, .date high => high.Before low
  | _, _ => False

namespace RangeKind

/-- The text, which has no blanks around it, is that of a bound: a finite number or a date. -/
def Accepts : RangeKind → List Char → Bound → Prop
  | .numeric, s, .number x => Decimal.readDouble s = .ok x ∧ x.isFinite = true
  | .date, s, .date i => Calendar.readInstant? s = some i
  | _, _, _ => False

/-- A side of a range value is blank for an open end, or else the text of a bound. -/
def Side (kind : RangeKind) (s : List Char) : Option Bound → Prop
  | none => Text.trim s = []
  | some bound => Text.trim s ≠ [] ∧ kind.Accepts (Text.trim s) bound

/-- The value is that of a range, with these two ends. -/
structure Names (kind : RangeKind) (value : String) (low high : Option Bound) : Prop where
  sides : ∃ before after, Text.CutsAt rangeSeparator.toList value.toList before after ∧
    kind.Side before low ∧ kind.Side after high
  bounded : low ≠ none ∨ high ≠ none
  ordered : ∀ l ∈ low, ∀ h ∈ high, ¬ l.Exceeds h

end RangeKind

theorem readNumber_eq_ok_iff {s : List Char} {x : Float} :
    readNumber s = .ok x ↔ Decimal.readDouble s = .ok x ∧ x.isFinite = true := by
  unfold readNumber
  cases Decimal.readDouble s with
  | error fault => simp
  | ok y =>
    by_cases hy : y.isFinite
    · simp only [hy, if_true, Except.ok.injEq, iff_self_and]
      rintro rfl
      exact hy
    · simp only [hy, Bool.false_eq_true, if_false, reduceCtorEq, Except.ok.injEq, false_iff]
      rintro ⟨rfl, hx⟩
      exact hy hx

theorem readDate_eq_ok_iff {s : List Char} {i : Calendar.Instant} :
    readDate s = .ok i ↔ Calendar.readInstant? s = some i := by
  unfold readDate
  cases Calendar.readInstant? s <;> simp

/-! ## Reading a range -/

section

variable {α : Type} {read : List Char → Except RangeFault α} {exceeds : α → α → Bool}

theorem readBound_eq_ok_iff {s : List Char} {bound : Option α} :
    readBound read s = .ok bound ↔
      Text.trim s = [] ∧ bound = none ∨
        Text.trim s ≠ [] ∧ ∃ a, read (Text.trim s) = .ok a ∧ bound = some a := by
  unfold readBound
  by_cases h : Text.trim s = []
  · simp [h, eq_comm]
  · rw [if_neg h, map_eq_ok_iff]
    simp [h, eq_comm (a := bound)]

theorem readRange_eq_ok_iff {value : String} {low high : Option α} :
    readRange read exceeds value = .ok (low, high) ↔
      (∃ before after, Text.CutsAt rangeSeparator.toList value.toList before after ∧
        readBound read before = .ok low ∧ readBound read after = .ok high) ∧
      (low ≠ none ∨ high ≠ none) ∧ ∀ l ∈ low, ∀ h ∈ high, exceeds l h = false := by
  unfold readRange
  cases hcut : Text.cut? rangeSeparator.toList value.toList with
  | none =>
    simp only [reduceCtorEq, false_iff, not_and]
    rintro ⟨before, after, hc, _⟩
    rw [Text.cut?_eq_some_iff.mpr hc] at hcut
    cases hcut
  | some parts =>
    obtain ⟨b, a⟩ := parts
    have hparts {before after : List Char} :
        Text.CutsAt rangeSeparator.toList value.toList before after ↔ b = before ∧ a = after := by
      rw [← Text.cut?_eq_some_iff, hcut]
      simp
    simp only [hparts, bind_eq_ok_iff]
    constructor
    · rintro ⟨l, hl, u, hu, h⟩
      have hends : (l = low ∧ u = high) ∧ (l ≠ none ∨ u ≠ none) ∧
          ∀ x ∈ l, ∀ y ∈ u, exceeds x y = false := by
        cases l with
        | none =>
          cases u with
          | none => cases h
          | some y => simpa using h
        | some x =>
          cases u with
          | none => simpa using h
          | some y =>
            by_cases hxy : exceeds x y = true
            · simp [hxy] at h
            · simpa [hxy] using h
      obtain ⟨⟨rfl, rfl⟩, hvalid⟩ := hends
      exact ⟨⟨b, a, ⟨rfl, rfl⟩, hl, hu⟩, hvalid⟩
    · rintro ⟨⟨_, _, ⟨rfl, rfl⟩, hl, hu⟩, hbounded, hordered⟩
      refine ⟨low, hl, high, hu, ?_⟩
      cases low <;> cases high <;> simp_all

end

namespace RangeKind

section

variable {α : Type} {read : List Char → Except RangeFault α} {wrap : α → Bound}
  {kind : RangeKind}

theorem side_iff (hread : ∀ {s b}, kind.Accepts s b ↔ ∃ a, read s = .ok a ∧ wrap a = b)
    {s : List Char} {bound : Option Bound} :
    kind.Side s bound ↔ ∃ a, readBound read s = .ok a ∧ a.map wrap = bound := by
  cases bound with
  | none => simp [Side, readBound_eq_ok_iff]
  | some b =>
    simp only [Side, hread, readBound_eq_ok_iff, Option.map_eq_some_iff]
    constructor
    · rintro ⟨hs, a, ha, rfl⟩
      exact ⟨some a, .inr ⟨hs, a, ha, rfl⟩, a, rfl, rfl⟩
    · rintro ⟨_, ⟨_, rfl⟩ | ⟨hs, a, ha, rfl⟩, c, hc, rfl⟩
      · cases hc
      · obtain rfl := Option.some.inj hc
        exact ⟨hs, a, ha, rfl⟩

/-- Reading a range with the reader of its bounds finds the two ends that the value names. -/
theorem names_iff (read : List Char → Except RangeFault α) (exceeds : α → α → Bool)
    (wrap : α → Bound) (hread : ∀ {s b}, kind.Accepts s b ↔ ∃ a, read s = .ok a ∧ wrap a = b)
    (hexceeds : ∀ {l h}, (wrap l).Exceeds (wrap h) ↔ exceeds l h = true)
    {value : String} {low high : Option Bound} :
    kind.Names value low high ↔ ∃ l h, readRange read exceeds value = .ok (l, h) ∧
      l.map wrap = low ∧ h.map wrap = high := by
  simp only [readRange_eq_ok_iff]
  constructor
  · rintro ⟨⟨before, after, hcut, hl, hh⟩, hbounded, hordered⟩
    obtain ⟨l, hreadl, rfl⟩ := (side_iff hread).mp hl
    obtain ⟨h, hreadh, rfl⟩ := (side_iff hread).mp hh
    refine ⟨l, h, ⟨⟨before, after, hcut, hreadl, hreadh⟩, by simpa using hbounded, ?_⟩, rfl, rfl⟩
    intro a ha b hb
    have hnot := hordered _ (Option.mem_map_of_mem wrap ha) _ (Option.mem_map_of_mem wrap hb)
    simpa [hexceeds] using hnot
  · rintro ⟨l, h, ⟨⟨before, after, hcut, hreadl, hreadh⟩, hbounded, hordered⟩, rfl, rfl⟩
    refine ⟨⟨before, after, hcut, (side_iff hread).mpr ⟨l, hreadl, rfl⟩,
      (side_iff hread).mpr ⟨h, hreadh, rfl⟩⟩, by simpa using hbounded, ?_⟩
    intro _ hl _ hh
    obtain ⟨a, ha, rfl⟩ := Option.map_eq_some_iff.mp hl
    obtain ⟨b, hb, rfl⟩ := Option.map_eq_some_iff.mp hh
    simp [hexceeds, hordered a ha b hb]

end

theorem readBounds_eq_ok_iff {kind : RangeKind} {value : String} {low high : Option Bound} :
    kind.readBounds value = .ok (low, high) ↔ kind.Names value low high := by
  cases kind with
  | numeric =>
    rw [names_iff readNumber (fun l h => l > h) .number]
    · simp only [readBounds, bind_eq_ok_iff, pure_eq_ok_iff, Prod.exists, Prod.mk.injEq]
    · intro s b
      cases b <;> simp [Accepts, readNumber_eq_ok_iff]
    · simp [Bound.Exceeds]
  | date =>
    rw [names_iff readDate (fun l h => decide (h.Before l)) .date]
    · simp only [readBounds, bind_eq_ok_iff, pure_eq_ok_iff, Prod.exists, Prod.mk.injEq]
    · intro s b
      cases b <;> simp [Accepts, readDate_eq_ok_iff]
    · simp [Bound.Exceeds]

end RangeKind

/-- A value that joins two texts names the ends that the texts stand for. -/
theorem RangeKind.names_join_iff {kind : RangeKind} {l h : String} {low high : Option Bound}
    (hl : Text.Undotted l.toList) :
    kind.Names (l ++ rangeSeparator ++ h) low high ↔
      kind.Side l.toList low ∧ kind.Side h.toList high ∧ (low ≠ none ∨ high ≠ none) ∧
        ∀ a ∈ low, ∀ b ∈ high, ¬ a.Exceeds b := by
  have hcuts : Text.CutsAt rangeSeparator.toList (l ++ rangeSeparator ++ h).toList
      l.toList h.toList := by
    rw [String.toList_append, String.toList_append]
    exact Text.cutsAt_of_undotted hl
  constructor
  · rintro ⟨⟨before, after, hcut, hlow, hhigh⟩, hbounded, hordered⟩
    have hsame := (Text.cut?_eq_some_iff.mpr hcut).symm.trans (Text.cut?_eq_some_iff.mpr hcuts)
    obtain ⟨rfl, rfl⟩ := Prod.mk.inj (Option.some.inj hsame)
    exact ⟨hlow, hhigh, hbounded, hordered⟩
  · rintro ⟨hlow, hhigh, hbounded, hordered⟩
    exact ⟨⟨_, _, hcuts, hlow, hhigh⟩, hbounded, hordered⟩

/-! ## Values of a filter -/

namespace Filter

/-- The values that a filter can read: all of them, or those that name a range. -/
def Parses : Filter → String → Prop
  | valueTag _, _ => True
  | term _ _ _ _ _, _ => True
  | range kind _ _ _ _, value => ∃ low high, kind.Names value low high

/-- The clause of a value of a range filter has the two ends that the value names. -/
theorem clause_range_eq_ok_iff {kind : RangeKind} {identifier field label value : String}
    {excludeOwn : Bool} {c : Fragment} :
    (range kind identifier field label excludeOwn).clause value = .ok c ↔
      ∃ low high, kind.Names value low high ∧ c = .range field low high := by
  simp only [← RangeKind.readBounds_eq_ok_iff, clause]
  cases kind.readBounds value with
  | ok bounds =>
    constructor
    · intro h
      exact ⟨bounds.1, bounds.2, rfl, (Except.ok.inj h).symm⟩
    · rintro ⟨low, high, hbounds, rfl⟩
      rw [Except.ok.inj hbounds]
  | error => simp

/-- A filter has a clause for exactly the values that it can read. -/
theorem parses_iff {f : Filter} {value : String} :
    f.Parses value ↔ ∃ c, f.clause value = .ok c := by
  cases f with
  | valueTag field => simp [Parses, clause]
  | term => simp [Parses, clause]
  | range kind =>
    simp only [Parses, clause_range_eq_ok_iff]
    constructor
    · rintro ⟨low, high, hnames⟩
      exact ⟨_, low, high, hnames, rfl⟩
    · rintro ⟨_, low, high, hnames, rfl⟩
      exact ⟨low, high, hnames⟩

/-- The error for a value that cannot be read names the filter and the value. -/
theorem clause_error {f : Filter} {value : String} {e : SearchError}
    (h : f.clause value = .error e) :
    ∃ reason, e = .invalidFilterValue f.identifier value reason := by
  cases f with
  | valueTag => cases h
  | term => cases h
  | range kind =>
    simp only [clause] at h
    split at h
    · cases h
    · exact ⟨_, (Except.error.inj h).symm⟩

end Filter

end FacetSearch
