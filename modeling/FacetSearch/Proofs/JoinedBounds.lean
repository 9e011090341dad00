import FacetSearch.Proofs.OfferedOptions
/-!
# Joined bounds

Range values that join the texts of two bounds. Such a value is cut where it was joined, unless the
lower bound ends in a point: then the cut comes one character earlier, and the point goes to the
upper bound. The text of a date never ends in a point, so the option for a range of dates names the
ends of that range whenever they are in order.
-/

namespace FacetSearch

/-! ## Points and blanks at the ends of a text -/

namespace Text

theorem getLast?_ne_of_undotted {s : List Char} (h : Undotted s) : s.getLast? ≠ some '.' := by
  induction s with
  | nil => simp
  | cons c rest ih =>
    cases rest with
    | nil =>
      have hc : c ≠ '.' := h
      simpa using hc
    | cons d rest => simpa using ih h.2

/-- A text without blanks around it has none with a character before it that is not blank. -/
theorem trim_cons {c : Char} {s : List Char} (hc : isBlank c = false) (hne : s ≠ [])
    (h : trim s = s) : trim (c :: s) = c :: s := by
  have hstart : trimStart (c :: s) = c :: s := trimStart_eq_self (by rintro _ ⟨⟩; exact hc)
  rw [trim, hstart]
  apply trimEnd_eq_self
  intro d hd
  have hlast : d ∈ s.getLast? := by
    simpa [List.getLast?_cons, List.getLast?_eq_some_getLast hne] using hd
  have hhead := List.head?_dropWhile_not isBlank (trimStart s).reverse
  have hreverse : (trimStart s).reverse.dropWhile isBlank = s.reverse := by
    rw [← List.reverse_eq_iff]
    exact h
  rw [hreverse, List.head?_reverse, Option.mem_def.mp hlast] at hhead
  exact hhead

end Text

/-! ## Numerals that end in a point -/

namespace Decimal

open Text

variable {sign digits : List Char}

theorem IsSign.eq_of_mem {c : Char} (h : IsSign sign) (hc : c ∈ sign) : c = '+' ∨ c = '-' := by
  cases h with
  | none => cases hc
  | plus => exact .inl (List.mem_singleton.mp hc)
  | minus => exact .inr (List.mem_singleton.mp hc)

theorem IsSign.pointless (h : IsSign sign) : ∀ c ∈ sign, c ≠ '.' := by
  intro c hc
  rcases h.eq_of_mem hc with rfl | rfl <;> decide

theorem IsSign.noBlank (h : IsSign sign) : ∀ c ∈ sign, isBlank c = false := by
  intro c hc
  rcases h.eq_of_mem hc with rfl | rfl <;> decide

theorem splitSign_append_eq {s : List Char} (h : IsSign sign) (hs : Unsigned s) :
    splitSign (sign ++ s) = ((splitSign sign).1, s) := by
  refine Prod.ext ?_ (splitSign_append h hs)
  cases h with
  | none =>
    change (splitSign s).1 = false
    unfold splitSign
    split
    · exact absurd rfl (hs '-' rfl).1
    · rfl
    · rfl
  | plus => rfl
  | minus => rfl

theorem IsExponent.pointless {exponent : List Char} (h : IsExponent exponent) :
    ∀ c ∈ exponent, c ≠ '.' := by
  cases h with
  | none => simp
  | some hmark hsign _ hdigits =>
    simp only [List.forall_mem_cons, List.forall_mem_append]
    refine ⟨?_, hsign.pointless, fun c hc => ne_point_of_isDigit (hdigits c hc)⟩
    rcases hmark with rfl | rfl <;> decide

theorem pointless_of_isWord {word : List Char} (h : IsWord (asciiLower (String.ofList word))) :
    ∀ c ∈ word, c ≠ '.' := by
  have hlower : ∀ c ∈ word, c.toLower ∈ (asciiLower (String.ofList word)).toList := by
    intro c hc
    simpa [asciiLower] using ⟨c, hc, rfl⟩
  rintro _ hc rfl
  have hpoint := hlower '.' hc
  rcases h with h | h | h <;> rw [h] at hpoint <;> revert hpoint <;> decide

/-- The only point of a numeral stands before another character, or behind digits at the end. -/
theorem IsNumeral.undotted_or {s : List Char} (h : IsNumeral s) :
    Undotted s ∨ ∃ sign digits, IsSign sign ∧ digits ≠ [] ∧
      (∀ c ∈ digits, c.isDigit = true) ∧ s = sign ++ digits ++ ['.'] := by
  cases h with
  | word hsign hword =>
    exact .inl (undotted_append hsign.pointless (undotted_of_forall (pointless_of_isWord hword)))
  | @digits sign _ exponent hsign hmantissa hexponent =>
    have hend : Undotted exponent := undotted_of_forall hexponent.pointless
    cases hmantissa with
    | whole _ hdigits =>
      exact .inl (undotted_append hsign.pointless
        (undotted_append (fun c hc => ne_point_of_isDigit (hdigits c hc)) hend))
    | @point digits fraction hne hdigits hfraction =>
      have hbefore : ∀ c ∈ digits, c ≠ '.' := fun c hc => ne_point_of_isDigit (hdigits c hc)
      cases fraction with
      | nil =>
        cases hexponent with
        | none =>
          exact .inr ⟨sign, digits, hsign, fun h => hne ⟨h, rfl⟩, hdigits, by simp⟩
        | some hmark =>
          refine .inl (undotted_append hsign.pointless ?_)
          rw [List.append_assoc]
          refine undotted_append hbefore ⟨fun _ => ?_, hend⟩
          rcases hmark with rfl | rfl <;> decide
      | cons c fraction =>
        refine .inl (undotted_append hsign.pointless ?_)
        rw [List.append_assoc]
        refine undotted_append hbefore ⟨fun _ => ?_, ?_⟩
        · exact ne_point_of_isDigit (hfraction c List.mem_cons_self)
        · exact undotted_append (fun d hd => ne_point_of_isDigit (hfraction d hd)) hend

theorem readDouble_append {s : List Char} {x : Float} (hsign : IsSign sign) (hs : Unsigned s)
    (hne : s ≠ []) (hx : magnitude? s = some x) :
    readDouble (sign ++ s) = .ok (if (splitSign sign).1 then -x else x) := by
  unfold readDouble
  rw [if_neg (List.append_ne_nil_of_right_ne_nil _ hne), splitSign_append_eq hsign hs]
  dsimp only
  rw [hx]
  rfl

/-- A point behind the digits of a numeral does not change what it is read as. -/
theorem readDouble_point (hsign : IsSign sign) (hne : digits ≠ [])
    (hdigits : ∀ c ∈ digits, c.isDigit = true) :
    readDouble (sign ++ digits ++ ['.']) = readDouble (sign ++ digits) := by
  have hunsigned (t : List Char) : Unsigned (digits ++ t) := unsigned_of_isDigit hne hdigits t
  have hself : Unsigned digits := by simpa using hunsigned []
  have hwhole : magnitude? digits = some (toDouble (digitsValue digits) 0) :=
    (PlainNumeral.whole hne hdigits).magnitude?_eq
  have hpoint : magnitude? (digits ++ ['.']) = some (toDouble (digitsValue digits) 0) := by
    have hnone : ∀ c ∈ ([] : List Char), c.isDigit = true := by simp
    have hend : NoDigitHead [] := by simp [NoDigitHead]
    simpa [exponent?] using magnitude?_point (fun h => hne h.1) hdigits hnone hend
  rw [List.append_assoc, readDouble_append hsign (hunsigned _) (by simp) hpoint,
    readDouble_append hsign hself hne hwhole]

end Decimal

/-! ## Texts of bounds -/

/-- The text, which has no blanks around it, is that of a bound. -/
structure RangeKind.Spells (kind : RangeKind) (text : String) (bound : Bound) : Prop where
  trimmed : Text.trim text.toList = text.toList
  accepted : kind.Accepts text.toList bound

namespace RangeKind

variable {kind : RangeKind} {s : List Char} {bound : Bound}

theorem Accepts.ne_nil (h : kind.Accepts s bound) : s ≠ [] := by
  rintro rfl
  cases kind <;> cases bound <;> cases h
  next h _ => cases h

/-- A side without blanks around it names the bound that it is the text of. -/
theorem side_some_iff (htrim : Text.trim s = s) :
    kind.Side s (some bound) ↔ kind.Accepts s bound := by
  simp only [Side, htrim]
  exact ⟨fun h => h.2, fun h => ⟨h.ne_nil, h⟩⟩

/-- The text of a bound runs into a separator behind it only with a point at its end, and without
that point it is still the text of the bound. -/
theorem Accepts.undotted_or (h : kind.Accepts s bound) :
    Text.Undotted s ∨ ∃ front, s = front ++ ['.'] ∧ Text.Undotted front ∧
      Text.trim front = front ∧ kind.Accepts front bound := by
  cases kind with
  | date =>
    cases bound with
    | number x => cases h
    | date i => exact .inl (Calendar.undotted_of_readInstant? h)
  | numeric =>
    cases bound with
    | date i => cases h
    | number x =>
      obtain ⟨hread, hfinite⟩ := h
      rcases (Decimal.exists_readDouble_iff.mp ⟨x, hread⟩).undotted_or with
        hundotted | ⟨sign, digits, hsign, hne, hdigits, rfl⟩
      · exact .inl hundotted
      · rw [Decimal.readDouble_point hsign hne hdigits] at hread
        refine .inr ⟨sign ++ digits, rfl, ?_, ?_, hread, hfinite⟩
        · exact Text.undotted_append hsign.pointless (Decimal.undotted_digits hdigits)
        · apply Text.trim_eq_self
          exact List.forall_mem_append.mpr
            ⟨hsign.noBlank, fun c hc => Text.isBlank_of_isDigit (hdigits c hc)⟩

variable {l h : String} {low high : Bound}

/-- Two joined texts name the bounds that they spell, unless the point at the end of the lower one
changes the meaning of the upper one. -/
theorem names_join_of_spells_iff (hl : kind.Spells l low) (hh : kind.Spells h high)
    (hordered : ¬ low.Exceeds high) :
    kind.Names (l ++ rangeSeparator ++ h) (some low) (some high) ↔
      (l.toList.getLast? = some '.' → kind.Accepts ('.' :: h.toList) high) := by
  have hvalid : (some low ≠ none ∨ some high ≠ none) ∧
      ∀ a ∈ some low, ∀ b ∈ some high, ¬ a.Exceeds b :=
    ⟨.inl (by simp), by rintro _ ⟨⟩ _ ⟨⟩; exact hordered⟩
  rcases hl.accepted.undotted_or with hundotted | ⟨front, hfront, hundotted, htrim, haccepted⟩
  · rw [names_join_iff hundotted, side_some_iff hl.trimmed, side_some_iff hh.trimmed]
    have hlast := Text.getLast?_ne_of_undotted hundotted
    exact ⟨fun _ hpoint => absurd hpoint hlast, fun _ => ⟨hl.accepted, hh.accepted, hvalid⟩⟩
  · -- the same value joins the text without its point to the other one with a point before it
    have hvalue : l ++ rangeSeparator ++ h =
        String.ofList front ++ rangeSeparator ++ String.ofList ('.' :: h.toList) := by
      rw [String.ext_iff]
      simp [hfront, rangeSeparator]
    have hpoint : Text.trim ('.' :: h.toList) = '.' :: h.toList :=
      Text.trim_cons (by decide) hh.accepted.ne_nil hh.trimmed
    rw [hvalue, names_join_iff (by simpa using hundotted), String.toList_ofList,
      String.toList_ofList, side_some_iff htrim, side_some_iff hpoint]
    simp [hfront, haccepted, hvalid]

end RangeKind

namespace Filter

/-- Two texts of bounds that are in order, joined, compile to the range between the two bounds
exactly when a point at the end of the lower one does not change the meaning of the upper one, to
which it goes. -/
theorem clause_join_iff {kind : RangeKind} {l h : String} {low high : Bound}
    (hl : kind.Spells l low) (hh : kind.Spells h high) (hordered : ¬ low.Exceeds high)
    (identifier field label : String) (excludeOwn : Bool) :
    (range kind identifier field label excludeOwn).clause (l ++ rangeSeparator ++ h) =
        .ok (.range field (some low) (some high)) ↔
      (l.toList.getLast? = some '.' → kind.Accepts ('.' :: h.toList) high) := by
  rw [clause_range_eq_ok_iff, ← RangeKind.names_join_of_spells_iff hl hh hordered]
  constructor
  · rintro ⟨_, _, hnames, ⟨⟩⟩
    exact hnames
  · exact fun hnames => ⟨_, _, hnames, rfl⟩

/-- Points at the outer ends of the texts do no harm. -/
theorem clause_join_outer_points :
    RangeKind.numeric.Spells "-.5" (.number (-0.5)) ∧ RangeKind.numeric.Spells ".5" (.number 0.5) ∧
    ¬ (Bound.number (-0.5)).Exceeds (.number 0.5) ∧
    (range .numeric "rate" "hourly_rate" "Rate" false).clause ("-.5" ++ rangeSeparator ++ ".5") =
      .ok (.range "hourly_rate" (some (.number (-0.5))) (some (.number 0.5))) := by
  have hl : RangeKind.numeric.Spells "-.5" (.number (-0.5)) := ⟨rfl, by decide, rfl⟩
  have hh : RangeKind.numeric.Spells ".5" (.number 0.5) := ⟨rfl, by decide, rfl⟩
  have hordered : ¬ (Bound.number (-0.5)).Exceeds (.number 0.5) := by
    show ¬ (-0.5 : Float) > 0.5
    decide
  refine ⟨hl, hh, hordered, ?_⟩
  exact (clause_join_iff hl hh hordered "rate" "hourly_rate" "Rate" false).mpr
    fun hpoint => absurd hpoint (by decide)

/-- The point at the end of the lower bound goes to the upper one: the value is also that of other
bounds, and these are what it is read as. -/
theorem clause_join_inner_point :
    RangeKind.numeric.Spells "0." (.number 0) ∧ RangeKind.numeric.Spells "5" (.number 5) ∧
    ¬ (Bound.number 0).Exceeds (.number 5) ∧
    "0." ++ rangeSeparator ++ "5" = "0" ++ rangeSeparator ++ ".5" ∧
    (range .numeric "rate" "hourly_rate" "Rate" false).clause ("0." ++ rangeSeparator ++ "5") =
      .ok (.range "hourly_rate" (some (.number 0)) (some (.number 0.5))) ∧
    (range .numeric "rate" "hourly_rate" "Rate" false).clause ("0." ++ rangeSeparator ++ "5") ≠
      .ok (.range "hourly_rate" (some (.number 0)) (some (.number 5))) := by
  have hl : RangeKind.numeric.Spells "0." (.number 0) := ⟨rfl, by decide, rfl⟩
  have hh : RangeKind.numeric.Spells "5" (.number 5) := ⟨rfl, by decide, rfl⟩
  have hordered : ¬ (Bound.number 0).Exceeds (.number 5) := by
    show ¬ (0 : Float) > 5
    decide
  have hclause : (range .numeric "rate" "hourly_rate" "Rate" false).clause
      ("0." ++ rangeSeparator ++ "5") =
        .ok (.range "hourly_rate" (some (.number 0)) (some (.number 0.5))) := rfl
  refine ⟨hl, hh, hordered, by decide, hclause, ?_⟩
  rw [hclause]
  intro h
  have hends := Fragment.range.inj (Except.ok.inj h)
  have hupper : (0.5 : Float) = 5 := Bound.number.inj (Option.some.inj hends.2.2)
  exact absurd hupper (by decide)

end Filter

/-! ## Options for ranges of dates -/

/-- The instants at the ends of a range: an end that is given is read as one. -/
structure DateBucket.Spans (range : DateBucket) (low high : Option Calendar.Instant) : Prop where
  low : Option.Rel (fun text i => Calendar.readInstant? text.toList = some i) range.low low
  high : Option.Rel (fun text i => Calendar.readInstant? text.toList = some i) range.high high

/-- The ends of a checked range can all be read. -/
theorem DateBucket.Dated.spans {range : DateBucket} (h : range.Dated) :
    range.Spans (instant? range.low) (instant? range.high) := by
  have hend {bound : Option String}
      (hb : ∀ text, bound = some text → ∃ i, Calendar.readInstant? text.toList = some i) :
      Option.Rel (fun text i => Calendar.readInstant? text.toList = some i) bound
        (instant? bound) := by
    cases bound with
    | none => exact .none
    | some text =>
      obtain ⟨i, hi⟩ := hb text rfl
      have hinstant : instant? (some text) = some i := hi
      rw [hinstant]
      exact .some hi
  exact ⟨hend fun text ht => h text (.inl ht), hend fun text ht => h text (.inr ht)⟩

/-- One selected value gives its clause alone. -/
theorem Filter.compile_singleton_eq_ok_iff {f : Filter} {value : String} {o : Option Fragment} :
    f.compile (.ofList [value]) = .ok o ↔ ∃ c, f.clause value = .ok c ∧ some c = o := by
  have hvalues : f.effectiveValues (.ofList [value]) = [value] := by
    unfold effectiveValues
    split <;> rfl
  rw [compile, hvalues, map_eq_ok_iff]
  simp only [mapM_eq_ok_iff, List.forall₂_cons_left_iff, List.forall₂_nil_left_iff]
  constructor
  · rintro ⟨_, ⟨c, _, hc, rfl, rfl⟩, rfl⟩
    exact ⟨c, hc, rfl⟩
  · rintro ⟨c, hc, rfl⟩
    exact ⟨[c], ⟨c, [], hc, rfl, rfl⟩, rfl⟩

namespace Facet

variable {f : Facet} {ranges : List DateBucket} {range : DateBucket}

/-- The label of a range of a checked facet finds that range. -/
theorem optionValue_label (hf : f.validate = .ok ()) (hk : f.kind = .dateRanges ranges)
    (hm : range ∈ ranges) : f.optionValue range.label =
      .ok (range.low.getD "" ++ rangeSeparator ++ range.high.getD "", range.label) := by
  obtain ⟨hlabels, _⟩ := dated_of_validate hf hk
  have hfind := (find?_key_eq_some_iff hlabels).mpr ⟨hm, rfl⟩
  simp only [optionValue, hk, hfind]

/-- Selecting the option for a range of dates asks for the instants from the lower end of that
range to its upper end, when there is an end and the ends are not the wrong way round. Otherwise
the option is refused. -/
theorem compile_dateOption_iff (hf : f.validate = .ok ()) (hk : f.kind = .dateRanges ranges)
    (hm : range ∈ ranges) :
    ∃ value low high, f.optionValue range.label = .ok (value, range.label) ∧
      range.Spans low high ∧
      ∀ o, f.implicitFilter.compile (.ofList [value]) = .ok o ↔
        ((low ≠ none ∨ high ≠ none) ∧ ∀ l ∈ low, ∀ h ∈ high, ¬ h.Before l) ∧
          o = some (.range f.field (low.map .date) (high.map .date)) := by
  obtain ⟨_, hdated⟩ := dated_of_validate hf hk
  have hfilter : f.implicitFilter = .range .date f.identifier f.field f.label false := by
    simp only [implicitFilter, hk]
  refine ⟨_, _, _, optionValue_label hf hk hm, (hdated range hm).spans, fun o => ?_⟩
  rw [hfilter, Filter.compile_singleton_eq_ok_iff]
  simp only [Filter.clause_range_eq_ok_iff, RangeKind.names_dates_iff (hdated range hm)]
  constructor
  · rintro ⟨_, ⟨_, _, ⟨hproper, rfl, rfl⟩, rfl⟩, rfl⟩
    exact ⟨hproper, rfl⟩
  · rintro ⟨hproper, rfl⟩
    exact ⟨_, ⟨_, _, ⟨hproper, rfl, rfl⟩, rfl⟩, rfl⟩

/-- A range from a date in loose spelling up to within a leap second, east of Greenwich. -/
def firstHalf : DateBucket :=
  ⟨"First half", some "  +2024-1- 5", some "2024-06-30T23:59:60.25+02:00"⟩

def halves : Facet where
  identifier := "half"
  field := "starts_at"
  label := "Half"
  multipleSelect := false
  filter := none
  kind := .dateRanges [firstHalf]

/-- The option for that range is selected by its value as it stands, blanks included. -/
theorem compile_firstHalf : halves.validate = .ok () ∧ halves.kind = .dateRanges [firstHalf] ∧
    firstHalf ∈ [firstHalf] ∧
    halves.implicitFilter.compile (.ofList ["  +2024-1- 5..2024-06-30T23:59:60.25+02:00"]) =
      .ok (some (.range "starts_at" (some (.date ⟨1704412800, 0⟩))
        (some (.date ⟨1719784799, 1250000000⟩)))) := by
  have hm : firstHalf ∈ [firstHalf] := List.mem_cons_self
  refine ⟨rfl, rfl, hm, ?_⟩
  obtain ⟨value, low, high, hvalue, ⟨hlow, hhigh⟩, hcompile⟩ :=
    compile_dateOption_iff (f := halves) rfl rfl hm
  obtain rfl : "  +2024-1- 5..2024-06-30T23:59:60.25+02:00" = value :=
    congrArg Prod.fst (Except.ok.inj hvalue)
  have hfrom : Calendar.readInstant? "  +2024-1- 5".toList = some ⟨1704412800, 0⟩ := rfl
  have hto : Calendar.readInstant? "2024-06-30T23:59:60.25+02:00".toList =
      some ⟨1719784799, 1250000000⟩ := by decide
  cases hlow with
  | some hlow =>
  cases hhigh with
  | some hhigh =>
  obtain rfl := Option.some.inj (hfrom.symm.trans hlow)
  obtain rfl := Option.some.inj (hto.symm.trans hhigh)
  refine (hcompile _).mpr ⟨⟨.inl (by simp), ?_⟩, rfl⟩
  rintro _ ⟨⟩ _ ⟨⟩
  decide

end Facet

end FacetSearch
