import FacetSearch.Document.Arguments
import FacetSearch.Proofs.AppliedFilters
import FacetSearch.Proofs.Ordered
import FacetSearch.Proofs.Outcome
import Mathlib.Algebra.Ring.Int.Defs
import Mathlib.Algebra.Ring.Nat
import Mathlib.Data.List.Induction
/-!
# Requests and their arguments

Which request the arguments of a root field stand for. What is omitted or null leaves the default;
the selected filter values, however they are interleaved, are grouped by identifier in the order of
first occurrence. Every request that can be written as arguments is read back from them.
-/

namespace FacetSearch

/-! ## Grouped selections -/

/-- The values that pairs select for an identifier, with repetitions. -/
def selectedFor (pairs : List (String × String)) (identifier : String) : List String :=
  (pairs.filter fun pair => decide (pair.1 = identifier)).map Prod.snd

/-- Selections hold what pairs select: the identifiers in the order of first occurrence, and under
each its values, again in the order of first occurrence. -/
structure Groups (pairs : List (String × String)) (m : OrderedMap String Selection) : Prop where
  keys : m.keys = (pairs.map Prod.fst).eraseDups
  values : ∀ identifier, ((m.get? identifier).getD .empty).toList =
    (selectedFor pairs identifier).eraseDups

variable {pairs : List (String × String)} {m m' : OrderedMap String Selection}

theorem Groups.mem_keys_iff (h : Groups pairs m) {identifier : String} :
    identifier ∈ m.keys ↔ identifier ∈ pairs.map Prod.fst := by
  rw [h.keys, List.mem_eraseDups]

/-- Pairs are grouped in one way only. -/
theorem Groups.unique (h : Groups pairs m) (h' : Groups pairs m') : m = m' := by
  have hkeys : m.keys = m'.keys := h.keys.trans h'.keys.symm
  refine OrderedMap.ext hkeys fun identifier => ?_
  have hvalues := OrderedSet.ext ((h.values identifier).trans (h'.values identifier).symm)
  by_cases hk : identifier ∈ m.keys
  · obtain ⟨values, hv⟩ := OrderedMap.mem_keys_iff.mp hk
    obtain ⟨values', hv'⟩ := OrderedMap.mem_keys_iff.mp (hkeys ▸ hk)
    rw [hv, hv'] at hvalues ⊢
    exact congrArg some hvalues
  · rw [OrderedMap.get?_eq_none_iff.mpr hk, OrderedMap.get?_eq_none_iff.mpr (hkeys ▸ hk)]

theorem selectedFor_concat_self (pairs : List (String × String)) (identifier value : String) :
    selectedFor (pairs ++ [(identifier, value)]) identifier =
      selectedFor pairs identifier ++ [value] := by
  simp [selectedFor]

theorem selectedFor_concat_other (pairs : List (String × String)) {identifier other : String}
    (value : String) (h : other ≠ identifier) :
    selectedFor (pairs ++ [(identifier, value)]) other = selectedFor pairs other := by
  simp [selectedFor, h.symm]

namespace Request

/-- One more value goes to its group. -/
theorem groups_select {r : Request} (h : Groups pairs r.filters) (identifier value : String) :
    Groups (pairs ++ [(identifier, value)]) (r.select identifier value).filters := by
  constructor
  case keys =>
    rw [select, OrderedMap.keys_insert, List.map_append, List.map_singleton, eraseDups_concat,
      h.keys]
    simp only [List.mem_eraseDups]
  case values =>
    intro other
    by_cases hother : other = identifier
    · subst hother
      rw [select, OrderedMap.get?_insert, Option.getD_some, OrderedSet.toList_insert,
        selectedFor_concat_self, eraseDups_concat, h.values]
      simp only [List.mem_eraseDups]
    · rw [select, OrderedMap.get?_insert_other _ _ hother, selectedFor_concat_other _ _ hother,
        h.values]

theorem selectAll_concat (r : Request) (pairs : List (String × String)) (pair : String × String) :
    r.selectAll (pairs ++ [pair]) = (r.selectAll pairs).select pair.1 pair.2 := by
  simp [selectAll]

/-- Selecting values one after the other groups them. -/
theorem groups_selectAll {r : Request} (h : r.filters = .empty) (pairs : List (String × String)) :
    Groups pairs (r.selectAll pairs).filters := by
  induction pairs using List.reverseRecOn with
  | nil =>
    constructor
    case keys =>
      change r.filters.keys = _
      rw [h]
      rfl
    case values =>
      intro identifier
      change ((r.filters.get? identifier).getD .empty).toList = _
      rw [h]
      rfl
  | append_singleton pairs pair ih =>
    rw [selectAll_concat]
    exact groups_select ih pair.1 pair.2

/-- Selecting values changes nothing else. -/
theorem selectAll_eq (r : Request) (pairs : List (String × String)) :
    r.selectAll pairs = { r with filters := (r.selectAll pairs).filters } := by
  induction pairs using List.reverseRecOn with
  | nil => rfl
  | append_singleton pairs pair ih =>
    rw [selectAll_concat, ih]
    rfl

/-- The selected values of a request as pairs, selection by selection. -/
def selectedPairs (r : Request) : List (String × String) :=
  r.filters.entries.flatMap fun (identifier, values) =>
    values.toList.map fun value => (identifier, value)

/-- No identifier has an empty selection. -/
def AllSelected (r : Request) : Prop := ∀ entry ∈ r.filters.entries, entry.2.toList ≠ []

instance (r : Request) : Decidable r.AllSelected := by
  unfold AllSelected
  infer_instance

end Request

/-- Groups under distinct keys, none of them empty, name each key once. -/
theorem eraseDups_groupKeys {entries : List (String × Selection)}
    (hn : (entries.map Prod.fst).Nodup) (hne : ∀ entry ∈ entries, entry.2.toList ≠ []) :
    (entries.flatMap fun entry => entry.2.toList.map fun _ => entry.1).eraseDups =
      entries.map Prod.fst := by
  induction entries with
  | nil => rfl
  | cons entry rest ih =>
    obtain ⟨hnew, hrest⟩ := List.nodup_cons.mp hn
    obtain ⟨hentry, hne'⟩ := List.forall_mem_cons.mp hne
    obtain ⟨identifier, values⟩ := entry
    have hgroup : (values.toList.map fun _ => identifier).eraseDups = [identifier] :=
      eraseDups_map_const hentry identifier
    -- No later group has the key of the first one, so none of it is erased with that.
    have hothers : (rest.flatMap fun entry => entry.2.toList.map fun _ => entry.1).removeAll
        (values.toList.map fun _ => identifier) =
          rest.flatMap fun entry => entry.2.toList.map fun _ => entry.1 := by
      refine List.filter_eq_self.mpr fun other hother => ?_
      obtain ⟨entry, hentry, hvalue⟩ := List.mem_flatMap.mp hother
      obtain ⟨_, _, rfl⟩ := List.mem_map.mp hvalue
      have hne : entry.1 ≠ identifier := fun he => hnew (List.mem_map.mpr ⟨entry, hentry, he⟩)
      simp [hne]
    rw [List.flatMap_cons, List.eraseDups_append, hgroup, hothers, ih hrest hne']
    rfl

namespace Request

/-- What a request selects is grouped as it is. -/
theorem groups_selectedPairs {r : Request} (h : r.AllSelected) :
    Groups r.selectedPairs r.filters := by
  constructor
  case keys =>
    rw [selectedPairs, List.map_flatMap]
    simp only [List.map_map, Function.comp_def]
    exact (eraseDups_groupKeys r.filters.nodup h).symm
  case values =>
    intro identifier
    have hgroup : r.selectedPairs.filter (fun pair => decide (pair.1 = identifier)) =
        ((r.filters.get? identifier).map fun values =>
          values.toList.map fun value => (identifier, value)).getD [] :=
      r.filters.filter_groups (by simp) identifier
    rw [selectedFor, hgroup]
    cases r.filters.get? identifier with
    | none => rfl
    | some values => simp [Function.comp_def, eraseDups_of_nodup values.nodup]

end Request

/-! ## What arguments give -/

namespace Document

/-- Arguments or fields lack a name, or it is null there. -/
def Omitted (fields : List (String × Value)) (name : String) : Prop :=
  fields.lookup name = none ∨ fields.lookup name = some .null

/-- An optional text, by name. -/
inductive GivesText (fields : List (String × Value)) (name : String) : Option String → Prop
  | omitted (h : Omitted fields name) : GivesText fields name none
  | given {text : String} (h : fields.lookup name = some (.str text)) :
    GivesText fields name (some text)

/-- A number that has a default. -/
inductive GivesNumber (fields : List (String × Value)) (name : String) (default : UInt64) :
    UInt64 → Prop
  | omitted (h : Omitted fields name) : GivesNumber fields name default default
  | given {n : UInt64} (h : fields.lookup name = some (.int n.toNat)) (hn : n.toNat < 2 ^ 63) :
    GivesNumber fields name default n

/-- A number below zero, and what is told of it. -/
inductive GivesNegative (fields : List (String × Value)) (name : String) : SearchError → Prop
  | intro {n : Int} (h : fields.lookup name = some (.int n)) (hlow : -2 ^ 63 ≤ n) (hn : n < 0) :
    GivesNegative fields name (.invalidPage s!"page.{name} must not be negative, got {n}")

/-- A page, of which each number may be omitted. -/
inductive GivesPage (arguments : List (String × Value)) : PageWindow → Prop
  | omitted (h : Omitted arguments "page") : GivesPage arguments {}
  | given {fields : List (String × Value)} {window : PageWindow}
    (h : arguments.lookup "page" = some (.object fields))
    (hstart : GivesNumber fields "from" ({} : PageWindow).start window.start)
    (hsize : GivesNumber fields "size" ({} : PageWindow).size window.size) :
    GivesPage arguments window

/-- A value selects a filter value. -/
def IsPair (value : Value) (pair : String × String) : Prop :=
  ∃ fields, value = .object fields ∧ fields.lookup "identifier" = some (.str pair.1) ∧
    fields.lookup "value" = some (.str pair.2)

inductive GivesPairs (arguments : List (String × Value)) : List (String × String) → Prop
  | omitted (h : Omitted arguments "filters") : GivesPairs arguments []
  | given {items : List Value} {pairs : List (String × String)}
    (h : arguments.lookup "filters" = some (.list items))
    (hpairs : List.Forall₂ IsPair items pairs) : GivesPairs arguments pairs

/-- Arguments stand for a request: its texts and its page are given or left at their defaults, and
its selections group the pairs given. -/
structure Spells (arguments : List (String × Value)) (r : Request) : Prop where
  query : GivesText arguments "query" r.query
  filters : ∃ pairs, GivesPairs arguments pairs ∧ Groups pairs r.filters
  page : GivesPage arguments r.page
  sortBy : GivesText arguments "sortBy" r.sortBy

/-! ## What is read of them -/

variable {fields arguments : List (String × Value)} {name : String}

theorem given?_eq_none_iff : given? fields name = none ↔ Omitted fields name := by
  unfold given? Omitted
  split <;> simp_all

theorem given?_eq_some_iff {value : Value} :
    given? fields name = some value ↔ fields.lookup name = some value ∧ value ≠ .null := by
  unfold given?
  split
  · next h =>
    rw [h]
    simp only [reduceCtorEq, Option.some.injEq, false_iff, not_and, not_not]
    exact fun h => h.symm
  · next hnull =>
    constructor
    · intro h
      refine ⟨h, ?_⟩
      rintro rfl
      exact hnull h
    · exact fun h => h.1

theorem text_eq_ok_iff {value : Value} {text : String} :
    value.text = .ok text ↔ value = .str text := by
  cases value <;> simp [Value.text]

theorem optionalText_eq_ok_iff {text : Option String} :
    optionalText (given? fields name) = .ok text ↔ GivesText fields name text := by
  constructor
  · intro h
    cases hv : given? fields name with
    | none =>
      rw [hv] at h
      obtain rfl := Except.ok.inj h
      exact .omitted (given?_eq_none_iff.mp hv)
    | some value =>
      rw [hv] at h
      obtain ⟨s, hs, rfl⟩ := map_eq_ok_iff.mp h
      obtain rfl := text_eq_ok_iff.mp hs
      exact .given (given?_eq_some_iff.mp hv).1
  · intro h
    cases h with
    | omitted h =>
      rw [given?_eq_none_iff.mpr h]
      rfl
    | given h =>
      rw [given?_eq_some_iff.mpr ⟨h, by simp⟩]
      rfl

theorem filterPair_eq_ok_iff {value : Value} {pair : String × String} :
    value.filterPair = .ok pair ↔ IsPair value pair := by
  have hfields : ∀ {fields : List (String × Value)} {name text : String},
      ((fields.lookup name).getD .null).text = .ok text ↔
        fields.lookup name = some (.str text) := by
    intro fields name text
    rw [text_eq_ok_iff]
    cases fields.lookup name <;> simp
  rw [Value.filterPair, bind_eq_ok_iff]
  simp only [bind_eq_ok_iff, hfields, pure_eq_ok_iff]
  constructor
  · rintro ⟨fields, hvalue, identifier, hi, v, hv, rfl⟩
    cases value <;> cases hvalue
    exact ⟨_, rfl, hi, hv⟩
  · rintro ⟨fields, rfl, hi, hv⟩
    exact ⟨fields, rfl, _, hi, _, hv, rfl⟩

theorem filterPairs_eq_ok_iff {pairs : List (String × String)} :
    filterPairs (given? arguments "filters") = .ok pairs ↔ GivesPairs arguments pairs := by
  have hitems : ∀ {value : Value}, filterPairs (some value) = .ok pairs ↔
      ∃ items, value = .list items ∧ List.Forall₂ IsPair items pairs := by
    intro value
    rw [filterPairs, bind_eq_ok_iff]
    simp only [mapM_eq_ok_iff, filterPair_eq_ok_iff]
    cases value <;> simp [Value.items]
  constructor
  · intro h
    cases hv : given? arguments "filters" with
    | none =>
      rw [hv] at h
      obtain rfl := Except.ok.inj h
      exact .omitted (given?_eq_none_iff.mp hv)
    | some value =>
      rw [hv] at h
      obtain ⟨items, rfl, hpairs⟩ := hitems.mp h
      exact .given (given?_eq_some_iff.mp hv).1 hpairs
  · intro h
    cases h with
    | omitted h =>
      rw [given?_eq_none_iff.mpr h]
      rfl
    | given h hpairs =>
      rw [given?_eq_some_iff.mpr ⟨h, by simp⟩]
      exact hitems.mpr ⟨_, rfl, hpairs⟩

/-! ### Pages -/

variable {default m : UInt64} {e : SearchError}

theorem isInt64_iff {n : Int} : Json.isInt64 n = true ↔ -2 ^ 63 ≤ n ∧ n < 2 ^ 63 := by
  simp [Json.isInt64]

/-- The ways in which an integer is read. -/
theorem pageNumber_int (name : String) (default : UInt64) (n : Int) :
    pageNumber name default (some (.int n)) =
      if ¬ (-2 ^ 63 ≤ n ∧ n < 2 ^ 63) then .error .document
      else if n < 0 then
        .error (.search (.invalidPage s!"page.{name} must not be negative, got {n}"))
      else .ok n.toNat.toUInt64 := by
  rw [pageNumber]
  simp only [← isInt64_iff, Bool.not_eq_eq_eq_not, Bool.not_true, Bool.not_eq_true]

theorem pageNumber_eq_ok_iff :
    pageNumber name default (given? fields name) = .ok m ↔ GivesNumber fields name default m := by
  constructor
  · intro h
    cases hv : given? fields name with
    | none =>
      rw [hv] at h
      obtain rfl := Except.ok.inj h
      exact .omitted (given?_eq_none_iff.mp hv)
    | some value =>
      rw [hv] at h
      obtain ⟨hv, _⟩ := given?_eq_some_iff.mp hv
      cases value with
      | int n =>
        rw [pageNumber_int] at h
        split at h
        · cases h
        next hrange =>
        split at h
        · cases h
        next hn =>
        obtain rfl := Except.ok.inj h
        have hlt : n.toNat < 2 ^ 63 := by omega
        have hread : n.toNat.toUInt64.toNat = n.toNat := by
          rw [Nat.toUInt64_eq, UInt64.toNat_ofNat_of_lt' (Nat.lt_trans hlt (by decide))]
        refine .given ?_ (by rwa [hread])
        rw [hread, hv, Int.toNat_of_nonneg (by omega)]
      | _ => cases h
  · intro h
    cases h with
    | omitted h =>
      rw [given?_eq_none_iff.mpr h]
      rfl
    | given h hn =>
      rw [given?_eq_some_iff.mpr ⟨h, by simp⟩, pageNumber_int, if_neg (by omega), if_neg (by omega),
        Int.toNat_natCast, Nat.toUInt64_eq, UInt64.ofNat_toNat]

theorem pageNumber_eq_error_iff :
    pageNumber name default (given? fields name) = .error (.search e) ↔
      GivesNegative fields name e := by
  constructor
  · intro h
    cases hv : given? fields name with
    | none =>
      rw [hv] at h
      cases h
    | some value =>
      rw [hv] at h
      obtain ⟨hv, _⟩ := given?_eq_some_iff.mp hv
      cases value with
      | int n =>
        rw [pageNumber_int] at h
        split at h
        · cases h
        next hrange =>
        split at h
        · next hn =>
          cases h
          exact .intro hv (by omega) hn
        · cases h
      | _ => cases h
  · intro h
    cases h with
    | intro h hlow hn =>
      rw [given?_eq_some_iff.mpr ⟨h, by simp⟩, pageNumber_int, if_neg (by omega), if_pos hn]

theorem pageWindow_object (fields : List (String × Value)) :
    pageWindow (some (.object fields)) = do
      let start ← pageNumber "from" ({} : PageWindow).start (given? fields "from")
      let size ← pageNumber "size" ({} : PageWindow).size (given? fields "size")
      return ⟨start, size⟩ := rfl

theorem pageWindow_eq_ok_iff {window : PageWindow} :
    pageWindow (given? arguments "page") = .ok window ↔ GivesPage arguments window := by
  constructor
  · intro h
    cases hv : given? arguments "page" with
    | none =>
      rw [hv] at h
      obtain rfl := Except.ok.inj h
      exact .omitted (given?_eq_none_iff.mp hv)
    | some value =>
      rw [hv] at h
      obtain ⟨hv, _⟩ := given?_eq_some_iff.mp hv
      cases value with
      | object fields =>
        rw [pageWindow_object] at h
        obtain ⟨start, hstart, h⟩ := bind_eq_ok_iff.mp h
        obtain ⟨size, hsize, h⟩ := bind_eq_ok_iff.mp h
        obtain rfl := pure_eq_ok_iff.mp h
        exact .given hv (pageNumber_eq_ok_iff.mp hstart) (pageNumber_eq_ok_iff.mp hsize)
      | _ => cases h
  · intro h
    cases h with
    | omitted h =>
      rw [given?_eq_none_iff.mpr h]
      rfl
    | given h hstart hsize =>
      rw [given?_eq_some_iff.mpr ⟨h, by simp⟩, pageWindow_object, pageNumber_eq_ok_iff.mpr hstart,
        pageNumber_eq_ok_iff.mpr hsize]
      rfl

/-- A page with a number below zero, and what is told of it. -/
inductive GivesNegativePage (arguments : List (String × Value)) : SearchError → Prop
  | start {fields : List (String × Value)} {e : SearchError}
    (h : arguments.lookup "page" = some (.object fields)) (hstart : GivesNegative fields "from" e) :
    GivesNegativePage arguments e
  | size {fields : List (String × Value)} {start : UInt64} {e : SearchError}
    (h : arguments.lookup "page" = some (.object fields))
    (hstart : GivesNumber fields "from" ({} : PageWindow).start start)
    (hsize : GivesNegative fields "size" e) : GivesNegativePage arguments e

theorem pageWindow_eq_error_iff :
    pageWindow (given? arguments "page") = .error (.search e) ↔ GivesNegativePage arguments e := by
  constructor
  · intro h
    cases hv : given? arguments "page" with
    | none =>
      rw [hv] at h
      cases h
    | some value =>
      rw [hv] at h
      obtain ⟨hv, _⟩ := given?_eq_some_iff.mp hv
      cases value with
      | object fields =>
        rw [pageWindow_object] at h
        rcases bind_eq_error_iff.mp h with hstart | ⟨start, hstart, h⟩
        · exact .start hv (pageNumber_eq_error_iff.mp hstart)
        rcases bind_eq_error_iff.mp h with hsize | ⟨size, _, h⟩
        · exact .size hv (pageNumber_eq_ok_iff.mp hstart) (pageNumber_eq_error_iff.mp hsize)
        · cases h
      | _ => cases h
  · intro h
    cases h with
    | start h hstart =>
      rw [given?_eq_some_iff.mpr ⟨h, by simp⟩, pageWindow_object,
        pageNumber_eq_error_iff.mpr hstart]
      rfl
    | size h hstart hsize =>
      rw [given?_eq_some_iff.mpr ⟨h, by simp⟩, pageWindow_object, pageNumber_eq_ok_iff.mpr hstart]
      refine bind_eq_error_iff.mpr (.inr ⟨_, rfl, ?_⟩)
      exact bind_eq_error_iff.mpr (.inl (pageNumber_eq_error_iff.mpr hsize))

/-! ## Whole requests -/

variable {r : Request}

/-- Arguments are read as the one request that they stand for. -/
theorem readArguments_eq_ok_iff : readArguments arguments = .ok r ↔ Spells arguments r := by
  constructor
  · intro h
    obtain ⟨query, hquery, h⟩ := bind_eq_ok_iff.mp h
    obtain ⟨pairs, hpairs, h⟩ := bind_eq_ok_iff.mp h
    obtain ⟨page, hpage, h⟩ := bind_eq_ok_iff.mp h
    obtain ⟨sortBy, hsort, h⟩ := bind_eq_ok_iff.mp h
    obtain rfl := pure_eq_ok_iff.mp h
    rw [Request.selectAll_eq]
    exact ⟨optionalText_eq_ok_iff.mp hquery,
      ⟨pairs, filterPairs_eq_ok_iff.mp hpairs, Request.groups_selectAll rfl pairs⟩,
      pageWindow_eq_ok_iff.mp hpage, optionalText_eq_ok_iff.mp hsort⟩
  · rintro ⟨hquery, ⟨pairs, hpairs, hgroups⟩, hpage, hsort⟩
    rw [readArguments, optionalText_eq_ok_iff.mpr hquery, filterPairs_eq_ok_iff.mpr hpairs,
      pageWindow_eq_ok_iff.mpr hpage, optionalText_eq_ok_iff.mpr hsort]
    refine congrArg Except.ok ?_
    rw [Request.selectAll_eq, (Request.groups_selectAll rfl pairs).unique hgroups]

/-! ### Values of the wrong type -/

/-- All that can be wrong is the document. -/
abbrev BlamesDocument {α : Type} (x : Except Problem α) : Prop :=
  FailsOnly (fun problem => problem = .document) x

theorem Value.text_blames (value : Value) : BlamesDocument value.text := by
  cases value <;> first | exact .ok _ | exact .error rfl

theorem Value.items_blames (value : Value) : BlamesDocument value.items := by
  cases value <;> first | exact .ok _ | exact .error rfl

theorem Value.fields_blames (value : Value) : BlamesDocument value.fields := by
  cases value <;> first | exact .ok _ | exact .error rfl

theorem Value.filterPair_blames (value : Value) : BlamesDocument value.filterPair :=
  value.fields_blames.bind fun _ => (text_blames _).bind fun _ => (text_blames _).bind fun _ =>
    .ok _

theorem optionalText_blames (value : Option Value) : BlamesDocument (optionalText value) := by
  cases value with
  | none => exact .ok none
  | some value => exact value.text_blames.map some

theorem filterPairs_blames (value : Option Value) : BlamesDocument (filterPairs value) := by
  cases value with
  | none => exact .ok []
  | some value => exact value.items_blames.bind fun items => .mapM Value.filterPair_blames items

/-! ### Pages below zero -/

/-- The only search error that arguments give is that of a page with a number below zero, when all
that comes before the page is as it should be. -/
theorem readArguments_eq_error_iff : readArguments arguments = .error (.search e) ↔
    (∃ query, GivesText arguments "query" query) ∧ (∃ pairs, GivesPairs arguments pairs) ∧
      GivesNegativePage arguments e := by
  constructor
  · intro h
    rcases bind_eq_error_iff.mp h with h | ⟨query, hquery, h⟩
    · cases optionalText_blames _ _ h
    rcases bind_eq_error_iff.mp h with h | ⟨pairs, hpairs, h⟩
    · cases filterPairs_blames _ _ h
    rcases bind_eq_error_iff.mp h with h | ⟨page, _, h⟩
    · exact ⟨⟨query, optionalText_eq_ok_iff.mp hquery⟩, ⟨pairs, filterPairs_eq_ok_iff.mp hpairs⟩,
        pageWindow_eq_error_iff.mp h⟩
    rcases bind_eq_error_iff.mp h with h | ⟨sortBy, _, h⟩
    · cases optionalText_blames _ _ h
    · cases h
  · rintro ⟨⟨query, hquery⟩, ⟨pairs, hpairs⟩, hpage⟩
    rw [readArguments, optionalText_eq_ok_iff.mpr hquery, filterPairs_eq_ok_iff.mpr hpairs]
    refine bind_eq_error_iff.mpr (.inr ⟨_, rfl, bind_eq_error_iff.mpr (.inr ⟨_, rfl, ?_⟩)⟩)
    exact bind_eq_error_iff.mpr (.inl (pageWindow_eq_error_iff.mpr hpage))

/-! ## Writing requests as arguments -/

/-- An optional text, null when there is none. -/
def Value.ofText : Option String → Value
  | none => .null
  | some text => .str text

/-- The numbers of the page can be written as integers of 64 bits with a sign. -/
def Writable (window : PageWindow) : Prop :=
  window.start.toNat < 2 ^ 63 ∧ window.size.toNat < 2 ^ 63

instance (window : PageWindow) : Decidable (Writable window) := by
  unfold Writable
  infer_instance

end Document

open Document (Value)

/-- The arguments that spell a request out, selection by selection. -/
def Request.arguments (r : Request) : List (String × Value) := [
  ("query", .ofText r.query),
  ("filters", .list (r.selectedPairs.map fun (identifier, value) =>
    .object [("identifier", .str identifier), ("value", .str value)])),
  ("page", .object [("from", .int r.page.start.toNat), ("size", .int r.page.size.toNat)]),
  ("sortBy", .ofText r.sortBy)]

namespace Document

theorem givesText_ofText {text : Option String} (h : fields.lookup name = some (.ofText text)) :
    GivesText fields name text := by
  cases text with
  | none => exact .omitted (.inr h)
  | some text => exact .given h

theorem spells_arguments (hselected : r.AllSelected) (hpage : Writable r.page) :
    Spells r.arguments r := by
  constructor
  case query => exact givesText_ofText rfl
  case sortBy => exact givesText_ofText rfl
  case page => exact .given rfl (.given rfl hpage.1) (.given rfl hpage.2)
  case filters =>
    refine ⟨r.selectedPairs, .given rfl ?_, Request.groups_selectedPairs hselected⟩
    rw [List.forall₂_map_left_iff, List.forall₂_same]
    exact fun pair _ => ⟨_, rfl, rfl, rfl⟩

/-- A request is read back from its arguments. -/
theorem readArguments_arguments (hselected : r.AllSelected) (hpage : Writable r.page) :
    readArguments r.arguments = .ok r :=
  readArguments_eq_ok_iff.mpr (spells_arguments hselected hpage)

end Document

end FacetSearch
