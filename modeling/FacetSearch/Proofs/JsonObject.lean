import FacetSearch.Json.Value
import FacetSearch.Proofs.Ordered
import FacetSearch.Proofs.Outcome
/-!
# JSON objects

Look-up among the members of an object, and equality of JSON values. Members with pairwise
distinct keys make up an object as they stand. Equality leaves the order of members aside, so
objects written under the same keys are equal exactly when their members are, one by one.
-/

namespace FacetSearch

namespace Json

theorem object_eq_obj {members : List (String × Json)} (h : (members.map Prod.fst).Nodup) :
    object members = .obj members := by
  rw [object, OrderedMap.entries_ofList h]

@[simp] theorem get?_obj (key : String) (members : List (String × Json)) :
    (obj members).get? key = members.lookup key := rfl

/-- A member found is the one that is read. -/
theorem bind_get? {α : Type} {j value : Json} {key : String} {read : Json → Option α}
    (h : j.get? key = some value) : (j.get? key).bind read = read value := by
  rw [h, Option.bind_some]

theorem ofFloat_of_isFinite {x : Float} (h : x.isFinite = true) : ofFloat x = .float x :=
  if_pos h

theorem natBelow?_ofNat {bound n : Nat} (h : n < bound) : (ofNat n).natBelow? bound = some n := by
  rw [ofNat, natBelow?, if_pos ⟨Int.natCast_nonneg n, Int.ofNat_lt.mpr h⟩, Int.toNat_natCast]

theorem uint64?_ofUInt64 (n : UInt64) : (ofUInt64 n).uint64? = some n := by
  have h : (ofUInt64 n).natBelow? 0x10000000000000000 = some n.toNat := natBelow?_ofNat n.toNat_lt
  rw [uint64?, h, Option.map_some, Nat.toUInt64, UInt64.ofNat_toNat]

/-! ## Members that may be left out -/

/-- The members of an object some of which may be left out. -/
def present (slots : List (String × Option Json)) : List (String × Json) :=
  slots.filterMap fun (key, value) => value.map fun v => (key, v)

theorem present_cons (key : String) (value : Option Json) (slots : List (String × Option Json)) :
    present ((key, value) :: slots) = (value.map fun v => (key, v)).toList ++ present slots := by
  cases value <;> rfl

@[simp] theorem present_nil : present [] = [] := rfl

theorem lookup_present_of_notMem {slots : List (String × Option Json)} {key : String}
    (h : key ∉ slots.map Prod.fst) : (present slots).lookup key = none := by
  rw [List.lookup_eq_none_iff]
  intro member hm
  obtain ⟨⟨k, value⟩, hs, hv⟩ := List.mem_filterMap.mp hm
  obtain ⟨v, _, rfl⟩ := Option.map_eq_some_iff.mp hv
  exact bne_iff_ne.mpr fun he => h (List.mem_map.mpr ⟨_, hs, he.symm⟩)

theorem lookup_present_self {slots : List (String × Option Json)} {key : String}
    (value : Option Json) (h : key ∉ slots.map Prod.fst) :
    (present ((key, value) :: slots)).lookup key = value := by
  cases value with
  | none =>
    have hnone : (present slots).lookup key = none := lookup_present_of_notMem h
    exact hnone
  | some v => simp [present]

theorem lookup_present_other (slots : List (String × Option Json)) {key other : String}
    (value : Option Json) (h : other ≠ key) :
    (present ((key, value) :: slots)).lookup other = (present slots).lookup other := by
  cases value with
  | none => rfl
  | some v => simp [present, List.lookup_cons, beq_false_of_ne h]

/-! ## Equality -/

/-- Equal JSON values: numbers by their bits, as their texts tell them apart, lists item by item,
objects key by key in whatever order. -/
inductive Alike : Json → Json → Prop
  | null : Alike .null .null
  | bool (b : Bool) : Alike (.bool b) (.bool b)
  | int (n : Int) : Alike (.int n) (.int n)
  | float (x : Float) : Alike (.float x) (.float x)
  | str (s : String) : Alike (.str s) (.str s)
  | arr {items others : List Json} (h : List.Forall₂ Alike items others) :
    Alike (.arr items) (.arr others)
  | obj {members others : List (String × Json)}
    (h : ∀ key, Option.Rel Alike (members.lookup key) (others.lookup key)) :
    Alike (.obj members) (.obj others)

@[simp] theorem alike_bool_iff {a b : Bool} : Alike (.bool a) (.bool b) ↔ a = b :=
  ⟨fun h => by cases h; rfl, fun h => h ▸ .bool a⟩

@[simp] theorem alike_int_iff {a b : Int} : Alike (.int a) (.int b) ↔ a = b :=
  ⟨fun h => by cases h; rfl, fun h => h ▸ .int a⟩

@[simp] theorem alike_float_iff {x y : Float} : Alike (.float x) (.float y) ↔ x = y :=
  ⟨fun h => by cases h; rfl, fun h => h ▸ .float x⟩

@[simp] theorem alike_str_iff {a b : String} : Alike (.str a) (.str b) ↔ a = b :=
  ⟨fun h => by cases h; rfl, fun h => h ▸ .str a⟩

@[simp] theorem not_alike_float_str {x : Float} {s : String} : ¬ Alike (.float x) (.str s) :=
  nofun

@[simp] theorem not_alike_str_float {s : String} {x : Float} : ¬ Alike (.str s) (.float x) :=
  nofun

theorem alike_arr_iff {items others : List Json} :
    Alike (.arr items) (.arr others) ↔ List.Forall₂ Alike items others :=
  ⟨fun h => by cases h; assumption, .arr⟩

/-- Lists of encoded items are equal when the items are, if the encoding tells these apart. -/
theorem alike_arr_map_iff {α : Type} {encode : α → Json} (items others : List α)
    (h : ∀ a ∈ items, ∀ b ∈ others, (Alike (encode a) (encode b) ↔ a = b)) :
    Alike (.arr (items.map encode)) (.arr (others.map encode)) ↔ items = others := by
  rw [alike_arr_iff]
  induction items generalizing others with
  | nil => cases others <;> simp
  | cons a rest ih =>
    cases others with
    | nil => simp
    | cons b others =>
      have hrest := ih others fun c hc c' hc' =>
        h c (List.mem_cons_of_mem _ hc) c' (List.mem_cons_of_mem _ hc')
      rw [List.map_cons, List.map_cons, List.forall₂_cons, hrest, List.cons.injEq,
        h a List.mem_cons_self b List.mem_cons_self]

@[simp] theorem alike_strings_iff {texts others : List String} :
    Alike (strings texts) (strings others) ↔ texts = others :=
  alike_arr_map_iff texts others fun _ _ _ _ => alike_str_iff

@[simp] theorem alike_ofNat_iff {a b : Nat} : Alike (ofNat a) (ofNat b) ↔ a = b :=
  alike_int_iff.trans Int.ofNat_inj

@[simp] theorem alike_ofUInt64_iff {a b : UInt64} : Alike (ofUInt64 a) (ofUInt64 b) ↔ a = b :=
  alike_ofNat_iff.trans UInt64.toNat_inj

/-- Numbers that JSON can hold are kept apart. -/
theorem alike_ofFloat_iff {x y : Float} (hx : x.isFinite = true) (hy : y.isFinite = true) :
    Alike (ofFloat x) (ofFloat y) ↔ x = y := by
  rw [ofFloat_of_isFinite hx, ofFloat_of_isFinite hy, alike_float_iff]

theorem alike_obj_iff {members others : List (String × Json)} :
    Alike (.obj members) (.obj others) ↔
      ∀ key, Option.Rel Alike (members.lookup key) (others.lookup key) :=
  ⟨fun h => by cases h; assumption, .obj⟩

mutual

theorem Alike.refl : (j : Json) → Alike j j
  | .null => .null
  | .bool b => .bool b
  | .int n => .int n
  | .float x => .float x
  | .str s => .str s
  | .arr items => .arr (Alike.refl_items items)
  | .obj members => .obj (Alike.refl_members members)

theorem Alike.refl_items : (items : List Json) → List.Forall₂ Alike items items
  | [] => .nil
  | j :: rest => .cons (Alike.refl j) (Alike.refl_items rest)

theorem Alike.refl_members : (members : List (String × Json)) → (key : String) →
    Option.Rel Alike (members.lookup key) (members.lookup key)
  | [], _ => .none
  | (k, j) :: rest, key => by
    rw [List.lookup_cons]
    split
    · exact .some (Alike.refl j)
    · exact Alike.refl_members rest key

end

/-- Objects written under the same keys are equal when their members are, one by one. -/
theorem alike_present_iff (slots others : List (String × Option Json))
    (hkeys : slots.map Prod.fst = others.map Prod.fst) (hn : (slots.map Prod.fst).Nodup) :
    Alike (.obj (present slots)) (.obj (present others)) ↔
      List.Forall₂ (fun a b => Option.Rel Alike a.2 b.2) slots others := by
  rw [alike_obj_iff]
  induction slots generalizing others with
  | nil =>
    obtain rfl : others = [] := by simpa using hkeys.symm
    simp [present]
  | cons slot rest ih =>
    obtain ⟨key, value⟩ := slot
    match others, hkeys with
    | (key', value') :: others, hkeys =>
      obtain ⟨rfl, hrest⟩ : key = key' ∧ rest.map Prod.fst = others.map Prod.fst := by
        simpa using hkeys
      obtain ⟨hfresh, hn⟩ := List.nodup_cons.mp hn
      have hfresh' : key ∉ others.map Prod.fst := hrest ▸ hfresh
      rw [List.forall₂_cons, ← ih others hrest hn]
      constructor
      · intro h
        refine ⟨?_, fun other => ?_⟩
        · simpa only [lookup_present_self _ hfresh, lookup_present_self _ hfresh'] using h key
        · by_cases ho : other = key
          · subst ho
            rw [lookup_present_of_notMem hfresh, lookup_present_of_notMem hfresh']
            exact .none
          · simpa only [lookup_present_other _ _ ho] using h other
      · rintro ⟨hvalue, h⟩ other
        by_cases ho : other = key
        · subst ho
          rwa [lookup_present_self _ hfresh, lookup_present_self _ hfresh']
        · rw [lookup_present_other _ _ ho, lookup_present_other _ _ ho]
          exact h other

/-- Objects with a single member are equal when key and value are. -/
@[simp] theorem alike_singleton_iff {key key' : String} {value value' : Json} :
    Alike (.obj [(key, value)]) (.obj [(key', value')]) ↔ key = key' ∧ Alike value value' := by
  constructor
  · intro h
    have hkey := alike_obj_iff.mp h key
    by_cases hk : key = key'
    · subst hk
      simpa [List.lookup_cons] using hkey
    · simp [List.lookup_cons, beq_false_of_ne hk] at hkey
  · rintro ⟨rfl, h⟩
    exact (alike_present_iff [(key, some value)] [(key, some value')] rfl
      (List.nodup_singleton key)).mpr (.cons (.some h) .nil)

@[simp] theorem alike_pair_iff {key key' : String} {first second first' second' : Json}
    (h : key ≠ key') :
    Alike (.obj [(key, first), (key', second)]) (.obj [(key, first'), (key', second')]) ↔
      Alike first first' ∧ Alike second second' := by
  have hslots := alike_present_iff [(key, some first), (key', some second)]
    [(key, some first'), (key', some second')] rfl (by simpa using h)
  simpa [present_cons] using hslots

/-- Equal objects have the same keys. -/
theorem Alike.isSome_get? {j j' : Json} (h : Alike j j') (key : String) :
    (j.get? key).isSome = (j'.get? key).isSome := by
  cases h with
  | @obj members others h =>
    rw [get?_obj, get?_obj]
    have hrel := h key
    cases hm : members.lookup key <;> cases ho : others.lookup key <;> simp_all
  | _ => rfl

/-- Optional members are equal when what they encode is, if the encoding tells values apart. -/
theorem rel_map_iff {α : Type} {encode : α → Json} (x y : Option α)
    (h : ∀ a ∈ x, ∀ b ∈ y, (Alike (encode a) (encode b) ↔ a = b)) :
    Option.Rel Alike (x.map encode) (y.map encode) ↔ x = y := by
  cases x <;> cases y <;> simp_all

/-- Objects with a member for each item, under its key, are equal when they have the same items,
if the encoding tells items with the same key apart. -/
theorem alike_obj_map_iff {α : Type} {key : α → String} {encode : α → Json} {items others : List α}
    (hn : (items.map key).Nodup) (hn' : (others.map key).Nodup)
    (h : ∀ a ∈ items, ∀ b ∈ others, key a = key b → (Alike (encode a) (encode b) ↔ a = b)) :
    Alike (.obj (items.map fun a => (key a, encode a)))
      (.obj (others.map fun a => (key a, encode a))) ↔ items.Perm others := by
  have hlookup {l : List α} (hl : (l.map key).Nodup) {k : String} {value : Json} :
      (l.map fun a => (key a, encode a)).lookup k = some value ↔
        ∃ a ∈ l, (key a, encode a) = (k, value) := by
    rw [lookup_eq_some_iff_mem (by rwa [List.map_map]), List.mem_map]
  constructor
  · intro halike
    have hsub : ∀ a ∈ items, a ∈ others := by
      intro a ha
      have hrel := alike_obj_iff.mp halike (key a)
      rw [lookup_map_key hn ha] at hrel
      cases hb : (others.map fun b => (key b, encode b)).lookup (key a) with
      | none => simp [hb] at hrel
      | some value =>
        obtain ⟨b, hmem, hpair⟩ := (hlookup hn').mp hb
        obtain ⟨hkey, rfl⟩ := Prod.mk.inj hpair
        rw [hb, Option.rel_some_some] at hrel
        rwa [(h a ha b hmem hkey.symm).mp hrel]
    -- an item of the other object has the key of some item here, which stands in both
    have hsup : ∀ b ∈ others, b ∈ items := by
      intro b hb
      have hsome := halike.isSome_get? (key b)
      rw [get?_obj, get?_obj, lookup_map_key hn' hb, Option.isSome_some] at hsome
      obtain ⟨value, hv⟩ := Option.isSome_iff_exists.mp hsome
      obtain ⟨a, ha, hpair⟩ := (hlookup hn).mp hv
      rwa [← List.inj_on_of_nodup_map hn' (hsub a ha) hb (Prod.mk.inj hpair).1]
    rw [List.perm_ext_iff_of_nodup hn.of_map hn'.of_map]
    exact fun a => ⟨hsub a, hsup a⟩
  · intro hp
    rw [alike_obj_iff]
    intro k
    have hsame : (items.map fun a => (key a, encode a)).lookup k =
        (others.map fun a => (key a, encode a)).lookup k := by
      refine Option.ext fun value => ?_
      simp only [hlookup hn, hlookup hn', hp.mem_iff]
    rw [hsame]
    cases (others.map fun a => (key a, encode a)).lookup k with
    | none => exact .none
    | some value => exact .some (Alike.refl value)

end Json

end FacetSearch
