import FacetSearch.Proofs.JsonObject
import FacetSearch.Proofs.PathLookup
import Mathlib.Logic.Relation
/-!
# Members that no returned field concerns

The keys on the way to a member of a document, joined by points, are its key path. A returned field
concerns the members under its own path, those that lead there and those below. Main statement:
members that no returned field concerns may be added, removed and changed, wherever they stand,
without any effect on the fields that are returned.
-/

namespace FacetSearch.Json

/-- The keys on the way to a member, joined by points. Arrays on the way add nothing. -/
def keyPath (keys : List String) : String := ".".intercalate keys

/-- A member under the path is the field itself, leads to it or lies below it. -/
def Concerns (field path : String) : Prop :=
  path = field ∨ (path ++ ".").toList <+: field.toList ∨ (field ++ ".").toList <+: path.toList

instance (field path : String) : Decidable (Concerns field path) :=
  inferInstanceAs (Decidable (_ ∨ _ ∨ _))

/-- No returned field concerns the members under the path. -/
def Hidden (fields : List String) (path : String) : Prop := ∀ field ∈ fields, ¬ Concerns field path

instance (fields : List String) (path : String) : Decidable (Hidden fields path) :=
  inferInstanceAs (Decidable (∀ field ∈ fields, ¬ Concerns field path))

/-- One hidden member is added, removed or changed, in the part of a document that the keys lead
to. -/
inductive Edit (fields : List String) : List String → Json → Json → Prop
  | add {keys key value} (before after : List (String × Json))
    (h : Hidden fields (keyPath (keys ++ [key]))) :
    Edit fields keys (.obj (before ++ after)) (.obj (before ++ (key, value) :: after))
  | remove {keys key value} (before after : List (String × Json))
    (h : Hidden fields (keyPath (keys ++ [key]))) :
    Edit fields keys (.obj (before ++ (key, value) :: after)) (.obj (before ++ after))
  | change {keys key value value'} (before after : List (String × Json))
    (h : Hidden fields (keyPath (keys ++ [key]))) :
    Edit fields keys (.obj (before ++ (key, value) :: after))
      (.obj (before ++ (key, value') :: after))
  | inMember {keys key value value'} (before after : List (String × Json))
    (h : Edit fields (keys ++ [key]) value value') :
    Edit fields keys (.obj (before ++ (key, value) :: after))
      (.obj (before ++ (key, value') :: after))
  | inItem {keys item item'} (before after : List Json) (h : Edit fields keys item item') :
    Edit fields keys (.arr (before ++ item :: after)) (.arr (before ++ item' :: after))

/-! ## Key paths as texts -/

/-- What stands before the key of a member in its key path. -/
def stem (keys : List String) : List Char := keys.flatMap fun key => key.toList ++ ['.']

theorem stem_concat (keys : List String) (key : String) :
    stem (keys ++ [key]) = stem keys ++ key.toList ++ ['.'] := by
  simp [stem]

theorem toList_keyPath (keys : List String) (key : String) :
    (keyPath (keys ++ [key])).toList = stem keys ++ key.toList := by
  induction keys with
  | nil => simp [keyPath, stem]
  | cons first keys ih =>
    have hne : keys ++ [key] ≠ [] := by simp
    rw [keyPath, List.cons_append, String.intercalate_cons_of_ne_nil hne, String.toList_append,
      String.toList_append, ← keyPath, ih]
    simp [stem]

variable {field key : String} {fields keys : List String} {rest tail : List Char}

theorem concerns_self (h : field.toList = stem keys ++ key.toList) :
    Concerns field (keyPath (keys ++ [key])) := by
  left
  rw [← String.toList_inj, toList_keyPath, h]

theorem concerns_above (h : field.toList = stem keys ++ key.toList ++ '.' :: tail) :
    Concerns field (keyPath (keys ++ [key])) := by
  right; left
  rw [String.toList_append, toList_keyPath, h]
  exact ⟨tail, by simp⟩

theorem concerns_below (h : (field ++ ".").toList <+: stem keys) :
    Concerns field (keyPath (keys ++ [key])) := by
  right; right
  rw [toList_keyPath]
  exact h.trans (List.prefix_append _ _)

/-! ## What a look-up reads -/

variable {document document' value : Json} {members members' before after : List (String × Json)}

/-- A look-up reads the members that have a key of their own in the path, and what is below them. -/
theorem lookupPath?_congr
    (hwhole : members.lookup (String.ofList rest) = members'.lookup (String.ofList rest))
    (hbelow : ∀ head tail, rest = head ++ '.' :: tail →
      (members.lookup (String.ofList head)).bind (below? tail) =
        (members'.lookup (String.ofList head)).bind (below? tail)) :
    lookupPath? (.obj members) rest = lookupPath? (.obj members') rest := by
  rw [lookupPath?_eq, lookupPath?_eq, get?_obj, get?_obj, hwhole]
  cases hcut : Text.cut? ['.'] rest with
  | none => rfl
  | some parts =>
    have hparts : rest = parts.1 ++ '.' :: parts.2 := by simpa using Text.cut?_eq_some hcut
    exact congrArg _ (hbelow parts.1 parts.2 hparts)

/-- When only the members under one key differ, a look-up can differ at that key and below it. -/
theorem lookupPath?_congr_key
    (hother : ∀ other, other ≠ key → members.lookup other = members'.lookup other)
    (hkey : rest ≠ key.toList)
    (hbelow : ∀ tail, rest = key.toList ++ '.' :: tail →
      (members.lookup key).bind (below? tail) = (members'.lookup key).bind (below? tail)) :
    lookupPath? (.obj members) rest = lookupPath? (.obj members') rest := by
  refine lookupPath?_congr (hother _ ?_) fun head tail hparts => ?_
  · rintro rfl
    exact hkey (String.toList_ofList).symm
  · by_cases hhead : String.ofList head = key
    · subst hhead
      exact hbelow tail (by rw [String.toList_ofList, hparts])
    · rw [hother _ hhead]

theorem lookup_append_cons_other {other : String} (h : other ≠ key) :
    (before ++ (key, value) :: after).lookup other = (before ++ after).lookup other := by
  rw [List.lookup_append, List.lookup_append, List.lookup_cons, beq_false_of_ne h]

theorem lookup_append_cons_self :
    (before ++ (key, value) :: after).lookup key = (before.lookup key).or (some value) := by
  rw [List.lookup_append, List.lookup_cons_self]

/-- The values cannot be told apart at a path, be they looked at by themselves or after the segment
that led to them. -/
structure SameAt (rest : List Char) (document document' : Json) : Prop where
  lookup : lookupPath? document rest = lookupPath? document' rest
  below : below? rest document = below? rest document'

theorem SameAt.obj (h : lookupPath? (.obj members) rest = lookupPath? (.obj members') rest) :
    SameAt rest (.obj members) (.obj members') := ⟨h, h⟩

/-- A member that does not concern the field is not read for it. -/
theorem sameAt_of_unconcerned (hidden : ¬ Concerns field (keyPath (keys ++ [key])))
    (hfield : field.toList = stem keys ++ rest)
    (hother : ∀ other, other ≠ key → members.lookup other = members'.lookup other) :
    SameAt rest (.obj members) (.obj members') := by
  refine .obj (lookupPath?_congr_key hother (fun hkey => ?_) fun tail htail => ?_)
  · exact hidden (concerns_self (hkey ▸ hfield))
  · have hpath : field.toList = stem keys ++ key.toList ++ '.' :: tail := by
      rw [hfield, htail, List.append_assoc]
    exact absurd (concerns_above hpath) hidden

/-! ## Edits -/

namespace Edit

/-- Whatever stands below a returned field concerns it, so nothing is edited there. -/
theorem not_below (h : Edit fields keys document document') (hmem : field ∈ fields) :
    ¬ (field ++ ".").toList <+: stem keys := by
  induction h with
  | add _ _ h => exact fun hbelow => h field hmem (concerns_below hbelow)
  | remove _ _ h => exact fun hbelow => h field hmem (concerns_below hbelow)
  | change _ _ h => exact fun hbelow => h field hmem (concerns_below hbelow)
  | inMember _ _ _ ih =>
    intro hbelow
    rw [stem_concat, List.append_assoc] at ih
    exact ih (hbelow.trans (List.prefix_append _ _))
  | inItem _ _ _ ih => exact ih

/-- An edit leaves the value at a returned field as it is, seen from the part of the document that
the keys lead to. -/
theorem sameAt (h : Edit fields keys document document') (hmem : field ∈ fields)
    (hfield : field.toList = stem keys ++ rest) : SameAt rest document document' := by
  -- The two look-ups take turns: members are looked up below their value, and elements of an array
  -- on the way by themselves.
  induction h generalizing rest with
  | add before after h =>
    refine sameAt_of_unconcerned (h field hmem) hfield fun other hother => ?_
    rw [lookup_append_cons_other hother]
  | remove before after h =>
    refine sameAt_of_unconcerned (h field hmem) hfield fun other hother => ?_
    rw [lookup_append_cons_other hother]
  | change before after h =>
    refine sameAt_of_unconcerned (h field hmem) hfield fun other hother => ?_
    rw [lookup_append_cons_other hother, lookup_append_cons_other hother]
  | @inMember keys key value value' before after h ih =>
    refine .obj (lookupPath?_congr_key (fun other (hother : other ≠ key) => ?_) (fun hkey => ?_)
      fun tail htail => ?_)
    · rw [lookup_append_cons_other hother, lookup_append_cons_other hother]
    · refine h.not_below hmem ?_
      rw [String.toList_append, hfield, hkey, stem_concat]
      exact List.prefix_rfl
    · have hrest : field.toList = stem (keys ++ [key]) ++ tail := by
        rw [hfield, htail, stem_concat]
        simp
      rw [lookup_append_cons_self, lookup_append_cons_self]
      cases before.lookup key with
      | some _ => rfl
      | none => exact (ih hrest).below
  | inItem before after _ ih =>
    constructor
    · rw [lookupPath?_arr, lookupPath?_arr]
    · simp only [below?, List.filterMap_append, List.filterMap_cons, (ih hfield).lookup]

end Edit

/-- Members that no returned field concerns may be added, removed and changed, any number of them,
at any depth and inside arrays: the document keeps its returned fields. -/
theorem project_eq_of_edits (h : Relation.ReflTransGen (Edit fields []) document document') :
    document.project fields = document'.project fields := by
  induction h with
  | refl => rfl
  | tail _ hedit ih =>
    rw [ih]
    refine List.map_congr_left fun field hmem => ?_
    have hsame : SameAt field.toList _ _ := hedit.sameAt hmem rfl
    rw [hsame.lookup]

/-- A book whose author can be reached, with some remarks. -/
def remarkedBook (contact : String) (remarks : List (String × Json)) : Json :=
  .obj ([("title", .str "Notes"),
    ("authors", .arr [.obj [("name", .str "Ada"), ("mail", .str contact)]])] ++ remarks)

/-- Neither the contact nor a remark has an effect on the title and the names of the authors. -/
theorem remarkedBook_project : (remarkedBook "ada@example" []).project ["title", "authors.name"] =
    (remarkedBook "" [("title-remark", .null)]).project ["title", "authors.name"] := by
  have hcontact : Edit ["title", "authors.name"] [] (remarkedBook "ada@example" [])
      (remarkedBook "" []) :=
    .inMember [("title", .str "Notes")] [] (.inItem [] []
      (.change [("name", .str "Ada")] [] (by decide +kernel)))
  have hremark : Edit ["title", "authors.name"] [] (remarkedBook "" [])
      (remarkedBook "" [("title-remark", .null)]) :=
    .add [("title", .str "Notes"),
      ("authors", .arr [.obj [("name", .str "Ada"), ("mail", .str "")]])] [] (by decide +kernel)
  exact project_eq_of_edits (.head hcontact (.single hremark))

end FacetSearch.Json
