import FacetSearch.Proofs.RangeValue
import FacetSearch.Search.Projection
import Mathlib.Data.List.Flatten
/-!
# Values at paths

How the value at a path is found: under the whole path as a key, and otherwise below the value of
its first segment. An array that a segment leads to is looked through element by element, but an
element that is itself an array has no members. Main statement: what the elements of an array have
at the rest of a path is found, in order, except for the elements of inner arrays, so that nothing
is lost exactly when the inner arrays hold nothing at that path.
-/

namespace FacetSearch

namespace Text

/-- A text without a character is not cut at it. -/
theorem cut?_singleton_eq_none {c : Char} {s : List Char} (h : c ∉ s) : cut? [c] s = none := by
  rw [Option.eq_none_iff_forall_ne_some]
  rintro ⟨before, after⟩ hcut
  rw [cut?_eq_some hcut] at h
  simp at h

/-- A text is cut at the first place of a character. -/
theorem cut?_append_cons {c : Char} {before : List Char} (h : c ∉ before) (after : List Char) :
    cut? [c] (before ++ c :: after) = some (before, after) := by
  refine cut?_eq_some_iff.mpr ⟨by simp, fun n hn hprefix => ?_⟩
  rw [List.drop_append_of_le_length (by omega), List.drop_eq_getElem_cons hn] at hprefix
  obtain ⟨_, hfirst⟩ := hprefix
  have hc : c = before[n] := (List.cons.inj hfirst).1
  exact h (hc ▸ List.getElem_mem hn)

end Text

namespace Json

def isArr : Json → Bool
  | .arr _ => true
  | _ => false

/-- What is found at a path below the value that a segment led to. -/
def below? (path : List Char) : Json → Option Json
  | .arr items => some (.arr (items.filterMap fun item => lookupPath? item path))
  | value => lookupPath? value path

variable {document : Json} {head rest path : List Char} {items : List Json}

/-- The whole path as a key comes before its first segment. -/
theorem lookupPath?_eq (document : Json) (path : List Char) :
    lookupPath? document path = (document.get? (String.ofList path)).or
      ((Text.cut? ['.'] path).bind fun parts =>
        (document.get? (String.ofList parts.1)).bind (below? parts.2)) := by
  rw [lookupPath?]
  split
  · next value hvalue => rw [hvalue, Option.some_or]
  · next hnone =>
    rw [hnone, Option.none_or]
    split
    · next hcut => rw [hcut, Option.bind_none]
    · next head rest hcut =>
      dsimp only
      rw [hcut, Option.bind_some]
      cases document.get? (String.ofList head) with
      | none => rfl
      | some value => cases value <;> rfl

theorem lookupPath?_segment (h : '.' ∉ path) (document : Json) :
    lookupPath? document path = document.get? (String.ofList path) := by
  rw [lookupPath?_eq, Text.cut?_singleton_eq_none h, Option.bind_none, Option.or_none]

theorem lookupPath?_append_cons (h : '.' ∉ head) (document : Json) (rest : List Char) :
    lookupPath? document (head ++ '.' :: rest) =
      (document.get? (String.ofList (head ++ '.' :: rest))).or
        ((document.get? (String.ofList head)).bind (below? rest)) := by
  rw [lookupPath?_eq, Text.cut?_append_cons h, Option.bind_some]

/-- An array has no members. -/
@[simp] theorem lookupPath?_arr (items : List Json) (path : List Char) :
    lookupPath? (.arr items) path = none := by
  rw [lookupPath?_eq]
  cases Text.cut? ['.'] path <;> rfl

theorem below?_eq_lookupPath? {value : Json} (h : value.isArr = false) (path : List Char) :
    value.below? path = lookupPath? value path := by
  cases value with
  | arr _ => cases h
  | _ => rfl

/-! ## Elements of arrays -/

mutual

/-- The values that an element of an array holds at a path: its own, or those of its elements. -/
def reached (path : List Char) : Json → List Json
  | .arr items => reachedAll path items
  | item => (lookupPath? item path).toList

def reachedAll (path : List Char) : List Json → List Json
  | [] => []
  | item :: items => reached path item ++ reachedAll path items

end

theorem reachedAll_eq_flatMap (path : List Char) (items : List Json) :
    reachedAll path items = items.flatMap (reached path) := by
  induction items with
  | nil => rfl
  | cons item items ih => rw [reachedAll, ih, List.flatMap_cons]

/-- What a look-up shows of an element: nothing of an inner array. -/
def shown (path : List Char) (item : Json) : List Json :=
  if item.isArr then [] else reached path item

theorem shown_eq_toList (path : List Char) (item : Json) :
    shown path item = (lookupPath? item path).toList := by
  cases item with
  | arr items =>
    rw [lookupPath?_arr]
    rfl
  | _ => rfl

theorem shown_sublist_reached (path : List Char) (item : Json) :
    (shown path item).Sublist (reached path item) := by
  unfold shown
  split
  · exact List.nil_sublist _
  · exact List.Sublist.refl _

/-- What is found of the elements of an array, in order. -/
theorem filterMap_lookupPath? (items : List Json) (path : List Char) :
    (items.filterMap fun item => lookupPath? item path) = items.flatMap (shown path) := by
  simp only [List.filterMap_eq_flatMap_toList, ← shown_eq_toList]

theorem shown_eq_reached_iff {item : Json} :
    shown path item = reached path item ↔ (item.isArr = true → reached path item = []) := by
  cases h : item.isArr with
  | true => simp [shown, h, eq_comm (a := [])]
  | false => simp [shown, h]

/-- Parts of parts make up the whole only if each is whole. -/
theorem flatMap_eq_iff_of_sublist {α β : Type} {f g : α → List β} {items : List α}
    (h : ∀ a, (f a).Sublist (g a)) :
    items.flatMap f = items.flatMap g ↔ ∀ a ∈ items, f a = g a := by
  refine ⟨fun heq => ?_, List.flatMap_congr⟩
  induction items with
  | nil => simp
  | cons a rest ih =>
    have hfirst : (f a).length ≤ (g a).length := (h a).length_le
    have hrest : (rest.flatMap f).length ≤ (rest.flatMap g).length :=
      (List.Sublist.flatMap_right rest fun b _ => h b).length_le
    rw [List.flatMap_cons, List.flatMap_cons] at heq
    have hlength := congrArg List.length heq
    rw [List.length_append, List.length_append] at hlength
    obtain ⟨ha, hrest⟩ := List.append_inj heq (by omega)
    exact List.forall_mem_cons.mpr ⟨ha, ih hrest⟩

/-- A path whose first segment names an array finds, unless the whole path is a key, what the
elements of the array have at the rest of the path, in order. It misses the elements of inner
arrays, and so finds everything exactly when these have nothing there. -/
theorem lookupPath?_elements {head : String} (hhead : '.' ∉ head.toList)
    (h : document.get? head = some (.arr items)) (rest : List Char) :
    lookupPath? document (head.toList ++ '.' :: rest) =
      (document.get? (String.ofList (head.toList ++ '.' :: rest))).or
        (some (.arr (items.flatMap (shown rest)))) ∧
    (items.flatMap (shown rest)).Sublist (items.flatMap (reached rest)) ∧
    (items.flatMap (shown rest) = items.flatMap (reached rest) ↔
      ∀ inner, .arr inner ∈ items → inner.flatMap (reached rest) = []) := by
  have hbelow : below? rest (.arr items) = some (.arr (items.flatMap (shown rest))) := by
    rw [below?, filterMap_lookupPath?]
  refine ⟨?_, List.Sublist.flatMap_right items fun item _ => shown_sublist_reached rest item, ?_⟩
  · rw [lookupPath?_append_cons hhead, String.ofList_toList, h, Option.bind_some, hbelow]
  · rw [flatMap_eq_iff_of_sublist (shown_sublist_reached rest)]
    simp only [shown_eq_reached_iff]
    constructor
    · intro hall inner hinner
      rw [← reachedAll_eq_flatMap]
      exact hall _ hinner rfl
    · intro hall item hitem harr
      cases item with
      | arr inner =>
        rw [reached, reachedAll_eq_flatMap]
        exact hall inner hitem
      | _ => cases harr

/-- An author with a name. -/
def author (name : String) : Json := .obj [("name", .str name)]

theorem reached_author (name : String) : reached "name".toList (author name) = [.str name] := by
  have hpath : lookupPath? (author name) "name".toList = some (.str name) := by
    rw [lookupPath?_segment (by decide)]
    rfl
  exact congrArg Option.toList hpath

theorem reached_nameless : reached "name".toList (.obj []) = [] := by
  have hpath : lookupPath? (.obj []) "name".toList = none := by
    rw [lookupPath?_segment (by decide)]
    rfl
  exact congrArg Option.toList hpath

/-- The authors of a book, some of whom wrote as a group. -/
def authorsWith (group : List Json) : List Json := [author "Ada", .arr group, author "Grace"]

def bookBy (group : List Json) : Json := .obj [("authors", .arr (authorsWith group))]

theorem reached_authorsWith (group : List Json) :
    (authorsWith group).flatMap (reached "name".toList) =
      .str "Ada" :: group.flatMap (reached "name".toList) ++ [.str "Grace"] := by
  simp only [authorsWith, List.flatMap_cons, List.flatMap_nil, reached_author]
  rw [reached, reachedAll_eq_flatMap]
  rfl

theorem shown_authorsWith (group : List Json) :
    (authorsWith group).flatMap (shown "name".toList) = [.str "Ada", .str "Grace"] := by
  have hshown (name : String) : shown "name".toList (author name) = [.str name] :=
    reached_author name
  simp only [authorsWith, List.flatMap_cons, List.flatMap_nil, hshown]
  rfl

theorem lookupPath?_bookBy (group : List Json) :
    lookupPath? (bookBy group) "authors.name".toList = some (.arr [.str "Ada", .str "Grace"]) := by
  have hpath : "authors.name".toList = "authors".toList ++ '.' :: "name".toList := rfl
  have hauthors : (bookBy group).get? (String.ofList "authors".toList) =
      some (.arr (authorsWith group)) := rfl
  rw [hpath, lookupPath?_append_cons (by decide), hauthors, Option.bind_some, below?,
    filterMap_lookupPath?, shown_authorsWith]
  rfl

/-- Nothing is lost of a group of which no name is known. -/
theorem nameless_group_complete :
    (bookBy [.obj []]).get? "authors" = some (.arr (authorsWith [.obj []])) ∧
    lookupPath? (bookBy [.obj []]) ("authors".toList ++ '.' :: "name".toList) =
      some (.arr ((authorsWith [.obj []]).flatMap (reached "name".toList))) := by
  have hauthors : (bookBy [.obj []]).get? "authors" = some (.arr (authorsWith [.obj []])) := rfl
  obtain ⟨hfound, _, hall⟩ := lookupPath?_elements (by decide) hauthors "name".toList
  have hgroup : ∀ inner, .arr inner ∈ authorsWith [.obj []] →
      inner.flatMap (reached "name".toList) = [] := by
    rintro inner (_ | ⟨_, _ | ⟨_, _ | ⟨_, ⟨⟩⟩⟩⟩)
    rw [List.flatMap_singleton, reached_nameless]
  rw [hfound, hall.mpr hgroup]
  exact ⟨hauthors, rfl⟩

/-- The name of an author in a group is not found. -/
theorem grouped_author_missed :
    (bookBy [author "Alan"]).get? "authors" = some (.arr (authorsWith [author "Alan"])) ∧
    (authorsWith [author "Alan"]).flatMap (reached "name".toList) =
      [.str "Ada", .str "Alan", .str "Grace"] ∧
    lookupPath? (bookBy [author "Alan"]) "authors.name".toList =
      some (.arr [.str "Ada", .str "Grace"]) := by
  refine ⟨rfl, ?_, lookupPath?_bookBy _⟩
  rw [reached_authorsWith, List.flatMap_singleton, reached_author]
  rfl

end Json

end FacetSearch
