import FacetSearch.Proofs.PathLookup
/-!
# Paths segment by segment

A path as the list of its segments, each of which leads from an object to a member. An array on the
way is followed element by element. Main statement: without points in keys and without arrays in
arrays, the value at a path of a document is the one that its segments lead to, unless the document
itself is an array, in which nothing is found.
-/

namespace FacetSearch.Json

/-! ## Following segments -/

mutual

/-- A step into each element of an array. Elements that it leads nowhere from are left out. -/
def through (step : Json → Option Json) : Json → Option Json
  | .arr items => some (.arr (throughAll step items))
  | value => step value

def throughAll (step : Json → Option Json) : List Json → List Json
  | [] => []
  | item :: items => (through step item).toList ++ throughAll step items

end

/-- The value that segments lead to, one after the other. -/
def follow? : List (List Char) → Json → Option Json
  | [], value => some value
  | segment :: rest, value =>
    through (fun object => (object.get? (String.ofList segment)).bind (follow? rest)) value

theorem throughAll_eq_filterMap (step : Json → Option Json) (items : List Json) :
    throughAll step items = items.filterMap (through step) := by
  induction items with
  | nil => rfl
  | cons item items ih =>
    rw [throughAll, ih, List.filterMap_cons]
    cases through step item <;> rfl

variable {document value item : Json} {key : String} {path segment : List Char}
  {segments rest : List (List Char)}

/-- Segments that are left at an array are followed from each of its elements. -/
theorem follow?_arr (h : segments ≠ []) (items : List Json) :
    follow? segments (.arr items) = some (.arr (items.filterMap (follow? segments))) := by
  cases segments with
  | nil => contradiction
  | cons segment rest =>
    simp only [follow?, through, throughAll_eq_filterMap]

theorem follow?_cons (h : value.isArr = false) (segment : List Char) (rest : List (List Char)) :
    follow? (segment :: rest) value =
      (value.get? (String.ofList segment)).bind (follow? rest) := by
  cases value with
  | arr _ => cases h
  | _ => rfl

/-! ## Documents without points in keys and arrays in arrays -/

mutual

/-- No key has a point in it, and no array is an element of an array. -/
def isPlain : Json → Bool
  | .arr items => itemsPlain items
  | .obj members => membersPlain members
  | _ => true

def itemsPlain : List Json → Bool
  | [] => true
  | item :: items => !item.isArr && isPlain item && itemsPlain items

def membersPlain : List (String × Json) → Bool
  | [] => true
  | (key, value) :: members => !key.toList.contains '.' && isPlain value && membersPlain members

end

theorem itemsPlain_iff {items : List Json} : itemsPlain items = true ↔
    ∀ item ∈ items, item.isArr = false ∧ item.isPlain = true := by
  induction items with
  | nil => simp [itemsPlain]
  | cons item items ih => simp [itemsPlain, ih]

theorem membersPlain_iff {members : List (String × Json)} : membersPlain members = true ↔
    ∀ member ∈ members, '.' ∉ member.1.toList ∧ member.2.isPlain = true := by
  induction members with
  | nil => simp [membersPlain]
  | cons member members ih => simp [membersPlain, ih]

theorem member_of_isPlain (h : document.isPlain = true) (hv : document.get? key = some value) :
    '.' ∉ key.toList ∧ value.isPlain = true := by
  cases document with
  | obj members =>
    obtain ⟨before, after, rfl, _⟩ := List.lookup_eq_some_iff.mp hv
    exact membersPlain_iff.mp h (key, value) (by simp)
  | _ => cases hv

theorem get?_eq_none_of_isPlain (h : document.isPlain = true) (hpath : '.' ∈ path) :
    document.get? (String.ofList path) = none := by
  rw [Option.eq_none_iff_forall_ne_some]
  intro value hv
  have hkey := (member_of_isPlain h hv).1
  rw [String.toList_ofList] at hkey
  exact hkey hpath

/-! ## Look-ups follow segments -/

/-- A path is one segment, or one and a path after it. -/
theorem path_induction {motive : List Char → Prop} (last : ∀ path, '.' ∉ path → motive path)
    (step : ∀ head rest, '.' ∉ head → motive rest → motive (head ++ '.' :: rest))
    (path : List Char) : motive path := by
  induction hn : path.length using Nat.strongRecOn generalizing path with
  | ind n ih =>
    by_cases hpoint : '.' ∈ path
    · obtain ⟨head, rest, rfl, hhead⟩ := List.eq_append_cons_of_mem hpoint
      refine step head rest hhead (ih rest.length ?_ rest rfl)
      rw [← hn, List.length_append, List.length_cons]
      omega
    · exact last path hpoint

/-- In a plain document that is not an array, a look-up follows the segments of the path. -/
theorem lookupPath?_of_isPlain (h : document.isPlain = true) (harr : document.isArr = false) :
    lookupPath? document path = follow? (path.splitOn '.') document := by
  induction path using path_induction generalizing document with
  | last path hpath =>
    rw [lookupPath?_segment hpath, List.splitOn_eq_singleton hpath, follow?_cons harr]
    exact (Option.bind_fun_some _).symm
  | step head rest hhead ih =>
    rw [lookupPath?_append_cons hhead, List.splitOn_append_cons_self_of_not_mem hhead,
      follow?_cons harr, get?_eq_none_of_isPlain h (by simp), Option.none_or]
    refine Option.bind_congr fun value hvalue => ?_
    have hplain := (member_of_isPlain h hvalue).2
    -- The elements of an array are no arrays, so the rest of the path is followed from them too.
    cases hv : value.isArr with
    | false => rw [below?_eq_lookupPath? hv, ih hplain hv]
    | true =>
      cases value with
      | arr items =>
        rw [below?, follow?_arr (List.splitOn_ne_nil '.' rest)]
        have hfound : (items.filterMap fun item => lookupPath? item rest) =
            items.filterMap (follow? (rest.splitOn '.')) := by
          refine List.filterMap_congr fun item hitem => ?_
          obtain ⟨hitemArr, hitemPlain⟩ := itemsPlain_iff.mp hplain item hitem
          exact ih hitemPlain hitemArr
        rw [hfound]
      | _ => cases hv

/-- In a plain document a look-up gives what the segments of the path lead to, whichever of them are
empty. A document that is itself an array has no members, so nothing is found in it. -/
theorem lookupPath?_eq_follow? (h : document.isPlain = true) (path : List Char) :
    lookupPath? document path =
      if document.isArr then none else follow? (path.splitOn '.') document := by
  split
  · next harr =>
    cases document with
    | arr items => exact lookupPath?_arr items path
    | _ => cases harr
  · next harr => exact lookupPath?_of_isPlain h (by simpa using harr)

/-- A book on a shelf without a name. Only one of its authors has a name with a member under the
empty key. -/
def shelvedBook : Json := .obj [("", .obj [("authors", .arr
  [author "Ada", .null, .obj [("name", .obj [("", .str "Grace")])]])])]

theorem shelvedBook_authors : shelvedBook.isPlain = true ∧
    lookupPath? shelvedBook ".authors.name.".toList = some (.arr [.str "Grace"]) := by
  have hplain : shelvedBook.isPlain = true := by decide +kernel
  have hsegments : ".authors.name.".toList.splitOn '.' =
      [[], "authors".toList, "name".toList, []] := by decide
  have hpath := lookupPath?_eq_follow? hplain ".authors.name.".toList
  rw [if_neg (by decide), hsegments] at hpath
  exact ⟨hplain, hpath⟩

/-- The segment leads from each element of an array to its name, but a look-up finds nothing when
the array is the whole document. -/
theorem whole_array_missed : (Json.arr [author "Ada"]).isPlain = true ∧
    follow? ("name".toList.splitOn '.') (.arr [author "Ada"]) = some (.arr [.str "Ada"]) ∧
    lookupPath? (.arr [author "Ada"]) "name".toList = none := by
  have hsegment : "name".toList.splitOn '.' = ["name".toList] := by decide
  refine ⟨by decide +kernel, ?_, lookupPath?_arr _ _⟩
  rw [hsegment]
  rfl

end FacetSearch.Json
