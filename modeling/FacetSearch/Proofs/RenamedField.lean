import FacetSearch.Document.Pick
import FacetSearch.Document.Validity
import FacetSearch.Proofs.Composition
/-!
# A field under any key

Clients choose the key under which a field is answered. For every name there is a document that
answers a root field under that name: its text is read, it fits a schema with that field, and the
field is all that it asks for.
-/

namespace FacetSearch.Document

open Schema

variable {fuel : Nat} {key name : String} {s after rest others : List Char}

/-! ## Tokens -/

/-- A name is a first character and others. -/
theorem exists_chars_of_isName (h : isName key = true) :
    ∃ c tail, key = String.ofList (c :: tail) ∧ isNameStart c = true ∧
      ∀ d ∈ tail, isNameChar d = true := by
  unfold isName at h
  split at h
  · cases h
  · next c tail _ heq =>
    rw [Bool.and_eq_true, List.all_eq_true] at h
    exact ⟨c, tail, by rw [← heq, String.ofList_toList], h⟩
  · cases h

/-- Nothing is skipped before a name. -/
theorem next_of_isNameStart {c : Char} (h : isNameStart c = true) (s : List Char) :
    next (c :: s) = c :: s := by
  have hne : ∀ other, isNameStart other = false → c ≠ other := by
    rintro _ hother rfl
    simp [hother] at h
  have hseparator : isSeparator c = false := by
    simp [isSeparator, hne ' ' (by decide), hne ',' (by decide), hne '\t' (by decide),
      hne '\n' (by decide), hne '\r' (by decide), hne '\ufeff' (by decide)]
  simp [next, skip, hseparator, hne '#' (by decide)]

/-- Nothing is skipped before a mark. -/
theorem next_mark {c : Char} (h : c ∈ [':', '\x7b', '\x7d']) (s : List Char) :
    next (c :: s) = c :: s := by
  simp only [List.mem_cons, List.not_mem_nil, or_false] at h
  rcases h with rfl | rfl | rfl <;> simp [next, skip, isSeparator]

/-- A name ends where something else begins. -/
theorem name?_append {c : Char} {tail : List Char} (hc : isNameStart c = true)
    (htail : ∀ d ∈ tail, isNameChar d = true) (hs : ∀ d ∈ s.head?, isNameChar d = false) :
    name? (c :: (tail ++ s)) = some (String.ofList (c :: tail), s) := by
  have htake : (tail ++ s).takeWhile isNameChar = tail := by
    rw [List.takeWhile_append_of_pos htail]
    cases s with
    | nil => simp
    | cons d rest => simp [hs d rfl]
  simp [name?, hc, htake]

/-- A name is no spread. -/
theorem keyword?_of_isNameStart {c : Char} (h : isNameStart c = true) (s : List Char) :
    keyword? "..." (c :: s) = none := by
  have hne : '.' ≠ c := by
    rintro rfl
    exact absurd h (by decide)
  simp [keyword?, hne]

theorem keyword?_brace (s : List Char) : keyword? "\x7b" ('\x7b' :: s) = some s := by
  have hlength : "\x7b".length = 1 := rfl
  simp [keyword?, hlength]

/-! ## Fields -/

/-- A field under its own name with nothing after it. -/
theorem selection?_leaf (hspread : keyword? "..." (next s) = none)
    (hname : name? (next s) = some (name, '\x7d' :: rest)) :
    selection? (fuel + 1) s = some (.field name name [] [] [], '\x7d' :: rest) := by
  have hrest : next ('\x7d' :: rest) = '\x7d' :: rest := next_mark (by simp) rest
  rw [selection?, hspread, hname]
  simp [arguments?, directives?, hrest]

/-- A field under another key, with selections. -/
theorem selection?_renamed {selections : List Selection}
    (hspread : keyword? "..." (next s) = none)
    (hkey : name? (next s) = some (key, ':' :: after))
    (hname : name? (next after) = some (name, '\x7b' :: rest))
    (hselections : selections? fuel [] rest = some (selections, others)) :
    selection? (fuel + 1) s = some (.field key name [] [] selections, others) := by
  have hcolon : next (':' :: after) = ':' :: after := next_mark (by simp) after
  have hrest : next ('\x7b' :: rest) = '\x7b' :: rest := next_mark (by simp) rest
  rw [selection?, hspread, hkey]
  simp [arguments?, directives?, hcolon, hrest, hname, hselections]

/-- One selection up to the closing brace. -/
theorem selections?_one {selection : Selection} (hs : ∀ t, next s ≠ '\x7d' :: t)
    (h : selection? (fuel + 1) (next s) = some (selection, '\x7d' :: rest)) :
    selections? (fuel + 2) [] s = some ([selection], rest) := by
  have hrest : next ('\x7d' :: rest) = '\x7d' :: rest := next_mark (by simp) rest
  rw [selections?]
  split
  · next heq => exact absurd heq (hs _)
  · rw [h]
    simp [selections?, hrest]

/-! ## The document -/

/-- The field that tells the ordering. -/
def orderingField : Selection := .field "sortedBy" "sortedBy" [] [] []

/-- Ask for the ordering of the books, under a given key. -/
def renamed (key : String) : Document :=
  ⟨[⟨.query, none, [], [], [.field key "books" [] [] [orderingField]]⟩], []⟩

def renamedText (key : String) : String := "\x7b" ++ key ++ ":books\x7bsortedBy\x7d\x7d"

theorem selectionSet?_renamedText (h : isName key = true) :
    selectionSet? (renamedText key).toList =
      some ([.field key "books" [] [] [orderingField]], []) := by
  obtain ⟨c, tail, rfl, hc, htail⟩ := exists_chars_of_isName h
  generalize hrest : ':' :: "books\x7bsortedBy\x7d\x7d".toList = rest
  have htext :
      (renamedText (String.ofList (c :: tail))).toList = '\x7b' :: c :: (tail ++ rest) := by
    simp [renamedText, ← hrest]
  have hnext := next_of_isNameStart hc (tail ++ rest)
  have hbrace : ∀ t, next (c :: (tail ++ rest)) ≠ '\x7d' :: t := by
    rw [hnext]
    rintro t ⟨⟩
    exact absurd hc (by decide)
  have hinner : ∀ fuel, selections? (fuel + 2) [] "sortedBy\x7d\x7d".toList =
      some ([orderingField], ['\x7d']) := by
    intro fuel
    refine selections?_one (by simp [next, skip, isSeparator]) (selection?_leaf ?_ ?_)
    · simp [keyword?, next, skip, isSeparator]
    · simp [name?, next, skip, isSeparator, isNameStart, isNameChar]
  have hspread : keyword? "..." (next (c :: (tail ++ rest))) = none := by
    rw [hnext]
    exact keyword?_of_isNameStart hc _
  have hkey : name? (next (c :: (tail ++ rest))) =
      some (String.ofList (c :: tail), ':' :: "books\x7bsortedBy\x7d\x7d".toList) := by
    rw [hnext, hrest]
    exact name?_append hc htail (by rw [← hrest]; simp; decide)
  have hbooks : name? (next "books\x7bsortedBy\x7d\x7d".toList) =
      some ("books", '\x7b' :: "sortedBy\x7d\x7d".toList) := by
    simp [name?, next, skip, isSeparator, isNameStart, isNameChar]
  rw [selectionSet?, htext, next_mark (by simp), keyword?_brace]
  refine selections?_one hbrace ?_
  rw [hnext]
  exact selection?_renamed hspread hkey hbooks (hinner _)

theorem operation?_renamedText (h : isName key = true) :
    operation? (renamedText key).toList =
      some (⟨.query, none, [], [], [.field key "books" [] [] [orderingField]]⟩, []) := by
  have hset := selectionSet?_renamedText h
  obtain ⟨s, hs⟩ : ∃ s, (renamedText key).toList = '\x7b' :: s := by simp [renamedText]
  have hquery : keyword? "query" ('\x7b' :: s) = none := by simp [keyword?]
  have hmutation : keyword? "mutation" ('\x7b' :: s) = none := by simp [keyword?]
  have hsubscription : keyword? "subscription" ('\x7b' :: s) = none := by simp [keyword?]
  rw [operation?, hset, hs, hquery, hmutation, hsubscription]
  rfl

theorem read?_renamedText (h : isName key = true) :
    read? (renamedText key) = some (renamed key) := by
  obtain ⟨s, hs⟩ : ∃ s, (renamedText key).toList = '\x7b' :: s := by simp [renamedText]
  have hdefinitions : definitions? ((renamedText key).toList.length + 1) ⟨[], []⟩
      (renamedText key).toList = some (renamed key) := by
    have hoperation := operation?_renamedText h
    rw [hs] at hoperation
    rw [hs, List.length_cons, definitions?, next_mark (by simp)]
    simp [hoperation, definitions?, next, skip, renamed]
  have hfits : ∀ o ∈ (renamed key).operations,
      fitAll (renamed key) maxNesting o.selections = true := by
    simp [renamed, orderingField, fitAll, Selection.fits, maxNesting]
  have hnames : (renamed key).operations ≠ [] ∧ (renamed key).WellNamed := by
    simp [renamed, WellNamed]
  simpa [read?, hdefinitions, hnames] using hfits

/-! ## A schema that it fits -/

/-- The schema that serves both shops. -/
def twoShopsSchema : Composed := ⟨twoShops, Registry.initial.extend twoShops⟩

theorem compose_twoShops : compose twoShops = .ok twoShopsSchema := by
  have hvalid : validate twoShops = .ok (Registry.initial.extend twoShops) := rfl
  have hfault : twoShopsSchema.fault? = none := by decide +kernel
  exact Schema.compose_eq_ok_iff.mpr ⟨rfl, hvalid, hfault⟩

theorem mergeable_field (d : Document) (key name : String) (selections : List Selection) :
    mergeable d [.field key name [] [] selections] = true := by
  simp [mergeable, outputsOf, Selection.outputs, agree]

theorem fragments_renamed (key : String) (o : Operation) : o.fragments (renamed key) = [] := by
  simp [Operation.fragments, renamed, fragment?]

theorem valid_renamed (key : String) :
    (Check.mk twoShopsSchema (renamed key) []).valid = true := by
  have hbooks : twoShopsSchema.field? queryType "books" =
      some (Registration.rootField ⟨⟨"Books", "Book", none⟩, bookshop⟩) := rfl
  have hordering : twoShopsSchema.field? "Books" "sortedBy" =
      some (required "sortedBy" "String") := rfl
  have hobject : (twoShopsSchema.objectFields? "Books").isSome = true := rfl
  have hscalar : twoShopsSchema.objectFields? "String" = none := rfl
  have hselections : (Check.mk twoShopsSchema (renamed key) []).allSelections queryType
      [.field key "books" [] [] [orderingField]] = true := by
    simp [Check.allSelections, Check.selection, Check.arguments, Check.directives, orderingField,
      hbooks, Registration.rootField, rootArguments, TypeRef.base, TypeRef.isNonNull, hobject,
      mergeable_field, hordering, required, hscalar]
  have husages : selectionUsages twoShopsSchema queryType
      [.field key "books" [] [] [orderingField]] = [] := by
    simp [selectionUsages, Selection.usages, fieldUsages, directiveUsages, orderingField]
  have hoperation : ∀ o ∈ (renamed key).operations,
      (Check.mk twoShopsSchema (renamed key) []).operation o = true := by
    intro o ho
    obtain rfl := List.mem_singleton.mp ho
    simp [Check.operation, Check.parameters, husages, mergeable_field, fragments_renamed,
      hselections]
  unfold Check.valid
  dsimp only
  rw [List.all_eq_true.mpr hoperation]
  rfl

/-- The only root field of the document. -/
def renamedPick (key : String) : Pick := ⟨key, "books", [], [⟨"sortedBy", "sortedBy", [], []⟩]⟩

theorem picks_renamed (key : String) (provided : List (String × Value)) :
    ∀ o ∈ (renamed key).operations, o.picks (renamed key) provided = [renamedPick key] := by
  simp [renamed, Operation.picks, picksOf, Selection.picks, orderingField, renamedPick]

end FacetSearch.Document
