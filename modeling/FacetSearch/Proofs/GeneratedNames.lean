import FacetSearch.Proofs.Composition
/-!
# Generated names

Which names of a composed schema are legal. The names of types and of root fields are checked when
they are claimed. The fields of a hit are named after the returned fields, and nothing checks these
names before the schema is put together. Main statement: every name but those of fields of a hit is
legal, such a name is legal unless the returned field begins with two characters that are neither
letters nor digits, and validated domains compose exactly when no returned field of theirs begins so
and no type of theirs is named like a built-in scalar.
-/

namespace FacetSearch.Schema

/-! ## Names made from returned fields -/

/-- What stands for a character of a returned field in a name. -/
def nameChar (c : Char) : Char := if isNameChar c then c else '_'

theorem isNameChar_nameChar (c : Char) : isNameChar (nameChar c) = true := by
  unfold nameChar
  split
  · assumption
  · rfl

theorem nameChar_eq_underscore_iff {c : Char} : nameChar c = '_' ↔ c.isAlphanum = false := by
  unfold nameChar isNameChar
  by_cases h : c = '_'
  · subst h
    decide
  · cases c.isAlphanum <;> simp [h]

/-- Only a digit cannot begin a name. -/
theorem isNameStart_nameChar {c : Char} (h : c.isDigit = false) :
    isNameStart (nameChar c) = true := by
  unfold nameChar isNameChar isNameStart
  cases halpha : c.isAlpha <;> by_cases hc : c = '_' <;> simp [Char.isAlphanum, h, halpha, hc]

/-- The returned field begins with two characters that are neither letters nor digits. -/
def Masked (field : String) : Prop := (field.toList.take 2).map Char.isAlphanum = [false, false]

instance (field : String) : Decidable (Masked field) := inferInstanceAs (Decidable (_ = _))

variable {name field : String} {c : Char} {rest : List Char}

/-- Text that a name may consist of is a name unless it begins with two underscores. -/
theorem isName_iff_of_toList (h : name.toList = c :: rest) (hc : isNameStart c = true)
    (hrest : ∀ d ∈ rest, isNameChar d = true) :
    isName name = true ↔ ¬ ['_', '_'] <+: name.toList := by
  unfold isName
  rw [h]
  split
  · next heq => simp [heq]
  · next hne heq =>
    obtain ⟨rfl, rfl⟩ := List.cons.inj heq
    have hall : (isNameStart c && rest.all isNameChar) = true := by simpa [hc] using hrest
    refine ⟨fun _ => ?_, fun _ => hall⟩
    rintro ⟨after, hafter⟩
    obtain ⟨hfirst, hsecond⟩ := List.cons.inj hafter
    exact hne after hfirst.symm hsecond.symm
  · next heq => cases heq

/-- The name of a returned field: its characters, with an underscore before a digit. -/
theorem toList_fieldName (h : field.toList = c :: rest) : (fieldName field).toList =
    if c.isDigit then '_' :: c :: rest.map nameChar else nameChar c :: rest.map nameChar := by
  have hchars : (field.toList.map fun d => if isNameChar d then d else '_') =
      nameChar c :: rest.map nameChar := by
    rw [h]
    rfl
  unfold fieldName
  dsimp only
  rw [hchars]
  by_cases hdigit : c.isDigit = true
  · have hkept : nameChar c = c := by simp [nameChar, isNameChar, Char.isAlphanum, hdigit]
    simp [hkept, hdigit]
  · have hdigit' : (nameChar c).isDigit = false := by
      unfold nameChar
      split
      · simpa using hdigit
      · rfl
    simp [hdigit, hdigit']

/-- Nothing is wrong with the name of a returned field but two underscores at its beginning. -/
theorem isName_fieldName_iff_start :
    isName (fieldName field) = true ↔ ¬ ['_', '_'] <+: (fieldName field).toList := by
  cases h : field.toList with
  | nil =>
    have hname : fieldName field = "_" := by simp [fieldName, h]
    rw [hname]
    decide
  | cons c rest =>
    have htext := toList_fieldName h
    have hrest : ∀ d ∈ rest.map nameChar, isNameChar d = true := by
      simp [isNameChar_nameChar]
    by_cases hdigit : c.isDigit = true
    · have hchar : isNameChar c = true := by simp [isNameChar, Char.isAlphanum, hdigit]
      rw [if_pos hdigit] at htext
      exact isName_iff_of_toList htext rfl (List.forall_mem_cons.mpr ⟨hchar, hrest⟩)
    · rw [if_neg hdigit] at htext
      exact isName_iff_of_toList htext (isNameStart_nameChar (by simpa using hdigit)) hrest

/-- The name begins with two underscores when the returned field begins with two characters that
become one. -/
theorem prefix_fieldName_iff : ['_', '_'] <+: (fieldName field).toList ↔ Masked field := by
  rw [Masked]
  cases h : field.toList with
  | nil =>
    have hname : fieldName field = "_" := by simp [fieldName, h]
    rw [hname]
    decide
  | cons c rest =>
    rw [toList_fieldName h]
    by_cases hdigit : c.isDigit = true
    · have halphanum : c.isAlphanum = true := by simp [Char.isAlphanum, hdigit]
      have hne : '_' ≠ c := by
        rintro rfl
        cases hdigit
      simp [hdigit, halphanum, hne]
    · cases rest with
      | nil => simp [hdigit]
      | cons d rest => simp [hdigit, eq_comm (a := '_'), nameChar_eq_underscore_iff]

/-- The name of a returned field is legal unless the field begins with two characters that are
neither letters nor digits. -/
theorem isName_fieldName_iff : isName (fieldName field) = true ↔ ¬ Masked field := by
  rw [isName_fieldName_iff_start, prefix_fieldName_iff]

/-! ## Composed schemas -/

/-- The root field and the types that a domain adds, by their names. -/
def Registration.generatedNames (r : Registration) : List String :=
  r.rootField.name :: r.types.map TypeDefinition.name

theorem Registration.Legal.generatedNames {r : Registration} (h : r.Legal) :
    ∀ name ∈ r.generatedNames, isName name = true := by
  refine List.forall_mem_cons.mpr ⟨h.queryField, fun name hname => ?_⟩
  exact h.types name (r.names_types_perm.mem_iff.mp hname)

theorem Composed.introspectionField?_eq_none_iff {s : Composed} : s.introspectionField? = none ↔
    ∀ r ∈ s.registrations, ∀ field ∈ r.domain.returnedFields, ¬ Masked field := by
  have hprefix (name : String) :
      "__".isPrefixOf name = true ↔ ['_', '_'] <+: name.toList := String.startsWith_string_iff
  unfold introspectionField?
  simp only [List.findSome?_eq_none_iff, Option.map_eq_none_iff, List.find?_eq_none, hprefix,
    Registration.fieldNames, List.forall_mem_map, prefix_fieldName_iff]

/-- Registrations compose exactly when they pass validation, no type is named like a built-in scalar
and no name of a field is kept for introspection. -/
theorem exists_compose_iff {rs : List Registration} : (∃ s, compose rs = .ok s) ↔
    (∃ registry, validate rs = .ok registry) ∧
      (∀ r ∈ rs, ∀ name ∈ r.claimedTypes, name ∉ builtinScalars) ∧
      ∀ r ∈ rs, ∀ field ∈ r.domain.returnedFields, ¬ Masked field := by
  have hfault (registry : Registry) : (Composed.mk rs registry).fault? = none ↔
      (∀ r ∈ rs, ∀ name ∈ r.claimedTypes, name ∉ builtinScalars) ∧
        ∀ r ∈ rs, ∀ field ∈ r.domain.returnedFields, ¬ Masked field := by
    rw [Composed.fault?_eq_none_iff, Composed.takenName?_eq_none_iff,
      Composed.introspectionField?_eq_none_iff]
  constructor
  · rintro ⟨⟨_, registry⟩, h⟩
    obtain ⟨rfl, hv, hnone⟩ := compose_eq_ok_iff.mp h
    exact ⟨⟨registry, hv⟩, (hfault registry).mp hnone⟩
  · rintro ⟨⟨registry, hv⟩, h⟩
    exact ⟨⟨rs, registry⟩, compose_eq_ok_iff.mpr ⟨rfl, hv, (hfault registry).mpr h⟩⟩

/-- Among registrations that pass validation, the root field and all types of a domain have legal
names. The name made from a returned field is legal unless the field begins with two characters that
are neither letters nor digits; that is checked last. The domains compose exactly when there is no
such field and no type is named like a built-in scalar. -/
theorem generatedNames_legal {rs : List Registration} {registry : Registry}
    (h : validate rs = .ok registry) :
    (∀ r ∈ rs, ∀ name ∈ r.generatedNames, isName name = true) ∧
    (∀ r ∈ rs, ∀ field ∈ r.domain.returnedFields,
      isName (fieldName field) = true ↔ ¬ Masked field) ∧
    ((∃ s, compose rs = .ok s) ↔
      (∀ r ∈ rs, ∀ name ∈ r.claimedTypes, name ∉ builtinScalars) ∧
        ∀ r ∈ rs, ∀ name ∈ r.fieldNames, isName name = true) := by
  obtain ⟨_, hlegal, _, _⟩ := validate_eq_ok_iff.mp h
  refine ⟨fun r hr => (hlegal r hr).generatedNames, fun _ _ _ _ => isName_fieldName_iff, ?_⟩
  rw [exists_compose_iff, and_iff_right ⟨registry, h⟩]
  simp only [Registration.fieldNames, List.forall_mem_map, isName_fieldName_iff]

theorem twoShops_names_legal : ∃ registry, validate twoShops = .ok registry ∧
    (∀ r ∈ twoShops, ∀ name ∈ r.generatedNames, isName name = true) ∧
    ∃ s, compose twoShops = .ok s := by
  have hv : validate twoShops = .ok _ := rfl
  obtain ⟨hnames, hfields, hcompose⟩ := generatedNames_legal hv
  refine ⟨_, hv, hnames, hcompose.mpr ⟨by decide, fun r hr => ?_⟩⟩
  refine List.forall_mem_map.mpr fun field hf => (hfields r hr field hf).mpr ?_
  revert r field
  decide

/-- Books that are returned with a field whose name begins with two underscores. -/
def archiveDraft : DomainDraft := { bookshopDraft with returnedFields := ["title", "__meta"] }

def archive : Registration := ⟨⟨"Books", "Book", none⟩, archiveDraft.frozen 0⟩

/-- The name of that field is not legal. Validation accepts it, and composing the schema fails. -/
theorem archive_illegal_name : AllBuilt [archive] ∧
    (∃ registry, validate [archive] = .ok registry) ∧
    archive.fieldNames = ["title", "__meta"] ∧ isName "__meta" = false ∧
    compose [archive] = .error (.invalidConfiguration
      ("schema build failed: Field \"BookFields.__meta\" must not have a name which begins with " ++
        "the characters \"__\" (two underscores)")) := by
  have hb : AllBuilt [archive] := by
    rintro r (_ | ⟨_, ⟨⟩⟩)
    exact ⟨archiveDraft, rfl⟩
  have hv : validate [archive] = .ok _ := rfl
  refine ⟨hb, ⟨_, hv⟩, by decide, by decide, ?_⟩
  have hfree : ∀ r ∈ [archive], ∀ name ∈ r.claimedTypes, name ∉ builtinScalars := by decide
  have htaken (registry : Registry) : (Composed.mk [archive] registry).takenName? = none :=
    Composed.takenName?_eq_none_iff.mpr hfree
  have hinitial : (Composed.mk [archive] .initial).introspectionField? =
    some ("BookFields", "__meta") := by decide +kernel
  have hfirst (registry : Registry) : (Composed.mk [archive] registry).introspectionField? =
    some ("BookFields", "__meta") := hinitial
  rw [compose_of_validate hv, Composed.fault?, htaken, hfirst]
  rfl

end FacetSearch.Schema
