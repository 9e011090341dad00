import FacetSearch.Proofs.Composition
import Mathlib.Data.List.Pairwise
/-!
# References between types

Which types the fields and arguments of a composed schema refer to. They are shared, built in or
added by a domain. Main statement: after validation no type of a domain has the name of a shared
type or of a type of another domain, and one has a name that is referred to beyond its own domain
exactly when that is the name of a built-in scalar. Such a name is refused when the schema is put
together, so no type of a composed schema takes the place of another.
-/

namespace FacetSearch.Schema

/-! ## References -/

def Field.references (f : Field) : List String := f.type.base :: f.arguments.map fun a => a.type.base

/-- The types that the fields of a type and their arguments have. -/
def TypeDefinition.references (t : TypeDefinition) : List String :=
  match t.shape with
  | .object fields => fields.flatMap Field.references
  | .input fields => fields.map fun a => a.type.base
  | .scalar => []

theorem references_object {t : TypeDefinition} {fields : List Field} (h : t.shape = .object fields) :
    t.references = fields.flatMap Field.references := by
  rw [TypeDefinition.references, h]

theorem references_sharedTypes : ∀ t ∈ sharedTypes, ∀ name ∈ t.references,
    name ∈ reservedTypes ∨ name ∈ builtinScalars := by decide

theorem references_rootArguments : ∀ name ∈ rootArguments.map fun a => a.type.base,
    name ∈ reservedTypes ∨ name ∈ builtinScalars := by decide

namespace Registration

variable {r : Registration} {name : String}

theorem references_rootField (r : Registration) : r.rootField.references =
    r.names.typeName :: rootArguments.map fun a => a.type.base := rfl

theorem typeName_mem_claimedTypes (r : Registration) : r.names.typeName ∈ r.claimedTypes :=
  List.mem_append_left _ List.mem_cons_self

theorem hitFields_mem_claimedTypes (h : r.showsFields = true) :
    r.names.hitFields ∈ r.claimedTypes := by
  simp [claimedTypes, h]

theorem references_resultType (r : Registration) : r.resultType.references =
    ["SearchSummary", r.names.hitResults, "FacetSet", "AppliedFilter", "String"] := rfl

theorem references_hitResultsType (r : Registration) :
    r.hitResultsType.references = [r.names.hitTypeName, "PageInfo"] := rfl

theorem references_hitType (r : Registration) : r.hitType.references =
    "ID" :: "Float" :: if r.showsFields then [r.names.hitFields] else [] := by
  rw [references_object rfl]
  split <;> rfl

theorem eq_of_mem_references_hitFieldsType (h : name ∈ r.hitFieldsType.references) :
    name = "JSON" := by
  rw [references_object rfl, List.flatMap_map] at h
  obtain ⟨_, _, hname⟩ := List.mem_flatMap.mp h
  simpa [Field.references, TypeRef.base] using hname

theorem mem_types {t : TypeDefinition} : t ∈ r.types ↔ t = r.resultType ∨
    t = r.hitResultsType ∨ t = r.hitType ∨ r.showsFields = true ∧ t = r.hitFieldsType := by
  cases h : r.showsFields <;> simp [types, h]

/-- The types of a domain refer to shared types, to built-in scalars and to one another. -/
theorem references_types {t : TypeDefinition} (ht : t ∈ r.types) (h : name ∈ t.references) :
    name ∈ reservedTypes ∨ name ∈ builtinScalars ∨ name ∈ r.claimedTypes := by
  rcases mem_types.mp ht with rfl | rfl | rfl | ⟨_, rfl⟩
  · rw [references_resultType] at h
    revert name
    simp [reservedTypes, builtinScalars, claimedTypes]
  · rw [references_hitResultsType] at h
    revert name
    simp [reservedTypes, builtinScalars, claimedTypes]
  · rw [references_hitType] at h
    revert name
    split
    · next hshows => simp [reservedTypes, builtinScalars, hitFields_mem_claimedTypes hshows]
    · simp [reservedTypes, builtinScalars]
  · rw [eq_of_mem_references_hitFieldsType h]
    exact .inl (by decide)

end Registration

namespace Composed

variable {s : Composed} {r : Registration} {name : String}

/-- The types that fields and arguments of the schema refer to. -/
def references (s : Composed) : List String := s.types.flatMap TypeDefinition.references

/-- A field or an argument refers to the name as one of a type that the domain does not add. -/
def RefersBeyond (s : Composed) (r : Registration) (name : String) : Prop :=
  name ∈ s.references ∧ (name ∈ reservedTypes ∨ name ∈ builtinScalars ∨
    ∃ other ∈ s.registrations, other ≠ r ∧ name ∈ other.claimedTypes)

theorem mem_types {t : TypeDefinition} : t ∈ s.types ↔
    t ∈ sharedTypes ∨ t = s.queryDefinition ∨ ∃ r ∈ s.registrations, t ∈ r.types := by
  simp [types]

/-- There are no references but to shared types, to built-in scalars and to types of domains. -/
theorem references_cases (h : name ∈ s.references) : name ∈ reservedTypes ∨
    name ∈ builtinScalars ∨ ∃ r ∈ s.registrations, name ∈ r.claimedTypes := by
  obtain ⟨t, ht, hname⟩ := List.mem_flatMap.mp h
  rcases mem_types.mp ht with ht | rfl | ⟨r, hr, ht⟩
  · exact (references_sharedTypes t ht name hname).imp_right .inl
  · rw [references_object rfl, List.flatMap_map] at hname
    obtain ⟨r, hr, hname⟩ := List.mem_flatMap.mp hname
    rw [r.references_rootField, List.mem_cons] at hname
    rcases hname with rfl | hname
    · exact .inr (.inr ⟨r, hr, r.typeName_mem_claimedTypes⟩)
    · exact (references_rootArguments name hname).imp_right .inl
  · exact (Registration.references_types ht hname).imp_right (.imp_right fun h => ⟨r, hr, h⟩)

/-- Every built-in scalar is referred to. -/
theorem builtinScalars_mem_references (hr : r ∈ s.registrations) (h : name ∈ builtinScalars) :
    name ∈ s.references := by
  have hshared : name = "Float" ∨ ∃ t ∈ sharedTypes, name ∈ t.references := by
    revert name
    decide
  refine List.mem_flatMap.mpr ?_
  rcases hshared with rfl | ⟨t, ht, hname⟩
  · refine ⟨r.hitType, mem_types.mpr (.inr (.inr ⟨r, hr, ?_⟩)), ?_⟩
    · exact Registration.mem_types.mpr (.inr (.inr (.inl rfl)))
    · simp [r.references_hitType]
  · exact ⟨t, mem_types.mpr (.inl ht), hname⟩

/-! ## Types by their names -/

/-- With distinct names, every type of the schema is found by its own, unless a built-in scalar has
that name. -/
theorem type?_of_mem (hn : (s.types.map TypeDefinition.name).Nodup) {t : TypeDefinition}
    (ht : t ∈ s.types) (hfree : t.name ∉ builtinScalars) : s.type? t.name = some t := by
  rw [type?, if_neg hfree]
  exact (find?_key_eq_some_iff hn).mpr ⟨ht, rfl⟩

/-- Every name that is referred to has a type. -/
theorem exists_type? (hn : (s.types.map TypeDefinition.name).Nodup) (h : name ∈ s.references) :
    ∃ t, s.type? name = some t ∧ t.name = name := by
  by_cases hbuiltin : name ∈ builtinScalars
  · exact ⟨_, if_pos hbuiltin, rfl⟩
  · have hname : name ∈ s.types.map TypeDefinition.name :=
      mem_names_types.mpr ((references_cases h).imp_right (·.resolve_left hbuiltin))
    obtain ⟨t, ht, rfl⟩ := List.mem_map.mp hname
    exact ⟨t, type?_of_mem hn ht hbuiltin, rfl⟩

end Composed

/-! ## Validated domains -/

/-- When no name is given twice, the domain that gives a name is the only one. -/
theorem eq_of_claimedTypes {rs : List Registration}
    (hn : (rs.flatMap Registration.claimedTypes).Nodup) {r other : Registration} (hr : r ∈ rs)
    (ho : other ∈ rs) {name : String}
    (h : name ∈ r.claimedTypes) (h' : name ∈ other.claimedTypes) : other = r := by
  by_contra hne
  have hsymm : Std.Symm (Function.onFun List.Disjoint Registration.claimedTypes) :=
    ⟨fun _ _ h _ ha hb => h hb ha⟩
  exact (List.nodup_flatMap.mp hn).2.forall ho hr hne h' h

/-- Every type of a composed schema is found by its name. -/
theorem type?_of_compose {rs : List Registration} {s : Composed} (h : compose rs = .ok s)
    {t : TypeDefinition} (ht : t ∈ s.types) : s.type? t.name = some t := by
  obtain ⟨rfl, hv, hfault⟩ := compose_eq_ok_iff.mp h
  refine Composed.type?_of_mem (registered_of_validate hv).typesDistinct ht ?_
  have htaken := (Composed.fault?_eq_none_iff.mp hfault).1
  simpa using List.find?_eq_none.mp htaken t.name (List.mem_map_of_mem ht)

/-- Types that pass validation but take the name of a built-in scalar make up no schema. -/
theorem compose_of_builtin {rs : List Registration} {registry : Registry}
    (h : validate rs = .ok registry) {r : Registration} (hr : r ∈ rs) {name : String}
    (hname : name ∈ r.claimedTypes) (hbuiltin : name ∈ builtinScalars) :
    ∃ taken, FirstWith (· ∈ builtinScalars)
        ((Composed.mk rs registry).types.map TypeDefinition.name) taken ∧
      compose rs = .error (.invalidConfiguration
        s!"schema build failed: Type \"{taken}\" already exists") := by
  have hmem : name ∈ (Composed.mk rs registry).types.map TypeDefinition.name :=
    Composed.mem_names_types.mpr (.inr ⟨r, hr, hname⟩)
  obtain ⟨taken, hfirst⟩ := exists_firstWith_iff.mpr ⟨name, hmem, hbuiltin⟩
  have htaken : (Composed.mk rs registry).takenName? = some taken := by
    rw [Composed.takenName?, find?_eq_some_iff_firstWith]
    simpa only [decide_eq_true_eq] using hfirst
  refine ⟨taken, hfirst, ?_⟩
  rw [compose_of_validate h, Composed.fault?, htaken]
  rfl

/-- Among registrations that pass validation, fields and arguments refer to shared types, built-in
scalars and types of domains only, and a type of a domain has a name that is referred to as another
type exactly when that is the name of a built-in scalar. Such registrations make up no schema. In a
schema that is composed, no type of a domain has such a name, every type is found by its own, and
every name that is referred to finds a type. -/
theorem refersBeyond_iff_builtin {rs : List Registration} {registry : Registry}
    (h : validate rs = .ok registry) :
    (∀ name ∈ (Composed.mk rs registry).references, name ∈ reservedTypes ∨
      name ∈ builtinScalars ∨ ∃ r ∈ rs, name ∈ r.claimedTypes) ∧
    (∀ r ∈ rs, ∀ name ∈ r.claimedTypes,
      (Composed.mk rs registry).RefersBeyond r name ↔ name ∈ builtinScalars) ∧
    (∀ r ∈ rs, ∀ name ∈ r.claimedTypes, name ∈ builtinScalars →
      ∃ taken, FirstWith (· ∈ builtinScalars)
          ((Composed.mk rs registry).types.map TypeDefinition.name) taken ∧
        compose rs = .error (.invalidConfiguration
          s!"schema build failed: Type \"{taken}\" already exists")) ∧
    ∀ s, compose rs = .ok s →
      (∀ r ∈ rs, ∀ name ∈ r.claimedTypes, ¬ s.RefersBeyond r name) ∧
      (∀ t ∈ s.types, s.type? t.name = some t) ∧
      ∀ name ∈ s.references, ∃ t, s.type? name = some t ∧ t.name = name := by
  have hn := (registered_of_validate h).typesDistinct
  obtain ⟨_, _, hdistinct, _⟩ := validate_eq_ok_iff.mp h
  obtain ⟨hnodup, hunreserved, _⟩ := distinct_extend_initial_iff.mp hdistinct
  have hbeyond : ∀ r ∈ rs, ∀ name ∈ r.claimedTypes,
      (Composed.mk rs registry).RefersBeyond r name ↔ name ∈ builtinScalars := by
    intro r hr name hname
    constructor
    · rintro ⟨_, hreserved | hbuiltin | ⟨other, ho, hne, hname'⟩⟩
      · exact absurd hreserved (hunreserved name (List.mem_flatMap.mpr ⟨r, hr, hname⟩))
      · exact hbuiltin
      · exact absurd (eq_of_claimedTypes hnodup hr ho hname hname') hne
    · intro hbuiltin
      exact ⟨Composed.builtinScalars_mem_references hr hbuiltin, .inr (.inl hbuiltin)⟩
  refine ⟨fun name => Composed.references_cases, hbeyond,
    fun r hr name => compose_of_builtin h hr, fun s hs => ?_⟩
  have hfound (t : TypeDefinition) : t ∈ s.types → s.type? t.name = some t := type?_of_compose hs
  obtain ⟨rfl, hv, hfault⟩ := compose_eq_ok_iff.mp hs
  obtain rfl := Except.ok.inj (h.symm.trans hv)
  have hfree := Composed.takenName?_eq_none_iff.mp (Composed.fault?_eq_none_iff.mp hfault).1
  refine ⟨fun r hr name hname hrefers => ?_, hfound, fun name => Composed.exists_type? hn⟩
  exact hfree r hr name hname ((hbeyond r hr name hname).mp hrefers)

theorem twoShops_keep_builtins : ∃ registry s, validate twoShops = .ok registry ∧
    compose twoShops = .ok s ∧ "BookFields" ∈ s.references ∧
    ∀ r ∈ twoShops, ∀ name ∈ r.claimedTypes, ¬ s.RefersBeyond r name := by
  have hv : validate twoShops = .ok (Registry.initial.extend twoShops) := rfl
  have hfault : Composed.fault? ⟨twoShops, Registry.initial.extend twoShops⟩ = none := by
    decide +kernel
  have hc := compose_eq_ok_iff.mpr ⟨rfl, hv, hfault⟩
  obtain ⟨_, _, _, hcomposed⟩ := refersBeyond_iff_builtin hv
  obtain ⟨hbeyond, _, _⟩ := hcomposed _ hc
  exact ⟨_, _, hv, hc, by decide, hbeyond⟩

/-- The bookshop with the name of a built-in scalar for its result type. -/
def strings : Registration := ⟨⟨"String", "Book", none⟩, bookshop⟩

/-- Validation accepts the name, although arguments of the root field refer to it. Only putting the
schema together refuses it. -/
theorem strings_take_builtin : AllBuilt [strings] ∧ ∃ registry,
    validate [strings] = .ok registry ∧ "String" ∈ strings.claimedTypes ∧
    (Composed.mk [strings] registry).RefersBeyond strings "String" ∧
    compose [strings] = .error (.invalidConfiguration
      "schema build failed: Type \"String\" already exists") := by
  have hb : AllBuilt [strings] := by
    rintro r (_ | ⟨_, ⟨⟩⟩)
    exact ⟨bookshopDraft, rfl⟩
  have hv : validate [strings] = .ok _ := rfl
  have hinitial : (Composed.mk [strings] .initial).takenName? = some "String" := by decide +kernel
  have htaken (registry : Registry) : (Composed.mk [strings] registry).takenName? =
    some "String" := hinitial
  refine ⟨hb, _, hv, by decide, ⟨by decide, .inr (.inl (by decide))⟩, ?_⟩
  rw [compose_of_validate hv, Composed.fault?, htaken]
  rfl

end FacetSearch.Schema
