import FacetSearch.Proofs.GeneratedNames
import FacetSearch.Proofs.TreeSelection
import FacetSearch.Proofs.TypeReferences
/-!
# What results show

The tree of the results of a search fits the types of the composed schema. Main statement: asked for
all fields down to the leaves, a root field shows the whole of the results, each part under its
name; and what a valid document asks of it is always shown.
-/

namespace FacetSearch.Schema

open Document (Pick typenameField select)

variable {s : Composed} {depth : Nat} {fields : List Field} {members : List (String × Node)}
  {name : String}

/-! ## The types of a composed schema -/

/-- The fields of a type that is no object are none. -/
def TypeDefinition.objectFields (t : TypeDefinition) : List Field :=
  match t.shape with
  | .object fields => fields
  | _ => []

theorem objectFields_of_shape {t : TypeDefinition} (h : t.shape = .object fields) :
    t.objectFields = fields := by
  rw [TypeDefinition.objectFields, h]

variable {rs : List Registration} {r : Registration}

/-- The fields of an object type are those of a type that was added. -/
theorem exists_type_of_objectFields? (h : s.objectFields? name = some fields) :
    ∃ t ∈ s.types, t.objectFields = fields := by
  unfold Composed.objectFields? Composed.type? at h
  split at h
  · next htype =>
    split at htype
    · cases htype
    · obtain rfl := Option.some.inj h
      exact ⟨_, List.mem_of_find?_eq_some htype, rfl⟩
  · cases h

theorem objectFields?_of_mem (hc : compose rs = .ok s) {t : TypeDefinition} (ht : t ∈ s.types)
    (hshape : t.shape = .object fields) : s.objectFields? t.name = some fields := by
  rw [Composed.objectFields?, type?_of_compose hc ht]
  obtain ⟨_, _, _⟩ := t
  obtain rfl := hshape
  rfl

theorem nodup_typename_cons {names : List String} (hlegal : ∀ name ∈ names, isName name = true)
    (hn : names.Nodup) : (typenameField :: names).Nodup := by
  refine List.nodup_cons.mpr ⟨fun h => ?_, hn⟩
  exact absurd (hlegal _ h) (by decide)

/-- Names of fields are written out, apart from those of root fields and of fields of hits, which
are distinct and legal. -/
theorem fieldsDistinct_of_compose (hc : compose rs = .ok s) : s.FieldsDistinct := by
  have hshared : ∀ t ∈ sharedTypes, (typenameField :: t.objectFields.map Field.name).Nodup := by
    decide
  obtain ⟨rfl, hv, hfault⟩ := compose_eq_ok_iff.mp hc
  obtain ⟨_, hlegal, hdistinct, _⟩ := validate_eq_ok_iff.mp hv
  have hmasked := Composed.introspectionField?_eq_none_iff.mp
    (Composed.fault?_eq_none_iff.mp hfault).2
  intro name fields hname
  obtain ⟨t, ht, rfl⟩ := exists_type_of_objectFields? hname
  rcases Composed.mem_types.mp ht with ht | rfl | ⟨r, hr, ht⟩
  · exact hshared t ht
  · rw [objectFields_of_shape rfl, List.map_map]
    refine nodup_typename_cons (List.forall_mem_map.mpr fun r hr => (hlegal r hr).queryField) ?_
    exact Registry.queryKeys_extend_initial s.registrations ▸ hdistinct.queryFields
  · rcases Registration.mem_types.mp ht with rfl | rfl | rfl | ⟨_, rfl⟩
    · change [typenameField, "summary", "hits", "facets", "appliedFilters", "sortedBy"].Nodup
      decide
    · change [typenameField, "items", "page"].Nodup
      decide
    · have hall : [typenameField, "id", "score", "fields"].Nodup := by decide
      refine hall.sublist (List.Sublist.append_left ?_ [typenameField, "id", "score"])
      cases r.showsFields
      · exact List.nil_sublist _
      · exact List.Sublist.refl _
    · have hnames : r.hitFieldsType.objectFields.map Field.name = r.fieldNames := by
        rw [objectFields_of_shape rfl, List.map_map]
        exact List.map_id _
      have hnamed : ∀ name ∈ r.fieldNames, isName name = true := by
        refine List.forall_mem_map.mpr fun field hfield => ?_
        exact isName_fieldName_iff.mpr (hmasked r hr field hfield)
      rw [hnames]
      exact nodup_typename_cons hnamed (hlegal r hr).fields

/-! ## Results fit their types -/

section Conforming

variable {t : TypeDefinition} {element : String} {α : Type}

theorem isScalar_of_builtin (h : name ∈ builtinScalars) : s.isScalar name = true := by
  rw [Composed.isScalar, Composed.type?, if_pos h]

theorem conforms_text (text : String) :
    Conforms s depth (.nonNull (.named "String")) (.text text) :=
  .nonNull (.scalar (isScalar_of_builtin (by decide)) (.string text)) (by rintro ⟨⟩)

theorem conforms_id (text : String) : Conforms s depth (.nonNull (.named "ID")) (.text text) :=
  .nonNull (.scalar (isScalar_of_builtin (by decide)) (.id text)) (by rintro ⟨⟩)

theorem conforms_count (n : UInt64) : Conforms s depth (.nonNull (.named "Int")) (.count n) :=
  .nonNull (.scalar (isScalar_of_builtin (by decide)) (.int n.toNat)) (by rintro ⟨⟩)

theorem conforms_flag (b : Bool) : Conforms s depth (.nonNull (.named "Boolean")) (.flag b) :=
  .nonNull (.scalar (isScalar_of_builtin (by decide)) (.boolean b)) (by rintro ⟨⟩)

/-- A score that is no number is shown as null. -/
theorem conforms_score (score : Option Float) :
    Conforms s depth (.named "Float") (.leaf (.ofOption .ofFloat score)) := by
  have hfloat : s.isScalar "Float" = true := isScalar_of_builtin (by decide)
  cases score with
  | none => exact .null rfl
  | some x =>
    by_cases h : x.isFinite
    · rw [Json.ofOption, Json.ofFloat, if_pos h]
      exact .scalar hfloat (.float x)
    · rw [Json.ofOption, Json.ofFloat, if_neg h]
      exact .null rfl

theorem conforms_listed {items : List α} {node : α → Node}
    (h : ∀ a ∈ items, Conforms s depth (.nonNull (.named element)) (node a)) :
    Conforms s depth (.nonNull (.list (.nonNull (.named element)))) (.list (items.map node)) :=
  .nonNull (.list (List.forall_mem_map.mpr h)) (by rintro ⟨⟩)

theorem conforms_object (hc : compose rs = .ok s) (ht : t ∈ s.types)
    (hshape : t.shape = .object fields) (h : MembersConform s depth fields members) :
    Conforms s (depth + 1) (.nonNull (.named t.name)) (.object t.name members) :=
  .nonNull (.object (objectFields?_of_mem hc ht hshape) h) (by rintro ⟨⟩)

/-- Shared types are the same in every schema. -/
theorem conforms_shared (hc : compose rs = .ok s)
    (ht : sharedTypes.find? (fun t => t.name = name) = some t) (hshape : t.shape = .object fields)
    (h : MembersConform s depth fields members) :
    Conforms s (depth + 1) (.nonNull (.named name)) (.object name members) := by
  have hname : t.name = name := by simpa using List.find?_some ht
  subst hname
  exact conforms_object hc (Composed.mem_types.mpr (.inl (List.mem_of_find?_eq_some ht))) hshape h

end Conforming

variable (hc : compose rs = .ok s)
include hc

theorem conforms_ofSortOption (option : String × String) :
    Conforms s (depth + 1) (.nonNull (.named "SortOption")) (.ofSortOption option) :=
  conforms_shared hc rfl rfl (.cons (conforms_text _) (.cons (conforms_text _) .nil))

theorem conforms_ofSummary (results : Results) :
    Conforms s (depth + 2) (.nonNull (.named "SearchSummary")) (.ofSummary results) := by
  refine conforms_shared hc rfl rfl (.cons (conforms_count _) (.cons (conforms_text _) ?_))
  exact .cons (conforms_listed fun option _ => conforms_ofSortOption hc option) .nil

theorem conforms_ofPage (page : PageInfo) :
    Conforms s (depth + 1) (.nonNull (.named "PageInfo")) (.ofPage page) := by
  refine conforms_shared hc rfl rfl (.cons (conforms_count _) (.cons (conforms_count _) ?_))
  exact .cons (conforms_count _) (.cons (conforms_count _) (.cons (conforms_count _) .nil))

theorem conforms_ofOption (option : FacetOption) :
    Conforms s (depth + 1) (.nonNull (.named "FacetOption")) (.ofOption option) := by
  refine conforms_shared hc rfl rfl (.cons (conforms_text _) (.cons (conforms_text _) ?_))
  exact .cons (conforms_count _) (.cons (conforms_flag _) .nil)

theorem conforms_ofFacet (facet : FacetResult) :
    Conforms s (depth + 2) (.nonNull (.named "FacetSet")) (.ofFacet facet) := by
  refine conforms_shared hc rfl rfl (.cons (conforms_text _) (.cons (conforms_text _) ?_))
  refine .cons (conforms_text _) (.cons (conforms_flag _) (.cons ?_ .nil))
  exact conforms_listed fun option _ => conforms_ofOption hc option

theorem conforms_ofAppliedFilter (filter : AppliedFilter) :
    Conforms s (depth + 1) (.nonNull (.named "AppliedFilter")) (.ofAppliedFilter filter) := by
  refine conforms_shared hc rfl rfl (.cons (conforms_text _) (.cons (conforms_id _) ?_))
  refine .cons (conforms_text _) (.cons (conforms_text _) ?_)
  exact .cons (conforms_text _) (.cons (conforms_text _) .nil)

/-- Whatever a returned field shows is a value for it. -/
theorem membersConform_returned (hit : Hit) (returned : List String) :
    MembersConform s depth
      ((returned.map fieldName).map fun name => { name, type := .named "JSON" })
      (returned.map fun field =>
        (fieldName field, .leaf ((hit.fields.lookup field).getD .null))) := by
  have hjson : s.isScalar "JSON" = true := by
    have hshared : sharedTypes.head (by decide) ∈ s.types :=
      Composed.mem_types.mpr (.inl (.head _))
    rw [Composed.isScalar, show s.type? "JSON" = _ from type?_of_compose hc hshared]
    rfl
  induction returned with
  | nil => exact .nil
  | cons field rest ih => exact .cons (.scalar hjson (.any _)) ih

variable (hr : r ∈ rs)
include hr

theorem conforms_domain {t : TypeDefinition} (ht : t ∈ r.types) (hshape : t.shape = .object fields)
    (h : MembersConform s depth fields members) :
    Conforms s (depth + 1) (.nonNull (.named t.name)) (.object t.name members) := by
  obtain ⟨hregistrations, _⟩ := compose_eq_ok_iff.mp hc
  exact conforms_object hc
    (Composed.mem_types.mpr (.inr (.inr ⟨r, hregistrations ▸ hr, ht⟩))) hshape h

theorem conforms_ofHitFields (hshows : r.showsFields = true) (hit : Hit) :
    Conforms s (depth + 1) (.nonNull (.named r.names.hitFields)) (.ofHitFields r hit) := by
  have ht : r.hitFieldsType ∈ r.types :=
    Registration.mem_types.mpr (.inr (.inr (.inr ⟨hshows, rfl⟩)))
  exact conforms_domain hc hr ht rfl (membersConform_returned hc hit _)

theorem conforms_ofHit (hit : Hit) :
    Conforms s (depth + 2) (.nonNull (.named r.names.hitTypeName)) (.ofHit r hit) := by
  have ht : r.hitType ∈ r.types := Registration.mem_types.mpr (.inr (.inr (.inl rfl)))
  refine conforms_domain hc hr ht rfl (.cons (conforms_id _) (.cons (conforms_score _) ?_))
  cases hshows : r.showsFields with
  | false => exact .nil
  | true => exact .cons (conforms_ofHitFields hc hr hshows hit) .nil

theorem conforms_hits (results : Results) :
    Conforms s (depth + 3) (.nonNull (.named r.names.hitResults)) (.object r.names.hitResults [
      ("items", .list (results.hits.map (Node.ofHit r))), ("page", .ofPage results.page)]) := by
  have ht : r.hitResultsType ∈ r.types := Registration.mem_types.mpr (.inr (.inl rfl))
  refine conforms_domain hc hr ht rfl (.cons ?_ (.cons (conforms_ofPage hc _) .nil))
  exact conforms_listed fun hit _ => conforms_ofHit hc hr hit

/-- The results of a domain fit the type that the schema has for them. -/
theorem conforms_ofResults (results : Results) :
    Conforms s (depth + 4) (.nonNull (.named r.names.typeName)) (.ofResults r results) := by
  have ht : r.resultType ∈ r.types := Registration.mem_types.mpr (.inl rfl)
  refine conforms_domain hc hr ht rfl (.cons (conforms_ofSummary hc _) ?_)
  refine .cons (conforms_hits hc hr results) (.cons ?_ (.cons ?_ (.cons (conforms_text _) .nil)))
  · exact conforms_listed fun facet _ => conforms_ofFacet hc facet
  · exact conforms_listed fun filter _ => conforms_ofAppliedFilter hc filter

omit hc hr

/-! ## The whole of the results -/

/-- An object with the name of its type. -/
def typed (type : String) (members : List (String × Json)) : Json :=
  .obj ((typenameField, .str type) :: members)

def shownSortOption : String × String → Json
  | (id, label) => typed "SortOption" [("id", .str id), ("label", .str label)]

def shownPage (page : PageInfo) : Json := typed "PageInfo" [
  ("from", .ofUInt64 page.start), ("size", .ofUInt64 page.size), ("total", .ofUInt64 page.total),
  ("totalPages", .ofUInt64 page.totalPages), ("pageNumber", .ofUInt64 page.pageNumber)]

def shownOption (option : FacetOption) : Json := typed "FacetOption" [
  ("value", .str option.value), ("label", .str option.label), ("count", .ofUInt64 option.count),
  ("selected", .bool option.selected)]

def shownFacet (facet : FacetResult) : Json := typed "FacetSet" [
  ("identifier", .str facet.identifier), ("label", .str facet.label),
  ("display", .str facet.display), ("multipleSelect", .bool facet.multipleSelect),
  ("options", .arr (facet.options.map shownOption))]

def shownFilter (filter : AppliedFilter) : Json := typed "AppliedFilter" [
  ("type", .str filter.kind), ("id", .str filter.id), ("identifier", .str filter.identifier),
  ("label", .str filter.label), ("value", .str filter.value), ("display", .str filter.display)]

/-- A hit, with the returned fields under their names if there are any. -/
def Registration.shownHit (r : Registration) (hit : Hit) : Json :=
  typed r.names.hitTypeName ([("id", .str hit.id), ("score", .ofOption .ofFloat hit.score)] ++
    if r.showsFields then [("fields", typed r.names.hitFields
      (r.domain.returnedFields.map fun field =>
        (fieldName field, (hit.fields.lookup field).getD .null)))]
    else [])

/-- All that the results of a search hold. -/
def Registration.shown (r : Registration) (results : Results) : Json := typed r.names.typeName [
  ("summary", typed "SearchSummary" [
    ("total", .ofUInt64 results.total), ("query", .str results.query),
    ("sortOptions", .arr (results.sortOptions.map shownSortOption))]),
  ("hits", typed r.names.hitResults [
    ("items", .arr (results.hits.map r.shownHit)), ("page", shownPage results.page)]),
  ("facets", .arr (results.facets.map shownFacet)),
  ("appliedFilters", .arr (results.appliedFilters.map shownFilter)),
  ("sortedBy", .str results.sortedBy)]

theorem json_list_map {α : Type} {node : α → Node} {shown : α → Json}
    (h : ∀ a, (node a).json = shown a) (items : List α) :
    (Node.list (items.map node)).json = .arr (items.map shown) := by
  rw [Node.json, jsonItems_eq_map, List.map_map]
  exact congrArg Json.arr (List.map_congr_left fun a _ => h a)

theorem json_object (type : String) (members : List (String × Node)) :
    (Node.object type members).json =
      typed type (members.map fun (name, node) => (name, node.json)) := by
  rw [Node.json, jsonMembers_eq_map, typed]

theorem json_ofSortOption (option : String × String) :
    (Node.ofSortOption option).json = shownSortOption option := rfl

theorem json_ofOption (option : FacetOption) :
    (Node.ofOption option).json = shownOption option := rfl

theorem json_ofAppliedFilter (filter : AppliedFilter) :
    (Node.ofAppliedFilter filter).json = shownFilter filter := rfl

theorem json_ofFacet (facet : FacetResult) : (Node.ofFacet facet).json = shownFacet facet := by
  rw [Node.ofFacet, json_object, shownFacet]
  simp only [List.map_cons, List.map_nil, json_list_map json_ofOption]
  rfl

theorem json_ofHit (r : Registration) (hit : Hit) : (Node.ofHit r hit).json = r.shownHit hit := by
  have hfields : (Node.ofHitFields r hit).json = typed r.names.hitFields
      (r.domain.returnedFields.map fun field =>
        (fieldName field, (hit.fields.lookup field).getD .null)) := by
    rw [Node.ofHitFields, json_object, List.map_map]
    rfl
  rw [Node.ofHit, json_object, Registration.shownHit, ← hfields]
  cases r.showsFields <;> rfl

theorem json_ofResults (r : Registration) (results : Results) :
    (Node.ofResults r results).json = r.shown results := by
  rw [Node.ofResults, json_object, Registration.shown]
  simp only [List.map_cons, List.map_nil, Node.ofSummary, json_object,
    json_list_map json_ofSortOption, json_list_map json_ofAppliedFilter,
    json_list_map json_ofFacet, json_list_map (json_ofHit r)]
  rfl

/-- Asked for everything, a root field shows the whole of the results. -/
theorem select_ofResults (hc : compose rs = .ok s) (hr : r ∈ rs) (results : Results) :
    select (s.everything 4 r.names.typeName) (.ofResults r results) = some (r.shown results) := by
  have hfits : Conforms s 4 (.nonNull (.named r.names.typeName)) (.ofResults r results) :=
    conforms_ofResults hc hr results
  rw [← json_ofResults]
  exact hfits.select_everything (fieldsDistinct_of_compose hc)

/-- Results show whatever is asked for of fields that the types have. -/
theorem exists_select_ofResults (hc : compose rs = .ok s) (hr : r ∈ rs) (results : Results)
    {picks : List Pick} (h : PicksFit s picks r.names.typeName) :
    ∃ value, select picks (.ofResults r results) = some value := by
  have hd := fieldsDistinct_of_compose hc
  have hfits : Conforms s 4 (.nonNull (.named r.names.typeName)) (.ofResults r results) :=
    conforms_ofResults hc hr results
  exact hfits.exists_select fun _ _ _ hname hmembers => exists_answers hd hname hmembers picks h

/-- The query type has the root field of a domain under its name. -/
theorem field?_queryField (hc : compose rs = .ok s) (hr : r ∈ rs) :
    s.field? queryType r.names.queryField = some r.rootField := by
  have hquery := objectFields?_of_mem hc (Composed.mem_types.mpr (.inr (.inl rfl))) rfl
  obtain ⟨rfl, hv, _⟩ := compose_eq_ok_iff.mp hc
  obtain ⟨_, _, hdistinct, _⟩ := validate_eq_ok_iff.mp hv
  have hkeys := hdistinct.queryFields
  rw [Registry.queryKeys_extend_initial] at hkeys
  have hnames : ((s.registrations.map Registration.rootField).map Field.name).Nodup := by
    rwa [List.map_map]
  rw [Composed.field?, show s.objectFields? queryType = _ from hquery]
  exact (find?_key_eq_some_iff hnames).mpr ⟨List.mem_map_of_mem hr, rfl⟩

theorem queryField_ne_typename (hc : compose rs = .ok s) (hr : r ∈ rs) :
    r.names.queryField ≠ typenameField := by
  obtain ⟨_, hv, _⟩ := compose_eq_ok_iff.mp hc
  obtain ⟨_, hlegal, _⟩ := validate_eq_ok_iff.mp hv
  intro htypename
  exact absurd (htypename ▸ (hlegal r hr).queryField) (by decide)

/-- A root field of a valid document is answered, whatever the results are. -/
theorem exists_select_of_valid {c : Document.Check} (hc : compose rs = .ok c.schema) (hr : r ∈ rs)
    (hv : c.valid = true) {o : Document.Operation} (ho : o ∈ c.document.operations)
    {provided : List (String × Document.Value)} {pick : Pick}
    (hp : pick ∈ o.picks c.document provided) (hname : pick.name = r.names.queryField)
    (results : Results) : ∃ value, select pick.picks (.ofResults r results) = some value := by
  have hfits := (Document.picksFit_of_valid hv ho).mem hp
  obtain ⟨key, name, arguments, picks⟩ := pick
  obtain rfl : name = r.names.queryField := hname
  rw [PickFits] at hfits
  rcases hfits with htypename | ⟨f, hf, hpicks⟩
  · exact absurd htypename (queryField_ne_typename hc hr)
  · obtain rfl := Option.some.inj ((field?_queryField hc hr).symm.trans hf)
    exact exists_select_ofResults hc hr results hpicks

end FacetSearch.Schema
