import FacetSearch.Schema.Compose
import FacetSearch.Proofs.BuiltDomain
import FacetSearch.Proofs.NameRegistry
import Mathlib.Data.List.Nodup
import Mathlib.Data.List.Perm.Basic
/-!
# Which domains compose

The claims of many domains, one after the other. They all succeed exactly when no name is illegal,
reserved or given twice, whatever the order of the domains; and the registry they leave holds the
types of the composed schema, each once and under its owner.
-/

namespace FacetSearch.Schema

/-! ## The claims of one domain -/

/-- No two returned fields get the same name. -/
theorem collision?_eq_none_iff {seen fields : List String} :
    collision? seen fields = none ↔ (fields.map fieldName).Nodup ∧
      ∀ field ∈ fields, ∀ earlier ∈ seen, fieldName earlier ≠ fieldName field := by
  induction fields generalizing seen with
  | nil => simp [collision?]
  | cons field rest ih =>
    unfold collision?
    cases h : seen.find? fun earlier => fieldName earlier = fieldName field with
    | some earlier =>
      have hmem := List.mem_of_find?_eq_some h
      have hname : fieldName earlier = fieldName field := by simpa using List.find?_some h
      simp only [reduceCtorEq, false_iff, not_and]
      intro _ hfresh
      exact hfresh field (List.mem_cons_self ..) earlier hmem hname
    | none =>
      have hfresh : ∀ earlier ∈ seen, fieldName earlier ≠ fieldName field := by
        simpa using List.find?_eq_none.mp h
      simp only [ih, List.map_cons, List.nodup_cons, List.mem_map, List.forall_mem_cons,
        List.forall_mem_append, not_exists, not_and]
      constructor
      · rintro ⟨hnodup, hrest⟩
        refine ⟨⟨fun later hl => ?_, hnodup⟩, hfresh, fun later hl => (hrest later hl).1⟩
        exact ((hrest later hl).2.1).symm
      · rintro ⟨⟨hnew, hnodup⟩, _, hrest⟩
        exact ⟨hnodup, fun later hl => ⟨hrest later hl, Ne.symm (hnew later hl), by simp⟩⟩

theorem checkFieldNames_eq_ok_iff {hitType : String} {fields : List String} :
    checkFieldNames hitType fields = .ok () ↔ (fields.map fieldName).Nodup := by
  have hnone : collision? [] fields = none ↔ (fields.map fieldName).Nodup := by
    simp [collision?_eq_none_iff]
  rw [← hnone]
  unfold checkFieldNames
  cases collision? [] fields <;> simp

namespace Registration

/-- The type names that a domain claims, with their owner. -/
def owned (r : Registration) : List (String × String) :=
  r.claimedTypes.map fun name => (name, r.names.typeName)

/-- The names of a domain are legal, and its returned fields get distinct ones. -/
structure Legal (r : Registration) : Prop where
  types : ∀ name ∈ r.claimedTypes, isName name = true
  queryField : isName r.names.queryField = true
  fields : (r.domain.returnedFields.map fieldName).Nodup

end Registration

namespace Registry

/-- The registry with the names of some domains added, whether they are free or not. -/
def extend (registry : Registry) (rs : List Registration) : Registry where
  types := registry.types ++ rs.flatMap Registration.owned
  queryFields := registry.queryFields ++ rs.map fun r => (r.names.queryField, r.names.typeName)

variable {registry registry' : Registry} {r : Registration} {rs : List Registration}

theorem extend_nil (registry : Registry) : registry.extend [] = registry := by
  simp [extend]

theorem extend_cons (registry : Registry) (r : Registration) (rs : List Registration) :
    (registry.extend [r]).extend rs = registry.extend (r :: rs) := by
  simp [extend]

theorem Distinct.of_extend (h : (registry.extend rs).Distinct) : registry.Distinct where
  types := by
    have ht := h.types
    rw [extend, List.map_append] at ht
    exact ht.of_append_left
  queryFields := by
    have hq := h.queryFields
    rw [extend, List.map_append] at hq
    exact hq.of_append_left

/-- A domain can claim its names exactly when they are legal and no name is held twice after. -/
theorem claimAll_eq_ok_iff (h : registry.Distinct) :
    registry.claimAll r = .ok registry' ↔
      r.Legal ∧ (registry.extend [r]).Distinct ∧ registry' = registry.extend [r] := by
  unfold claimAll
  simp only [bind_eq_ok_iff, pure_eq_ok_iff, claimTypes_eq_ok_iff h.types,
    claimQueryField_eq_ok_iff]
  have htypes : (registry.extend [r]).types.map Prod.fst =
      registry.types.map Prod.fst ++ r.claimedTypes := by
    simp [extend, Registration.owned, Function.comp_def]
  have hfields : ((registry.extend [r]).queryFields.map Prod.fst).Nodup ↔
      r.names.queryField ∉ registry.queryFields.map Prod.fst :=
    nodup_keys_concat_iff h.queryFields
  constructor
  · rintro ⟨_, ⟨hnames, hnodup, rfl⟩, _, ⟨hfield, hfree, rfl⟩, ⟨⟩, hreturned, rfl⟩
    exact ⟨⟨hnames, hfield, checkFieldNames_eq_ok_iff.mp hreturned⟩,
      ⟨htypes ▸ hnodup, hfields.mpr hfree⟩, by simp [extend, Registration.owned]⟩
  · rintro ⟨⟨hnames, hfield, hreturned⟩, hdistinct, rfl⟩
    refine ⟨_, ⟨hnames, htypes ▸ hdistinct.types, rfl⟩, _,
      ⟨hfield, hfields.mp hdistinct.queryFields, rfl⟩, (),
      checkFieldNames_eq_ok_iff.mpr hreturned, ?_⟩
    simp [extend, Registration.owned]

/-- Many domains can claim their names one after the other exactly when all names are legal and
no name is held twice at the end. -/
theorem foldlM_claimAll_eq_ok_iff (h : registry.Distinct) :
    rs.foldlM claimAll registry = .ok registry' ↔
      (∀ r ∈ rs, r.Legal) ∧ (registry.extend rs).Distinct ∧ registry' = registry.extend rs := by
  induction rs generalizing registry with
  | nil => simp [extend_nil, h, eq_comm (a := registry')]
  | cons r rest ih =>
    rw [List.foldlM_cons, bind_eq_ok_iff, List.forall_mem_cons, ← extend_cons]
    constructor
    · rintro ⟨_, hclaim, hrest⟩
      obtain ⟨hlegal, hdistinct, rfl⟩ := (claimAll_eq_ok_iff h).mp hclaim
      obtain ⟨hall, hend, rfl⟩ := (ih hdistinct).mp hrest
      exact ⟨⟨hlegal, hall⟩, hend, rfl⟩
    · rintro ⟨⟨hlegal, hall⟩, hend, rfl⟩
      have hdistinct := hend.of_extend
      exact ⟨_, (claimAll_eq_ok_iff h).mpr ⟨hlegal, hdistinct, rfl⟩,
        (ih hdistinct).mpr ⟨hall, hend, rfl⟩⟩

/-! ## The registry of all domains -/

theorem initial_distinct : initial.Distinct := ⟨by decide, by decide⟩

theorem typeKeys_extend_initial (rs : List Registration) :
    (initial.extend rs).types.map Prod.fst =
      reservedTypes ++ rs.flatMap Registration.claimedTypes := by
  simp [extend, initial, Registration.owned, List.map_flatMap, Function.comp_def]

theorem queryKeys_extend_initial (rs : List Registration) :
    (initial.extend rs).queryFields.map Prod.fst = rs.map fun r => r.names.queryField := by
  simp [extend, initial, Function.comp_def]

end Registry

theorem validate_eq_ok_iff {rs : List Registration} {registry : Registry} :
    validate rs = .ok registry ↔ rs ≠ [] ∧ (∀ r ∈ rs, r.Legal) ∧
      (Registry.initial.extend rs).Distinct ∧ registry = Registry.initial.extend rs := by
  rw [← Registry.foldlM_claimAll_eq_ok_iff Registry.initial_distinct]
  unfold validate
  cases rs <;> simp

/-- All names that the domains give are legal, no type name is reserved or given twice, and no root
field and no field of a hit is given twice. -/
structure CollisionFree (rs : List Registration) : Prop where
  nonempty : rs ≠ []
  typesLegal : ∀ r ∈ rs, ∀ name ∈ r.claimedTypes, isName name = true
  queryFieldsLegal : ∀ r ∈ rs, isName r.names.queryField = true
  typesDistinct : (rs.flatMap Registration.claimedTypes).Nodup
  typesUnreserved : ∀ name ∈ rs.flatMap Registration.claimedTypes, name ∉ reservedTypes
  queryFieldsDistinct : (rs.map fun r => r.names.queryField).Nodup
  /-- The names of returned fields tell them apart. -/
  fieldsDistinct : ∀ r ∈ rs, ∀ field ∈ r.domain.returnedFields,
    ∀ other ∈ r.domain.returnedFields, fieldName field = fieldName other → field = other

theorem CollisionFree.perm {rs rs' : List Registration} (h : CollisionFree rs)
    (hp : rs.Perm rs') : CollisionFree rs' where
  nonempty := by
    rintro rfl
    exact h.nonempty hp.eq_nil
  typesLegal r hr := h.typesLegal r (hp.mem_iff.mpr hr)
  queryFieldsLegal r hr := h.queryFieldsLegal r (hp.mem_iff.mpr hr)
  typesDistinct := (hp.flatMap_right _).nodup_iff.mp h.typesDistinct
  typesUnreserved name hn := h.typesUnreserved name ((hp.flatMap_right _).mem_iff.mpr hn)
  queryFieldsDistinct := (hp.map _).nodup_iff.mp h.queryFieldsDistinct
  fieldsDistinct r hr := h.fieldsDistinct r (hp.mem_iff.mpr hr)

theorem distinct_extend_initial_iff {rs : List Registration} :
    (Registry.initial.extend rs).Distinct ↔
      (rs.flatMap Registration.claimedTypes).Nodup ∧
        (∀ name ∈ rs.flatMap Registration.claimedTypes, name ∉ reservedTypes) ∧
        (rs.map fun r => r.names.queryField).Nodup := by
  have hreserved : reservedTypes.Nodup := Registry.initial_distinct.types
  have hkeys := Registry.typeKeys_extend_initial rs
  have hfields := Registry.queryKeys_extend_initial rs
  constructor
  · rintro ⟨ht, hq⟩
    rw [hkeys, List.nodup_append] at ht
    exact ⟨ht.2.1, fun name hn hr => ht.2.2 name hr name hn rfl, hfields ▸ hq⟩
  · rintro ⟨ht, hr, hq⟩
    refine ⟨?_, hfields ▸ hq⟩
    rw [hkeys, List.nodup_append]
    refine ⟨hreserved, ht, ?_⟩
    rintro name hname _ hn rfl
    exact hr name hn hname

/-- Every domain of the list was built from some draft. -/
def AllBuilt (rs : List Registration) : Prop :=
  ∀ r ∈ rs, ∃ draft : DomainDraft, draft.build = .ok r.domain

/-- Returned fields are distinct, so their names are when the names tell them apart. -/
theorem nodup_fieldNames_iff {draft : DomainDraft} {d : Domain} (h : draft.build = .ok d) :
    (d.returnedFields.map fieldName).Nodup ↔ ∀ field ∈ d.returnedFields,
      ∀ other ∈ d.returnedFields, fieldName field = fieldName other → field = other := by
  refine List.nodup_map_iff_inj_on ?_
  obtain ⟨hs, _, _, rfl⟩ := DomainDraft.build_eq_ok_iff.mp h
  exact hs.returnedFields

theorem exists_validate_iff {rs : List Registration} (hb : AllBuilt rs) :
    (∃ registry, validate rs = .ok registry) ↔ CollisionFree rs := by
  simp only [validate_eq_ok_iff, distinct_extend_initial_iff]
  constructor
  · rintro ⟨_, hne, hlegal, ⟨htypes, hreserved, hfields⟩, _⟩
    refine ⟨hne, fun r hr => (hlegal r hr).types, fun r hr => (hlegal r hr).queryField, htypes,
      hreserved, hfields, fun r hr => ?_⟩
    obtain ⟨draft, hdraft⟩ := hb r hr
    exact (nodup_fieldNames_iff hdraft).mp (hlegal r hr).fields
  · intro h
    refine ⟨_, h.nonempty, fun r hr => ⟨h.typesLegal r hr, h.queryFieldsLegal r hr, ?_⟩,
      ⟨h.typesDistinct, h.typesUnreserved, h.queryFieldsDistinct⟩, rfl⟩
    obtain ⟨draft, hdraft⟩ := hb r hr
    exact (nodup_fieldNames_iff hdraft).mpr (h.fieldsDistinct r hr)

/-! ## The composed schema -/

/-- The registry of a schema and what the schema consists of tell the same. -/
structure Composed.Registered (s : Composed) : Prop where
  /-- Shared names belong to nobody, and each other name to the domain that adds the type. -/
  owners : ∀ name owner, s.registry.owner? name = some owner ↔
    name ∈ reservedTypes ∧ owner = sharedOwner ∨
      ∃ r ∈ s.registrations, name ∈ r.claimedTypes ∧ owner = r.names.typeName
  types : (s.types.map TypeDefinition.name).Perm s.registry.typeNames
  typesDistinct : (s.types.map TypeDefinition.name).Nodup
  /-- No root field replaces another. -/
  queryFields : (OrderedMap.ofList s.queryFields).entries =
    s.registrations.map fun r => (r.names.queryField, r.names.typeName)

theorem Registration.names_types_perm (r : Registration) :
    (r.types.map TypeDefinition.name).Perm r.claimedTypes := by
  have hswap : [r.names.typeName, r.names.hitResults, r.names.hitTypeName].Perm
      [r.names.typeName, r.names.hitTypeName, r.names.hitResults] := (List.Perm.swap ..).cons _
  unfold types claimedTypes
  rw [List.map_append]
  refine hswap.append ?_
  split <;> exact .refl _

theorem Composed.names_types_perm (s : Composed) :
    (s.types.map TypeDefinition.name).Perm
      (reservedTypes ++ s.registrations.flatMap Registration.claimedTypes) := by
  have hshared : (sharedTypes.map TypeDefinition.name ++ [queryType]).Perm reservedTypes := by
    decide
  unfold types
  rw [List.map_append, List.map_append, List.map_flatMap]
  exact hshared.append (List.Perm.flatMap_left _ fun r _ => r.names_types_perm)

theorem Composed.mem_names_types {s : Composed} {name : String} :
    name ∈ s.types.map TypeDefinition.name ↔
      name ∈ reservedTypes ∨ ∃ r ∈ s.registrations, name ∈ r.claimedTypes := by
  rw [s.names_types_perm.mem_iff, List.mem_append, List.mem_flatMap]

theorem registered_of_validate {rs : List Registration} {registry : Registry}
    (h : validate rs = .ok registry) : Composed.Registered ⟨rs, registry⟩ := by
  obtain ⟨_, _, hdistinct, rfl⟩ := validate_eq_ok_iff.mp h
  have hkeys := Registry.typeKeys_extend_initial rs
  have hnames := Composed.names_types_perm ⟨rs, Registry.initial.extend rs⟩
  constructor
  case owners =>
    intro name owner
    rw [Registry.owner?_eq_some_iff hdistinct, Registry.extend, List.mem_append]
    refine or_congr ?_ ?_
    · simp [Registry.initial, eq_comm (a := owner)]
    · simp [Registration.owned, List.mem_flatMap, eq_comm (a := owner)]
  case types =>
    refine hnames.trans ?_
    rw [← hkeys]
    exact (Registry.typeNames_perm _).symm
  case typesDistinct =>
    rw [hnames.nodup_iff, ← hkeys]
    exact hdistinct.types
  case queryFields =>
    refine OrderedMap.entries_ofList ?_
    have hfields := hdistinct.queryFields
    rw [Registry.queryKeys_extend_initial] at hfields
    rw [Composed.queryFields, List.map_map]
    exact hfields

/-- Nothing but the types themselves can keep validated registrations from composing. -/
theorem compose_of_validate {rs : List Registration} {registry : Registry}
    (h : validate rs = .ok registry) : compose rs =
      match (Composed.mk rs registry).fault? with
      | none => .ok ⟨rs, registry⟩
      | some fault => .error (.invalidConfiguration s!"schema build failed: {fault}") := by
  unfold compose
  rw [h]
  rfl

theorem compose_eq_ok_iff {rs : List Registration} {s : Composed} : compose rs = .ok s ↔
    s.registrations = rs ∧ validate rs = .ok s.registry ∧ s.fault? = none := by
  constructor
  · intro h
    obtain ⟨registry, hv, _⟩ := bind_eq_ok_iff.mp h
    rw [compose_of_validate hv] at h
    split at h
    · next hnone =>
      obtain rfl := Except.ok.inj h
      exact ⟨rfl, hv, hnone⟩
    · cases h
  · rintro ⟨rfl, hv, hnone⟩
    rw [compose_of_validate hv]
    simp only [hnone]

/-- A schema has no fault when no type is named like a built-in scalar and no field of a hit has a
name kept for introspection. -/
theorem Composed.fault?_eq_none_iff {s : Composed} :
    s.fault? = none ↔ s.takenName? = none ∧ s.introspectionField? = none := by
  unfold fault?
  cases s.takenName? <;> cases s.introspectionField? <;> simp

theorem builtinScalars_unreserved : ∀ name ∈ builtinScalars, name ∉ reservedTypes := by decide

/-- The names of the types are the reserved ones, none of which is a built-in scalar's, and those
that the domains claim. -/
theorem Composed.takenName?_eq_none_iff {s : Composed} : s.takenName? = none ↔
    ∀ r ∈ s.registrations, ∀ name ∈ r.claimedTypes, name ∉ builtinScalars := by
  unfold takenName?
  simp only [List.find?_eq_none, Composed.mem_names_types, decide_eq_true_eq]
  constructor
  · intro h r hr name hname
    exact h name (.inr ⟨r, hr, hname⟩)
  · rintro h name (hreserved | ⟨r, hr, hname⟩)
    · exact fun hbuiltin => builtinScalars_unreserved name hbuiltin hreserved
    · exact h r hr name hname

/-- Built domains pass validation exactly when they are free of collisions, in whatever order they
come. The registry is then the one that belongs to the types and root fields of the schema. A schema
is composed exactly when it has no fault besides, and it holds the registrations and that
registry. -/
theorem validate_iff_collisionFree {rs : List Registration} (hb : AllBuilt rs) :
    ((∃ registry, validate rs = .ok registry) ↔ CollisionFree rs) ∧
    (∀ rs', rs.Perm rs' →
      ((∃ registry, validate rs' = .ok registry) ↔ ∃ registry, validate rs = .ok registry)) ∧
    (∀ registry, validate rs = .ok registry → Composed.Registered ⟨rs, registry⟩) ∧
    ∀ s, compose rs = .ok s ↔
      s.registrations = rs ∧ validate rs = .ok s.registry ∧ s.fault? = none := by
  refine ⟨exists_validate_iff hb, fun rs' hp => ?_, fun _ => registered_of_validate,
    fun _ => compose_eq_ok_iff⟩
  have hb' : AllBuilt rs' := fun r hr => hb r (hp.mem_iff.mpr hr)
  rw [exists_validate_iff hb, exists_validate_iff hb']
  exact ⟨fun h => h.perm hp.symm, fun h => h.perm hp⟩

/-- The bookshop under two pairs of names. -/
def twoShops : List Registration :=
  [⟨⟨"Books", "Book", none⟩, bookshop⟩, ⟨⟨"Novels", "Novel", some "fiction"⟩, bookshop⟩]

/-- Both shops find room in one schema, and so they do in the other order. -/
theorem twoShops_compose : AllBuilt twoShops ∧ CollisionFree twoShops ∧
    (∃ registry, validate twoShops.reverse = .ok registry) ∧
    ∀ registry, validate twoShops = .ok registry →
      registry.owner? "NovelsHitResults" = some "Novels" := by
  have hb : AllBuilt twoShops := by
    rintro r (_ | ⟨_, _ | ⟨_, ⟨⟩⟩⟩) <;> exact ⟨bookshopDraft, rfl⟩
  obtain ⟨hfree, hany, hregistered, _⟩ := validate_iff_collisionFree hb
  have hvalid : ∃ registry, validate twoShops = .ok registry := ⟨_, rfl⟩
  refine ⟨hb, hfree.mp hvalid, (hany _ (List.reverse_perm _).symm).mpr hvalid, fun registry hv => ?_⟩
  refine ((hregistered registry hv).owners _ _).mpr (.inr ⟨_, .tail _ (.head _), ?_, rfl⟩)
  exact .tail _ (.tail _ (.head _))

end FacetSearch.Schema
