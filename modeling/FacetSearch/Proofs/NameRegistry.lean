import FacetSearch.Schema.Registry
import FacetSearch.Proofs.Outcome
import FacetSearch.Proofs.Ordered
/-!
# Claims in the registry

When a name can be claimed, and what a claim leaves behind. A name is given out once, so a registry
in which all names are distinct stays one, and each name has the owner that claimed it.
-/

namespace FacetSearch.Schema

theorem checkName_eq_ok_iff {name : String} : checkName name = .ok () ↔ isName name = true := by
  unfold checkName
  split <;> simp_all

/-- Nobody holds a name that is not among the held ones. -/
theorem lookup_eq_none_iff_notMem {held : List (String × String)} {name : String} :
    held.lookup name = none ↔ name ∉ held.map Prod.fst := by
  rw [List.lookup_eq_none_iff]
  grind

/-- A claim succeeds exactly for a legal name that nobody holds, and adds it at the end. -/
theorem claim_eq_ok_iff {held held' : List (String × String)} {name owner : String} :
    claim held name owner = .ok held' ↔
      isName name = true ∧ name ∉ held.map Prod.fst ∧ held' = held ++ [(name, owner)] := by
  rw [← lookup_eq_none_iff_notMem, ← checkName_eq_ok_iff]
  unfold claim
  cases checkName name with
  | error e => simp [bind, Except.bind]
  | ok => cases held.lookup name <;> simp [bind, Except.bind, eq_comm (a := held')]

namespace Registry

/-- No type name and no root field is held twice. -/
structure Distinct (r : Registry) : Prop where
  types : (r.types.map Prod.fst).Nodup
  queryFields : (r.queryFields.map Prod.fst).Nodup

variable {r r' : Registry} {name owner : String}

/-- A name at the end is new exactly when it does not come before. -/
theorem nodup_keys_concat_iff {held : List (String × String)} (h : (held.map Prod.fst).Nodup) :
    ((held ++ [(name, owner)]).map Prod.fst).Nodup ↔ name ∉ held.map Prod.fst := by
  rw [List.map_append, List.nodup_append_comm, List.map_singleton, List.singleton_append,
    List.nodup_cons, and_iff_left h]

theorem claimType_eq_ok_iff :
    r.claimType name owner = .ok r' ↔ isName name = true ∧ name ∉ r.types.map Prod.fst ∧
      r' = { r with types := r.types ++ [(name, owner)] } := by
  rw [claimType, bind_eq_ok_iff]
  simp only [claim_eq_ok_iff, pure_eq_ok_iff]
  constructor
  · rintro ⟨_, ⟨hname, hfree, rfl⟩, rfl⟩
    exact ⟨hname, hfree, rfl⟩
  · rintro ⟨hname, hfree, rfl⟩
    exact ⟨_, ⟨hname, hfree, rfl⟩, rfl⟩

theorem claimQueryField_eq_ok_iff :
    r.claimQueryField name owner = .ok r' ↔
      isName name = true ∧ name ∉ r.queryFields.map Prod.fst ∧
        r' = { r with queryFields := r.queryFields ++ [(name, owner)] } := by
  rw [claimQueryField, bind_eq_ok_iff]
  simp only [claim_eq_ok_iff, pure_eq_ok_iff]
  constructor
  · rintro ⟨_, ⟨hname, hfree, rfl⟩, rfl⟩
    exact ⟨hname, hfree, rfl⟩
  · rintro ⟨hname, hfree, rfl⟩
    exact ⟨_, ⟨hname, hfree, rfl⟩, rfl⟩

/-- The claims of one owner succeed exactly when all names are legal and none comes twice. -/
theorem claimTypes_eq_ok_iff {names : List String} (h : (r.types.map Prod.fst).Nodup) :
    names.foldlM (fun r name => r.claimType name owner) r = .ok r' ↔
      (∀ name ∈ names, isName name = true) ∧ (r.types.map Prod.fst ++ names).Nodup ∧
        r' = { r with types := r.types ++ names.map fun name => (name, owner) } := by
  induction names generalizing r with
  | nil => simp [h, eq_comm (a := r')]
  | cons name rest ih =>
    have hkeys : (r.types ++ [(name, owner)]).map Prod.fst ++ rest =
        r.types.map Prod.fst ++ name :: rest := by simp
    rw [List.foldlM_cons, bind_eq_ok_iff, List.forall_mem_cons]
    constructor
    · rintro ⟨r₁, hclaim, hrest⟩
      obtain ⟨hname, hfree, rfl⟩ := claimType_eq_ok_iff.mp hclaim
      obtain ⟨hnames, hnodup, rfl⟩ := (ih ((nodup_keys_concat_iff h).mpr hfree)).mp hrest
      exact ⟨⟨hname, hnames⟩, hkeys ▸ hnodup, by simp⟩
    · rintro ⟨⟨hname, hnames⟩, hnodup, rfl⟩
      rw [← hkeys] at hnodup
      have hn := hnodup.of_append_left
      exact ⟨_, claimType_eq_ok_iff.mpr ⟨hname, (nodup_keys_concat_iff h).mp hn, rfl⟩,
        (ih hn).mpr ⟨hnames, hnodup, by simp⟩⟩

/-- The owner of a name is the one that it is held by. -/
theorem owner?_eq_some_iff (h : r.Distinct) :
    r.owner? name = some owner ↔ (name, owner) ∈ r.types :=
  lookup_eq_some_iff_mem h.types

theorem typeNames_perm (r : Registry) : r.typeNames.Perm (r.types.map Prod.fst) :=
  List.mergeSort_perm _ _

/-- The listed names are those that somebody holds. -/
theorem mem_typeNames : name ∈ r.typeNames ↔ (r.owner? name).isSome := by
  rw [(typeNames_perm r).mem_iff, ← not_iff_not, ← lookup_eq_none_iff_notMem,
    Option.not_isSome_iff_eq_none, owner?]

/-- The names are listed in order, each of them once. -/
theorem typeNames_sorted (h : (r.types.map Prod.fst).Nodup) : r.typeNames.Pairwise (· < ·) := by
  have hle : r.typeNames.Pairwise fun a b => decide (a ≤ b) = true :=
    List.pairwise_mergeSort (fun a b c => by simpa using String.le_trans)
      (fun a b => by simpa using String.le_total a b) _
  have hdistinct : r.typeNames.Pairwise (· ≠ ·) := (typeNames_perm r).nodup_iff.mpr h
  refine (hle.and hdistinct).imp fun ⟨hab, hne⟩ => ?_
  exact String.not_le.mp fun hba => hne (String.le_antisymm (of_decide_eq_true hab) hba)

end Registry

end FacetSearch.Schema
