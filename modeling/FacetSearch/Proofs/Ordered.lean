import FacetSearch.Ordered
import Mathlib.Data.List.Nodup
/-!
# Entries of ordered maps

The entries of an ordered map and its look-ups determine each other. Entries with pairwise distinct
keys make up a map as they stand, and each is found under its key. What occurs in a list, each item
once, can be listed in the order of the first occurrences.
-/

namespace FacetSearch

theorem OrderedSet.ext {α : Type} {s s' : OrderedSet α} (h : s.toList = s'.toList) : s = s' := by
  cases s
  cases s'
  simpa using h

@[simp] theorem OrderedSet.toList_ofList_singleton {α : Type} [DecidableEq α] (a : α) :
    (OrderedSet.ofList [a]).toList = [a] := rfl

namespace OrderedMap

variable {κ ν : Type} [DecidableEq κ]

/-- A key finds the only entry under it. -/
theorem get?_eq_some_iff {m : OrderedMap κ ν} {key : κ} {value : ν} :
    m.get? key = some value ↔ (key, value) ∈ m.entries := by
  rw [get?, List.lookup_eq_some_iff]
  constructor
  · rintro ⟨before, after, h, _⟩
    simp [h]
  · intro h
    obtain ⟨before, after, he⟩ := List.append_of_mem h
    refine ⟨before, after, he, ?_⟩
    intro entry hentry
    have hn := m.nodup
    rw [he, List.map_append, List.nodup_append] at hn
    have hne := hn.2.2 entry.1 (List.mem_map_of_mem hentry) key (by simp)
    simpa using hne.symm

theorem mem_keys_iff {m : OrderedMap κ ν} {key : κ} :
    key ∈ m.keys ↔ ∃ value, m.get? key = some value := by
  simp [keys, get?_eq_some_iff]

theorem get?_eq_none_iff {m : OrderedMap κ ν} {key : κ} : m.get? key = none ↔ key ∉ m.keys := by
  rw [mem_keys_iff, Option.eq_none_iff_forall_ne_some, not_exists]

/-- The keys in order and what they find make up a map. -/
theorem ext {m m' : OrderedMap κ ν} (hk : m.keys = m'.keys) (hg : ∀ key, m.get? key = m'.get? key) :
    m = m' := by
  have hentries (m : OrderedMap κ ν) :
      m.entries.map (fun e => (e.1, some e.2)) = m.keys.map fun key => (key, m.get? key) := by
    rw [keys, List.map_map]
    refine List.map_congr_left fun e he => ?_
    simp [get?_eq_some_iff.mpr he]
  have hsame : m.entries.map (fun e => (e.1, some e.2)) =
      m'.entries.map fun e => (e.1, some e.2) := by
    simp [hentries, hk, hg]
  have hinjective : Function.Injective fun e : κ × ν => (e.1, some e.2) := by
    rintro ⟨k, v⟩ ⟨k', v'⟩ h
    simpa using h
  cases m
  cases m'
  simpa using hinjective.list_map hsame

/-- A new key goes to the end. -/
theorem entries_insert_of_notMem {m : OrderedMap κ ν} {key : κ} (h : key ∉ m.keys) (value : ν) :
    (m.insert key value).entries = m.entries ++ [(key, value)] := by
  obtain ⟨entries, hn⟩ := m
  change put entries key value = entries ++ [(key, value)]
  change key ∉ entries.map Prod.fst at h
  clear hn
  induction entries with
  | nil => rfl
  | cons entry rest ih =>
    rw [List.map_cons, List.mem_cons, not_or] at h
    rw [put, if_neg (Ne.symm h.1), ih h.2, List.cons_append]

theorem entries_foldl_insert {entries : List (κ × ν)} {m : OrderedMap κ ν}
    (h : (m.keys ++ entries.map Prod.fst).Nodup) :
    (entries.foldl (fun m (key, value) => m.insert key value) m).entries =
      m.entries ++ entries := by
  induction entries generalizing m with
  | nil => simp
  | cons entry rest ih =>
    have hnew : entry.1 ∉ m.keys := by
      intro hmem
      exact (List.nodup_append.mp h).2.2 _ hmem _ (by simp) rfl
    rw [List.foldl_cons, ih, entries_insert_of_notMem hnew]
    · simp
    · rw [keys_insert, if_neg hnew]
      simpa using h

/-- Entries with pairwise distinct keys are those of a map. -/
theorem entries_ofList {entries : List (κ × ν)} (h : (entries.map Prod.fst).Nodup) :
    (ofList entries).entries = entries := by
  rw [ofList, entries_foldl_insert]
  · rfl
  · exact h

end OrderedMap

/-- Among entries with pairwise distinct keys, each is found under its key. -/
theorem lookup_eq_some_iff_mem {κ ν : Type} [DecidableEq κ] {entries : List (κ × ν)}
    (hn : (entries.map Prod.fst).Nodup) {key : κ} {value : ν} :
    entries.lookup key = some value ↔ (key, value) ∈ entries :=
  OrderedMap.get?_eq_some_iff (m := ⟨entries, hn⟩)

theorem lookup_map_key {α κ ν : Type} [DecidableEq κ] {key : α → κ} {value : α → ν}
    {items : List α} (hn : (items.map key).Nodup) {a : α} (ha : a ∈ items) :
    (items.map fun b => (key b, value b)).lookup (key a) = some (value a) := by
  have hkeys : ((items.map fun b => (key b, value b)).map Prod.fst).Nodup := by
    rwa [List.map_map]
  exact (lookup_eq_some_iff_mem hkeys).mpr (List.mem_map_of_mem ha)

/-! ## First occurrences -/

section EraseDups

variable {α : Type} {items : List α}

/-- A last item is new when it does not occur before. -/
theorem eraseDups_concat [DecidableEq α] (items : List α) (a : α) :
    (items ++ [a]).eraseDups = if a ∈ items then items.eraseDups else items.eraseDups ++ [a] := by
  rw [List.eraseDups_append]
  split
  · next h => simp [List.removeAll, h]
  · next h => simp [List.removeAll, h, List.eraseDups_cons]

/-- Distinct items occur once each. -/
theorem eraseDups_of_nodup [DecidableEq α] (h : items.Nodup) : items.eraseDups = items := by
  induction items with
  | nil => rfl
  | cons a rest ih =>
    obtain ⟨ha, hrest⟩ := List.nodup_cons.mp h
    have hfilter : rest.filter (fun b => !b == a) = rest :=
      List.filter_eq_self.mpr fun b hb => by simpa using fun he : b = a => ha (he ▸ hb)
    rw [List.eraseDups_cons, hfilter, ih hrest]

/-- An item that is repeated occurs once. -/
theorem eraseDups_map_const {β : Type} [DecidableEq β] (hne : items ≠ []) (b : β) :
    (items.map fun _ => b).eraseDups = [b] := by
  obtain ⟨a, rest, rfl⟩ := List.exists_cons_of_ne_nil hne
  have hfilter : (rest.map fun _ => b).filter (fun c => !c == b) = [] := by
    rw [List.filter_eq_nil_iff]
    simp
  rw [List.map_cons, List.eraseDups_cons, hfilter, List.eraseDups_nil]

end EraseDups

end FacetSearch
