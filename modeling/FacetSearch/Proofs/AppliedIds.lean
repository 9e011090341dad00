import FacetSearch.Proofs.AppliedFilters
/-!
# Ids of applied filters

The id of an applied filter is its identifier and its value with an underscore between them. No
value is listed twice under one identifier, but identifiers and values may hold underscores of
their own. Main statement: the ids of a list of applied filters tell its entries apart exactly when
no entry has in its value what another has in its identifier after the same beginning.
-/

namespace FacetSearch

/-- Texts joined by a separator that they may hold themselves: when two of them are equal, the parts
are, or a middle part stands before the separator in one and after it in the other. -/
theorem append_cons_inj_iff {α : Type} {c : α} {a b v w : List α} :
    a ++ c :: v = b ++ c :: w ↔ (a = b ∧ v = w) ∨
      (∃ middle, b = a ++ c :: middle ∧ v = middle ++ c :: w) ∨
      ∃ middle, a = b ++ c :: middle ∧ w = middle ++ c :: v := by
  constructor
  · intro h
    rcases List.append_eq_append_iff.mp h with ⟨between, rfl, hv⟩ | ⟨between, rfl, hw⟩
    · cases between with
      | nil => exact .inl ⟨(List.append_nil a).symm, (List.cons.inj hv).2⟩
      | cons d middle =>
        obtain ⟨rfl, rfl⟩ := List.cons.inj hv
        exact .inr (.inl ⟨middle, rfl, rfl⟩)
    · cases between with
      | nil => exact .inl ⟨List.append_nil b, (List.cons.inj hw).2.symm⟩
      | cons d middle =>
        obtain ⟨rfl, rfl⟩ := List.cons.inj hw
        exact .inr (.inr ⟨middle, rfl, rfl⟩)
  · rintro (⟨rfl, rfl⟩ | ⟨middle, rfl, rfl⟩ | ⟨middle, rfl, rfl⟩)
    · rfl
    · simp
    · simp

/-- One identifier goes on from another after an underscore. -/
def Continues (identifier other : String) : Prop :=
  ∃ middle, other = identifier ++ "_" ++ middle

theorem continues_iff {identifier other : String} :
    Continues identifier other ↔ identifier.toList ++ ['_'] <+: other.toList := by
  constructor
  · rintro ⟨middle, rfl⟩
    exact ⟨middle.toList, by simp⟩
  · rintro ⟨middle, h⟩
    exact ⟨String.ofList middle, String.toList_injective (by simp [← h])⟩

instance (identifier other : String) : Decidable (Continues identifier other) :=
  decidable_of_iff _ continues_iff.symm

namespace AppliedFilter

/-- The second identifier goes on from the first, and the first value makes up for what the second
identifier has more. -/
def Overlaps (a b : AppliedFilter) : Prop :=
  ∃ middle, b.identifier = a.identifier ++ "_" ++ middle ∧ a.value = middle ++ "_" ++ b.value

/-- What an applied filter is named by. -/
def key (a : AppliedFilter) : String × String := (a.identifier, a.value)

/-- The id is made from the identifier and the value. -/
def Joined (a : AppliedFilter) : Prop := a.id = a.identifier ++ "_" ++ a.value

variable {a b : AppliedFilter}

theorem Overlaps.continues (h : a.Overlaps b) : Continues a.identifier b.identifier :=
  ⟨h.choose, h.choose_spec.1⟩

/-- No identifier is longer than it is. -/
theorem not_overlaps_self (a : AppliedFilter) : ¬ a.Overlaps a := by
  rintro ⟨middle, hlong, _⟩
  have hlength := congrArg (fun s => s.toList.length) hlong
  simp at hlength

/-- Two ids are equal exactly when identifier and value are, or when one of the filters overlaps the
other. -/
theorem Joined.id_eq_iff (ha : a.Joined) (hb : b.Joined) :
    a.id = b.id ↔ a.key = b.key ∨ a.Overlaps b ∨ b.Overlaps a := by
  have hmiddle {s t u v : String} :
      (∃ middle, s = t ++ "_" ++ middle ∧ u = middle ++ "_" ++ v) ↔
        ∃ middle, s.toList = t.toList ++ '_' :: middle ∧ u.toList = middle ++ '_' :: v.toList := by
    constructor
    · rintro ⟨middle, rfl, rfl⟩
      exact ⟨middle.toList, by simp, by simp⟩
    · rintro ⟨middle, hs, hu⟩
      exact ⟨String.ofList middle, String.toList_injective (by simp [hs]),
        String.toList_injective (by simp [hu])⟩
  have hkey : a.key = b.key ↔
      a.identifier.toList = b.identifier.toList ∧ a.value.toList = b.value.toList := by
    simp only [key, Prod.mk.injEq, String.toList_inj]
  rw [hkey, Overlaps, Overlaps, hmiddle, hmiddle, ← append_cons_inj_iff, ha, hb, ← String.toList_inj]
  simp

end AppliedFilter

/-- When entries have distinct keys, their ids are distinct exactly when none overlaps another. -/
theorem nodup_ids_iff {applied : List AppliedFilter} (hj : ∀ a ∈ applied, a.Joined)
    (hn : (applied.map AppliedFilter.key).Nodup) :
    (applied.map AppliedFilter.id).Nodup ↔ ∀ a ∈ applied, ∀ b ∈ applied, ¬ a.Overlaps b := by
  rw [List.nodup_map_iff_inj_on hn.of_map]
  constructor
  · intro h a ha b hb hover
    have hid := ((hj a ha).id_eq_iff (hj b hb)).mpr (.inr (.inl hover))
    obtain rfl := h a ha b hb hid
    exact a.not_overlaps_self hover
  · intro h a ha b hb hid
    rcases ((hj a ha).id_eq_iff (hj b hb)).mp hid with hkey | hover | hover
    · exact List.inj_on_of_nodup_map hn ha hb hkey
    · exact absurd hover (h a ha b hb)
    · exact absurd hover (h b hb a ha)

namespace Domain

variable {d : Domain} {r : Request} {q : CompiledQuery} {response : EngineResponse}
  {results : Results}

/-- Every applied filter describes a value for some filter of the domain. -/
theorem exists_filter_of_mem_appliedFilters {a : AppliedFilter} (h : a ∈ d.appliedFilters r) :
    ∃ f ∈ d.filters, ∃ value, a = f.describeValue value := by
  rw [appliedFilters_eq_flatMap] at h
  obtain ⟨entry, _, ha⟩ := List.mem_flatMap.mp h
  unfold describeEntry at ha
  cases hf : d.filter? entry.1 with
  | none => simp [hf] at ha
  | some f =>
    obtain ⟨value, _, rfl⟩ := List.mem_map.mp (by simpa only [hf, Filter.describe] using ha)
    exact ⟨f, List.mem_of_find?_eq_some hf, value, rfl⟩

/-- The values described for one entry of a request are distinct. -/
theorem nodup_keys_describeEntry (d : Domain) (entry : String × Selection) :
    ((d.describeEntry entry).map AppliedFilter.key).Nodup := by
  unfold describeEntry
  cases d.filter? entry.1 with
  | none => exact List.nodup_nil
  | some f =>
    have hvalues : (f.effectiveValues entry.2).Nodup := by
      unfold Filter.effectiveValues
      split
      · exact entry.2.nodup.sublist (List.take_sublist 1 _)
      · exact entry.2.nodup
    have hkeys : (f.describe entry.2).map AppliedFilter.key =
        (f.effectiveValues entry.2).map fun value => (f.identifier, value) := List.map_map
    dsimp only
    rw [hkeys]
    exact hvalues.map fun _ _ h => (Prod.mk.inj h).2

/-- No value is listed twice under one identifier. -/
theorem nodup_keys_appliedFilters (d : Domain) (r : Request) :
    ((d.appliedFilters r).map AppliedFilter.key).Nodup := by
  rw [appliedFilters_eq_flatMap, List.map_flatMap, List.nodup_flatMap]
  refine ⟨fun entry _ => d.nodup_keys_describeEntry entry, ?_⟩
  have hdistinct : r.filters.entries.Pairwise fun entry other => entry.1 ≠ other.1 :=
    List.pairwise_map.mp r.filters.nodup
  refine hdistinct.imp fun {entry other} hne => ?_
  intro key hkey hother
  obtain ⟨a, ha, rfl⟩ := List.mem_map.mp hkey
  obtain ⟨b, hb, hab⟩ := List.mem_map.mp hother
  have hidentifier : b.identifier = a.identifier := congrArg Prod.fst hab
  rw [identifier_of_mem_describeEntry entry a ha,
    identifier_of_mem_describeEntry other b hb] at hidentifier
  exact hne hidentifier.symm

/-- Results list no value twice under one identifier, and they give two entries one id exactly when
one of these overlaps the other. So all ids are distinct for every request to a domain none of whose
filters has an identifier that goes on from that of another after an underscore. -/
theorem appliedIds_nodup_iff (h : d.decompile r q response = .ok results) :
    (results.appliedFilters.map AppliedFilter.key).Nodup ∧
    ((results.appliedFilters.map AppliedFilter.id).Nodup ↔
      ∀ a ∈ results.appliedFilters, ∀ b ∈ results.appliedFilters, ¬ a.Overlaps b) ∧
    ((∀ f ∈ d.filters, ∀ g ∈ d.filters, ¬ Continues f.identifier g.identifier) →
      (results.appliedFilters.map AppliedFilter.id).Nodup) := by
  rw [appliedFilters_of_decompile h]
  have hkeys := d.nodup_keys_appliedFilters r
  have hjoined : ∀ a ∈ d.appliedFilters r, a.Joined := by
    intro a ha
    obtain ⟨f, _, value, rfl⟩ := exists_filter_of_mem_appliedFilters ha
    rfl
  have hids := nodup_ids_iff hjoined hkeys
  refine ⟨hkeys, hids, fun hapart => hids.mpr fun a ha b hb hover => ?_⟩
  obtain ⟨f, hf, _, rfl⟩ := exists_filter_of_mem_appliedFilters ha
  obtain ⟨g, hg, _, rfl⟩ := exists_filter_of_mem_appliedFilters hb
  exact hapart f hf g hg hover.continues

theorem bookshop_ids_distinct : ∃ results, bookshop.decompile verseRequest
      (bookshop.queryFor verseRequest bookshop.defaultSort) verseAnswer = .ok results ∧
    results.appliedFilters.map AppliedFilter.id = ["genre_poem", "genre_play", "author_Sappho"] ∧
    (results.appliedFilters.map AppliedFilter.id).Nodup := by
  have hr : bookshop.decompile verseRequest
    (bookshop.queryFor verseRequest bookshop.defaultSort) verseAnswer = .ok _ := rfl
  have hapart : ∀ f ∈ bookshop.filters, ∀ g ∈ bookshop.filters,
      ¬ Continues f.identifier g.identifier := by decide
  exact ⟨_, hr, rfl, (appliedIds_nodup_iff hr).2.2 hapart⟩

/-- Articles with a tag, and with a level for it. -/
def articlesDraft : DomainDraft where
  index := "articles"
  returnedFields := ["title"]
  relevanceFields := ["title"]
  sortOptions := [⟨"best", "Best match", [⟨"_score", .descending⟩], true⟩]
  filters := [.term "tag" "tag" "Tag" true false,
    .term "tag_level" "tag_level" "Tag level" true false]
  facets := []

def articles : Domain := articlesDraft.frozen 0

/-- Two values under two identifiers. -/
def levelRequest : Request := (Request.select {} "tag" "level_high").select "tag_level" "high"

/-- The tag and the level are listed under one id. -/
theorem articles_share_id : articlesDraft.build = .ok articles ∧
    articles.compile levelRequest =
      .ok (articles.queryFor levelRequest articles.defaultSort) ∧
    ∃ results, articles.decompile levelRequest
        (articles.queryFor levelRequest articles.defaultSort) ⟨3, [], .empty⟩ = .ok results ∧
      results.appliedFilters.map AppliedFilter.key =
        [("tag", "level_high"), ("tag_level", "high")] ∧
      results.appliedFilters.map AppliedFilter.id = ["tag_level_high", "tag_level_high"] ∧
      ¬ (results.appliedFilters.map AppliedFilter.id).Nodup :=
  ⟨rfl, rfl, _, rfl, rfl, rfl, by decide⟩

end Domain

end FacetSearch
