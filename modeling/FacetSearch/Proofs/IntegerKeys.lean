import FacetSearch.Proofs.EngineAnswer
import FacetSearch.Proofs.OptionTotal
import FacetSearch.Proofs.WholeText
/-!
# Integer keys

A terms aggregation over an integer field has integers for keys. They are read as doubles, so up to
2^53 an option has the integer for its value, and beyond it has the double nearest to the integer.
Main statement: the options for integer keys have distinct values exactly when no two of the keys
have the same nearest double.
-/

namespace FacetSearch

/-- A count for an integer of 64 bits, with or without a sign. -/
structure IntegerCount where
  key : ℤ
  count : UInt64
  range : Json.isInt64 key = true ∨ Json.isUInt64 key = true

namespace IntegerCount

theorem natAbs_lt (c : IntegerCount) : c.key.natAbs < 2 ^ 64 := by
  have hrange := c.range
  simp only [Json.isInt64, Json.isUInt64, Bool.and_eq_true, decide_eq_true_iff] at hrange
  omega

/-- The double nearest to the key. -/
def double (c : IntegerCount) : Float := Json.floatOfInt c.key

/-- The bucket that is read for the count. -/
def bucket (c : IntegerCount) : Bucket := ⟨Decimal.display c.double, c.count⟩

theorem readDouble_key (c : IntegerCount) :
    Decimal.readDouble c.bucket.key.toList = .ok c.double :=
  Decimal.readDouble_display_floatOfInt c.natAbs_lt

theorem bucket_key_inj {c c' : IntegerCount} :
    c.bucket.key = c'.bucket.key ↔ c.double = c'.double := by
  refine ⟨fun h => ?_, fun h => congrArg Decimal.display h⟩
  have hread := c.readDouble_key
  rw [h, c'.readDouble_key] at hread
  exact (Except.ok.inj hread).symm

theorem bucket_key_eq {c : IntegerCount} (h : c.key.natAbs ≤ 2 ^ 53) :
    c.bucket.key = toString c.key :=
  Decimal.display_floatOfInt h

end IntegerCount

/-- The bucket in an answer has the count, and the integer for its key. -/
structure Json.Counts (item : Json) (c : IntegerCount) : Prop where
  key : item.get? "key" = some (.int c.key)
  count : (item.get? "doc_count").bind Json.uint64? = some c.count

theorem readBucket_of_counts {item : Json} {c : IntegerCount} (h : item.Counts c) :
    readBucket item = .ok c.bucket := by
  rw [readBucket, h.count, h.key]
  rfl

/-- What the option for an integer tells. -/
structure FacetOption.Offers (o : FacetOption) (c : IntegerCount) : Prop where
  count : o.count = c.count
  /-- The value and the integer have the same nearest double. -/
  nearest : Decimal.readDouble o.value.toList = Decimal.readDouble (toString c.key).toList
  /-- Up to 2^53 the value is the integer. -/
  exact : c.key.natAbs ≤ 2 ^ 53 → o.value = toString c.key

/-- Two ways to tell the items of a list apart give as many different ones. -/
theorem nodup_map_iff_of_forall {α β γ : Type} {f : α → β} {g : α → γ} {items : List α}
    (h : ∀ a ∈ items, ∀ b ∈ items, f a = f b ↔ g a = g b) :
    (items.map f).Nodup ↔ (items.map g).Nodup := by
  rw [List.nodup_iff_pairwise_ne, List.nodup_iff_pairwise_ne, List.pairwise_map, List.pairwise_map]
  exact List.Pairwise.iff_of_mem fun ha hb => not_congr (h _ ha _ hb)

/-- The option for a count, by the values that are selected. -/
def IntegerCount.option (selected : List String) (c : IntegerCount) : FacetOption :=
  ⟨c.bucket.key, c.bucket.key, c.count, selected.contains c.bucket.key⟩

theorem IntegerCount.offers_option (selected : List String) (c : IntegerCount) :
    (c.option selected).Offers c where
  count := rfl
  nearest := c.readDouble_key.trans (Decimal.readDouble_toString c.natAbs_lt).symm
  exact := bucket_key_eq

namespace Domain

variable {d : Domain} {facet : Facet} {f : Filter}

theorem options_integers {size : UInt64} (hk : facet.kind = .refinement size)
    (counts : List IntegerCount) (selected : List String) : facet.options (counts.map IntegerCount.bucket) selected =
      .ok (counts.map (IntegerCount.option selected)) := by
  rw [Facet.options, mapM_eq_ok_iff, List.forall₂_map_left_iff, List.forall₂_map_right_iff,
    List.forall₂_same]
  intro c _
  rw [Facet.option, Facet.optionValue, hk]
  rfl

/-- Buckets with integer keys are read and become options of a refinement facet. Each option has the
count of its bucket and a value that is read as the double nearest to the integer; up to 2^53 the
value is the numeral of the integer. So two options have the same value exactly when the nearest
double of their keys is the same. What a client that chooses an option asks for is its value. -/
theorem integerKeys_options (hf : d.RefinedBy facet f) {items : List Json}
    {counts : List IntegerCount} (h : List.Forall₂ Json.Counts items counts)
    (selected : List String) : ∃ buckets options, items.mapM readBucket = .ok buckets ∧
      facet.options buckets selected = .ok options ∧
      List.Forall₂ FacetOption.Offers options counts ∧
      ((options.map FacetOption.value).Nodup ↔ (counts.map IntegerCount.double).Nodup) ∧
      ((∀ c ∈ counts, c.key.natAbs ≤ 2 ^ 53) →
        ((options.map FacetOption.value).Nodup ↔ (counts.map IntegerCount.key).Nodup)) ∧
      ∀ o ∈ options, ∀ r : Request, fragment (r.choose f.identifier o.value) f =
        .ok (some (.term facet.field o.value)) := by
  obtain ⟨size, hk⟩ := hf.kind
  refine ⟨_, _, ?_, options_integers hk counts selected, ?_, ?_, fun hsmall => ?_, fun o _ r => ?_⟩
  · rw [mapM_eq_ok_iff, List.forall₂_map_right_iff]
    exact h.imp fun _ _ => readBucket_of_counts
  · rw [List.forall₂_map_left_iff, List.forall₂_same]
    exact fun c _ => c.offers_option selected
  · rw [List.map_map]
    exact nodup_map_iff_of_forall fun _ _ _ _ => IntegerCount.bucket_key_inj
  · rw [List.map_map]
    refine nodup_map_iff_of_forall fun c hc c' hc' => ?_
    have hkeys : c.bucket.key = c'.bucket.key ↔ c.key = c'.key := by
      rw [IntegerCount.bucket_key_eq (hsmall c hc), IntegerCount.bucket_key_eq (hsmall c' hc')]
      exact Int.repr_inj
    exact hkeys
  · exact fragment_choose hf.term r o.value

/-- Sales by the identifier of a buyer: a sign, zero and the largest key that is always kept. -/
def saleCounts : List IntegerCount :=
  [⟨-5, 3, by decide⟩, ⟨0, 1, by decide⟩, ⟨9007199254740992, 2, by decide⟩]

/-- A bucket with an integer key, as the engine writes it. -/
def integerItem (c : IntegerCount) : Json :=
  .obj [("key", .int c.key), ("doc_count", .ofUInt64 c.count)]

theorem counts_integerItem (c : IntegerCount) : (integerItem c).Counts c where
  key := rfl
  count := by
    have h : (integerItem c).get? "doc_count" = some (.ofUInt64 c.count) := rfl
    rw [Json.bind_get? h, Json.uint64?_ofUInt64]

/-- Three keys are three options. -/
theorem bookshop_sale_options : ∃ buckets options,
    (saleCounts.map integerItem).mapM readBucket = .ok buckets ∧
    (Facet.mk "genres" "genre" "Genre" true (some "genre") (.refinement 10)).options buckets [] =
      .ok options ∧ (options.map FacetOption.value).Nodup := by
  have hf : bookshop.RefinedBy ⟨"genres", "genre", "Genre", true, some "genre", .refinement 10⟩
      (.term "genre" "genre" "Genre" true true) := ⟨⟨10, rfl⟩, rfl, _, _, _, _, rfl⟩
  have hitems : List.Forall₂ Json.Counts (saleCounts.map integerItem) saleCounts := by
    rw [List.forall₂_map_left_iff, List.forall₂_same]
    exact fun c _ => counts_integerItem c
  obtain ⟨buckets, options, hread, hoptions, _, _, hdistinct, _⟩ :=
    integerKeys_options hf hitems []
  exact ⟨buckets, options, hread, hoptions, (hdistinct (by decide)).mpr (by decide)⟩

/-- Beyond 2^53 there are keys that differ by one and are read as the same text. -/
theorem integerKeys_share_text :
    ([⟨9007199254740992, 1, by decide⟩, ⟨9007199254740993, 2, by decide⟩].map integerItem).mapM
      readBucket = .ok [⟨"9007199254740992", 1⟩, ⟨"9007199254740992", 2⟩] := by
  have hlow : Decimal.display (Json.floatOfInt 9007199254740992) = "9007199254740992" := by
    decide +kernel
  have hhigh : Decimal.display (Json.floatOfInt 9007199254740993) = "9007199254740992" := by
    decide +kernel
  have hread (c : IntegerCount) : readBucket (integerItem c) = .ok c.bucket :=
    readBucket_of_counts (counts_integerItem c)
  rw [List.map_cons, List.map_cons, List.mapM_cons, List.mapM_cons, hread, hread]
  simp only [IntegerCount.bucket, IntegerCount.double, hlow, hhigh]
  rfl

end Domain

end FacetSearch
