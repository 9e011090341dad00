import FacetSearch.Decimal.Shortest
import FacetSearch.Proofs.NearestDouble
import Mathlib.Data.Nat.Cast.Order.Field
/-!
# The shortest decimal

The shortest decimal of a double lies near it: the multiples of a power of ten are tried from the
coarsest on, only one that lies near the double is taken, and with seventeen digits there always
is one.
-/

namespace FacetSearch.Decimal

/-! ## The width of a double -/

theorem digitCount_bounds {n : Nat} (hn : n ≠ 0) :
    10 ^ (digitCount n - 1) ≤ n ∧ n < 10 ^ digitCount n := by
  have hpos : 0 < digitCount n := Nat.length_toDigits_pos
  have hle {k : Nat} (hk : 0 < k) : digitCount n ≤ k ↔ n < 10 ^ k :=
    Nat.length_toDigits_le_iff (by decide) hk
  constructor
  · by_cases hone : digitCount n = 1
    · rw [hone]
      exact Nat.pos_of_ne_zero hn
    · rw [← not_lt, ← hle (by omega)]
      omega
  · exact (hle hpos).mp le_rfl

/-- A quotient rounded down to an integer. -/
theorem cast_div_bounds (n : Nat) {d : Nat} (hd : d ≠ 0) :
    ((n / d : Nat) : ℚ) ≤ n / d ∧ (n : ℚ) / d < (n / d : Nat) + 1 := by
  have hpos : (0 : ℚ) < d := by exact_mod_cast Nat.pos_of_ne_zero hd
  refine ⟨Nat.cast_div_le, ?_⟩
  rw [div_lt_iff₀ hpos]
  exact_mod_cast Nat.lt_mul_of_div_lt (Nat.lt_succ_self _) (Nat.pos_of_ne_zero hd)

namespace Binary

variable {b : Binary}

/-- The value with the decimal point moved, as a quotient of integers. -/
theorem value_mul_ten_pow (h : b.exponent ≤ 0) (places : Nat) : b.value * 10 ^ places =
    ((b.mantissa * 10 ^ places : Nat) : ℚ) / (2 ^ (-b.exponent).toNat : Nat) := by
  rw [value, zpow_eq_div two_ne_zero, Int.toNat_of_nonpos h]
  push_cast
  ring

/-- The width of a value without binary places after the point. -/
theorem wholeWidth_bounds (h : 0 ≤ b.exponent) (hpos : b.mantissa ≠ 0) :
    10 ^ ((digitCount (b.mantissa <<< b.exponent.toNat) : ℤ) - 1) ≤ b.value ∧
      b.value < 10 ^ (digitCount (b.mantissa <<< b.exponent.toNat) : ℤ) := by
  have hwhole : b.value = (b.mantissa <<< b.exponent.toNat : Nat) := by
    rw [value, Nat.shiftLeft_eq]
    push_cast
    rw [← zpow_natCast, Int.toNat_of_nonneg h]
  have hne : b.mantissa <<< b.exponent.toNat ≠ 0 := by simpa using hpos
  obtain ⟨hlow, hhigh⟩ := digitCount_bounds hne
  have hcount : 0 < digitCount (b.mantissa <<< b.exponent.toNat) := Nat.length_toDigits_pos
  rw [hwhole]
  constructor
  · rw [← Int.natCast_one, ← Int.natCast_sub hcount, zpow_natCast]
    exact_mod_cast hlow
  · exact_mod_cast hhigh

/-- The width of a value with binary places after the point, found with the decimal point moved so
far that the value is not less than one. -/
theorem fractionWidth_bounds {places : Nat} (hpos : b.mantissa ≠ 0) (h : b.exponent ≤ 0)
    (hplaces : (-b.exponent).toNat ≤ 3 * places) :
    10 ^ (b.fractionWidth places - 1) ≤ b.value ∧ b.value < 10 ^ b.fractionWidth places := by
  have htwo : 2 ^ (-b.exponent).toNat ≠ 0 := (Nat.pow_pos two_pos).ne'
  have hlarge : 2 ^ (-b.exponent).toNat ≤ b.mantissa * 10 ^ places :=
    calc 2 ^ (-b.exponent).toNat ≤ 2 ^ (3 * places) := Nat.pow_le_pow_right (by decide) hplaces
      _ ≤ 10 ^ places := two_pow_le_ten_pow places
      _ ≤ b.mantissa * 10 ^ places := Nat.le_mul_of_pos_left _ (Nat.pos_of_ne_zero hpos)
  have hne : b.mantissa * 10 ^ places / 2 ^ (-b.exponent).toNat ≠ 0 :=
    (Nat.div_pos hlarge (Nat.pos_of_ne_zero htwo)).ne'
  obtain ⟨hlow, hhigh⟩ := digitCount_bounds hne
  obtain ⟨hdown, hup⟩ := cast_div_bounds (b.mantissa * 10 ^ places) htwo
  rw [← value_mul_ten_pow h] at hdown hup
  rw [fractionWidth, Nat.shiftRight_eq_div_pow, Nat.pow_eq]
  generalize b.mantissa * 10 ^ places / 2 ^ (-b.exponent).toNat = whole at *
  have hcount : 0 < digitCount whole := Nat.length_toDigits_pos
  have hten : (10 : ℚ) ≠ 0 := by norm_num
  constructor
  · have hexponent : (digitCount whole : ℤ) - places - 1 = (digitCount whole - 1 : Nat) - places := by
      omega
    rw [hexponent, zpow_sub₀ hten, zpow_natCast, zpow_natCast, div_le_iff₀ (by positivity)]
    exact le_trans (by exact_mod_cast hlow) hdown
  · rw [zpow_sub₀ hten, zpow_natCast, zpow_natCast, lt_div_iff₀ (by positivity)]
    exact hup.trans_le (by exact_mod_cast hhigh)

/-- The value lies below the power of ten of its width, and not below the one before. -/
theorem decimalWidth_bounds (hb : b.Canonical) (hpos : b.mantissa ≠ 0) :
    10 ^ (b.decimalWidth - 1) ≤ b.value ∧ b.value < 10 ^ b.decimalWidth := by
  have hleast := hb.least
  unfold decimalWidth
  split
  · next h => exact wholeWidth_bounds h hpos
  · next h => exact fractionWidth_bounds hpos (not_le.mp h).le (by omega)

/-! ## Multiples of a power of ten -/

/-- The integers that are compared are the numbers of binary last places, times a common unit. -/
theorem exists_unit (b : Binary) (k : ℤ) : ∃ u : ℚ, 0 < u ∧
    (b.grid k : ℚ) = 10 ^ k / 2 ^ b.exponent * u ∧ (b.quarter k : ℚ) = u / 4 := by
  have hneg : (-(b.exponent - 2)).toNat = (2 - b.exponent).toNat := by omega
  have hulp : (2 : ℚ) ^ b.exponent =
      4 * (2 ^ (b.exponent - 2).toNat / 2 ^ (2 - b.exponent).toNat) := by
    rw [← hneg, ← zpow_eq_div two_ne_zero, zpow_sub₀ two_ne_zero]
    norm_num
    ring
  have hten : (10 : ℚ) ^ k = 10 ^ k.toNat / 10 ^ (-k).toNat := zpow_eq_div (by norm_num) k
  refine ⟨4 * 10 ^ (-k).toNat * 2 ^ (b.exponent - 2).toNat, by positivity, ?_, ?_⟩
  · rw [grid, hten, hulp, Nat.pow_eq, Nat.pow_eq]
    push_cast
    field_simp
  · rw [quarter, Nat.pow_eq, Nat.pow_eq]
    push_cast
    ring

/-- The decimals that are taken to read back are those near the double. -/
theorem readsBack_iff (hpos : b.mantissa ≠ 0) {k : ℤ} {c : Nat} :
    b.readsBack k c = true ↔ b.Near (c * 10 ^ k) := by
  obtain ⟨u, hu, hgrid, hquarter⟩ := b.exists_unit k
  have hmultiple : ((c * b.grid k : Nat) : ℚ) = c * 10 ^ k / 2 ^ b.exponent * u := by
    push_cast
    rw [hgrid]
    ring
  have hlow : (((4 * b.mantissa - if b.AtPowerOfTwo then 1 else 2) * b.quarter k : Nat) : ℚ) =
      (b.mantissa - b.reach) * u := by
    have hone : 1 ≤ 4 * b.mantissa := by omega
    have htwo : 2 ≤ 4 * b.mantissa := by omega
    unfold reach
    split
    · rw [Nat.cast_mul, Nat.cast_sub hone, hquarter]
      push_cast
      ring
    · rw [Nat.cast_mul, Nat.cast_sub htwo, hquarter]
      push_cast
      ring
  have hhigh : (((4 * b.mantissa + 2) * b.quarter k : Nat) : ℚ) = (b.mantissa + 1 / 2) * u := by
    push_cast
    rw [hquarter]
    ring
  have hle {m n : Nat} {p q : ℚ} (hm : (m : ℚ) = p * u) (hn : (n : ℚ) = q * u) :
      m ≤ n ↔ p ≤ q := by
    rw [← Nat.cast_le (α := ℚ), hm, hn, mul_le_mul_iff_of_pos_right hu]
  have hlt {m n : Nat} {p q : ℚ} (hm : (m : ℚ) = p * u) (hn : (n : ℚ) = q * u) :
      m < n ↔ p < q := by
    rw [← Nat.cast_lt (α := ℚ), hm, hn, mul_lt_mul_iff_of_pos_right hu]
  unfold readsBack
  dsimp only
  split
  · next heven =>
    rw [Bool.and_eq_true, decide_eq_true_iff, decide_eq_true_iff, hle hlow hmultiple,
      hle hmultiple hhigh]
    constructor
    · rintro ⟨hl, hh⟩
      exact ⟨hl, hh, fun hodd => by omega⟩
    · intro h
      exact ⟨h.low, h.high⟩
  · next hodd =>
    rw [Bool.and_eq_true, decide_eq_true_iff, decide_eq_true_iff, hlt hlow hmultiple,
      hlt hmultiple hhigh]
    constructor
    · rintro ⟨hl, hh⟩
      exact ⟨hl.le, hh.le, fun _ => ⟨hl, hh⟩⟩
    · intro h
      exact h.odd (by omega)

/-- What is found on the grid lies near the double. -/
theorem near_of_onGrid? {tie : Tie} {k : ℤ} {c : Nat} (hpos : b.mantissa ≠ 0)
    (h : b.onGrid? tie k = some c) : b.Near (c * 10 ^ k) := by
  rw [← readsBack_iff hpos]
  unfold onGrid? at h
  dsimp only at h
  generalize 4 * b.mantissa * b.quarter k / b.grid k = below at h
  split at h
  · next hbelow habove =>
    split at h
    · obtain rfl := Option.some.inj h
      exact hbelow
    split at h
    · obtain rfl := Option.some.inj h
      exact habove
    cases tie with
    | up =>
      obtain rfl := Option.some.inj h
      exact habove
    | toEven =>
      obtain rfl := Option.some.inj h
      rcases Nat.mod_two_eq_zero_or_one below with heven | hodd
      · rwa [heven]
      · rwa [hodd]
  · next hbelow _ =>
    obtain rfl := Option.some.inj h
    exact hbelow
  · next _ habove =>
    obtain rfl := Option.some.inj h
    exact habove
  · cases h

/-- The multiples of the spacing of a grid on both sides of the double. -/
theorem grid_neighbours (b : Binary) (k : ℤ) :
    ((4 * b.mantissa * b.quarter k / b.grid k : Nat) : ℚ) * (10 ^ k / 2 ^ b.exponent) ≤
        b.mantissa ∧
      (b.mantissa : ℚ) < ((4 * b.mantissa * b.quarter k / b.grid k : Nat) + 1) *
        (10 ^ k / 2 ^ b.exponent) := by
  obtain ⟨u, hu, hgrid, hquarter⟩ := b.exists_unit k
  have hpos : 0 < b.grid k := by
    have : (0 : ℚ) < b.grid k := by rw [hgrid]; positivity
    exact_mod_cast this
  have hvalue : ((4 * b.mantissa * b.quarter k : Nat) : ℚ) = b.mantissa * u := by
    push_cast
    rw [hquarter]
    ring
  have hquotient : ((4 * b.mantissa * b.quarter k : Nat) : ℚ) / b.grid k =
      b.mantissa / (10 ^ k / 2 ^ b.exponent) := by
    rw [hvalue, hgrid]
    field_simp
  obtain ⟨hdown, hup⟩ := cast_div_bounds (4 * b.mantissa * b.quarter k) hpos.ne'
  rw [hquotient] at hdown hup
  exact ⟨(le_div_iff₀ (by positivity)).mp hdown, (div_lt_iff₀ (by positivity)).mp hup⟩

/-- Of the two neighbours on a grid that is fine enough, one lies near the double. -/
theorem near_neighbour {c : Nat} {k : ℤ} (hb : b.Canonical) (hfine : 10 ^ k * 10 ^ 16 ≤ b.value)
    (hdown : (c : ℚ) * (10 ^ k / 2 ^ b.exponent) ≤ b.mantissa)
    (hup : (b.mantissa : ℚ) < (c + 1) * (10 ^ k / 2 ^ b.exponent)) :
    b.Near (c * 10 ^ k) ∨ b.Near ((c + 1 : Nat) * 10 ^ k) := by
  have hstep : (10 : ℚ) ^ k / 2 ^ b.exponent * 10 ^ 16 ≤ b.mantissa := by
    rw [div_mul_eq_mul_div, div_le_iff₀ (by positivity)]
    exact hfine
  have hbelow : (c : ℚ) * 10 ^ k / 2 ^ b.exponent = c * (10 ^ k / 2 ^ b.exponent) :=
    mul_div_assoc ..
  have habove : ((c + 1 : Nat) : ℚ) * 10 ^ k / 2 ^ b.exponent =
      (c + 1) * (10 ^ k / 2 ^ b.exponent) := by
    push_cast
    exact mul_div_assoc ..
  by_cases hpower : b.AtPowerOfTwo
  · -- the spacing is less than half a last place
    right
    have hmantissa : (b.mantissa : ℚ) = 2 ^ 52 := by
      rw [hpower.1]
      norm_num [hiddenBit]
    have hreach : b.reach = 1 / 4 := if_pos hpower
    apply Near.of_lt
    · rw [habove, hreach]
      linarith
    · rw [habove]
      linarith
  · -- the spacing is less than a last place
    have hfits : (b.mantissa : ℚ) + 1 ≤ 2 ^ 53 := by exact_mod_cast hb.fits
    have hreach : b.reach = 1 / 2 := if_neg hpower
    by_cases hhalf : (c + 1 : ℚ) * (10 ^ k / 2 ^ b.exponent) < b.mantissa + 1 / 2
    · right
      apply Near.of_lt
      · rw [habove, hreach]
        linarith
      · rw [habove]
        exact hhalf
    · left
      apply Near.of_lt
      · rw [hbelow, hreach]
        linarith
      · rw [hbelow]
        linarith

/-- When one of the two neighbours on a grid reads back, something is found. -/
theorem exists_onGrid?_of_readsBack {tie : Tie} {k : ℤ} {below : Nat}
    (hbelow : 4 * b.mantissa * b.quarter k / b.grid k = below)
    (h : b.readsBack k below = true ∨ b.readsBack k (below + 1) = true) :
    ∃ c, b.onGrid? tie k = some c := by
  unfold onGrid?
  dsimp only
  rw [hbelow]
  cases hdown : b.readsBack k below <;> cases hup : b.readsBack k (below + 1)
  · simp [hdown, hup] at h
  · exact ⟨_, rfl⟩
  · exact ⟨_, rfl⟩
  · dsimp only
    split
    · exact ⟨_, rfl⟩
    split
    · exact ⟨_, rfl⟩
    · cases tie <;> exact ⟨_, rfl⟩

/-- On a grid that is fine enough something is found. -/
theorem exists_onGrid? {tie : Tie} {k : ℤ} (hb : b.Canonical) (hpos : b.mantissa ≠ 0)
    (hfine : 10 ^ k * 10 ^ 16 ≤ b.value) : ∃ c, b.onGrid? tie k = some c := by
  obtain ⟨hdown, hup⟩ := b.grid_neighbours k
  have hnear := near_neighbour hb hfine hdown hup
  rw [← readsBack_iff hpos, ← readsBack_iff hpos] at hnear
  exact exists_onGrid?_of_readsBack rfl hnear

/-! ## The shortest decimal -/

end Binary

/-- In a search along a range the first place counts, so it is none after any that would do. -/
theorem exists_le_of_findSome?_range {β : Type} {f : Nat → Option β} {n i : Nat} {b : β}
    (hi : i < n) (hf : f i = some b) :
    ∃ j ≤ i, ∃ a, f j = some a ∧ (List.range n).findSome? f = some a := by
  cases h : (List.range n).findSome? f with
  | none =>
    have hnone := List.findSome?_eq_none_iff.mp h i (List.mem_range.mpr hi)
    rw [hf] at hnone
    cases hnone
  | some a =>
    obtain ⟨before, j, after, hsplit, hj, hnone⟩ := List.findSome?_eq_some_iff.mp h
    refine ⟨j, ?_, a, hj, rfl⟩
    have hmem : i ∈ before ++ j :: after := hsplit ▸ List.mem_range.mpr hi
    have hsorted : (before ++ j :: after).Pairwise (· < ·) := hsplit ▸ List.pairwise_lt_range
    rcases List.mem_append.mp hmem with hbefore | hrest
    · rw [hnone i hbefore] at hf
      cases hf
    rcases List.mem_cons.mp hrest with rfl | hafter
    · exact le_rfl
    · have hlater := List.pairwise_append.mp hsorted
      exact (List.rel_of_pairwise_cons hlater.2.1 hafter).le

/-- The shortest decimal stands on the first grid on which something is found. -/
theorem Binary.exists_shortest {b : Binary} {tie : Tie} {i c : Nat} (hi : i < 17)
    (hc : b.onGrid? tie (b.decimalWidth - (i + 1 : Nat)) = some c) :
    ∃ j ≤ i, ∃ d, b.onGrid? tie (b.decimalWidth - (j + 1 : Nat)) = some d ∧
      b.shortest tie = Scaled.normalize 20 ⟨d, b.decimalWidth - (j + 1 : Nat)⟩ := by
  obtain ⟨j, hj, s, hs, hfound⟩ := exists_le_of_findSome?_range (f := fun n =>
    (b.onGrid? tie (b.decimalWidth - (n + 1 : Nat))).map
      fun c => Scaled.mk c (b.decimalWidth - (n + 1 : Nat))) hi (congrArg (Option.map _) hc)
  obtain ⟨d, hd, rfl⟩ := Option.map_eq_some_iff.mp hs
  refine ⟨j, hj, d, hd, ?_⟩
  unfold shortest
  dsimp only
  rw [hfound]
  rfl

/-- The number that digits with an exponent stand for. -/
def Scaled.value (s : Scaled) : ℚ := s.digits * 10 ^ s.exponent

theorem Scaled.value_normalize (fuel : Nat) (s : Scaled) :
    (Scaled.normalize fuel s).value = s.value := by
  induction fuel generalizing s with
  | zero => rfl
  | succ fuel ih =>
    unfold normalize
    split
    · next h =>
      have hdigits : (s.digits : ℚ) = (s.digits / 10 : Nat) * 10 := by
        exact_mod_cast (Nat.div_mul_cancel (Nat.dvd_of_mod_eq_zero h.2)).symm
      rw [ih, value, value, zpow_add_one₀ (by norm_num), hdigits]
      ring
    · rfl

/-- The shortest decimal lies near the double. -/
theorem Binary.near_shortest {b : Binary} (tie : Tie) (hb : b.Canonical) (hpos : b.mantissa ≠ 0) :
    b.Near (b.shortest tie).value := by
  have hwidth : (10 : ℚ) ^ (b.decimalWidth - (16 + 1 : Nat)) * 10 ^ 16 ≤ b.value := by
    refine le_of_eq_of_le ?_ (decimalWidth_bounds hb hpos).1
    rw [← zpow_natCast, ← zpow_add₀ (by norm_num)]
    congr 1
    omega
  obtain ⟨c, hc⟩ : ∃ c, b.onGrid? tie (b.decimalWidth - (16 + 1 : Nat)) = some c :=
    exists_onGrid? hb hpos hwidth
  obtain ⟨j, _, d, hd, heq⟩ := exists_shortest (by decide) hc
  rw [heq, Scaled.value_normalize]
  exact near_of_onGrid? hpos hd

end FacetSearch.Decimal
