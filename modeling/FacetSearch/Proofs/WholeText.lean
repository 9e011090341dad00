import FacetSearch.Proofs.IntegerDouble
/-!
# Texts of integers that doubles hold

An integer below 2^53 is a double itself, and the doubles beside it are at most one away. So the
shortest decimal of the double is the integer. Main statement: up to 2^53 the text of the double
of an integer is the numeral of the integer.
-/

namespace FacetSearch.Decimal

namespace Binary

variable {b : Binary}

theorem ofBits_bits (hlow : 2 ^ 52 ≤ b.mantissa) (hhigh : b.mantissa < 2 ^ 53)
    (hleast : -1074 ≤ b.exponent) (hfinite : b.exponent ≤ 971) : ofBits b.bits = b := by
  have hbiased : b.bits / hiddenBit % 2048 = (b.exponent + 1075).toNat := by
    rw [bits, Nat.shiftLeft_eq, hiddenBit]
    omega
  have hfraction : hiddenBit + b.bits % hiddenBit = b.mantissa := by
    rw [bits, Nat.shiftLeft_eq, hiddenBit]
    omega
  unfold ofBits
  rw [hbiased, if_neg (by omega), hfraction]
  congr 1
  omega

/-- The magnitude is found to be whole exactly when its value is. -/
theorem whole?_eq_some_iff {n : Nat} : b.whole? = some n ↔ (n : ℚ) = b.value := by
  refine ⟨whole?_value, fun h => ?_⟩
  have hzero : (2 : ℚ) ^ (-b.exponent).toNat ≠ 0 := by positivity
  rw [value, zpow_eq_div two_ne_zero] at h
  unfold whole?
  split
  · next hexp =>
    rw [Int.toNat_of_nonpos (show -b.exponent ≤ 0 by omega), pow_zero, div_one] at h
    rw [Nat.shiftLeft_eq]
    congr 1
    exact_mod_cast h.symm
  · next hexp =>
    rw [Int.toNat_of_nonpos (show b.exponent ≤ 0 by omega), pow_zero, mul_one_div,
      eq_div_iff hzero] at h
    have hmantissa : b.mantissa = n * 2 ^ (-b.exponent).toNat := by exact_mod_cast h.symm
    have hpos : 0 < 2 ^ (-b.exponent).toNat := Nat.pow_pos two_pos
    dsimp only
    rw [Nat.pow_eq, hmantissa, Nat.mul_mod_left, if_pos rfl, Nat.mul_div_cancel _ hpos]

end Binary

/-! ## Integers below 2^53 -/

section

variable {m : Nat} (hm : m ≠ 0) (hlt : m < 2 ^ 53)

include hm hlt

theorem place_nonpos : place m ≤ 0 := by
  have hlog : m.log2 < 53 := (Nat.log2_lt hm).mpr hlt
  rw [place]
  omega

theorem rounded_mantissa : (rounded m).mantissa = m * 2 ^ (-place m).toNat := by
  have hunit : (place m).toNat = 0 := Int.toNat_of_nonpos (place_nonpos hm hlt)
  rw [rounded, hunit]
  simp [roundHalfEven, Nat.mod_one, Nat.shiftLeft_eq]

/-- The double of the integer holds it. -/
theorem value_rounded : (rounded m).value = m := by
  have hexponent : (rounded m).exponent = place m := rfl
  have hzero : (2 : ℚ) ^ (-place m).toNat ≠ 0 := by positivity
  rw [Binary.value, rounded_mantissa hm hlt, hexponent, zpow_eq_div two_ne_zero,
    Int.toNat_of_nonpos (place_nonpos hm hlt)]
  push_cast
  field_simp

theorem ofBits_rounded : Binary.ofBits (rounded m).bits = rounded m := by
  have hlog : m.log2 < 53 := (Nat.log2_lt hm).mpr hlt
  have hexponent : (rounded m).exponent = m.log2 - 52 := rfl
  obtain ⟨hlow, _⟩ := rounded_mantissa_bounds hm
  refine Binary.ofBits_bits hlow ?_ (by omega) (by omega)
  have hscaled := (scaled_bounds hm).2
  rw [rounded_mantissa hm hlt, ← Nat.shiftLeft_eq]
  rw [Int.toNat_of_nonpos (place_nonpos hm hlt), hiddenBit] at hscaled
  simpa using hscaled

end

/-! ## The shortest decimal of an integer -/

theorem Scaled.exponent_le_normalize (fuel : Nat) (s : Scaled) :
    s.exponent ≤ (Scaled.normalize fuel s).exponent := by
  induction fuel generalizing s with
  | zero => exact le_rfl
  | succ fuel ih =>
    unfold normalize
    split
    · exact (Int.le_add_one le_rfl).trans (ih _)
    · exact le_rfl

namespace Binary

variable {b : Binary} {m : Nat} (hvalue : b.value = m)

include hvalue

/-- Of all integers only the double itself lies near it. -/
theorem eq_of_near (he : b.exponent ≤ 0) {c : Nat} (h : b.Near c) : c = m := by
  have hulp : (0 : ℚ) < 2 ^ b.exponent := by positivity
  have hle : (2 : ℚ) ^ b.exponent ≤ 1 := zpow_le_one_of_nonpos₀ (by norm_num) he
  obtain ⟨hlow, hhigh⟩ := abs_le.mp h.dist_le
  have hcancel : (c : ℚ) / 2 ^ b.exponent * 2 ^ b.exponent = c := div_mul_cancel₀ _ hulp.ne'
  rw [value] at hvalue
  have hbelow : (m : ℚ) < c + 1 := by nlinarith
  have habove : (c : ℚ) < m + 1 := by nlinarith
  have hbelow' : m < c + 1 := by exact_mod_cast hbelow
  have habove' : c < m + 1 := by exact_mod_cast habove
  omega

/-- Among the integers one is found to read back. -/
theorem exists_onGrid?_zero (tie : Tie) (hpos : b.mantissa ≠ 0) :
    ∃ c, b.onGrid? tie 0 = some c := by
  obtain ⟨hdown, hup⟩ := b.grid_neighbours 0
  have hulp : (0 : ℚ) < 2 ^ b.exponent := by positivity
  have hbelow : 4 * b.mantissa * b.quarter 0 / b.grid 0 = m := by
    rw [zpow_zero, mul_one_div, div_le_iff₀ hulp] at hdown
    rw [zpow_zero, mul_one_div, lt_div_iff₀ hulp] at hup
    rw [value] at hvalue
    rw [hvalue] at hdown hup
    have hdown' : 4 * b.mantissa * b.quarter 0 / b.grid 0 ≤ m := by exact_mod_cast hdown
    have hup' : m < 4 * b.mantissa * b.quarter 0 / b.grid 0 + 1 := by exact_mod_cast hup
    omega
  have hreads : b.readsBack 0 m = true := by
    rw [readsBack_iff hpos, zpow_zero, mul_one, ← hvalue]
    exact b.near_value
  exact exists_onGrid?_of_readsBack hbelow (.inl hreads)

/-- The shortest decimal of an integer is the integer, with zeros taken off its end. -/
theorem shortest_whole (tie : Tie) (hb : b.Canonical) (hpos : b.mantissa ≠ 0) (he : b.exponent ≤ 0)
    (hlt : m < 10 ^ 16) : (b.shortest tie).value = m ∧ 0 ≤ (b.shortest tie).exponent := by
  obtain ⟨hlow, hhigh⟩ := decimalWidth_bounds hb hpos
  have hm : (1 : ℚ) ≤ m := by
    have hne : m ≠ 0 := by
      rintro rfl
      exact value_ne_zero hpos (hvalue.trans Nat.cast_zero)
    exact_mod_cast Nat.pos_of_ne_zero hne
  rw [hvalue] at hlow hhigh
  have hwide : 0 < b.decimalWidth := by
    by_contra hle
    have : (10 : ℚ) ^ b.decimalWidth ≤ 1 := zpow_le_one_of_nonpos₀ (by norm_num) (not_lt.mp hle)
    linarith
  have hnarrow : b.decimalWidth ≤ 16 := by
    have hlt' : (m : ℚ) < 10 ^ (16 : ℤ) := by exact_mod_cast hlt
    have := (zpow_lt_zpow_iff_right₀ (by norm_num : (1 : ℚ) < 10)).mp (hlow.trans_lt hlt')
    omega
  -- the place of the integers among the grids that are tried
  obtain ⟨i, hi, hgrid⟩ : ∃ i < 17, b.decimalWidth - (i + 1 : Nat) = 0 :=
    ⟨(b.decimalWidth - 1).toNat, by omega, by omega⟩
  obtain ⟨c, hc⟩ := exists_onGrid?_zero hvalue tie hpos
  rw [← hgrid] at hc
  obtain ⟨j, hj, d, hd, heq⟩ := exists_shortest hi hc
  obtain ⟨k, hk⟩ := Int.eq_ofNat_of_zero_le (show 0 ≤ b.decimalWidth - (j + 1 : Nat) by omega)
  have hnear := near_of_onGrid? hpos hd
  rw [heq, Scaled.value_normalize, Scaled.value]
  rw [hk, zpow_natCast] at hnear ⊢
  have hinteger : b.Near (d * 10 ^ k : Nat) := by exact_mod_cast hnear
  refine ⟨?_, (Int.natCast_nonneg k).trans (Scaled.exponent_le_normalize 20 ⟨d, k⟩)⟩
  exact_mod_cast eq_of_near hvalue he hinteger

end Binary

/-! ## Numerals with zeros at the end -/

theorem repr_mul_ten_pow {d : Nat} (hd : d ≠ 0) (k : Nat) :
    (Nat.repr (d * 10 ^ k)).toList = (Nat.repr d).toList ++ List.replicate k '0' := by
  simp only [Nat.toList_repr]
  induction k with
  | zero => simp
  | succ k ih =>
    have hpos : 0 < d * 10 ^ k := Nat.mul_pos (Nat.pos_of_ne_zero hd) (Nat.pow_pos (by decide))
    have happend := Nat.toDigits_append_toDigits (by decide) hpos (show 0 < 10 by decide)
    rw [Nat.pow_succ, ← Nat.mul_assoc, Nat.mul_comm, ← Nat.add_zero (10 * _), ← happend, ih,
      List.replicate_succ', ← List.append_assoc]
    rfl

/-- Digits with an exponent that is not negative are laid out as the numeral of an integer. -/
theorem arrange_whole {d : Nat} (hd : d ≠ 0) (k : Nat) :
    plain.arrange (Nat.repr d) ((Nat.repr d).length + (k : ℤ)) = Nat.repr (d * 10 ^ k) := by
  have hlength : 0 < (Nat.repr d).length := List.length_pos_iff.mpr (repr_ne_nil d)
  have hzeros : ((Nat.repr d).length + (k : ℤ)).toNat - (Nat.repr d).length = k := by omega
  unfold Layout.arrange
  rw [if_pos (show plain.writtenOut _ = true from rfl), if_neg (by omega), if_pos (by omega), hzeros,
    String.ext_iff, repr_mul_ten_pow hd]
  simp [toList_zeros, plain]

/-! ## Displayed integers -/

section

variable {n : ℤ} (hn : n ≠ 0) (hlt : n.natAbs < 2 ^ 53)

include hn hlt

theorem ofBits_floatOfInt :
    Binary.ofBits ((Json.floatOfInt n).toBits.toNat % signBit) = rounded n.natAbs := by
  rw [magnitude_floatOfInt hn (by omega), ofBits_rounded (Int.natAbs_ne_zero.mpr hn) hlt]

/-- The plain layout writes the integer itself. -/
theorem render_floatOfInt : plain.render (Json.floatOfInt n) = toString n := by
  have hm : n.natAbs ≠ 0 := Int.natAbs_ne_zero.mpr hn
  have hfinite := isFinite_floatOfInt hn (show n.natAbs < 2 ^ 64 by omega)
  have hvalue := value_rounded hm hlt
  have hpos : (rounded n.natAbs).mantissa ≠ 0 := by
    have := (rounded_mantissa_bounds hm).1
    omega
  have hcanonical : (rounded n.natAbs).Canonical := by
    rw [← ofBits_rounded hm hlt]
    exact Binary.canonical_ofBits _
  obtain ⟨hshortest, hexponent⟩ := Binary.shortest_whole hvalue plain.tie hcanonical hpos
    (place_nonpos hm hlt) (by omega)
  rw [plain.render_of_isFinite hfinite (ofBits_floatOfInt hn hlt) hpos,
    isNegative_floatOfInt hn (by omega)]
  generalize (rounded n.natAbs).shortest plain.tie = s at *
  obtain ⟨d, k⟩ := s
  obtain ⟨k, rfl⟩ := Int.eq_ofNat_of_zero_le hexponent
  have hdigits : d * 10 ^ k = n.natAbs := by
    rw [Scaled.value, zpow_natCast] at hshortest
    exact_mod_cast hshortest
  have hd : d ≠ 0 := by
    rintro rfl
    omega
  rw [arrange_whole hd, hdigits, String.ext_iff, toList_toString_int hn, String.toList_append]
  split <;> rfl

end

/-- Up to 2^53 the text of the double of an integer is the numeral of the integer. -/
theorem display_floatOfInt {n : ℤ} (hn : n.natAbs ≤ 2 ^ 53) :
    display (Json.floatOfInt n) = toString n := by
  rcases hn.lt_or_eq with hlt | heq
  · by_cases hzero : n = 0
    · subst hzero
      exact display_zero (by decide)
    · have hm : n.natAbs ≠ 0 := Int.natAbs_ne_zero.mpr hzero
      unfold display
      rw [ofBits_floatOfInt hzero hlt,
        Binary.whole?_eq_some_iff.mpr (value_rounded hm hlt).symm]
      dsimp only
      rw [isNegative_floatOfInt hzero (by omega), render_floatOfInt hzero hlt, signed_natAbs,
        ite_self]
  · rcases Int.natAbs_eq n with h | h
    · rw [h, heq]
      decide +kernel
    · rw [h, heq]
      decide +kernel

end FacetSearch.Decimal
