import FacetSearch.Json.Value
import FacetSearch.Proofs.DecimalText
/-!
# Doubles of integers

An integer of 64 bits as a double. The conversion moves the bits of the integer to the right one
by one and keeps of those that fall off no more than rounding needs. Main statement: the double it
finds is the one nearest to the integer, the same that the numeral of the integer is read as.
-/

namespace FacetSearch.Decimal

open Float.Model Float.Model.UnpackedFloat

/-! ## Rounding by the bits that fell off -/

/-- A quotient known by its integral part, by whether the rest is at least a half, and by whether it
is anything else than zero or the half. -/
structure Known (em : ExtendedMantissa) (num den : Nat) : Prop where
  whole : em.mantissa = num / den
  half : em.roundBit = true ↔ den ≤ 2 * (num % den)
  more : em.stickyBit = true ↔ num % den ≠ 0 ∧ 2 * (num % den) ≠ den

/-- Moved to the right by one more bit, the quotient is known for twice the divisor. -/
theorem Known.shiftRightOne {em : ExtendedMantissa} {num den : Nat} (h : Known em num den)
    (hden : 0 < den) : Known em.shiftRightOne num (den * 2) := by
  have hrest : num % (den * 2) = num % den + den * (num / den % 2) := Nat.mod_mul
  have hlt : num % den < den := Nat.mod_lt num hden
  have hbit : num / den % 2 = 0 ∨ num / den % 2 = 1 := Nat.mod_two_eq_zero_or_one _
  refine ⟨?_, ?_, ?_⟩
  · rw [ExtendedMantissa.shiftRightOne, h.whole, Nat.div_div_eq_div_mul]
  · rw [ExtendedMantissa.shiftRightOne, h.whole, bne_iff_ne, hrest]
    rcases hbit with hbit | hbit <;> rw [hbit] <;> omega
  · rw [ExtendedMantissa.shiftRightOne, Bool.or_eq_true, h.half, h.more, hrest]
    rcases hbit with hbit | hbit <;> rw [hbit] <;> omega

theorem known_shiftRight (m k : Nat) :
    Known (ExtendedMantissa.mk m false false >>> k) m (2 ^ k) := by
  induction k with
  | zero =>
    -- nothing has fallen off yet
    change Known ⟨m, false, false⟩ m 1
    exact ⟨(Nat.div_one m).symm, by simp [Nat.mod_one], by simp [Nat.mod_one]⟩
  | succ k ih => exact ih.shiftRightOne (Nat.pow_pos two_pos)

/-- The bits that fell off are enough to round the quotient. -/
theorem Known.roundedMantissa {em : ExtendedMantissa} {num den : Nat} (h : Known em num den) :
    em.roundedMantissa = roundHalfEven num den := by
  obtain ⟨mantissa, roundBit, stickyBit⟩ := em
  obtain ⟨rfl, hhalf, hmore⟩ := h
  unfold roundHalfEven
  dsimp only
  cases roundBit with
  | false =>
    have hlow : 2 * (num % den) < den := by simpa using hhalf
    rw [if_pos hlow]
    cases stickyBit <;> rfl
  | true =>
    have hhigh : den ≤ 2 * (num % den) := hhalf.mp rfl
    rw [if_neg (by omega)]
    cases stickyBit with
    | false =>
      have htie : ¬ den < 2 * (num % den) := fun hlt =>
        Bool.false_ne_true (hmore.mpr ⟨by omega, by omega⟩)
      rw [if_neg htie]
      rfl
    | true =>
      have habove : den < 2 * (num % den) := by
        have := hmore.mp rfl
        omega
      rw [if_pos habove]
      rfl

theorem roundHalfEven_bounds (num den : Nat) :
    num / den ≤ roundHalfEven num den ∧ roundHalfEven num den ≤ num / den + 1 := by
  unfold roundHalfEven
  dsimp only
  split
  · omega
  split
  · omega
  · have := Nat.mod_lt (num / den) two_pos
    omega

/-! ## Canonical exponents -/

theorem targetExponent_eq (m : Nat) (e : ℤ) :
    Format.binary64.targetExponent (totalExponent m e) = max (m.log2 + e - 52) (-1074) := by
  simp only [Format.targetExponent, totalExponent, Format.mantissaBits, Format.minExponent]
  omega

/-- A rounded mantissa that got one bit too long is cut, which changes no bits of the double. -/
theorem exists_shiftToTargetExponent {m : Nat} {e : ℤ} (hlow : 2 ^ 52 ≤ m) (hhigh : m ≤ 2 ^ 53)
    (he : -1074 ≤ e) : ∃ b : Binary, 2 ^ 52 ≤ b.mantissa ∧ b.mantissa < 2 ^ 53 ∧
      e ≤ b.exponent ∧ b.exponent ≤ e + 1 ∧ b.bits = (Binary.mk m e).bits ∧
      shiftToTargetExponent Format.binary64 m e .exact =
        (⟨b.mantissa, false, false⟩, b.exponent) := by
  unfold shiftToTargetExponent shiftToExponent
  rw [targetExponent_eq]
  rcases hhigh.lt_or_eq with hlt | rfl
  · have hlog : m.log2 = 52 := (Nat.log2_eq_iff (by omega)).mpr ⟨hlow, hlt⟩
    have hshift : (max ((m.log2 : ℤ) + e - 52) (-1074) - e).toNat = 0 := by omega
    refine ⟨⟨m, e⟩, hlow, hlt, le_rfl, by dsimp only; omega, rfl, ?_⟩
    dsimp only
    rw [hshift, Nat.cast_zero, add_zero]
    rfl
  · have hlog : (2 ^ 53).log2 = 53 := Nat.log2_two_pow
    have hshift : (max (((2 ^ 53).log2 : ℤ) + e - 52) (-1074) - e).toNat = 1 := by omega
    have hplace : (e + 1 + 1074).toNat = (e + 1074).toNat + 1 := by omega
    refine ⟨⟨2 ^ 52, e + 1⟩, le_rfl, by dsimp only; omega, by dsimp only; omega, le_rfl, ?_, ?_⟩
    · simp only [Binary.bits, hplace, Nat.shiftLeft_eq]
      omega
    · dsimp only
      rw [hshift]
      rfl

/-! ## The double of an integer -/

/-- The exponent at which an integer has 53 binary places before the point. -/
def place (m : Nat) : ℤ := m.log2 - 52

/-- The integer in units of that place, rounded. -/
def rounded (m : Nat) : Binary where
  mantissa := roundHalfEven (m <<< (-place m).toNat) (1 <<< (place m).toNat)
  exponent := place m

/-- In units of its place an integer has 53 bits before the point. -/
theorem scaled_bounds {m : Nat} (hm : m ≠ 0) :
    hiddenBit * (1 <<< (place m).toNat) ≤ m <<< (-place m).toNat ∧
      m <<< (-place m).toNat < 2 * hiddenBit * (1 <<< (place m).toNat) := by
  have hplaces : 52 + (place m).toNat = m.log2 + (-place m).toNat := by
    rw [place]
    omega
  have hpow : hiddenBit * (1 <<< (place m).toNat) = 2 ^ m.log2 * 2 ^ (-place m).toNat := by
    rw [Nat.one_shiftLeft, show hiddenBit = 2 ^ 52 from rfl, ← Nat.pow_add, ← Nat.pow_add, hplaces]
  rw [Nat.mul_assoc, hpow, Nat.shiftLeft_eq, ← Nat.mul_assoc]
  refine ⟨Nat.mul_le_mul_right _ (Nat.log2_self_le hm), ?_⟩
  refine Nat.mul_lt_mul_of_pos_right ?_ (Nat.pow_pos two_pos)
  rw [Nat.mul_comm, ← Nat.pow_succ]
  exact Nat.lt_log2_self

theorem rounded_mantissa_bounds {m : Nat} (hm : m ≠ 0) :
    2 ^ 52 ≤ (rounded m).mantissa ∧ (rounded m).mantissa ≤ 2 ^ 53 := by
  obtain ⟨hlow, hhigh⟩ := scaled_bounds hm
  have hunit : 0 < 1 <<< (place m).toNat := by
    rw [Nat.one_shiftLeft]
    exact Nat.pow_pos two_pos
  have hdown := (Nat.le_div_iff_mul_le hunit).mpr hlow
  have hup := (Nat.div_lt_iff_lt_mul hunit).mpr hhigh
  obtain ⟨hfrom, hto⟩ := roundHalfEven_bounds (m <<< (-place m).toNat) (1 <<< (place m).toNat)
  rw [hiddenBit] at hdown hup
  rw [rounded]
  dsimp only
  omega

theorem rounded_bits_lt {m : Nat} (hm : m ≠ 0) (hlt : m < 2 ^ 64) :
    (rounded m).bits < infinityBits := by
  have hlog : m.log2 < 64 := (Nat.log2_lt hm).mpr hlt
  have hmantissa := (rounded_mantissa_bounds hm).2
  have hplace : (rounded m).exponent = m.log2 - 52 := rfl
  rw [Binary.bits, Nat.shiftLeft_eq, infinityBits]
  omega

/-- The bits found for the quotient of an integer by one. -/
theorem nearestBits_one {m : Nat} (hm : m ≠ 0) (hlt : m < 2 ^ 64) :
    nearestBits m 1 = (rounded m).bits := by
  have hguess : (m.log2 : ℤ) - (Nat.log2 1 : ℤ) - 52 = place m := by
    rw [place, show Nat.log2 1 = 0 from rfl]
    omega
  have hleast : max (place m) (-1074) = place m := by
    rw [place]
    omega
  rw [nearestBits, if_neg hm]
  dsimp only
  rw [hguess, if_pos (scaled_bounds hm).1, hleast]
  exact min_eq_left (rounded_bits_lt hm hlt).le

theorem log2_shiftLeft {m : Nat} (hm : m ≠ 0) (k : Nat) : (m <<< k).log2 = m.log2 + k := by
  rw [Nat.shiftLeft_eq, Nat.log2_eq_iff (Nat.mul_ne_zero hm (Nat.pow_pos two_pos).ne'),
    Nat.add_right_comm, Nat.pow_add, Nat.pow_add]
  exact ⟨Nat.mul_le_mul_right _ (Nat.log2_self_le hm),
    Nat.mul_lt_mul_of_pos_right Nat.lt_log2_self (Nat.pow_pos two_pos)⟩

/-- The conversion moves an integer to its place, first to the left, then to the right. -/
theorem shiftToTargetExponent_scaled {m : Nat} (hm : m ≠ 0) :
    shiftToTargetExponent Format.binary64 (m <<< (-place m).toNat) (-((-place m).toNat : ℤ)) .exact =
      (ExtendedMantissa.mk (m <<< (-place m).toNat) false false >>> (place m).toNat, place m) := by
  have htarget : Format.binary64.targetExponent
      (totalExponent (m <<< (-place m).toNat) (-((-place m).toNat : ℤ))) = place m := by
    rw [targetExponent_eq, log2_shiftLeft hm, place]
    omega
  have hshift : (place m - -((-place m).toNat : ℤ)).toNat = (place m).toNat := by omega
  unfold shiftToTargetExponent shiftToExponent
  dsimp only
  rw [htarget, hshift]
  refine Prod.ext rfl ?_
  dsimp only
  omega

/-- Rounded by the bits that fall off, the integer has the same bits. -/
theorem exists_round {m : Nat} (hm : m ≠ 0) : ∃ b : Binary, ∃ hpos : 0 < b.mantissa,
    2 ^ 52 ≤ b.mantissa ∧ b.mantissa < 2 ^ 53 ∧ place m ≤ b.exponent ∧ b.exponent ≤ place m + 1 ∧
    b.bits = (rounded m).bits ∧
    UnpackedFloat.round Format.binary64 .positive m 0 =
      .finite .positive b.mantissa b.exponent hpos := by
  obtain ⟨hmLow, hmHigh⟩ := rounded_mantissa_bounds hm
  obtain ⟨b, hlow, hhigh, hleast, hmost, hbits, hcut⟩ :=
    exists_shiftToTargetExponent hmLow hmHigh (e := place m) (by rw [place]; omega)
  have hpos : 0 < b.mantissa := by omega
  have htarget : Format.binary64.targetExponent (totalExponent m 0) = place m := by
    rw [targetExponent_eq, place]
    omega
  have hmantissa : (ExtendedMantissa.mk (m <<< (-place m).toNat) false false >>>
      (place m).toNat).roundedMantissa = (rounded m).mantissa := by
    rw [(known_shiftRight _ _).roundedMantissa, ← Nat.one_shiftLeft]
    rfl
  refine ⟨b, hpos, hlow, hhigh, hleast, hmost, hbits, ?_⟩
  unfold UnpackedFloat.round decreaseExponent
  dsimp only
  rw [htarget, zero_sub, zero_sub, roundWithAccuracy, shiftToTargetExponent_scaled hm]
  dsimp only
  rw [hmantissa, hcut, dif_neg hpos.ne']

/-- The parts of a canonical double that is not too small are packed into its bits. -/
theorem pack_finite {b : Binary} (hlow : 2 ^ 52 ≤ b.mantissa) (hhigh : b.mantissa < 2 ^ 53)
    (he : -1074 ≤ b.exponent) (hfinite : b.exponent ≤ 971) (s : Sign) (hpos : 0 < b.mantissa) :
    UInt64.ofBitVec (UnpackedFloat.pack Format.binary64 (.finite s b.mantissa b.exponent hpos)) =
      signed s b.bits := by
  have hlog : b.mantissa.log2 = 52 := (Nat.log2_eq_iff hpos.ne').mpr ⟨hlow, hhigh⟩
  have hexponent : b.bits / 2 ^ 52 = (b.exponent + 1023 + 52).toNat := by
    rw [Binary.bits, Nat.shiftLeft_eq]
    omega
  have hmantissa : BitVec.ofNat 52 b.bits = BitVec.ofNat 52 b.mantissa := by
    rw [Binary.bits, Nat.shiftLeft_eq, ← BitVec.toNat_inj, BitVec.toNat_ofNat, BitVec.toNat_ofNat,
      Nat.mul_add_mod']
  have hbias : (Format.binary64.exponentBias : ℤ) = 1023 := rfl
  have hbits : Format.binary64.mantissaBits = 53 := rfl
  unfold UnpackedFloat.pack
  dsimp only
  rw [hbias, hbits, hlog, if_neg (by omega), if_pos rfl, signed, hexponent, hmantissa]
  rfl

/-- An integer of at most 64 bits is converted to the double with the bits found for it. -/
theorem toBits_toFloat {m : Nat} (hm : m ≠ 0) (hlt : m < 2 ^ 64) :
    m.toUInt64.toFloat.toBits = signed .positive (nearestBits m 1) := by
  have hlog : m.log2 < 64 := (Nat.log2_lt hm).mpr hlt
  obtain ⟨b, hpos, hlow, hhigh, hleast, hmost, hbits, hround⟩ := exists_round hm
  have hconvert : m.toUInt64.toFloat.toBits = .ofBitVec (UnpackedFloat.pack Format.binary64
      (UnpackedFloat.normalize Format.binary64 m.toUInt64.toNat 0 .positive)) := rfl
  have hnat : m.toUInt64.toNat = m := Nat.mod_eq_of_lt hlt
  have hsign : compare (m : ℤ) 0 = .gt := Int.compare_eq_gt.mpr (by omega)
  rw [place] at hleast hmost
  rw [hconvert, hnat, UnpackedFloat.normalize, hsign]
  dsimp only
  rw [Int.toNat_natCast, hround, pack_finite hlow hhigh (by omega) (by omega), hbits,
    nearestBits_one hm hlt]

/-- The conversion of an integer finds the double that its numeral is read as. -/
theorem toFloat_eq_toDouble {m : Nat} (hlt : m < 2 ^ 64) : m.toUInt64.toFloat = toDouble m 0 := by
  by_cases hm : m = 0
  · subst hm
    rfl
  · have hfinite : nearestBits m 1 < infinityBits := by
      rw [nearestBits_one hm hlt]
      exact rounded_bits_lt hm hlt
    have hdecimal : toDouble m 0 = Float.ofBits (nearestBits m 1).toUInt64 := by
      rw [toDouble, if_neg hm, if_neg (by decide), if_neg (by omega)]
      simp
    rw [hdecimal, toUInt64_eq_signed (lt_signBit_of_finite hfinite), ← Float.toBits_inj,
      toBits_toFloat hm hlt, toBits_ofBits_signed hfinite]

/-! ## Integers with a sign -/

/-- The sign of an integer. -/
def signOfInt (n : ℤ) : Sign := if n < 0 then .negative else .positive

section

variable {n : ℤ} (hn : n ≠ 0) (hlt : n.natAbs < 2 ^ 64)

include hn hlt

theorem toBits_floatOfInt :
    (Json.floatOfInt n).toBits = signed (signOfInt n) (rounded n.natAbs).bits := by
  have hm : n.natAbs ≠ 0 := Int.natAbs_ne_zero.mpr hn
  have hfinite := rounded_bits_lt hm hlt
  have hmagnitude : n.natAbs.toUInt64.toFloat =
      Float.ofBits (signed .positive (rounded n.natAbs).bits) := by
    rw [← Float.toBits_inj, toBits_toFloat hm hlt, nearestBits_one hm hlt,
      toBits_ofBits_signed hfinite]
  unfold Json.floatOfInt signOfInt
  dsimp only
  rw [hmagnitude]
  split
  · exact toBits_neg_ofBits_signed hfinite
  · exact toBits_ofBits_signed hfinite

theorem magnitude_floatOfInt :
    (Json.floatOfInt n).toBits.toNat % signBit = (rounded n.natAbs).bits := by
  have hu := lt_signBit_of_finite (rounded_bits_lt (Int.natAbs_ne_zero.mpr hn) hlt)
  rw [toBits_floatOfInt hn hlt, toNat_signed _ hu, Nat.mul_add_mod', Nat.mod_eq_of_lt hu]

theorem isNegative_floatOfInt : isNegative (Json.floatOfInt n) = decide (n < 0) := by
  have hu := lt_signBit_of_finite (rounded_bits_lt (Int.natAbs_ne_zero.mpr hn) hlt)
  rw [isNegative, toBits_floatOfInt hn hlt, toNat_signed _ hu, signOfInt]
  split
  · next h => simp [h, Sign.toBitVec]
  · next h => simpa [h, Sign.toBitVec] using hu

theorem isFinite_floatOfInt : (Json.floatOfInt n).isFinite = true := by
  rw [isFinite_iff, magnitude_floatOfInt hn hlt]
  exact rounded_bits_lt (Int.natAbs_ne_zero.mpr hn) hlt

omit hlt in
theorem rounded_bits_ne_zero : (rounded n.natAbs).bits ≠ 0 := by
  have := (rounded_mantissa_bounds (Int.natAbs_ne_zero.mpr hn)).1
  rw [Binary.bits]
  omega

end

theorem signed_natAbs (n : ℤ) :
    (if decide (n < 0) then -(n.natAbs : ℤ) else n.natAbs) = n := by
  by_cases h : n < 0
  · rw [decide_eq_true h, if_pos rfl]
    omega
  · rw [decide_eq_false h, if_neg Bool.false_ne_true]
    omega

/-- The numeral of an integer is a sign and digits. -/
theorem toList_toString_int {n : ℤ} (hn : n ≠ 0) : (toString n).toList =
    (if decide (n < 0) then ['-'] else []) ++ (Nat.repr n.natAbs).toList := by
  have htext := toList_toString_signed (Int.natAbs_ne_zero.mpr hn) (decide (n < 0))
  rwa [signed_natAbs] at htext

/-- An integer is converted to the double that its numeral is read as. -/
theorem readDouble_toString {n : ℤ} (hlt : n.natAbs < 2 ^ 64) :
    readDouble (toString n).toList = .ok (Json.floatOfInt n) := by
  by_cases hn : n = 0
  · subst hn
    rfl
  · have hplain := PlainNumeral.whole (repr_ne_nil n.natAbs) fun c => isDigit_of_mem_repr
    have hread := readDouble_signed hplain (decide (n < 0))
    rw [digitsValue_repr] at hread
    rw [toList_toString_int hn, hread, Json.floatOfInt, toFloat_eq_toDouble hlt]
    simp

/-- The text of the double of an integer is read as that double. -/
theorem readDouble_display_floatOfInt {n : ℤ} (hlt : n.natAbs < 2 ^ 64) :
    readDouble (display (Json.floatOfInt n)).toList = .ok (Json.floatOfInt n) := by
  by_cases hn : n = 0
  · subst hn
    rw [display_zero (by decide)]
    exact readDouble_toString hlt
  · rw [readDouble_display (isFinite_floatOfInt hn hlt), magnitude_floatOfInt hn hlt,
      if_neg (rounded_bits_ne_zero hn)]

end FacetSearch.Decimal
