import FacetSearch.Decimal.Double
import Mathlib.Algebra.Order.Field.Power
import Mathlib.Data.Nat.Log
import Mathlib.Data.Rat.Cast.Order
import Mathlib.Tactic.FieldSimp
import Mathlib.Tactic.Linarith
import Mathlib.Tactic.Positivity
import Mathlib.Tactic.Ring
/-!
# The nearest double

A number lies near a double when it is no further from it than the middle between the double and
its neighbour, the middle itself being near the double with the even mantissa. Main statement:
the double found for a decimal is the one that the decimal lies near.
-/

namespace FacetSearch.Decimal

/-! ## Rounding a quotient -/

/-- Rounding in integers: twice the dividend lies within a divisor of twice the multiple. -/
theorem roundHalfEven_eq_of_le {num den k : Nat} (hlow : 2 * (k * den) ≤ 2 * num + den)
    (hhigh : 2 * num ≤ 2 * (k * den) + den)
    (hodd : k % 2 = 1 → 2 * (k * den) < 2 * num + den ∧ 2 * num < 2 * (k * den) + den)
    (hden : 0 < den) : roundHalfEven num den = k := by
  have hsplit : num / den * den + num % den = num := Nat.div_add_mod' num den
  have hrest : num % den < den := Nat.mod_lt num hden
  unfold roundHalfEven
  dsimp only
  have hcases : num / den = k ∨ num / den + 1 = k := by
    by_contra hne
    have hfar : num / den + 2 ≤ k ∨ k + 1 ≤ num / den := by omega
    rcases hfar with hfar | hfar
    · have := Nat.mul_le_mul_right den hfar
      rw [Nat.add_mul] at this
      omega
    · have := Nat.mul_le_mul_right den hfar
      rw [Nat.add_mul] at this
      omega
  rcases hcases with hq | hq
  · rw [hq] at hsplit ⊢
    split
    · rfl
    split
    · omega
    · omega
  · rw [← hq, Nat.add_mul] at hlow hhigh hodd
    rw [← hq]
    split
    · omega
    split
    · rfl
    · omega

/-- A quotient that is off by at most a half is rounded away, a half only to an even integer. -/
theorem roundHalfEven_eq {num den k : Nat} (hden : 0 < den)
    (hnear : |(num : ℚ) / den - k| ≤ 1 / 2) (hodd : k % 2 = 1 → |(num : ℚ) / den - k| < 1 / 2) :
    roundHalfEven num den = k := by
  have hd : (0 : ℚ) < den := by exact_mod_cast hden
  have hnum : (num : ℚ) = num / den * den := (div_mul_cancel₀ _ hd.ne').symm
  obtain ⟨hlow, hhigh⟩ := abs_le.mp hnear
  apply roundHalfEven_eq_of_le _ _ _ hden
  · have : (2 * (k * den) : ℚ) ≤ 2 * num + den := by rw [hnum]; nlinarith
    exact_mod_cast this
  · have : (2 * num : ℚ) ≤ 2 * (k * den) + den := by rw [hnum]; nlinarith
    exact_mod_cast this
  · intro hk
    obtain ⟨hlow, hhigh⟩ := abs_lt.mp (hodd hk)
    constructor
    · have : (2 * (k * den) : ℚ) < 2 * num + den := by rw [hnum]; nlinarith
      exact_mod_cast this
    · have : (2 * num : ℚ) < 2 * (k * den) + den := by rw [hnum]; nlinarith
      exact_mod_cast this

/-! ## The exponent of a quotient -/

/-- The powers of two on both sides of a number. -/
theorem log2_bounds {n : Nat} (hn : n ≠ 0) :
    (2 : ℚ) ^ (n.log2 : ℤ) ≤ n ∧ (n : ℚ) < 2 ^ ((n.log2 : ℤ) + 1) := by
  constructor
  · exact_mod_cast Nat.log2_self_le hn
  · exact_mod_cast Nat.lt_log2_self (n := n)

/-- A power as a quotient of powers with natural exponents. -/
theorem zpow_eq_div {a : ℚ} (ha : a ≠ 0) (e : ℤ) : a ^ e = a ^ e.toNat / a ^ (-e).toNat := by
  rw [← zpow_natCast, ← zpow_natCast, ← zpow_sub₀ ha]
  congr 1
  omega

/-- A shift of both terms moves a quotient by a power of two. -/
theorem scaled_quotient (num den : Nat) (e : ℤ) :
    ((num <<< (-e).toNat : Nat) : ℚ) / (den <<< e.toNat : Nat) = num / den / 2 ^ e := by
  simp only [Nat.shiftLeft_eq, Nat.cast_mul, Nat.cast_pow, Nat.cast_ofNat]
  rw [zpow_eq_div two_ne_zero e]
  field_simp

/-- The logarithms of the two terms tell the quotient up to a factor of four. -/
theorem quotient_bounds {num den : Nat} (hnum : num ≠ 0) (hden : den ≠ 0) :
    (2 : ℚ) ^ ((num.log2 : ℤ) - den.log2 - 1) ≤ num / den ∧
      (num : ℚ) / den < 2 ^ ((num.log2 : ℤ) - den.log2 + 1) := by
  obtain ⟨hnumLow, hnumHigh⟩ := log2_bounds hnum
  obtain ⟨hdenLow, hdenHigh⟩ := log2_bounds hden
  have hd : (0 : ℚ) < den := by exact_mod_cast Nat.pos_of_ne_zero hden
  constructor
  · rw [le_div_iff₀ hd]
    calc (2 : ℚ) ^ ((num.log2 : ℤ) - den.log2 - 1) * den
        ≤ 2 ^ ((num.log2 : ℤ) - den.log2 - 1) * 2 ^ ((den.log2 : ℤ) + 1) := by gcongr
      _ = 2 ^ (num.log2 : ℤ) := by
        rw [← zpow_add₀ two_ne_zero]
        congr 1
        omega
      _ ≤ num := hnumLow
  · rw [div_lt_iff₀ hd]
    calc (num : ℚ) < 2 ^ ((num.log2 : ℤ) + 1) := hnumHigh
      _ = 2 ^ ((num.log2 : ℤ) - den.log2 + 1) * 2 ^ (den.log2 : ℤ) := by
        rw [← zpow_add₀ two_ne_zero]
        congr 1
        omega
      _ ≤ 2 ^ ((num.log2 : ℤ) - den.log2 + 1) * den := by gcongr

/-- The bits found for a quotient: its exponent is the one that leaves 53 binary places before the
point, or the least one. -/
theorem exists_nearestBits {num den : Nat} (hnum : num ≠ 0) (hden : den ≠ 0) :
    ∃ e : ℤ, -1074 ≤ e ∧ (num : ℚ) / den < 2 ^ 53 * 2 ^ e ∧
      (e = -1074 ∨ 2 ^ 52 * 2 ^ e ≤ (num : ℚ) / den) ∧
      nearestBits num den = min (((e + 1074).toNat <<< 52) +
        roundHalfEven (num <<< (-e).toNat) (den <<< e.toNat)) infinityBits := by
  obtain ⟨hlow, hhigh⟩ := quotient_bounds hnum hden
  let guess : ℤ := (num.log2 : ℤ) - (den.log2 : ℤ) - 52
  have hfull : hiddenBit * (den <<< guess.toNat) ≤ num <<< (-guess).toNat ↔
      2 ^ 52 * 2 ^ guess ≤ (num : ℚ) / den := by
    have hpos : (0 : ℚ) < (den <<< guess.toNat : Nat) := by
      rw [Nat.shiftLeft_eq]
      have := Nat.pos_of_ne_zero hden
      positivity
    rw [← le_div_iff₀ (by positivity), ← scaled_quotient, le_div_iff₀ hpos]
    norm_cast
  -- the exponent that fills the mantissa, before it is kept from falling below the least one
  obtain ⟨top, htop, htopLow, htopHigh⟩ : ∃ top : ℤ,
      top = (if hiddenBit * (den <<< guess.toNat) ≤ num <<< (-guess).toNat then guess
        else guess - 1) ∧
      2 ^ 52 * 2 ^ top ≤ (num : ℚ) / den ∧ (num : ℚ) / den < 2 ^ 53 * 2 ^ top := by
    have hhigh' : (num : ℚ) / den < 2 ^ 53 * 2 ^ guess := by
      rw [← zpow_natCast, ← zpow_add₀ two_ne_zero]
      convert hhigh using 2
      omega
    have hlow' : 2 ^ 52 * 2 ^ (guess - 1) ≤ (num : ℚ) / den := by
      rw [← zpow_natCast, ← zpow_add₀ two_ne_zero]
      convert hlow using 2
      omega
    refine ⟨_, rfl, ?_⟩
    split
    · next h => exact ⟨hfull.mp h, hhigh'⟩
    · next h =>
      refine ⟨hlow', (not_le.mp (fun hle => h (hfull.mpr hle))).trans_eq ?_⟩
      rw [zpow_sub_one₀ two_ne_zero]
      ring
  refine ⟨max top (-1074), le_max_right .., ?_, ?_, ?_⟩
  · calc (num : ℚ) / den < 2 ^ 53 * 2 ^ top := htopHigh
      _ ≤ 2 ^ 53 * 2 ^ max top (-1074) := by
        gcongr
        · norm_num
        · exact le_max_left ..
  · rcases le_total top (-1074) with h | h
    · exact .inl (max_eq_right h)
    · rw [max_eq_left h]
      exact .inr htopLow
  · rw [nearestBits, if_neg hnum, htop]

/-! ## The numbers near a double -/

namespace Binary

/-- The mantissa fits into 53 bits, and has all of them unless the exponent is the least one. -/
structure Canonical (b : Binary) : Prop where
  fits : b.mantissa < 2 ^ 53
  least : -1074 ≤ b.exponent
  full : b.exponent = -1074 ∨ 2 ^ 52 ≤ b.mantissa

/-- The bits of a magnitude. -/
def bits (b : Binary) : Nat := ((b.exponent + 1074).toNat <<< 52) + b.mantissa

/-- How far below a double the numbers near it reach, in units of the last place. -/
def reach (b : Binary) : ℚ := if b.AtPowerOfTwo then 1 / 4 else 1 / 2

/-- The number lies no further from the double than the middles to its neighbours, and strictly
between them when the mantissa is odd. -/
structure Near (b : Binary) (q : ℚ) : Prop where
  low : b.mantissa - b.reach ≤ q / 2 ^ b.exponent
  high : q / 2 ^ b.exponent ≤ b.mantissa + 1 / 2
  odd : b.mantissa % 2 = 1 →
    b.mantissa - b.reach < q / 2 ^ b.exponent ∧ q / 2 ^ b.exponent < b.mantissa + 1 / 2

theorem Near.of_lt {b : Binary} {q : ℚ} (low : b.mantissa - b.reach < q / 2 ^ b.exponent)
    (high : q / 2 ^ b.exponent < b.mantissa + 1 / 2) : b.Near q :=
  ⟨low.le, high.le, fun _ => ⟨low, high⟩⟩

theorem reach_le (b : Binary) : b.reach ≤ 1 / 2 := by
  unfold reach
  split <;> norm_num

theorem bits_ofBits {u : Nat} (hu : u < infinityBits) : (ofBits u).bits = u := by
  have hsplit : hiddenBit * (u / hiddenBit) + u % hiddenBit = u := Nat.div_add_mod u hiddenBit
  have hbiased : u / hiddenBit % 2048 = u / hiddenBit := by
    apply Nat.mod_eq_of_lt
    rw [infinityBits] at hu
    rw [hiddenBit]
    omega
  unfold ofBits bits
  rw [hbiased]
  dsimp only
  split
  · next h => simpa [h] using hsplit
  · next h =>
    have hplace : ((u / hiddenBit : Nat) - 1075 + 1074 : ℤ).toNat = u / hiddenBit - 1 := by omega
    dsimp only
    rw [hplace, Nat.shiftLeft_eq, show 2 ^ 52 = hiddenBit from rfl, ← Nat.add_assoc,
      ← Nat.succ_mul, Nat.succ_eq_add_one, Nat.sub_add_cancel (Nat.pos_of_ne_zero h),
      Nat.mul_comm, hsplit]

theorem canonical_ofBits (u : Nat) : (ofBits u).Canonical := by
  have hfraction : u % hiddenBit < hiddenBit := Nat.mod_lt u (by decide)
  unfold ofBits
  dsimp only
  rw [hiddenBit] at *
  split
  · exact ⟨by dsimp only; omega, by dsimp only; omega, .inl rfl⟩
  · exact ⟨by dsimp only; omega, by dsimp only; omega, .inr (by dsimp only; omega)⟩

/-- Only zero has no mantissa. -/
theorem mantissa_ofBits_eq_zero_iff {u : Nat} (hu : u < infinityBits) :
    (ofBits u).mantissa = 0 ↔ u = 0 := by
  constructor
  · intro h
    have hexponent : (ofBits u).exponent = -1074 := by
      rcases (canonical_ofBits u).full with hleast | hfull
      · exact hleast
      · omega
    rw [← bits_ofBits hu, bits, h, hexponent]
    rfl
  · rintro rfl
    rfl

variable {b : Binary} {q : ℚ}

/-- The exponent of a number near a double is that of the double, but for the numbers just below a
power of two. -/
theorem Near.exponent (h : b.Near q) (hb : b.Canonical) {e : ℤ} (hleast : -1074 ≤ e)
    (hhigh : q < 2 ^ 53 * 2 ^ e) (hlow : e = -1074 ∨ 2 ^ 52 * 2 ^ e ≤ q) :
    e = b.exponent ∨ e = b.exponent - 1 ∧ b.AtPowerOfTwo := by
  have hulp : (0 : ℚ) < 2 ^ b.exponent := by positivity
  have hqlow : (b.mantissa - b.reach) * 2 ^ b.exponent ≤ q := (le_div_iff₀ hulp).mp h.low
  have hqhigh : q ≤ (b.mantissa + 1 / 2) * 2 ^ b.exponent := (div_le_iff₀ hulp).mp h.high
  have hfits : (b.mantissa : ℚ) + 1 ≤ 2 ^ 53 := by exact_mod_cast hb.fits
  have hle : e ≤ b.exponent := by
    by_contra hlt
    have hpow : (2 : ℚ) ^ (b.exponent + 1) ≤ 2 ^ e := by gcongr <;> [norm_num; omega]
    rw [zpow_add_one₀ two_ne_zero] at hpow
    rcases hlow with rfl | hlow
    · exact absurd hb.least (by omega)
    · nlinarith
  by_cases heq : e = b.exponent
  · exact .inl heq
  · right
    have hpow : (2 : ℚ) ^ (e + 1) ≤ 2 ^ b.exponent := by gcongr <;> [norm_num; omega]
    rw [zpow_add_one₀ two_ne_zero] at hpow
    have hfull : 2 ^ 52 ≤ b.mantissa := hb.full.resolve_left (by omega)
    have hreach := b.reach_le
    have hpower : b.mantissa = 2 ^ 52 := by
      by_contra hne
      have hlarge : (2 : ℚ) ^ 52 + 1 ≤ b.mantissa := by
        exact_mod_cast Nat.lt_of_le_of_ne hfull (Ne.symm hne)
      nlinarith
    refine ⟨?_, hpower, by omega⟩
    by_contra hne
    have hpow : (2 : ℚ) ^ (e + 1 + 1) ≤ 2 ^ b.exponent := by gcongr <;> [norm_num; omega]
    rw [zpow_add_one₀ two_ne_zero, zpow_add_one₀ two_ne_zero] at hpow
    rw [hpower] at hqlow
    push_cast at hqlow
    nlinarith

theorem Near.dist_le (h : b.Near q) : |q / 2 ^ b.exponent - b.mantissa| ≤ 1 / 2 := by
  have hreach := b.reach_le
  rw [abs_le]
  constructor
  · linarith [h.low]
  · linarith [h.high]

/-- The double found for a quotient is the one that the quotient lies near. -/
theorem Near.nearestBits_eq {num den : Nat} (h : b.Near (num / den)) (hb : b.Canonical)
    (hfinite : b.bits < infinityBits) (hnum : num ≠ 0) (hden : den ≠ 0) :
    nearestBits num den = b.bits := by
  obtain ⟨e, hleast, hhigh, hlow, heq⟩ := exists_nearestBits hnum hden
  have hpos : 0 < den <<< e.toNat := by
    rw [Nat.shiftLeft_eq]
    exact Nat.mul_pos (Nat.pos_of_ne_zero hden) (Nat.pow_pos (by decide))
  rw [heq]
  rcases h.exponent hb hleast hhigh hlow with rfl | ⟨rfl, hpower⟩
  · have hround : roundHalfEven (num <<< (-b.exponent).toNat) (den <<< b.exponent.toNat) =
        b.mantissa := by
      apply roundHalfEven_eq hpos
      · rw [scaled_quotient]
        exact h.dist_le
      · intro hodd
        rw [scaled_quotient, abs_lt]
        have hreach := b.reach_le
        constructor
        · linarith [(h.odd hodd).1]
        · linarith [(h.odd hodd).2]
    rw [hround]
    exact min_eq_left hfinite.le
  · have hround : roundHalfEven (num <<< (-(b.exponent - 1)).toNat)
        (den <<< (b.exponent - 1).toNat) = 2 ^ 53 := by
      have htwice : (num : ℚ) / den / 2 ^ (b.exponent - 1) = 2 * (num / den / 2 ^ b.exponent) := by
        rw [zpow_sub_one₀ two_ne_zero]
        field_simp
      have hnear := h.low
      have hbelow : (num : ℚ) / den / 2 ^ b.exponent < 2 ^ 52 := by
        rw [zpow_sub_one₀ two_ne_zero] at hhigh
        rw [div_lt_iff₀ (by positivity)]
        linarith
      rw [reach, if_pos hpower, hpower.1] at hnear
      apply roundHalfEven_eq hpos
      · rw [scaled_quotient, htwice, abs_le]
        norm_num [hiddenBit] at hnear hbelow ⊢
        constructor <;> linarith
      · simp
    have hplace : (b.exponent + 1074).toNat = (b.exponent - 1 + 1074).toNat + 1 := by
      have := hpower.2
      omega
    have hbits : ((b.exponent - 1 + 1074).toNat <<< 52) + 2 ^ 53 = b.bits := by
      rw [bits, hplace, hpower.1, hiddenBit]
      simp only [Nat.shiftLeft_eq]
      omega
    rw [hround, hbits]
    exact min_eq_left hfinite.le

/-- The number that a binary stands for. -/
def value (b : Binary) : ℚ := b.mantissa * 2 ^ b.exponent

theorem value_ne_zero (hpos : b.mantissa ≠ 0) : b.value ≠ 0 :=
  mul_ne_zero (by exact_mod_cast hpos) (zpow_ne_zero _ two_ne_zero)

theorem near_value (b : Binary) : b.Near b.value := by
  have hquotient : b.value / 2 ^ b.exponent = b.mantissa :=
    mul_div_cancel_right₀ _ (zpow_ne_zero _ two_ne_zero)
  have hreach : 0 < b.reach := by
    unfold reach
    split <;> norm_num
  constructor
  · linarith
  · linarith
  · intro _
    constructor <;> linarith

/-- A number near a double other than zero is at least half the least double. -/
theorem Near.half_le (h : b.Near q) (hb : b.Canonical) (hpos : b.mantissa ≠ 0) :
    2 ^ (-1075 : ℤ) ≤ q := by
  have hulp : (0 : ℚ) < 2 ^ b.exponent := by positivity
  have hmantissa : (1 : ℚ) ≤ b.mantissa := by exact_mod_cast Nat.pos_of_ne_zero hpos
  have hreach := b.reach_le
  calc (2 : ℚ) ^ (-1075 : ℤ) = 1 / 2 * 2 ^ (-1074 : ℤ) := by
        rw [show (-1075 : ℤ) = -1074 - 1 from rfl, zpow_sub_one₀ two_ne_zero]
        ring
    _ ≤ 1 / 2 * 2 ^ b.exponent := by
      gcongr
      · norm_num
      · exact hb.least
    _ ≤ (b.mantissa - b.reach) * 2 ^ b.exponent := by
      gcongr
      linarith
    _ ≤ q := (le_div_iff₀ hulp).mp h.low

end Binary

theorem two_pow_le_ten_pow (n : Nat) : 2 ^ (3 * n) ≤ 10 ^ n := by
  rw [Nat.pow_mul]
  exact Nat.pow_le_pow_left (by decide) n

/-- A third of the binary digits of a number, rounded up, are enough decimal ones. -/
theorem lt_ten_pow (n : Nat) : n < 10 ^ (n.log2 / 3 + 1) :=
  calc n < 2 ^ (n.log2 + 1) := Nat.lt_log2_self
    _ ≤ 2 ^ (3 * (n.log2 / 3 + 1)) := Nat.pow_le_pow_right (by decide) (by omega)
    _ ≤ 10 ^ (n.log2 / 3 + 1) := two_pow_le_ten_pow _

/-- The double found for a decimal is the one that the decimal lies near. -/
theorem Binary.Near.toDouble_eq {b : Binary} {m : Nat} {e : ℤ} (h : b.Near (m * 10 ^ e))
    (hb : b.Canonical) (hfinite : b.bits < infinityBits) (hpos : b.mantissa ≠ 0)
    (he : e ≤ 400) : toDouble m e = Float.ofBits b.bits.toUInt64 := by
  have hlarge := h.half_le hb hpos
  have hm : m ≠ 0 := by
    rintro rfl
    have hpow : (0 : ℚ) < 2 ^ (-1075 : ℤ) := by positivity
    have hzero := hpow.trans_le hlarge
    simp at hzero
  have hsmall : ¬ e + (m.log2 / 3 + 1 : Nat) < -400 := by
    intro hlt
    have hten : (m : ℚ) < 10 ^ (m.log2 / 3 + 1) := by exact_mod_cast lt_ten_pow m
    have hless : (m * 10 ^ e : ℚ) < 2 ^ (-1075 : ℤ) :=
      calc (m * 10 ^ e : ℚ) < 10 ^ (m.log2 / 3 + 1) * 10 ^ e := by gcongr
        _ = 10 ^ (((m.log2 / 3 + 1 : Nat) : ℤ) + e) := by
          rw [zpow_add₀ (by norm_num), zpow_natCast]
        _ ≤ 10 ^ (-(400 : Nat) : ℤ) := by
          gcongr
          · norm_num
          · omega
        _ ≤ 2 ^ (-(3 * 400 : Nat) : ℤ) := by
          rw [zpow_neg, zpow_neg, zpow_natCast, zpow_natCast]
          exact inv_anti₀ (by positivity) (by exact_mod_cast two_pow_le_ten_pow 400)
        _ ≤ 2 ^ (-1075 : ℤ) := by gcongr <;> norm_num
    exact absurd hlarge (not_le.mpr hless)
  have hquotient : (m * 10 ^ e : ℚ) =
      ((m * Nat.pow 10 e.toNat : Nat) : ℚ) / (Nat.pow 10 (-e).toNat : Nat) := by
    rw [zpow_eq_div (by norm_num) e, ← mul_div_assoc, Nat.pow_eq, Nat.pow_eq]
    push_cast
    rfl
  rw [toDouble, if_neg hm, if_neg (by omega), if_neg hsmall]
  rw [hquotient] at h
  rw [h.nearestBits_eq hb hfinite _ _]
  · exact Nat.mul_ne_zero hm (Nat.pow_pos (by decide)).ne'
  · exact (Nat.pow_pos (by decide)).ne'

end FacetSearch.Decimal
