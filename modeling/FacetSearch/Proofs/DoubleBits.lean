import FacetSearch.Decimal.Double
import Mathlib
/-!
# Doubles and their bits

A double is its sign and the bits of its magnitude. A finite double is found again from both, and
the two zeros compare alike with every double. Of two doubles one is less than the other or not,
unless one of them is no number: then no comparison holds.
-/

namespace FacetSearch.Decimal

open Float.Model Float.Model.UnpackedFloat

/-! ## The parts of a packed number -/

section

variable {S : Format} {s : Sign} {e : BitVec S.exponentBits}
  {m : BitVec S.mantissaBitsWithoutImplicit}

theorem toNat_append {n k : Nat} (x : BitVec n) (y : BitVec k) :
    (x ++ y).toNat = x.toNat * 2 ^ k + y.toNat := by
  rw [BitVec.toNat_append, ← Nat.shiftLeft_add_eq_or_of_lt y.isLt, Nat.shiftLeft_eq]

theorem toNat_packComponents : (packComponents S s e m).toNat =
    (s.toBitVec.toNat * 2 ^ S.exponentBits + e.toNat) * 2 ^ S.mantissaBitsWithoutImplicit +
      m.toNat := by
  rw [packComponents, toNat_append, toNat_append]

theorem unpack_packComponents_neg : UnpackedFloat.unpack S (packComponents S (-s) e m) =
    (UnpackedFloat.unpack S (packComponents S s e m)).neg := by
  unfold UnpackedFloat.unpack
  simp only [unpackMantissa_packComponents, unpackExponent_packComponents,
    unpackSign_packComponents, Sign.ofBitVec_toBitVec]
  split
  · split <;> rfl
  split
  · split <;> rfl
  · rfl

theorem isFinite_unpack_packComponents :
    (UnpackedFloat.unpack S (packComponents S s e m)).isFinite = true ↔ e ≠ -1#_ := by
  unfold UnpackedFloat.unpack
  simp only [unpackMantissa_packComponents, unpackExponent_packComponents,
    unpackSign_packComponents, Sign.ofBitVec_toBitVec]
  split
  · next h => split <;> simp [UnpackedFloat.isFinite, h]
  split
  · next h _ => split <;> simp [UnpackedFloat.isFinite, h]
  · next h _ => simp [UnpackedFloat.isFinite, h]

/-- A finite number is packed again as it was. -/
theorem pack_unpack_packComponents (hbits : 2 ≤ S.exponentBits) (he : e ≠ -1#_) :
    UnpackedFloat.pack S (UnpackedFloat.unpack S (packComponents S s e m)) =
      packComponents S s e m := by
  rw [pack_unpack _ hbits, if_neg]
  simp [isNaNBits, he]

end

/-! ## Signs and magnitudes -/

/-- The bits of a double, from its sign and the bits of its magnitude. -/
def signed (s : Sign) (u : Nat) : UInt64 :=
  .ofBitVec (packComponents Format.binary64 s (BitVec.ofNat 11 (u / 2 ^ 52)) (BitVec.ofNat 52 u))

def signOf (x : Float) : Sign := if isNegative x then .negative else .positive

theorem toNat_signed (s : Sign) {u : Nat} (hu : u < signBit) :
    (signed s u).toNat = s.toBitVec.toNat * signBit + u := by
  have hparts : (signed s u).toNat = (packComponents Format.binary64 s
      (BitVec.ofNat 11 (u / 2 ^ 52)) (BitVec.ofNat 52 u)).toNat := rfl
  rw [hparts, toNat_packComponents, BitVec.toNat_ofNat, BitVec.toNat_ofNat]
  dsimp only [Format.binary64]
  rw [signBit] at *
  omega

theorem magnitude_lt (x : Float) : x.toBits.toNat % signBit < signBit :=
  Nat.mod_lt _ (by decide)

theorem toBits_eq_signed (x : Float) :
    x.toBits = signed (signOf x) (x.toBits.toNat % signBit) := by
  have hlt : x.toBits.toNat < 2 ^ 64 := x.toBits.toNat_lt
  rw [← UInt64.toNat_inj, toNat_signed _ (magnitude_lt x), signOf, isNegative]
  by_cases h : signBit ≤ x.toBits.toNat
  · have hone : Sign.negative.toBitVec.toNat = 1 := rfl
    rw [decide_eq_true h, if_pos rfl, hone]
    rw [signBit] at *
    omega
  · have hzero : Sign.positive.toBitVec.toNat = 0 := rfl
    rw [decide_eq_false h, if_neg Bool.false_ne_true, hzero]
    rw [signBit] at *
    omega

theorem exponent_ne_iff {u : Nat} (hu : u < signBit) :
    BitVec.ofNat 11 (u / 2 ^ 52) ≠ -1#_ ↔ u < infinityBits := by
  rw [ne_eq, ← BitVec.toNat_inj, BitVec.toNat_ofNat, BitVec.neg_one_eq_allOnes,
    BitVec.toNat_allOnes]
  rw [signBit] at hu
  rw [infinityBits]
  omega

/-- A double is finite when its magnitude is less than that of the infinities. -/
theorem isFinite_iff (x : Float) :
    x.isFinite = true ↔ x.toBits.toNat % signBit < infinityBits := by
  have hunpack : x.isFinite = (UnpackedFloat.unpack Format.binary64 x.toBits.toBitVec).isFinite :=
    rfl
  have hsigned := toBits_eq_signed x
  have hu := magnitude_lt x
  generalize x.toBits.toNat % signBit = u at hsigned hu ⊢
  rw [hunpack, hsigned, ← exponent_ne_iff hu]
  exact isFinite_unpack_packComponents

theorem isNaN_of_isFinite {x : Float} (hx : x.isFinite = true) : x.isNaN = false := by
  change x.toModel.unpack.isFinite = true at hx
  change x.toModel.unpack.isNaN = false
  cases h : x.toModel.unpack with
  | notANumber =>
    rw [h] at hx
    cases hx
  | _ => rfl

theorem isInf_of_isFinite {x : Float} (hx : x.isFinite = true) : x.isInf = false := by
  change x.toModel.unpack.isFinite = true at hx
  change x.toModel.unpack.isInf = false
  cases h : x.toModel.unpack with
  | infinity =>
    rw [h] at hx
    cases hx
  | _ => rfl

/-- A double that is not finite is no number or infinite. -/
theorem isInf_of_not_isFinite {x : Float} (hx : x.isFinite = false) (hn : x.isNaN = false) :
    x.isInf = true := by
  change x.toModel.unpack.isFinite = false at hx
  change x.toModel.unpack.isNaN = false at hn
  change x.toModel.unpack.isInf = true
  cases h : x.toModel.unpack with
  | infinity => rfl
  | notANumber =>
    rw [h] at hn
    cases hn
  | zero =>
    rw [h] at hx
    cases hx
  | finite =>
    rw [h] at hx
    cases hx

/-! ## Doubles from their bits -/

section

variable {s : Sign} {u : Nat}

theorem lt_signBit_of_finite (hu : u < infinityBits) : u < signBit := by
  rw [infinityBits] at hu
  rw [signBit]
  omega

/-- The bits of a finite double are kept. -/
theorem toBits_ofBits_signed (hu : u < infinityBits) :
    (Float.ofBits (signed s u)).toBits = signed s u :=
  congrArg UInt64.ofBitVec (pack_unpack_packComponents (S := Format.binary64) (by decide)
    ((exponent_ne_iff (lt_signBit_of_finite hu)).mpr hu))

/-- The opposite of a finite double has the same magnitude. -/
theorem toBits_neg_ofBits_signed (hu : u < infinityBits) :
    (-Float.ofBits (signed s u)).toBits = signed (-s) u := by
  have hkept : (Float.ofBits (signed s u)).toBits.toBitVec = packComponents Format.binary64 s
      (BitVec.ofNat 11 (u / 2 ^ 52)) (BitVec.ofNat 52 u) :=
    congrArg UInt64.toBitVec (toBits_ofBits_signed hu)
  have hneg : (-Float.ofBits (signed s u)).toBits = .ofBitVec (UnpackedFloat.pack Format.binary64
      (UnpackedFloat.unpack Format.binary64 (Float.ofBits (signed s u)).toBits.toBitVec).neg) := rfl
  rw [hneg, hkept, ← unpack_packComponents_neg, pack_unpack_packComponents (S := Format.binary64)
    (by decide) ((exponent_ne_iff (lt_signBit_of_finite hu)).mpr hu)]
  rfl

end

theorem toUInt64_eq_signed {u : Nat} (hu : u < signBit) : u.toUInt64 = signed .positive u := by
  have hzero : Sign.positive.toBitVec.toNat = 0 := rfl
  rw [← UInt64.toNat_inj, toNat_signed _ hu, hzero, Nat.toUInt64_eq, UInt64.toNat_ofNat']
  rw [signBit] at *
  omega

/-- A finite double is the one of its magnitude, or the opposite of that. -/
theorem eq_signed_magnitude {x : Float} (hx : x.isFinite = true) :
    (if isNegative x then -Float.ofBits (x.toBits.toNat % signBit).toUInt64
      else Float.ofBits (x.toBits.toNat % signBit).toUInt64) = x := by
  have hu := (isFinite_iff x).mp hx
  have hsigned := toBits_eq_signed x
  rw [toUInt64_eq_signed (magnitude_lt x)]
  generalize x.toBits.toNat % signBit = u at hu hsigned ⊢
  rw [signOf] at hsigned
  rw [← Float.toBits_inj]
  split
  · next hnegative =>
    rw [if_pos hnegative] at hsigned
    rw [hsigned]
    exact toBits_neg_ofBits_signed hu
  · next hpositive =>
    rw [if_neg hpositive] at hsigned
    rw [hsigned]
    exact toBits_ofBits_signed hu

/-! ## The zeros -/

theorem gt_iff {x y : Float} : x > y ↔ y.toModel.unpack.lt x.toModel.unpack = true := by
  show Float.lt y x = true ↔ _
  unfold Float.lt
  rw [decide_eq_true_iff]
  rfl

theorem lt_zero_right (w : UnpackedFloat) (s t : Sign) : w.lt (.zero s) = w.lt (.zero t) := by
  cases w with
  | finite sign => cases sign <;> rfl
  | infinity sign => cases sign <;> rfl
  | _ => rfl

theorem lt_zero_left (w : UnpackedFloat) (s t : Sign) :
    (UnpackedFloat.zero s).lt w = (UnpackedFloat.zero t).lt w := by
  cases w with
  | finite sign => cases sign <;> rfl
  | infinity sign => cases sign <;> rfl
  | _ => rfl

theorem unpack_of_magnitude_zero {x : Float} (h : x.toBits.toNat % signBit = 0) :
    x.toModel.unpack = .zero (signOf x) := by
  have hunpack : x.toModel.unpack = UnpackedFloat.unpack Format.binary64 x.toBits.toBitVec := rfl
  have hsigned := toBits_eq_signed x
  rw [h] at hsigned
  rw [hunpack, hsigned]
  cases signOf x <;> rfl

/-! ## The order -/

theorem compare_magnitudes_swap (e k : Int) (m n : Nat) :
    ((compare e k).then (compare m n)).swap = (compare k e).then (compare n m) := by
  rw [Ordering.swap_then, Int.compare_swap, Nat.compare_swap]

theorem compare_swap (a b : UnpackedFloat) : (a.compare b).map Ordering.swap = b.compare a := by
  cases a with
  | notANumber => cases b <;> rfl
  | infinity s =>
    cases b with
    | infinity t => cases s <;> cases t <;> rfl
    | _ => cases s <;> rfl
  | zero s =>
    cases b with
    | infinity t => cases t <;> rfl
    | finite t => cases t <;> rfl
    | _ => rfl
  | finite s m e =>
    cases b with
    | notANumber => rfl
    | infinity t => cases s <;> cases t <;> rfl
    | zero t => cases s <;> rfl
    | finite t n k =>
      cases s <;> cases t
      · exact congrArg (fun o => some o.swap) (compare_magnitudes_swap e k m n)
      · rfl
      · rfl
      · exact congrArg some (compare_magnitudes_swap e k m n)

theorem compare_eq_none_iff (a b : UnpackedFloat) :
    a.compare b = none ↔ a.isNaN = true ∨ b.isNaN = true := by
  rcases a with (_ | _) | _ | _ | ⟨_ | _, _, _, _⟩ <;>
    rcases b with (_ | _) | _ | _ | ⟨_ | _, _, _, _⟩ <;>
    simp [UnpackedFloat.compare, UnpackedFloat.isNaN]

/-- What is not at least another double is less than it, or one of the two is no number. -/
theorem not_ge_iff {x y : Float} : ¬ x ≥ y ↔ x < y ∨ x.isNaN = true ∨ y.isNaN = true := by
  have hge : x ≥ y ↔ (y.toModel.unpack.compare x.toModel.unpack).any (·.isLE) = true := by
    show Float.le y x = true ↔ _
    unfold Float.le
    rw [decide_eq_true_iff]
    rfl
  have hlt : x < y ↔ x.toModel.unpack.compare y.toModel.unpack = some .lt := by
    show Float.lt x y = true ↔ _
    unfold Float.lt
    rw [decide_eq_true_iff]
    exact beq_iff_eq
  have hnan : x.isNaN = true ∨ y.isNaN = true ↔
      x.toModel.unpack.compare y.toModel.unpack = none := (compare_eq_none_iff _ _).symm
  rw [hge, hlt, hnan, ← compare_swap]
  cases x.toModel.unpack.compare y.toModel.unpack with
  | none => simp
  | some o => cases o <;> simp

end FacetSearch.Decimal
