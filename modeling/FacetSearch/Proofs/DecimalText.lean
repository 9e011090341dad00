import FacetSearch.Decimal.Layout
import FacetSearch.Proofs.DoubleBits
import FacetSearch.Proofs.Numeral
import FacetSearch.Proofs.RangeValue
import FacetSearch.Proofs.ShortestDecimal
/-!
# Texts of doubles

A double is displayed as a plain numeral: digits, perhaps with a point among them. Main statement:
the text of a finite double is read back as the double, and that of any other one is read as one
that is not finite.
-/

namespace FacetSearch.Decimal

open Text

/-! ## Plain numerals -/

/-- Digits, perhaps with a point among them: the text, its digits read as one number, and how many
of them stand after the point. -/
inductive PlainNumeral : List Char → Nat → Nat → Prop
  | whole {digits : List Char} (hne : digits ≠ []) (hdigits : ∀ c ∈ digits, c.isDigit = true) :
    PlainNumeral digits (digitsValue digits) 0
  | point {digits fraction : List Char} (hne : digits ≠ [])
    (hdigits : ∀ c ∈ digits, c.isDigit = true) (hfne : fraction ≠ [])
    (hfraction : ∀ c ∈ fraction, c.isDigit = true) :
    PlainNumeral (digits ++ '.' :: fraction) (digitsValue (digits ++ fraction)) fraction.length

variable {s : List Char} {m places : Nat}

/-- A plain numeral is read as the double nearest to it. -/
theorem PlainNumeral.magnitude?_eq (h : PlainNumeral s m places) :
    magnitude? s = some (toDouble m (-places)) := by
  have hend : NoDigitHead [] := by simp [NoDigitHead]
  cases h with
  | whole hne hdigits =>
    have h := magnitude?_whole hne hdigits hend (by simp)
    simpa [exponent?] using h
  | point hne hdigits _ hfraction =>
    have h := magnitude?_point (fun h => hne h.1) hdigits hfraction hend
    simpa [exponent?] using h

theorem ne_point_of_isDigit {c : Char} (h : c.isDigit = true) : c ≠ '.' := by
  rintro rfl
  cases h

theorem undotted_digits {digits : List Char} (h : ∀ c ∈ digits, c.isDigit = true) :
    Undotted digits :=
  undotted_of_forall fun c hc => ne_point_of_isDigit (h c hc)

theorem PlainNumeral.undotted (h : PlainNumeral s m places) : Undotted s := by
  cases h with
  | whole _ hdigits => exact undotted_digits hdigits
  | @point digits fraction _ hdigits hfne hfraction =>
    apply undotted_append (fun c hc => ne_point_of_isDigit (hdigits c hc))
    cases fraction with
    | nil => exact absurd rfl hfne
    | cons c rest =>
      exact ⟨fun _ => ne_point_of_isDigit (hfraction c List.mem_cons_self),
        undotted_digits hfraction⟩

/-- A plain numeral starts with a digit. -/
theorem PlainNumeral.exists_head (h : PlainNumeral s m places) :
    ∃ c rest, s = c :: rest ∧ c.isDigit = true := by
  cases h with
  | whole hne hdigits =>
    cases s with
    | nil => exact absurd rfl hne
    | cons c rest => exact ⟨c, rest, rfl, hdigits c List.mem_cons_self⟩
  | @point digits fraction hne hdigits _ _ =>
    cases digits with
    | nil => exact absurd rfl hne
    | cons c rest => exact ⟨c, _, rfl, hdigits c List.mem_cons_self⟩

/-! ## Layouts -/

theorem digitsValue_eq (s : List Char) : digitsValue s = Nat.ofDigitChars 10 s 0 := rfl

theorem digitsValue_repr (n : Nat) : digitsValue (Nat.repr n).toList = n := by
  simp [digitsValue_eq, Nat.repr_eq_ofList_toDigits]

theorem isDigit_of_mem_repr {n : Nat} {c : Char} (hc : c ∈ (Nat.repr n).toList) :
    c.isDigit = true := by
  rw [Nat.repr_eq_ofList_toDigits, String.toList_ofList] at hc
  exact Nat.isDigit_of_mem_toDigits (by decide) (by decide) hc

theorem repr_ne_nil (n : Nat) : (Nat.repr n).toList ≠ [] := by
  simp [Nat.repr_eq_ofList_toDigits, Nat.toDigits_ne_nil]

theorem toList_zeros (n : Nat) : (zeros n).toList = List.replicate n '0' := by
  rw [zeros, String.toList_ofList]

theorem digitsValue_zeros_append (n : Nat) (s : List Char) :
    digitsValue (List.replicate n '0' ++ s) = digitsValue s := by
  rw [digitsValue_eq, Nat.ofDigitChars_append, Nat.ofDigitChars_replicate_zero, Nat.mul_zero,
    digitsValue_eq]

theorem digitsValue_append_zeros (n : Nat) (s : List Char) :
    digitsValue (s ++ List.replicate n '0') = digitsValue s * 10 ^ n := by
  rw [digitsValue_eq, Nat.ofDigitChars_append, Nat.ofDigitChars_replicate_zero, Nat.mul_comm,
    digitsValue_eq]

theorem isDigit_of_mem_zeros {n : Nat} {c : Char} (hc : c ∈ List.replicate n '0') :
    c.isDigit = true := by
  rw [List.eq_of_mem_replicate hc]
  rfl

/-- The text is a plain numeral of this value. -/
def Denotes (s : List Char) (q : ℚ) : Prop :=
  ∃ m places, PlainNumeral s m places ∧ (m * 10 ^ (-places : ℤ) : ℚ) = q

section

variable {digits : List Char} (hdigits : ∀ c ∈ digits, c.isDigit = true)

include hdigits

/-- The point stands before all digits. -/
theorem denotes_before (hne : digits ≠ []) (n : Nat) :
    Denotes ('0' :: '.' :: (List.replicate n '0' ++ digits))
      (digitsValue digits * 10 ^ (-(n + digits.length : Nat) : ℤ)) := by
  have hfraction : ∀ c ∈ List.replicate n '0' ++ digits, c.isDigit = true := by
    intro c hc
    rcases List.mem_append.mp hc with hc | hc
    · exact isDigit_of_mem_zeros hc
    · exact hdigits c hc
  have hplain := PlainNumeral.point (List.cons_ne_nil '0' []) (by simp)
    (List.append_ne_nil_of_right_ne_nil _ hne) hfraction
  refine ⟨_, _, hplain, ?_⟩
  have hvalue : digitsValue (['0'] ++ (List.replicate n '0' ++ digits)) = digitsValue digits := by
    rw [← List.replicate_one, digitsValue_zeros_append, digitsValue_zeros_append]
  rw [hvalue, List.length_append, List.length_replicate]

/-- The point stands after all digits. -/
theorem denotes_after (hne : digits ≠ []) (n : Nat) :
    Denotes (digits ++ List.replicate n '0') (digitsValue digits * 10 ^ n) := by
  have hwhole : ∀ c ∈ digits ++ List.replicate n '0', c.isDigit = true := by
    intro c hc
    rcases List.mem_append.mp hc with hc | hc
    · exact hdigits c hc
    · exact isDigit_of_mem_zeros hc
  have hplain := PlainNumeral.whole (List.append_ne_nil_of_left_ne_nil hne _) hwhole
  refine ⟨_, _, hplain, ?_⟩
  rw [digitsValue_append_zeros]
  simp

/-- The point stands among the digits. -/
theorem denotes_among {n : Nat} (hpos : 0 < n) (hlt : n < digits.length) :
    Denotes (digits.take n ++ '.' :: digits.drop n)
      (digitsValue digits * 10 ^ (-(digits.length - n : Nat) : ℤ)) := by
  have hfront : digits.take n ≠ [] := by
    rw [← List.length_pos_iff, List.length_take]
    omega
  have hback : digits.drop n ≠ [] := by
    rw [← List.length_pos_iff, List.length_drop]
    omega
  have hplain := PlainNumeral.point hfront (fun c hc => hdigits c (List.mem_of_mem_take hc))
    hback (fun c hc => hdigits c (List.mem_of_mem_drop hc))
  refine ⟨_, _, hplain, ?_⟩
  rw [List.take_append_drop, List.length_drop]

end

/-- The plain layout of digits with an exponent is a numeral of the same value. -/
theorem arrange_plain {text : String} (hne : text.toList ≠ [])
    (hdigits : ∀ c ∈ text.toList, c.isDigit = true) (k : ℤ) :
    Denotes (plain.arrange text (text.length + k)).toList
      (digitsValue text.toList * 10 ^ k) := by
  have hlength : text.length = text.toList.length := rfl
  generalize hpoint : (text.length + k : ℤ) = point
  unfold Layout.arrange
  rw [if_pos (show plain.writtenOut point = true from rfl)]
  split
  · next h =>
    have hk : k = (-((-point).toNat + text.toList.length : Nat) : ℤ) := by omega
    have htext : ("0." ++ zeros (-point).toNat ++ text).toList =
        '0' :: '.' :: (List.replicate (-point).toNat '0' ++ text.toList) := by
      simp [toList_zeros]
    rw [htext, hk]
    exact denotes_before hdigits hne _
  split
  · next h hlong =>
    have hk : k = (point.toNat - text.length : Nat) := by omega
    have htext : (text ++ zeros (point.toNat - text.length) ++ plain.wholeSuffix).toList =
        text.toList ++ List.replicate (point.toNat - text.length) '0' := by
      simp [toList_zeros, plain]
    rw [htext, hk, zpow_natCast]
    exact denotes_after hdigits hne _
  · next h hshort =>
    have hk : k = (-(text.toList.length - point.toNat : Nat) : ℤ) := by omega
    have htext : (String.ofList (text.toList.take point.toNat) ++ "." ++
        String.ofList (text.toList.drop point.toNat)).toList =
        text.toList.take point.toNat ++ '.' :: text.toList.drop point.toNat := by simp
    rw [htext, hk]
    exact denotes_among hdigits (by omega) (by omega)

/-! ## Displayed doubles -/

theorem Binary.whole?_value {b : Binary} {n : Nat} (h : b.whole? = some n) :
    (n : ℚ) = b.value := by
  unfold whole? at h
  dsimp only at h
  split at h
  · next hexp =>
    obtain rfl := Option.some.inj h
    rw [value, Nat.shiftLeft_eq]
    push_cast
    rw [← zpow_natCast, Int.toNat_of_nonneg hexp]
  split at h
  · next hexp hrest =>
    obtain rfl := Option.some.inj h
    rw [Nat.pow_eq] at hrest ⊢
    have hsplit : (b.mantissa : ℚ) =
        (b.mantissa / 2 ^ (-b.exponent).toNat : Nat) * 2 ^ (-b.exponent).toNat := by
      exact_mod_cast (Nat.div_mul_cancel (Nat.dvd_of_mod_eq_zero hrest)).symm
    have hzero : b.exponent.toNat = 0 := Int.toNat_of_nonpos (by omega)
    rw [value, hsplit, zpow_eq_div two_ne_zero, hzero]
    field_simp
  · cases h

theorem Binary.whole?_of_mantissa_eq_zero {b : Binary} (h : b.mantissa = 0) :
    b.whole? = some 0 := by
  simp [whole?, h]

/-- The sign stands before the text of a negative integer. -/
theorem toList_toString_signed {n : Nat} (hn : n ≠ 0) (negative : Bool) :
    (toString (if negative then -(n : Int) else n)).toList =
      (if negative then ['-'] else []) ++ (Nat.repr n).toList := by
  cases n with
  | zero => exact absurd rfl hn
  | succ n =>
    cases negative with
    | false => rfl
    | true =>
      change ("-" ++ Nat.repr (n + 1)).toList = _
      rw [String.toList_append]
      rfl

/-- The text of a finite double other than zero: its sign, and its shortest decimal laid out. -/
theorem Layout.render_of_isFinite (layout : Layout) {x : Float} (hx : x.isFinite = true)
    {b : Binary} (hb : Binary.ofBits (x.toBits.toNat % signBit) = b) (hpos : b.mantissa ≠ 0) :
    layout.render x = (if isNegative x then "-" else "") ++
      layout.arrange (Nat.repr (b.shortest layout.tie).digits)
        ((Nat.repr (b.shortest layout.tie).digits).length + (b.shortest layout.tie).exponent) := by
  unfold render
  rw [isNaN_of_isFinite hx, if_neg Bool.false_ne_true]
  dsimp only
  rw [isInf_of_isFinite hx, if_neg Bool.false_ne_true, hb, if_neg hpos]

/-- The text of a finite double other than zero: its sign, and a plain numeral near its
magnitude. -/
theorem exists_display {x : Float} (hx : x.isFinite = true)
    (hpos : (Binary.ofBits (x.toBits.toNat % signBit)).mantissa ≠ 0) : ∃ s m places,
      (display x).toList = (if isNegative x then ['-'] else []) ++ s ∧
        PlainNumeral s m places ∧
        (Binary.ofBits (x.toBits.toNat % signBit)).Near (m * 10 ^ (-places : ℤ)) := by
  have hrender : ∃ s m places,
      (plain.render x).toList = (if isNegative x then ['-'] else []) ++ s ∧
        PlainNumeral s m places ∧
        (Binary.ofBits (x.toBits.toNat % signBit)).Near (m * 10 ^ (-places : ℤ)) := by
    have hb := Binary.canonical_ofBits (x.toBits.toNat % signBit)
    have hshortest := Binary.near_shortest plain.tie hb hpos
    obtain ⟨m, places, hplain, hvalue⟩ := arrange_plain (repr_ne_nil _) (fun c => isDigit_of_mem_repr)
      (Binary.shortest plain.tie (Binary.ofBits (x.toBits.toNat % signBit))).exponent
    refine ⟨_, m, places, ?_, hplain, ?_⟩
    · rw [plain.render_of_isFinite hx rfl hpos, String.toList_append]
      congr 1
      split <;> rfl
    · rw [hvalue, digitsValue_repr]
      exact hshortest
  unfold display
  split
  · next n hn =>
    split
    · have hvalue := Binary.whole?_value hn
      have hne : n ≠ 0 := by
        rintro rfl
        exact Binary.value_ne_zero hpos (hvalue.symm.trans Nat.cast_zero)
      refine ⟨_, _, _, toList_toString_signed hne _,
        .whole (repr_ne_nil n) (fun c => isDigit_of_mem_repr), ?_⟩
      rw [digitsValue_repr, hvalue]
      simpa using Binary.near_value _
    · exact hrender
  · exact hrender

/-- A sign and a plain numeral are read as the double of the numeral, with the sign. -/
theorem readDouble_signed (h : PlainNumeral s m places) (negative : Bool) :
    readDouble ((if negative then ['-'] else []) ++ s) =
      .ok (if negative then -toDouble m (-places) else toDouble m (-places)) := by
  have hread := h.magnitude?_eq
  obtain ⟨c, rest, rfl, hc⟩ := h.exists_head
  cases negative with
  | true => simp [readDouble, splitSign, hread]
  | false =>
    have hsplit : splitSign (c :: rest) = (false, c :: rest) := by
      unfold splitSign
      split
      · next heq =>
        obtain ⟨rfl, _⟩ := List.cons.inj heq
        cases hc
      · next heq =>
        obtain ⟨rfl, _⟩ := List.cons.inj heq
        cases hc
      · rfl
    simp [readDouble, hsplit, hread]

theorem display_zero {x : Float} (h : x.toBits.toNat % signBit = 0) : display x = "0" := by
  have hwhole : (Binary.ofBits 0).whole? = some 0 := Binary.whole?_of_mantissa_eq_zero rfl
  unfold display
  rw [h, hwhole]
  cases isNegative x <;> rfl

/-- The text of a finite double is read back as it, but that the text of either zero is read as the
positive one. -/
theorem readDouble_display {x : Float} (hx : x.isFinite = true) :
    readDouble (display x).toList =
      .ok (if x.toBits.toNat % signBit = 0 then 0 else x) := by
  have hu := (isFinite_iff x).mp hx
  split
  · next h =>
    rw [display_zero h]
    rfl
  · next h =>
    have hpos : (Binary.ofBits (x.toBits.toNat % signBit)).mantissa ≠ 0 :=
      fun hm => h ((Binary.mantissa_ofBits_eq_zero_iff hu).mp hm)
    obtain ⟨s, m, places, htext, hplain, hnear⟩ := exists_display hx hpos
    have hbits := Binary.bits_ofBits hu
    have hdouble := hnear.toDouble_eq (Binary.canonical_ofBits _) (hbits.trans_lt hu) hpos (by omega)
    rw [htext, readDouble_signed hplain, hdouble, hbits, eq_signed_magnitude hx]

/-- A magnitude that is not finite would be a large whole number. -/
theorem ofBits_of_infinityBits_le {u : Nat} (hu : infinityBits ≤ u) (hlt : u < signBit) :
    hiddenBit ≤ (Binary.ofBits u).mantissa ∧ 0 ≤ (Binary.ofBits u).exponent := by
  have hbiased : u / hiddenBit % 2048 = 2047 := by
    rw [infinityBits] at hu
    rw [signBit] at hlt
    rw [hiddenBit]
    omega
  unfold Binary.ofBits
  rw [hbiased, if_neg (by decide)]
  exact ⟨Nat.le_add_right .., show (0 : ℤ) ≤ (2047 : Nat) - 1075 by decide⟩

/-- A double that is not finite has a text that names it. -/
theorem display_of_not_isFinite {x : Float} (hx : x.isFinite = false) :
    display x = "NaN" ∨ display x = "inf" ∨ display x = "-inf" := by
  have hu : infinityBits ≤ x.toBits.toNat % signBit := by
    rw [← not_lt, ← isFinite_iff, hx]
    exact Bool.false_ne_true
  obtain ⟨hmantissa, hexponent⟩ := ofBits_of_infinityBits_le hu (magnitude_lt x)
  have hrender : display x = plain.render x := by
    unfold display Binary.whole?
    rw [if_pos hexponent]
    dsimp only
    rw [if_neg]
    rw [not_lt, Nat.shiftLeft_eq]
    calc 1000000000000000 ≤ hiddenBit := by decide
      _ ≤ (Binary.ofBits (x.toBits.toNat % signBit)).mantissa := hmantissa
      _ ≤ _ := Nat.le_mul_of_pos_right _ (Nat.pow_pos two_pos)
  rw [hrender]
  unfold Layout.render
  by_cases hn : x.isNaN = true
  · rw [if_pos hn]
    exact .inl rfl
  · rw [if_neg hn]
    dsimp only
    rw [isInf_of_not_isFinite hx (Bool.eq_false_of_not_eq_true hn), if_pos rfl]
    cases isNegative x with
    | true => exact .inr (.inr rfl)
    | false => exact .inr (.inl rfl)

/-- The text of a double that is not finite is read as one that is not finite either. -/
theorem readDouble_display_of_not_isFinite {x : Float} (hx : x.isFinite = false) :
    ∃ y, readDouble (display x).toList = .ok y ∧ y.isFinite = false := by
  have hread {s : List Char}
      (h : (readDouble s).toOption.any (fun y => !y.isFinite) = true) :
      ∃ y, readDouble s = .ok y ∧ y.isFinite = false := by
    cases hs : readDouble s with
    | ok y => exact ⟨y, rfl, by simpa [hs, Except.toOption] using h⟩
    | error => simp [hs, Except.toOption] at h
  rcases display_of_not_isFinite hx with h | h | h
  · rw [h]
    exact hread (by decide +kernel)
  · rw [h]
    exact hread (by decide +kernel)
  · rw [h]
    exact hread (by decide +kernel)

/-! ## Displayed bounds -/

theorem PlainNumeral.noBlank (h : PlainNumeral s m places) : ∀ c ∈ s, isBlank c = false := by
  cases h with
  | whole _ hdigits => exact fun c hc => isBlank_of_isDigit (hdigits c hc)
  | @point digits fraction _ hdigits _ hfraction =>
    intro c hc
    rcases List.mem_append.mp hc with hc | hc
    · exact isBlank_of_isDigit (hdigits c hc)
    rcases List.mem_cons.mp hc with rfl | hc
    · rfl
    · exact isBlank_of_isDigit (hfraction c hc)

/-- A displayed double is a plain numeral with or without a sign, or a word. -/
theorem display_cases (x : Float) :
    (∃ s m places, PlainNumeral s m places ∧
      ∃ negative : Bool, (display x).toList = (if negative then ['-'] else []) ++ s) ∨
    display x = "NaN" ∨ display x = "inf" ∨ display x = "-inf" := by
  by_cases hx : x.isFinite = true
  · left
    have hu := (isFinite_iff x).mp hx
    by_cases h : x.toBits.toNat % signBit = 0
    · refine ⟨['0'], _, _, .whole (List.cons_ne_nil '0' []) (by simp), false, ?_⟩
      rw [display_zero h]
      rfl
    · have hpos : (Binary.ofBits (x.toBits.toNat % signBit)).mantissa ≠ 0 :=
        fun hm => h ((Binary.mantissa_ofBits_eq_zero_iff hu).mp hm)
      obtain ⟨s, m, places, htext, hplain, _⟩ := exists_display hx hpos
      exact ⟨s, m, places, hplain, _, htext⟩
  · exact .inr (display_of_not_isFinite (Bool.eq_false_of_not_eq_true hx))

theorem undotted_display (x : Float) : Undotted (display x).toList := by
  rcases display_cases x with ⟨s, _, _, hplain, negative, htext⟩ | h | h | h
  · rw [htext]
    exact undotted_append (by cases negative <;> simp) hplain.undotted
  all_goals
    rw [h]
    simp [Undotted]

/-- A displayed double is not blank, and there are no blanks in it. -/
theorem trim_display (x : Float) :
    trim (display x).toList = (display x).toList ∧ (display x).toList ≠ [] := by
  have hclean : (∀ c ∈ (display x).toList, isBlank c = false) ∧ (display x).toList ≠ [] := by
    rcases display_cases x with ⟨s, _, _, hplain, negative, htext⟩ | h | h | h
    · rw [htext]
      obtain ⟨c, rest, hs, _⟩ := hplain.exists_head
      refine ⟨fun c hc => ?_, by simp [hs]⟩
      rcases List.mem_append.mp hc with hc | hc
      · cases negative with
        | true =>
          obtain rfl := List.mem_singleton.mp hc
          rfl
        | false => cases hc
      · exact hplain.noBlank c hc
    all_goals
      rw [h]
      simp [isBlank]
  exact ⟨trim_eq_self hclean.1, hclean.2⟩

end FacetSearch.Decimal
