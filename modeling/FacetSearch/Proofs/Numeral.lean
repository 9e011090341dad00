import FacetSearch.Decimal.Numeral
import FacetSearch.Proofs.DigitRun
/-!
# Which texts are numerals

The grammar of the texts that are read as doubles, apart from the reader: an optional sign, then
either digits with at most one point and an optional exponent, or one of three words in any case.
-/

namespace FacetSearch.Decimal

open Text

/-! ## The grammar -/

inductive IsSign : List Char → Prop
  | none : IsSign []
  | plus : IsSign ['+']
  | minus : IsSign ['-']

/-- Digits, with at most one point before, among or after them. -/
inductive IsMantissa : List Char → Prop
  | whole {digits : List Char} (hne : digits ≠ []) (hdigits : ∀ c ∈ digits, c.isDigit = true) :
    IsMantissa digits
  | point {digits fraction : List Char} (hne : ¬ (digits = [] ∧ fraction = []))
    (hdigits : ∀ c ∈ digits, c.isDigit = true) (hfraction : ∀ c ∈ fraction, c.isDigit = true) :
    IsMantissa (digits ++ '.' :: fraction)

inductive IsExponent : List Char → Prop
  | none : IsExponent []
  | some {mark : Char} {sign digits : List Char} (hmark : mark = 'e' ∨ mark = 'E')
    (hsign : IsSign sign) (hne : digits ≠ []) (hdigits : ∀ c ∈ digits, c.isDigit = true) :
    IsExponent (mark :: (sign ++ digits))

/-- A word for a double that is not finite, in lower case. -/
def IsWord (word : String) : Prop := word = "inf" ∨ word = "infinity" ∨ word = "nan"

inductive IsNumeral : List Char → Prop
  | digits {sign mantissa exponent : List Char} (hsign : IsSign sign)
    (hmantissa : IsMantissa mantissa) (hexponent : IsExponent exponent) :
    IsNumeral (sign ++ (mantissa ++ exponent))
  | word {sign word : List Char} (hsign : IsSign sign)
    (hword : IsWord (asciiLower (String.ofList word))) : IsNumeral (sign ++ word)

variable {s : List Char}

/-! ## Signs -/

/-- The text does not start with a sign. -/
def Unsigned (s : List Char) : Prop := ∀ c ∈ s.head?, c ≠ '-' ∧ c ≠ '+'

theorem unsigned_of_isDigit {digits : List Char} (hne : digits ≠ [])
    (h : ∀ c ∈ digits, c.isDigit = true) (s : List Char) : Unsigned (digits ++ s) := by
  cases digits with
  | nil => contradiction
  | cons d rest =>
    rintro _ ⟨⟩
    have hd := h d List.mem_cons_self
    constructor <;> rintro rfl <;> exact absurd hd (by decide)

/-- What a sign is taken from is the sign and the rest. -/
theorem exists_sign (s : List Char) : ∃ sign, IsSign sign ∧ s = sign ++ (splitSign s).2 := by
  unfold splitSign
  split
  · exact ⟨['-'], .minus, rfl⟩
  · exact ⟨['+'], .plus, rfl⟩
  · exact ⟨[], .none, rfl⟩

theorem splitSign_append {sign : List Char} (hsign : IsSign sign) (hs : Unsigned s) :
    (splitSign (sign ++ s)).2 = s := by
  cases hsign with
  | none =>
    change (splitSign s).2 = s
    unfold splitSign
    split
    · exact absurd rfl (hs '-' rfl).1
    · exact absurd rfl (hs '+' rfl).2
    · rfl
  | plus => rfl
  | minus => rfl

/-! ## Digits -/

theorem isSome_allDigits?_iff :
    (allDigits? s).isSome = true ↔ s ≠ [] ∧ ∀ c ∈ s, c.isDigit = true := by
  unfold allDigits?
  simp only [List.all_eq_true]
  split <;> simp_all

theorem isSome_exponent?_cons {mark : Char} (hmark : mark = 'e' ∨ mark = 'E') (s : List Char) :
    (exponent? (mark :: s)).isSome = (allDigits? (splitSign s).2).isSome := by
  rw [exponent?, if_pos hmark]
  cases h : allDigits? (splitSign s).2 <;> simp [h]

theorem isSome_exponent?_iff : (exponent? s).isSome = true ↔ IsExponent s := by
  constructor
  · intro h
    cases s with
    | nil => exact .none
    | cons c rest =>
      by_cases hmark : c = 'e' ∨ c = 'E'
      · obtain ⟨sign, hsign, hrest⟩ := exists_sign rest
        rw [isSome_exponent?_cons hmark, isSome_allDigits?_iff] at h
        rw [hrest]
        exact .some hmark hsign h.1 h.2
      · rw [exponent?, if_neg hmark] at h
        cases h
  · intro h
    cases h with
    | none => rfl
    | some hmark hsign hne hdigits =>
      have hrest := splitSign_append hsign (s := _ ++ []) (unsigned_of_isDigit hne hdigits [])
      rw [List.append_nil] at hrest
      rw [isSome_exponent?_cons hmark, hrest, isSome_allDigits?_iff]
      exact ⟨hne, hdigits⟩

/-- An exponent goes on with neither a digit nor a point. -/
theorem IsExponent.head (h : IsExponent s) :
    NoDigitHead s ∧ s.head? ≠ Option.some '.' := by
  cases h with
  | none => simp [NoDigitHead]
  | some hmark hsign hne hdigits =>
    rcases hmark with rfl | rfl
    · exact ⟨noDigitHead_cons (by decide) _, by simp⟩
    · exact ⟨noDigitHead_cons (by decide) _, by simp⟩

theorem magnitude?_whole {digits : List Char} (hne : digits ≠ [])
    (hdigits : ∀ c ∈ digits, c.isDigit = true) (hs : NoDigitHead s) (hpoint : s.head? ≠ some '.') :
    magnitude? (digits ++ s) = (exponent? s).map fun e => toDouble (digitsValue digits) e := by
  unfold magnitude?
  rw [takeWhile_digits_append hdigits hs, dropWhile_digits_append hdigits hs]
  cases s with
  | nil => simp [hne]
  | cons c rest =>
    have hc : c ≠ '.' := by simpa using hpoint
    simp [hne, hc]

theorem magnitude?_point {digits fraction : List Char} (hne : ¬ (digits = [] ∧ fraction = []))
    (hdigits : ∀ c ∈ digits, c.isDigit = true) (hfraction : ∀ c ∈ fraction, c.isDigit = true)
    (hs : NoDigitHead s) :
    magnitude? (digits ++ '.' :: (fraction ++ s)) = (exponent? s).map fun e =>
      toDouble (digitsValue (digits ++ fraction)) (e - fraction.length) := by
  have hpoint : NoDigitHead ('.' :: (fraction ++ s)) := noDigitHead_cons (by decide) _
  unfold magnitude?
  simp only [takeWhile_digits_append hdigits hpoint, dropWhile_digits_append hdigits hpoint,
    takeWhile_digits_append hfraction hs, dropWhile_digits_append hfraction hs, if_neg hne]

theorem isDigit_of_mem_takeWhile {c : Char} (h : c ∈ s.takeWhile Char.isDigit) :
    c.isDigit = true :=
  List.mem_takeWhile_imp h

theorem isSome_magnitude?_iff : (magnitude? s).isSome = true ↔
    ∃ mantissa exponent, s = mantissa ++ exponent ∧ IsMantissa mantissa ∧ IsExponent exponent := by
  constructor
  · intro h
    have hs : s = s.takeWhile Char.isDigit ++ s.dropWhile Char.isDigit :=
      List.takeWhile_append_dropWhile.symm
    unfold magnitude? at h
    dsimp only at h
    split at h
    · next after hafter =>
      split at h
      · cases h
      · next hne =>
        rw [Option.isSome_map, isSome_exponent?_iff] at h
        refine ⟨s.takeWhile Char.isDigit ++ '.' :: after.takeWhile Char.isDigit, _, ?_,
          .point hne (fun _ => isDigit_of_mem_takeWhile) fun _ => isDigit_of_mem_takeWhile, h⟩
        rw [List.append_assoc, List.cons_append, List.takeWhile_append_dropWhile, ← hafter]
        exact hs
    · split at h
      · cases h
      · next hne =>
        rw [Option.isSome_map, isSome_exponent?_iff] at h
        exact ⟨_, _, hs, .whole (fun h => hne ⟨h, rfl⟩) fun _ => isDigit_of_mem_takeWhile, h⟩
  · rintro ⟨mantissa, exponent, rfl, hmantissa, hexponent⟩
    obtain ⟨hhead, hpoint⟩ := hexponent.head
    cases hmantissa with
    | whole hne hdigits =>
      rw [magnitude?_whole hne hdigits hhead hpoint, Option.isSome_map]
      exact isSome_exponent?_iff.mpr hexponent
    | point hne hdigits hfraction =>
      rw [List.append_assoc, List.cons_append, magnitude?_point hne hdigits hfraction hhead,
        Option.isSome_map]
      exact isSome_exponent?_iff.mpr hexponent

/-! ## Words -/

theorem isSome_word?_iff : (word? s).isSome = true ↔ IsWord (asciiLower (String.ofList s)) := by
  unfold word? IsWord
  split <;> simp_all

/-- A word starts with a letter. -/
theorem unsigned_of_isWord (h : IsWord (asciiLower (String.ofList s))) : Unsigned s := by
  cases s with
  | nil => rintro c ⟨⟩
  | cons c rest =>
    have hlower : c.toLower = 'i' ∨ c.toLower = 'n' := by
      rcases h with h | h | h <;> simp_all [asciiLower, String.ext_iff]
    rintro _ ⟨⟩
    constructor <;> rintro rfl <;> revert hlower <;> decide

/-! ## Numerals -/

theorem IsMantissa.unsigned {mantissa : List Char} (h : IsMantissa mantissa) (s : List Char) :
    Unsigned (mantissa ++ s) := by
  cases h with
  | whole hne hdigits => exact unsigned_of_isDigit hne hdigits s
  | @point digits fraction _ hdigits =>
    by_cases hne : digits = []
    · subst hne
      rintro _ ⟨⟩
      decide
    · rw [List.append_assoc]
      exact unsigned_of_isDigit hne hdigits _

theorem exists_readDouble_iff_isSome : (∃ x, readDouble s = .ok x) ↔
    (magnitude? (splitSign s).2).isSome = true ∨ (word? (splitSign s).2).isSome = true := by
  unfold readDouble
  split
  · next hs =>
    subst hs
    have hmagnitude : magnitude? [] = none := rfl
    simp [splitSign, hmagnitude, isSome_word?_iff, IsWord, asciiLower, String.ext_iff]
  · rw [← Bool.or_eq_true, ← Option.isSome_or]
    dsimp only
    cases h : (magnitude? (splitSign s).2).or (word? (splitSign s).2) with
    | none => simp [h]
    | some x => simp [h]

/-- A text is read as a double exactly when it is a numeral. -/
theorem exists_readDouble_iff : (∃ x, readDouble s = .ok x) ↔ IsNumeral s := by
  rw [exists_readDouble_iff_isSome, isSome_magnitude?_iff, isSome_word?_iff]
  obtain ⟨sign, hsign, hs⟩ := exists_sign s
  constructor
  · rintro (⟨mantissa, exponent, hrest, hmantissa, hexponent⟩ | hword)
    · rw [hs, hrest]
      exact .digits hsign hmantissa hexponent
    · rw [hs]
      exact .word hsign hword
  · intro h
    cases h with
    | digits hsign hmantissa hexponent =>
      rw [splitSign_append hsign (hmantissa.unsigned _)]
      exact .inl ⟨_, _, rfl, hmantissa, hexponent⟩
    | word hsign hword =>
      rw [splitSign_append hsign (unsigned_of_isWord hword)]
      exact .inr hword

end FacetSearch.Decimal
