import FacetSearch.Text.Blank
import Mathlib.Algebra.Ring.Nat
import Mathlib.Data.List.TakeWhile
/-!
# Runs of digits

A run of digits at the start of a text ends where something else begins, and its length bounds the
number that it stands for.
-/

namespace FacetSearch.Text

theorem isBlank_of_isDigit {c : Char} (h : c.isDigit = true) : isBlank c = false := by
  have hlow : 48 ≤ c.toNat := by
    simpa [Char.isDigit, UInt32.le_iff_toNat_le] using (Bool.and_eq_true_iff.mp h).1
  have hhigh : c.toNat ≤ 57 := by
    simpa [Char.isDigit, UInt32.le_iff_toNat_le] using (Bool.and_eq_true_iff.mp h).2
  unfold isBlank
  simp
  omega

/-- The text does not start with a digit. -/
def NoDigitHead (s : List Char) : Prop := ∀ c ∈ s.head?, c.isDigit = false

theorem noDigitHead_cons {c : Char} (h : c.isDigit = false) (s : List Char) :
    NoDigitHead (c :: s) := by
  rintro _ ⟨⟩
  exact h

theorem takeWhile_digits_append {digits s : List Char} (hd : ∀ c ∈ digits, c.isDigit = true)
    (hs : NoDigitHead s) : (digits ++ s).takeWhile Char.isDigit = digits := by
  rw [List.takeWhile_append_of_pos hd]
  cases s with
  | nil => simp
  | cons c rest => simp [hs c rfl]

theorem dropWhile_digits_append {digits s : List Char} (hd : ∀ c ∈ digits, c.isDigit = true)
    (hs : NoDigitHead s) : (digits ++ s).dropWhile Char.isDigit = s := by
  rw [List.dropWhile_append_of_pos hd]
  cases s with
  | nil => rfl
  | cons c rest => simp [hs c rfl]

/-- A run of digits is determined by a text that goes on with something else. -/
theorem digits_append_inj {digits others s t : List Char}
    (hd : ∀ c ∈ digits, c.isDigit = true) (ho : ∀ c ∈ others, c.isDigit = true)
    (hs : NoDigitHead s) (ht : NoDigitHead t) (h : digits ++ s = others ++ t) :
    digits = others ∧ s = t := by
  have hsame : digits = others := by
    rw [← takeWhile_digits_append hd hs, h, takeWhile_digits_append ho ht]
  subst hsame
  exact ⟨rfl, List.append_cancel_left h⟩

/-- A run of digits adds less than the power of ten of its length to what was read before. -/
theorem ofDigitChars_lt {digits : List Char} (h : ∀ c ∈ digits, c.isDigit = true) (n : Nat) :
    Nat.ofDigitChars 10 digits n < (n + 1) * 10 ^ digits.length := by
  induction digits generalizing n with
  | nil => simp
  | cons c rest ih =>
    obtain ⟨hc, hrest⟩ := List.forall_mem_cons.mp h
    have hle : c.toNat ≤ '9'.toNat := by
      simpa [Char.isDigit, UInt32.le_iff_toNat_le] using (Bool.and_eq_true_iff.mp hc).2
    have hdigit : c.toNat - '0'.toNat ≤ 9 := Nat.sub_le_iff_le_add.mpr hle
    calc Nat.ofDigitChars 10 (c :: rest) n
        = Nat.ofDigitChars 10 rest (10 * n + (c.toNat - '0'.toNat)) := Nat.ofDigitChars_cons
      _ < (10 * n + (c.toNat - '0'.toNat) + 1) * 10 ^ rest.length := ih hrest _
      _ ≤ (n + 1) * 10 * 10 ^ rest.length := Nat.mul_le_mul_right _ (by omega)
      _ = (n + 1) * 10 ^ (c :: rest).length := by
        rw [List.length_cons, Nat.pow_succ, Nat.mul_assoc, Nat.mul_comm 10]

end FacetSearch.Text
