import FacetSearch.Calendar.Reader
import FacetSearch.Proofs.DayNumber
import FacetSearch.Proofs.DigitRun
import Mathlib.Algebra.Ring.Nat
/-!
# Texts of instants

The RFC 3339 text of an instant names it: two instants that occur on the UTC time line, leap
seconds included, have the same text only when they are the same. Each part of the text is a run
of digits, which ends where the next part begins. Every instant that is read from a text occurs.
-/

namespace FacetSearch.Calendar

open Text

/-! ## Padded numbers -/

theorem toList_padded (width n : Nat) :
    (padded width n).toList =
      List.replicate (width - (Nat.toDigits 10 n).length) '0' ++ Nat.toDigits 10 n := by
  simp [padded, Nat.repr_eq_ofList_toDigits]

theorem isDigit_of_mem_padded (width n : Nat) :
    ∀ c ∈ (padded width n).toList, c.isDigit = true := by
  intro c hc
  rw [toList_padded, List.mem_append] at hc
  rcases hc with hc | hc
  · rw [List.eq_of_mem_replicate hc]
    rfl
  · exact Nat.isDigit_of_mem_toDigits (by decide) (by decide) hc

/-- Leading zeros do not change the number. -/
theorem ofDigitChars_padded (width n : Nat) :
    Nat.ofDigitChars 10 (padded width n).toList 0 = n := by
  rw [toList_padded, Nat.ofDigitChars_append, Nat.ofDigitChars_replicate_zero, Nat.mul_zero,
    Nat.ofDigitChars_ten_toDigits]

theorem length_padded {width n : Nat} (hw : 0 < width) (h : n < 10 ^ width) :
    (padded width n).toList.length = width := by
  have hle := (Nat.length_toDigits_le_iff (b := 10) (by decide) hw).mpr h
  rw [toList_padded, List.length_append, List.length_replicate]
  omega

/-- A padded number is read off a text that goes on with something else. -/
theorem padded_append_inj {width n m : Nat} {s t : List Char} (hs : NoDigitHead s)
    (ht : NoDigitHead t)
    (h : (padded width n).toList ++ s = (padded width m).toList ++ t) : n = m ∧ s = t := by
  obtain ⟨hdigits, hrest⟩ := digits_append_inj (isDigit_of_mem_padded width n)
    (isDigit_of_mem_padded width m) hs ht h
  refine ⟨?_, hrest⟩
  rw [← ofDigitChars_padded width n, hdigits, ofDigitChars_padded]

/-- A padded number is read off a text up to the separator after it. -/
theorem padded_cons_inj {width n m : Nat} {c : Char} {s t : List Char} (hc : c.isDigit = false)
    (h : (padded width n).toList ++ c :: s = (padded width m).toList ++ c :: t) :
    n = m ∧ s = t := by
  obtain ⟨hnumber, hrest⟩ := padded_append_inj (noDigitHead_cons hc s) (noDigitHead_cons hc t) h
  exact ⟨hnumber, (List.cons.inj hrest).2⟩

/-- A padded number starts with a digit. -/
theorem exists_digit_padded (width n : Nat) :
    ∃ c rest, (padded width n).toList = c :: rest ∧ c.isDigit = true := by
  cases h : (padded width n).toList with
  | nil => simp [toList_padded, Nat.toDigits_ne_nil] at h
  | cons c rest => exact ⟨c, rest, rfl, isDigit_of_mem_padded width n c (h ▸ List.mem_cons_self)⟩

/-! ## Years and fractions -/

/-- The sign of a year that has one. -/
def yearSign (year : Int) : Char := if year < 0 then '-' else '+'

theorem toList_yearText (year : Int) : (yearText year).toList =
    if 0 ≤ year ∧ year ≤ 9999 then (padded 4 year.toNat).toList
    else yearSign year :: (padded 4 year.natAbs).toList := by
  unfold yearText yearSign
  split
  · rfl
  · split <;> simp

theorem isDigit_yearSign (year : Int) : (yearSign year).isDigit = false := by
  unfold yearSign
  split <;> rfl

/-- A year of four digits does not read like one with a sign. -/
theorem padded_append_ne_sign {width n : Nat} {year : Int} {s t : List Char} :
    (padded width n).toList ++ s ≠ yearSign year :: t := by
  obtain ⟨c, rest, hc, hdigit⟩ := exists_digit_padded width n
  rw [hc, List.cons_append]
  intro h
  have hsign := isDigit_yearSign year
  rw [← (List.cons.inj h).1, hdigit] at hsign
  cases hsign

theorem yearText_append_inj {year year' : Int} {s t : List Char} (hs : NoDigitHead s)
    (ht : NoDigitHead t) (h : (yearText year).toList ++ s = (yearText year').toList ++ t) :
    year = year' ∧ s = t := by
  rw [toList_yearText, toList_yearText] at h
  split at h <;> split at h
  · obtain ⟨hyear, hrest⟩ := padded_append_inj hs ht h
    exact ⟨by omega, hrest⟩
  · exact absurd h padded_append_ne_sign
  · exact absurd h.symm padded_append_ne_sign
  · rw [List.cons_append, List.cons_append, List.cons.injEq] at h
    obtain ⟨hsign, habs⟩ := h
    obtain ⟨hyear, hrest⟩ := padded_append_inj hs ht habs
    refine ⟨?_, hrest⟩
    by_cases hneg : year < 0 <;> by_cases hneg' : year' < 0 <;>
      simp [yearSign, hneg, hneg'] at hsign <;> omega

/-- The nanoseconds that a fraction of three, six or nine digits stands for. -/
def fractionValue : List Char → Nat
  | [] => 0
  | _ :: digits => Nat.ofDigitChars 10 digits 0 * 10 ^ (9 - digits.length)

theorem fractionValue_padded {width n : Nat} (hw : 0 < width) (h : n < 10 ^ width) :
    fractionValue ("." ++ padded width n).toList = n * 10 ^ (9 - width) := by
  simp [fractionValue, ofDigitChars_padded, length_padded hw h]

/-- A fraction says how many nanoseconds there are. -/
theorem fractionValue_fractionText {nanos : Nat} (h : nanos < 1000000000) :
    fractionValue (fractionText nanos).toList = nanos := by
  unfold fractionText
  split
  · next hzero => simp [fractionValue, hzero]
  split
  · rw [fractionValue_padded (by decide) (by omega)]
    omega
  split
  · rw [fractionValue_padded (by decide) (by omega)]
    omega
  · rw [fractionValue_padded (by decide) (by omega)]
    omega

/-- What follows the seconds is a point or the offset. -/
theorem noDigitHead_fractionText (nanos : Nat) (s : List Char) :
    NoDigitHead ((fractionText nanos).toList ++ '+' :: s) := by
  unfold fractionText
  split
  · exact noDigitHead_cons rfl s
  split
  · rw [String.toList_append]
    exact noDigitHead_cons rfl _
  split
  · rw [String.toList_append]
    exact noDigitHead_cons rfl _
  · rw [String.toList_append]
    exact noDigitHead_cons rfl _

theorem fractionText_inj {nanos nanos' : Nat} {s : List Char} (h : nanos < 1000000000)
    (h' : nanos' < 1000000000)
    (heq : (fractionText nanos).toList ++ s = (fractionText nanos').toList ++ s) :
    nanos = nanos' := by
  rw [← fractionValue_fractionText h, List.append_cancel_right heq, fractionValue_fractionText h']

/-! ## Whole instants -/

namespace Instant

/-- The instant occurs on the UTC time line: its nanoseconds lie within its second, or within a
leap second, which only the last second of a minute can have after it. -/
def Occurs (i : Instant) : Prop :=
  i.nanos < 2000000000 ∧ (1000000000 ≤ i.nanos → i.seconds % 60 = 59)

instance (i : Instant) : Decidable i.Occurs := inferInstanceAs (Decidable (_ ∧ _))

theorem toList_render (i : Instant) : i.render.toList =
    (yearText i.date.year).toList ++ '-' :: ((padded 2 i.date.month).toList ++ '-' ::
      ((padded 2 i.date.day).toList ++ 'T' :: ((padded 2 (i.secondOfDay / 3600)).toList ++ ':' ::
        ((padded 2 (i.secondOfDay / 60 % 60)).toList ++ ':' ::
          ((padded 2 (i.secondOfDay % 60 + i.nanos / 1000000000)).toList ++
            ((fractionText (i.nanos % 1000000000)).toList ++ "+00:00".toList)))))) := by
  simp [render]

/-- Within a leap second, the second of the day is the last of its minute. -/
theorem Occurs.clock {i : Instant} (h : i.Occurs) :
    i.nanos / 1000000000 = 0 ∨ i.nanos / 1000000000 = 1 ∧ i.secondOfDay % 60 = 59 := by
  obtain ⟨hnanos, hleap⟩ := h
  unfold secondOfDay
  omega

/-- Hour, minute and second tell the second of the day, the second 60 being a leap second. -/
theorem clock_inj {time time' nanos nanos' : Nat}
    (h : nanos / 1000000000 = 0 ∨ nanos / 1000000000 = 1 ∧ time % 60 = 59)
    (h' : nanos' / 1000000000 = 0 ∨ nanos' / 1000000000 = 1 ∧ time' % 60 = 59)
    (hhour : time / 3600 = time' / 3600) (hminute : time / 60 % 60 = time' / 60 % 60)
    (hsecond : time % 60 + nanos / 1000000000 = time' % 60 + nanos' / 1000000000)
    (hfraction : nanos % 1000000000 = nanos' % 1000000000) : time = time' ∧ nanos = nanos' := by
  have hleap : nanos / 1000000000 = nanos' / 1000000000 := by omega
  have hnanos : nanos = nanos' := by
    rw [← Nat.div_add_mod nanos 1000000000, hleap, hfraction, Nat.div_add_mod]
  refine ⟨?_, hnanos⟩
  omega

/-- The text of an instant names it. -/
theorem render_inj {i j : Instant} (hi : i.Occurs) (hj : j.Occurs) (h : i.render = j.render) :
    i = j := by
  have htext := congrArg String.toList h
  rw [toList_render, toList_render] at htext
  obtain ⟨hyear, htext⟩ :=
    yearText_append_inj (noDigitHead_cons rfl _) (noDigitHead_cons rfl _) htext
  obtain ⟨hmonth, htext⟩ := padded_cons_inj rfl (List.cons.inj htext).2
  obtain ⟨hday, htext⟩ := padded_cons_inj rfl htext
  obtain ⟨hhour, htext⟩ := padded_cons_inj rfl htext
  obtain ⟨hminute, htext⟩ := padded_cons_inj rfl htext
  obtain ⟨hsecond, htext⟩ := padded_append_inj (noDigitHead_fractionText _ _)
    (noDigitHead_fractionText _ _) htext
  have hfraction := fractionText_inj (Nat.mod_lt _ (by decide)) (Nat.mod_lt _ (by decide)) htext
  have hdays : i.seconds / 86400 = j.seconds / 86400 := by
    have hdate : i.date = j.date := by
      cases hd : i.date
      cases hd' : j.date
      simp_all
    have hnumber := congrArg Date.dayNumber hdate
    rw [date, date, Date.dayNumber_ofDayNumber, Date.dayNumber_ofDayNumber] at hnumber
    omega
  obtain ⟨htime, hnanos⟩ := clock_inj hi.clock hj.clock hhour hminute hsecond hfraction
  obtain ⟨seconds, nanos⟩ := i
  obtain ⟨seconds', nanos'⟩ := j
  rw [mk.injEq]
  refine ⟨?_, hnanos⟩
  unfold secondOfDay at htime
  dsimp only at hdays htime
  omega

end Instant

/-! ## Instants that are read -/

/-- A number is below the power of ten that its digits allow. -/
theorem number?_lt {most n : Nat} {s rest : List Char} (h : number? most s = some (n, rest)) :
    n < 10 ^ min most (s.takeWhile Char.isDigit).length := by
  have hdigits : ∀ c ∈ (s.take most).takeWhile Char.isDigit, c.isDigit = true :=
    fun c hc => List.mem_takeWhile_imp hc
  have hlt := ofDigitChars_lt hdigits 0
  unfold number? at h
  dsimp only at h
  split at h
  · cases h
  · obtain ⟨rfl, _⟩ := Prod.mk.inj (Option.some.inj h)
    simpa [← List.take_takeWhile, Nat.ofDigitChars] using hlt

/-- A fraction is less than a second. -/
theorem fraction?_lt {s rest : List Char} {nanos : Nat} (h : fraction? s = some (nanos, rest)) :
    nanos < 1000000000 := by
  unfold fraction? at h
  split at h
  · next digits =>
    obtain ⟨⟨n, _⟩, hn, h⟩ := Option.bind_eq_some_iff.mp h
    obtain ⟨rfl, _⟩ := Prod.mk.inj (Option.some.inj h)
    have hlt := number?_lt hn
    have hwidth : min 9 (digits.takeWhile Char.isDigit).length ≤ 9 := Nat.min_le_left _ _
    calc n * 10 ^ (9 - min 9 (digits.takeWhile Char.isDigit).length)
        < 10 ^ min 9 (digits.takeWhile Char.isDigit).length *
            10 ^ (9 - min 9 (digits.takeWhile Char.isDigit).length) :=
          Nat.mul_lt_mul_of_pos_right hlt (Nat.pow_pos (by decide))
      _ = 10 ^ 9 := by rw [← Nat.pow_add, Nat.add_sub_cancel' hwidth]
  · obtain ⟨rfl, _⟩ := Prod.mk.inj (Option.some.inj h)
    decide

/-- Offsets are whole minutes. -/
theorem offset?_minutes {s rest : List Char} {offset : Int} (h : offset? s = some (offset, rest)) :
    offset % 60 = 0 := by
  unfold offset? at h
  split at h
  · split at h
    · obtain ⟨rfl, _⟩ := Prod.mk.inj (Option.some.inj h)
      rfl
    split at h
    · obtain ⟨⟨hours, _⟩, _, h⟩ := Option.bind_eq_some_iff.mp h
      obtain ⟨_, _, h⟩ := Option.bind_eq_some_iff.mp h
      obtain ⟨⟨minutes, _⟩, _, h⟩ := Option.bind_eq_some_iff.mp h
      dsimp only at h
      split at h
      · obtain ⟨rfl, _⟩ := Prod.mk.inj (Option.some.inj h)
        split <;> omega
      · cases h
    · cases h
  · cases h

/-- How a timestamp is read, part by part: the remaining text after each part, and the instant that
the parts name. -/
inductive IsTimestamp : List Char → Instant → Prop
  | parts {s s₁ s₂ s₃ s₄ s₅ s₆ s₇ s₈ s₉ s₁₀ s₁₁ s₁₂ : List Char}
    {year month day hour minute second nanos : Nat} {offset : Int}
    (hyear : fourDigits? s = some (year, s₁)) (hdash : after? '-' s₁ = some s₂)
    (hmonth : twoDigits? s₂ = some (month, s₃)) (hdash' : after? '-' s₃ = some s₄)
    (hday : twoDigits? s₄ = some (day, s₅)) (hseparator : separator? s₅ = some s₆)
    (hhour : twoDigits? s₆ = some (hour, s₇)) (hcolon : after? ':' s₇ = some s₈)
    (hminute : twoDigits? s₈ = some (minute, s₉)) (hcolon' : after? ':' s₉ = some s₁₀)
    (hsecond : twoDigits? s₁₀ = some (second, s₁₁)) (hnanos : fraction? s₁₁ = some (nanos, s₁₂))
    (hoffset : offset? s₁₂ = some (offset, []))
    (hdate : Date.Valid ⟨year, month, day⟩) (hclock : hour ≤ 23 ∧ minute ≤ 59 ∧ second ≤ 60) :
    IsTimestamp s ((Instant.ofDate ⟨year, month, day⟩ hour minute (second - second / 60)
      (nanos + second / 60 * 1000000000)).behind offset)

theorem timestamp?_eq_some_iff {s : List Char} {i : Instant} :
    timestamp? s = some i ↔ IsTimestamp s i := by
  constructor
  · intro h
    unfold timestamp? at h
    obtain ⟨⟨year, _⟩, hyear, h⟩ := Option.bind_eq_some_iff.mp h
    obtain ⟨_, hdash, h⟩ := Option.bind_eq_some_iff.mp h
    obtain ⟨⟨month, _⟩, hmonth, h⟩ := Option.bind_eq_some_iff.mp h
    obtain ⟨_, hdash', h⟩ := Option.bind_eq_some_iff.mp h
    obtain ⟨⟨day, _⟩, hday, h⟩ := Option.bind_eq_some_iff.mp h
    obtain ⟨_, hseparator, h⟩ := Option.bind_eq_some_iff.mp h
    obtain ⟨⟨hour, _⟩, hhour, h⟩ := Option.bind_eq_some_iff.mp h
    obtain ⟨_, hcolon, h⟩ := Option.bind_eq_some_iff.mp h
    obtain ⟨⟨minute, _⟩, hminute, h⟩ := Option.bind_eq_some_iff.mp h
    obtain ⟨_, hcolon', h⟩ := Option.bind_eq_some_iff.mp h
    obtain ⟨⟨second, _⟩, hsecond, h⟩ := Option.bind_eq_some_iff.mp h
    obtain ⟨⟨nanos, _⟩, hnanos, h⟩ := Option.bind_eq_some_iff.mp h
    obtain ⟨⟨offset, _⟩, hoffset, h⟩ := Option.bind_eq_some_iff.mp h
    dsimp only at h
    split at h
    · next hvalid =>
      obtain rfl := Option.some.inj h
      obtain ⟨hdate, hh, hm, hs, rfl⟩ := hvalid
      exact .parts hyear hdash hmonth hdash' hday hseparator hhour hcolon hminute hcolon' hsecond
        hnanos hoffset hdate ⟨hh, hm, hs⟩
    · cases h
  · rintro ⟨hyear, hdash, hmonth, hdash', hday, hseparator, hhour, hcolon, hminute, hcolon',
      hsecond, hnanos, hoffset, hdate, hclock⟩
    unfold timestamp?
    refine Option.bind_eq_some_iff.mpr ⟨_, hyear, ?_⟩
    refine Option.bind_eq_some_iff.mpr ⟨_, hdash, ?_⟩
    refine Option.bind_eq_some_iff.mpr ⟨_, hmonth, ?_⟩
    refine Option.bind_eq_some_iff.mpr ⟨_, hdash', ?_⟩
    refine Option.bind_eq_some_iff.mpr ⟨_, hday, ?_⟩
    refine Option.bind_eq_some_iff.mpr ⟨_, hseparator, ?_⟩
    refine Option.bind_eq_some_iff.mpr ⟨_, hhour, ?_⟩
    refine Option.bind_eq_some_iff.mpr ⟨_, hcolon, ?_⟩
    refine Option.bind_eq_some_iff.mpr ⟨_, hminute, ?_⟩
    refine Option.bind_eq_some_iff.mpr ⟨_, hcolon', ?_⟩
    refine Option.bind_eq_some_iff.mpr ⟨_, hsecond, ?_⟩
    refine Option.bind_eq_some_iff.mpr ⟨_, hnanos, ?_⟩
    refine Option.bind_eq_some_iff.mpr ⟨_, hoffset, ?_⟩
    exact if_pos ⟨hdate, hclock.1, hclock.2.1, hclock.2.2, rfl⟩

theorem leap_cases {second : Nat} (h : second ≤ 60) : second / 60 = 0 ∨ second = 60 := by
  omega

theorem timestamp?_occurs {s : List Char} {i : Instant} (h : timestamp? s = some i) :
    i.Occurs := by
  obtain ⟨_, _, _, _, _, _, _, _, _, _, _, hnanos, hoffset, _, _, _, hsecond⟩ :=
    timestamp?_eq_some_iff.mp h
  have hfraction := fraction?_lt hnanos
  have hminutes := offset?_minutes hoffset
  unfold Instant.Occurs Instant.behind Instant.ofDate
  dsimp only
  rcases leap_cases hsecond with hleap | rfl <;> omega

/-- A text that names an instant is a timestamp, or a plain date for its midnight. -/
theorem readInstant?_cases {s : List Char} {i : Instant} (h : readInstant? s = some i) :
    timestamp? s = some i ∨ ∃ date, plainDate? s = some date ∧ i = Instant.midnight date := by
  unfold readInstant? at h
  cases ht : timestamp? s with
  | some j =>
    rw [ht] at h
    exact .inl h
  | none =>
    rw [ht] at h
    obtain ⟨date, hdate, rfl⟩ := Option.map_eq_some_iff.mp h
    exact .inr ⟨date, hdate, rfl⟩

/-- Whatever is read as a date occurs. -/
theorem readInstant?_occurs {s : List Char} {i : Instant} (h : readInstant? s = some i) :
    i.Occurs := by
  rcases readInstant?_cases h with ht | ⟨date, _, rfl⟩
  · exact timestamp?_occurs ht
  · exact ⟨by simp [Instant.midnight, Instant.ofDate], by simp [Instant.midnight, Instant.ofDate]⟩

end FacetSearch.Calendar
