import FacetSearch.Search.Body
import FacetSearch.Proofs.InstantText
import FacetSearch.Proofs.RangeValue
/-!
# Instants that are written and read

The text of an instant whose year has four digits is a timestamp, and it is read as that instant.
So the engine is sent the instant that a client typed, whatever the offset, the digits of the
fraction and the date were, and also within a leap second.
-/

namespace FacetSearch.Calendar

open Text

/-! ## Numbers -/

variable {rest : List Char}

/-- A run of digits that is not too long is read up to what follows it. -/
theorem number?_digits_append {most : Nat} {digits : List Char} (hne : digits ≠ [])
    (hd : ∀ c ∈ digits, c.isDigit = true) (hlen : digits.length ≤ most) (hs : NoDigitHead rest) :
    number? most (digits ++ rest) = some (Nat.ofDigitChars 10 digits 0, rest) := by
  have htaken : ((digits ++ rest).take most).takeWhile Char.isDigit = digits := by
    rw [← List.take_takeWhile, takeWhile_digits_append hd hs, List.take_of_length_le hlen]
  unfold number?
  simp only [htaken, hne, if_false, List.drop_left]
  rfl

theorem number?_padded {most width n : Nat} (hw : 0 < width) (hmost : width ≤ most)
    (h : n < 10 ^ width) (hs : NoDigitHead rest) :
    number? most ((padded width n).toList ++ rest) = some (n, rest) := by
  have hlength := length_padded hw h
  have hne : (padded width n).toList ≠ [] := by
    rw [← List.length_pos_iff, hlength]
    exact hw
  have hlen := Nat.le_trans (Nat.le_of_eq hlength) hmost
  rw [number?_digits_append hne (isDigit_of_mem_padded width n) hlen hs, ofDigitChars_padded]

theorem twoDigits?_padded {n : Nat} (h : n < 100) (hs : NoDigitHead rest) :
    twoDigits? ((padded 2 n).toList ++ rest) = some (n, rest) := by
  have hlength : (padded 2 n).toList.length = 2 := length_padded (by decide) h
  have htake : ((padded 2 n).toList ++ rest).take 2 = (padded 2 n).toList := List.take_left' hlength
  rw [twoDigits?, htake, if_pos ⟨hlength, List.all_eq_true.mpr (isDigit_of_mem_padded 2 n)⟩]
  exact number?_padded (by decide) (by decide) h hs

theorem fourDigits?_padded {n : Nat} (h : n < 10000) (hs : NoDigitHead rest) :
    fourDigits? ((padded 4 n).toList ++ rest) = some (n, rest) := by
  have hlength : (padded 4 n).toList.length = 4 := length_padded (by decide) h
  have htake : ((padded 4 n).toList ++ rest).take 4 = (padded 4 n).toList := List.take_left' hlength
  rw [fourDigits?, htake, if_pos ⟨hlength, List.all_eq_true.mpr (isDigit_of_mem_padded 4 n)⟩]
  exact number?_padded (by decide) (by decide) h hs

theorem after?_cons (c : Char) (s : List Char) : after? c (c :: s) = some s := if_pos rfl

/-! ## Fractions -/

/-- A fraction of at most nine digits is read as the nanoseconds that it stands for. -/
theorem fraction?_padded {width n : Nat} (hw : 0 < width) (hmost : width ≤ 9) (h : n < 10 ^ width)
    (hs : NoDigitHead rest) :
    fraction? (("." ++ padded width n).toList ++ rest) = some (n * 10 ^ (9 - width), rest) := by
  have htext : ("." ++ padded width n).toList ++ rest =
      '.' :: ((padded width n).toList ++ rest) := by
    simp
  have hdigits := takeWhile_digits_append (isDigit_of_mem_padded width n) hs
  have hlength := length_padded hw h
  have hdrop : ((padded width n).toList ++ rest).drop width = rest := List.drop_left' hlength
  rw [htext, fraction?, number?_padded hw hmost h hs]
  simp only [hdigits, hlength, hdrop, Nat.min_eq_right hmost, Option.bind_eq_bind, Option.bind_some]
  rfl

theorem fraction?_fractionText {nanos : Nat} (h : nanos < 1000000000) {s : List Char} :
    fraction? ((fractionText nanos).toList ++ '+' :: s) = some (nanos, '+' :: s) := by
  have hs : NoDigitHead ('+' :: s) := noDigitHead_cons rfl s
  unfold fractionText
  split
  · next hzero =>
    rw [hzero]
    rfl
  split
  · have hexact : nanos / 1000000 * 10 ^ (9 - 3) = nanos := by omega
    rw [fraction?_padded (by decide) (by decide) (by omega) hs, hexact]
  split
  · have hexact : nanos / 1000 * 10 ^ (9 - 6) = nanos := by omega
    rw [fraction?_padded (by decide) (by decide) (by omega) hs, hexact]
  · have hexact : nanos * 10 ^ (9 - 9) = nanos := by omega
    rw [fraction?_padded (by decide) (by decide) (by omega) hs, hexact]

/-! ## Timestamps -/

theorem daysInMonth_le (year : Int) (month : Nat) : daysInMonth year month ≤ 31 := by
  unfold daysInMonth
  split
  · split <;> decide
  · decide
  · decide
  · decide
  · decide
  · decide

/-- A timestamp is read as the time of day on its date that its parts tell, as the clock of its
zone shows it. -/
theorem timestamp?_append {year month day hour minute second nanos : Nat} {offset : Int}
    {fraction zone : List Char} (hyear : year < 10000) (hdate : Date.Valid ⟨year, month, day⟩)
    (hclock : hour ≤ 23 ∧ minute ≤ 59 ∧ second ≤ 60) (hend : NoDigitHead (fraction ++ zone))
    (hfraction : fraction? (fraction ++ zone) = some (nanos, zone))
    (hzone : offset? zone = some (offset, [])) :
    timestamp? ((padded 4 year).toList ++ '-' :: ((padded 2 month).toList ++ '-' ::
      ((padded 2 day).toList ++ 'T' :: ((padded 2 hour).toList ++ ':' ::
        ((padded 2 minute).toList ++ ':' :: ((padded 2 second).toList ++ (fraction ++ zone))))))) =
      some ((Instant.ofDate ⟨year, month, day⟩ hour minute (second - second / 60)
        (nanos + second / 60 * 1000000000)).behind offset) := by
  have hmonth : month ≤ 12 := hdate.2.1
  have hday : day ≤ 31 := Nat.le_trans hdate.2.2.2 (daysInMonth_le year month)
  have hhead {c : Char} (hc : c.isDigit = false) (s : List Char) : NoDigitHead (c :: s) :=
    noDigitHead_cons hc s
  rw [timestamp?_eq_some_iff]
  exact .parts (fourDigits?_padded hyear (hhead rfl _)) (after?_cons _ _)
    (twoDigits?_padded (by omega) (hhead rfl _)) (after?_cons _ _)
    (twoDigits?_padded (by omega) (hhead rfl _)) rfl
    (twoDigits?_padded (by omega) (hhead rfl _)) (after?_cons _ _)
    (twoDigits?_padded (by omega) (hhead rfl _)) (after?_cons _ _)
    (twoDigits?_padded (by omega) hend) hfraction hzone hdate hclock

theorem Instant.behind_zero (i : Instant) : i.behind 0 = i := by
  rw [behind, Int.sub_zero]

/-- The parts of a time of day and its fraction, the second 60 being a leap second, name the instant
that they were taken from. -/
theorem ofDate_parts {i : Instant} (h : i.Occurs) :
    Instant.ofDate i.date (i.secondOfDay / 3600) (i.secondOfDay / 60 % 60)
      (i.secondOfDay % 60 + i.nanos / 1000000000 -
        (i.secondOfDay % 60 + i.nanos / 1000000000) / 60)
      (i.nanos % 1000000000 +
        (i.secondOfDay % 60 + i.nanos / 1000000000) / 60 * 1000000000) = i := by
  have hday : i.date.dayNumber = i.seconds / 86400 + epochDay := Date.dayNumber_ofDayNumber _
  have htime : (i.secondOfDay : Int) = i.seconds % 86400 :=
    Int.toNat_of_nonneg (Int.emod_nonneg _ (by decide))
  have hclock := h.clock
  obtain ⟨seconds, nanos⟩ := i
  rw [Instant.ofDate, hday, Instant.mk.injEq]
  dsimp only at htime hclock ⊢
  generalize Instant.secondOfDay ⟨seconds, nanos⟩ = time at htime hclock ⊢
  rcases hclock with hclock | hclock <;> omega

/-- The text of an instant whose year has four digits is a timestamp of it. -/
theorem timestamp?_render {i : Instant} (h : i.Occurs)
    (hyear : 0 ≤ i.date.year ∧ i.date.year ≤ 9999) : timestamp? i.render.toList = some i := by
  have hyearText : (yearText i.date.year).toList = (padded 4 i.date.year.toNat).toList := by
    rw [toList_yearText, if_pos hyear]
  have hdate : (⟨i.date.year.toNat, i.date.month, i.date.day⟩ : Date) = i.date := by
    rw [Int.toNat_of_nonneg hyear.1]
  have hvalid : i.date.Valid := Date.valid_ofDayNumber _
  have htime : i.secondOfDay < 86400 := by
    unfold Instant.secondOfDay
    omega
  have hclock := h.clock
  have hzone : "+00:00".toList = '+' :: "00:00".toList := rfl
  have hoffset : offset? ('+' :: "00:00".toList) = some (0, []) := rfl
  rw [Instant.toList_render, hyearText, hzone, timestamp?_append (by omega) (hdate ▸ hvalid)
    (by omega) (noDigitHead_fractionText _ _)
    (fraction?_fractionText (Nat.mod_lt i.nanos (by decide))) hoffset, hdate,
    Instant.behind_zero, ofDate_parts h]

end FacetSearch.Calendar

namespace FacetSearch

/-- A date that is read from a value, in a year of four digits, is sent to the engine as a text that
is read as the same instant. -/
theorem readDate_json {s : List Char} {i : Calendar.Instant} (h : readDate s = .ok i)
    (hyear : 0 ≤ i.date.year ∧ i.date.year ≤ 9999) :
    ∃ text, (Bound.date i).json = .str text ∧ readDate text.toList = .ok i := by
  have hread : Calendar.readInstant? s = some i := readDate_eq_ok_iff.mp h
  have hrender := Calendar.timestamp?_render (Calendar.readInstant?_occurs hread) hyear
  refine ⟨i.render, rfl, readDate_eq_ok_iff.mpr ?_⟩
  rw [Calendar.readInstant?, hrender]
  rfl

/-- A leap second on 1 March in the zone of the client falls on 29 February in UTC, in a century
year that is a leap year. The tenth digit of its fraction is dropped. -/
theorem readDate_json_leap_second :
    readDate "2000-03-01t01:59:60.1234567891+02:00".toList = .ok ⟨951868799, 1123456789⟩ ∧
      (Bound.date ⟨951868799, 1123456789⟩).json = .str "2000-02-29T23:59:60.123456789+00:00" ∧
      readDate "2000-02-29T23:59:60.123456789+00:00".toList = .ok ⟨951868799, 1123456789⟩ := by
  have hread : readDate "2000-03-01t01:59:60.1234567891+02:00".toList =
    .ok ⟨951868799, 1123456789⟩ := readDate_eq_ok_iff.mpr (by decide)
  have htext : (Bound.date ⟨951868799, 1123456789⟩).json =
    .str "2000-02-29T23:59:60.123456789+00:00" := congrArg Json.str (by decide +kernel)
  obtain ⟨text, hjson, hagain⟩ := readDate_json hread (by decide)
  obtain rfl : "2000-02-29T23:59:60.123456789+00:00" = text :=
    Json.str.inj (htext.symm.trans hjson)
  exact ⟨hread, htext, hagain⟩

end FacetSearch
