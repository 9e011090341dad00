import FacetSearch.Calendar.Date
/-!
# Dates and day numbers

The date found for a day number has that day number, so the days are numbered by dates without
gaps or repetitions. It is a date of the calendar: no day is found in a month that is too short
for it.
-/

namespace FacetSearch.Calendar

/-- The year of a day has begun. -/
theorem daysBeforeYear_yearOfDay_le (day : Int) : daysBeforeYear (yearOfDay day) ≤ day := by
  unfold yearOfDay
  dsimp only
  split
  · simp only [daysBeforeYear] at *
    omega
  · split
    · assumption
    · omega

/-- The year of a day has not ended. -/
theorem lt_daysBeforeYear_yearOfDay_succ (day : Int) :
    day < daysBeforeYear (yearOfDay day + 1) := by
  unfold yearOfDay
  dsimp only
  split
  · simp only [daysBeforeYear] at *
    omega
  · split
    · simp only [daysBeforeYear] at *
      omega
    · omega

/-- A year has as many days as come before a thirteenth month. -/
theorem daysBeforeYear_succ (year : Int) :
    daysBeforeYear (year + 1) = daysBeforeYear year + daysBeforeMonth year 13 := by
  have hdays : daysBeforeMonth year 13 = 337 + daysInMonth year 2 := by
    simp only [daysBeforeMonth, daysInMonth]
    omega
  have hleap : isLeapYear year = true ↔ year % 4 = 0 ∧ (year % 100 ≠ 0 ∨ year % 400 = 0) := by
    simp [isLeapYear]
  rw [hdays, daysInMonth]
  unfold daysBeforeYear
  dsimp only
  split
  · next h =>
    rw [hleap] at h
    omega
  · next h =>
    rw [hleap] at h
    omega

/-- Month and day of month add up to the position in the year. -/
theorem daysBeforeMonth_monthOfDay (year : Int) (position most : Nat) :
    daysBeforeMonth year (monthOfDay year position most).1 +
      ((monthOfDay year position most).2 - 1) = position := by
  induction most with
  | zero => simp [monthOfDay, daysBeforeMonth]
  | succ month ih =>
    rw [monthOfDay]
    split
    · next h =>
      dsimp only
      omega
    · exact ih

/-- A position that lies before the end of some month is found within a month up to that one. -/
theorem monthOfDay_bounds (year : Int) {position most : Nat} (hmost : 1 ≤ most)
    (h : position < daysBeforeMonth year (most + 1)) :
    1 ≤ (monthOfDay year position most).1 ∧ (monthOfDay year position most).1 ≤ most ∧
      1 ≤ (monthOfDay year position most).2 ∧
      (monthOfDay year position most).2 ≤ daysInMonth year (monthOfDay year position most).1 := by
  induction most with
  | zero => omega
  | succ month ih =>
    rw [monthOfDay]
    split
    · next hle =>
      rw [daysBeforeMonth] at h
      · dsimp only
        omega
      · omega
    · next hlt =>
      have hmonth : 1 ≤ month := Nat.pos_of_ne_zero fun hzero => hlt (hzero ▸ Nat.zero_le _)
      obtain ⟨hlow, hhigh, hday⟩ := ih hmonth (Nat.lt_of_not_le hlt)
      exact ⟨hlow, Nat.le_succ_of_le hhigh, hday⟩

theorem Date.valid_ofDayNumber (day : Int) : (Date.ofDayNumber day).Valid := by
  have hbegun := daysBeforeYear_yearOfDay_le day
  have hopen := lt_daysBeforeYear_yearOfDay_succ day
  rw [daysBeforeYear_succ] at hopen
  have hposition : (day - daysBeforeYear (yearOfDay day)).toNat <
    daysBeforeMonth (yearOfDay day) 13 := by omega
  obtain ⟨hlow, hhigh, hday⟩ := monthOfDay_bounds (yearOfDay day) (by decide : 1 ≤ 12) hposition
  exact ⟨hlow, hhigh, hday⟩

theorem Date.dayNumber_ofDayNumber (day : Int) : (Date.ofDayNumber day).dayNumber = day := by
  have hyear := daysBeforeYear_yearOfDay_le day
  have hmonth := daysBeforeMonth_monthOfDay (yearOfDay day)
    (day - daysBeforeYear (yearOfDay day)).toNat 12
  unfold Date.ofDayNumber Date.dayNumber
  dsimp only
  omega

end FacetSearch.Calendar
