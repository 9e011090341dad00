import FacetSearch.Proofs.InstantText
import FacetSearch.Proofs.RangeValue
/-!
# Texts of dates

How the texts are written that name an instant. A timestamp starts with a digit and ends with its
zone, and its only point stands before a digit; a plain date has no point and ends with a digit.
Main statement: such a text never runs into the separator of a range, and it names the same
instant without the blanks around it.
-/

namespace FacetSearch.Calendar

open Text

/-- Digits, at least one. -/
def IsNumber (s : List Char) : Prop := s ≠ [] ∧ ∀ c ∈ s, c.isDigit = true

/-- A fraction of a second: nothing, or a point and digits. -/
def IsFraction (s : List Char) : Prop := s = [] ∨ ∃ digits, IsNumber digits ∧ s = '.' :: digits

/-- The end of a timestamp has no points and no blanks. -/
def IsZone (s : List Char) : Prop := s ≠ [] ∧ ∀ c ∈ s, c ≠ '.' ∧ isBlank c = false

/-- A character that can stand anywhere in a plain date: not the mark of a fraction or of a time of
day. -/
def Unmarked (c : Char) : Prop := c ≠ '.' ∧ c ≠ ':'

instance : DecidablePred Unmarked := fun _ => inferInstanceAs (Decidable (_ ∧ _))

variable {s rest : List Char}

theorem unmarked_of_isDigit {c : Char} (h : c.isDigit = true) : Unmarked c := by
  constructor <;> rintro rfl <;> cases h

theorem IsNumber.unmarked (h : IsNumber s) : ∀ c ∈ s, Unmarked c :=
  fun c hc => unmarked_of_isDigit (h.2 c hc)

theorem IsNumber.pointless (h : IsNumber s) : ∀ c ∈ s, c ≠ '.' :=
  fun c hc => (h.unmarked c hc).1

/-- A number can stand in the zone of a timestamp. -/
theorem IsNumber.isZone (h : IsNumber s) : IsZone s :=
  ⟨h.1, fun c hc => ⟨h.pointless c hc, isBlank_of_isDigit (h.2 c hc)⟩⟩

theorem unmarked_of_isBlank {c : Char} (h : isBlank c = true) : Unmarked c := by
  constructor <;> rintro rfl <;> cases h

/-! ## What the readers take -/

/-- A number is written with digits. -/
theorem number?_parts {most n : Nat} (h : number? most s = some (n, rest)) :
    ∃ digits, IsNumber digits ∧ s = digits ++ rest := by
  unfold number? at h
  dsimp only at h
  split at h
  · cases h
  · next hne =>
    obtain ⟨_, rfl⟩ := Prod.mk.inj (Option.some.inj h)
    have hprefix : (s.take most).takeWhile Char.isDigit <+: s :=
      (List.takeWhile_prefix _).trans (List.take_prefix _ _)
    exact ⟨_, ⟨hne, fun c hc => List.mem_takeWhile_imp hc⟩,
      (List.prefix_iff_eq_append.mp hprefix).symm⟩

theorem twoDigits?_parts {n : Nat} (h : twoDigits? s = some (n, rest)) :
    ∃ digits, IsNumber digits ∧ s = digits ++ rest := by
  unfold twoDigits? at h
  split at h
  · exact number?_parts h
  · cases h

theorem fourDigits?_parts {n : Nat} (h : fourDigits? s = some (n, rest)) :
    ∃ digits, IsNumber digits ∧ s = digits ++ rest := by
  unfold fourDigits? at h
  split at h
  · exact number?_parts h
  · cases h

theorem after?_eq_some {c : Char} (h : after? c s = some rest) : s = c :: rest := by
  cases s with
  | nil => cases h
  | cons d tail =>
    simp only [after?, Option.ite_none_right_eq_some, Option.some.injEq] at h
    obtain ⟨rfl, rfl⟩ := h
    rfl

theorem separator?_eq_some (h : separator? s = some rest) : ∃ c, Unmarked c ∧ s = c :: rest := by
  cases s with
  | nil => cases h
  | cons c tail =>
    simp only [separator?, Option.ite_none_right_eq_some, Option.some.injEq] at h
    obtain ⟨hc, rfl⟩ := h
    refine ⟨c, ?_, rfl⟩
    rcases hc with rfl | rfl | rfl <;> decide

theorem fraction?_parts {nanos : Nat} (h : fraction? s = some (nanos, rest)) :
    ∃ fraction, IsFraction fraction ∧ s = fraction ++ rest := by
  unfold fraction? at h
  split at h
  · next text =>
    obtain ⟨⟨n, _⟩, hn, h⟩ := Option.bind_eq_some_iff.mp h
    obtain ⟨_, rfl⟩ := Prod.mk.inj (Option.some.inj h)
    obtain ⟨digits, ⟨hne, hdigits⟩, htext⟩ := number?_parts hn
    refine ⟨'.' :: text.takeWhile Char.isDigit, .inr ⟨_, ⟨?_, fun c hc => ?_⟩, rfl⟩, ?_⟩
    · rw [htext, List.takeWhile_append_of_pos hdigits]
      exact List.append_ne_nil_of_left_ne_nil hne _
    · exact List.mem_takeWhile_imp hc
    · exact congrArg _ (List.prefix_iff_eq_append.mp (List.takeWhile_prefix _)).symm
  · obtain ⟨_, rfl⟩ := Prod.mk.inj (Option.some.inj h)
    exact ⟨[], .inl rfl, rfl⟩

theorem offset?_parts {offset : Int} (h : offset? s = some (offset, rest)) :
    ∃ zone, IsZone zone ∧ s = zone ++ rest := by
  unfold offset? at h
  split at h
  · next c text =>
    split at h
    · next hc =>
      obtain ⟨_, rfl⟩ := Prod.mk.inj (Option.some.inj h)
      refine ⟨[c], ⟨List.cons_ne_nil _ _, ?_⟩, rfl⟩
      simp only [List.mem_singleton, forall_eq]
      rcases hc with rfl | rfl <;> decide
    split at h
    · next hc =>
      obtain ⟨⟨hours, _⟩, hhours, h⟩ := Option.bind_eq_some_iff.mp h
      obtain ⟨_, hcolon, h⟩ := Option.bind_eq_some_iff.mp h
      obtain ⟨⟨minutes, _⟩, hminutes, h⟩ := Option.bind_eq_some_iff.mp h
      dsimp only at h
      split at h
      · obtain ⟨_, rfl⟩ := Prod.mk.inj (Option.some.inj h)
        obtain ⟨hoursText, hh, rfl⟩ := twoDigits?_parts hhours
        obtain rfl := after?_eq_some hcolon
        obtain ⟨minutesText, hm, rfl⟩ := twoDigits?_parts hminutes
        refine ⟨c :: (hoursText ++ ':' :: minutesText), ⟨List.cons_ne_nil _ _, ?_⟩, by simp⟩
        simp only [List.mem_cons, List.mem_append]
        rintro d (rfl | hd | rfl | hd)
        · rcases hc with rfl | rfl | rfl <;> decide
        · exact hh.isZone.2 d hd
        · decide
        · exact hm.isZone.2 d hd
      · cases h
    · cases h
  · cases h

theorem year?_parts {year : Int} (h : year? s = some (year, rest)) :
    ∃ taken, (∀ c ∈ taken, Unmarked c) ∧ s = taken ++ rest := by
  have hnumber {most n : Nat} {t : List Char} (hn : number? most t = some (n, rest)) :
      ∃ taken, (∀ c ∈ taken, Unmarked c) ∧ t = taken ++ rest := by
    obtain ⟨digits, hdigits, rfl⟩ := number?_parts hn
    exact ⟨digits, hdigits.unmarked, rfl⟩
  have hsigned {c : Char} (hc : Unmarked c) {t : List Char}
      (ht : ∃ taken, (∀ d ∈ taken, Unmarked d) ∧ t = taken ++ rest) :
      ∃ taken, (∀ d ∈ taken, Unmarked d) ∧ c :: t = taken ++ rest := by
    obtain ⟨taken, htaken, rfl⟩ := ht
    exact ⟨c :: taken, List.forall_mem_cons.mpr ⟨hc, htaken⟩, rfl⟩
  unfold year? at h
  split at h
  all_goals
    obtain ⟨⟨n, _⟩, hn, h⟩ := Option.map_eq_some_iff.mp h
    obtain ⟨_, rfl⟩ := Prod.mk.inj h
  · exact hsigned (by decide) (hnumber hn)
  · exact hsigned (by decide) (hnumber hn)
  · exact hnumber hn

/-- What stands before a trimmed text are blanks. -/
theorem trimStart_parts (s : List Char) :
    ∃ blanks, (∀ c ∈ blanks, Unmarked c) ∧ s = blanks ++ trimStart s :=
  ⟨s.takeWhile isBlank, fun _ hc => unmarked_of_isBlank (List.mem_takeWhile_imp hc),
    (List.takeWhile_append_dropWhile).symm⟩

/-! ## Whole texts -/

/-- A timestamp is a digit and a time of day, then a fraction, then a zone. -/
theorem timestamp?_parts {i : Instant} (h : timestamp? s = some i) :
    ∃ c clock fraction zone, c.isDigit = true ∧ ((∀ d ∈ clock, d ≠ '.') ∧ ':' ∈ clock) ∧
      IsFraction fraction ∧ IsZone zone ∧ s = c :: clock ++ fraction ++ zone := by
  obtain ⟨hyear, hdash, hmonth, hdash', hday, hseparator, hhour, hcolon, hminute, hcolon',
    hsecond, hnanos, hoffset, _, _⟩ := timestamp?_eq_some_iff.mp h
  obtain ⟨yearText, hy, rfl⟩ := fourDigits?_parts hyear
  obtain rfl := after?_eq_some hdash
  obtain ⟨monthText, hmo, rfl⟩ := twoDigits?_parts hmonth
  obtain rfl := after?_eq_some hdash'
  obtain ⟨dayText, hd, rfl⟩ := twoDigits?_parts hday
  obtain ⟨c, hc, rfl⟩ := separator?_eq_some hseparator
  obtain ⟨hourText, hh, rfl⟩ := twoDigits?_parts hhour
  obtain rfl := after?_eq_some hcolon
  obtain ⟨minuteText, hmi, rfl⟩ := twoDigits?_parts hminute
  obtain rfl := after?_eq_some hcolon'
  obtain ⟨secondText, hs, rfl⟩ := twoDigits?_parts hsecond
  obtain ⟨fraction, hfraction, rfl⟩ := fraction?_parts hnanos
  obtain ⟨zone, hzone, rfl⟩ := offset?_parts hoffset
  cases yearText with
  | nil => exact absurd rfl hy.1
  | cons first yearText =>
    obtain ⟨_, hyear⟩ := List.forall_mem_cons.mp hy.pointless
    refine ⟨first, yearText ++ '-' :: monthText ++ '-' :: dayText ++ c :: hourText ++
      ':' :: minuteText ++ ':' :: secondText, fraction, zone, hy.2 first List.mem_cons_self,
      ⟨?_, by simp⟩, hfraction, hzone, by simp⟩
    simp only [List.forall_mem_append, List.forall_mem_cons]
    exact ⟨⟨⟨⟨⟨hyear, by decide, hmo.pointless⟩, by decide, hd.pointless⟩, hc.1, hh.pointless⟩,
      by decide, hmi.pointless⟩, by decide, hs.pointless⟩

/-- A plain date has no marks of a time of day, and a digit at its end. -/
theorem plainDate?_parts {date : Date} (h : plainDate? s = some date) :
    ∃ front c, (∀ d ∈ front, Unmarked d) ∧ c.isDigit = true ∧ s = front ++ [c] := by
  unfold plainDate? at h
  obtain ⟨⟨year, afterYear⟩, hyear, h⟩ := Option.bind_eq_some_iff.mp h
  obtain ⟨beforeMonth, hdash, h⟩ := Option.bind_eq_some_iff.mp h
  obtain ⟨⟨month, afterMonth⟩, hmonth, h⟩ := Option.bind_eq_some_iff.mp h
  obtain ⟨beforeDay, hdash', h⟩ := Option.bind_eq_some_iff.mp h
  obtain ⟨⟨day, _⟩, hday, h⟩ := Option.bind_eq_some_iff.mp h
  dsimp only at h hdash hmonth hdash' hday
  split at h
  · next hvalid =>
    obtain ⟨_, _, _, rfl⟩ := hvalid
    obtain ⟨blanks, hb, hstart⟩ := trimStart_parts s
    obtain ⟨yearText, hy, hyearText⟩ := year?_parts hyear
    obtain rfl := after?_eq_some hdash
    obtain ⟨blanks', hb', hmonthStart⟩ := trimStart_parts beforeMonth
    obtain ⟨monthText, hm, hmonthText⟩ := number?_parts hmonth
    obtain rfl := after?_eq_some hdash'
    obtain ⟨blanks'', hb'', hdayStart⟩ := trimStart_parts beforeDay
    obtain ⟨dayText, hd, hdayText⟩ := number?_parts hday
    refine ⟨blanks ++ yearText ++ '-' :: blanks' ++ monthText ++ '-' :: blanks'' ++
      dayText.dropLast, dayText.getLast hd.1, ?_, hd.2 _ (List.getLast_mem hd.1), ?_⟩
    · simp only [List.forall_mem_append, List.forall_mem_cons]
      exact ⟨⟨⟨⟨⟨hb, hy⟩, by decide, hb'⟩, hm.unmarked⟩, by decide, hb''⟩,
        fun d hmem => hd.unmarked d ((List.dropLast_sublist _).subset hmem)⟩
    · rw [List.append_assoc _ dayText.dropLast, List.dropLast_concat_getLast]
      rw [hstart, hyearText, hmonthStart, hmonthText, hdayStart, hdayText]
      simp
  · cases h

/-- A text that names an instant has a point only before a digit. -/
theorem undotted_of_readInstant? {i : Instant} (h : readInstant? s = some i) : Undotted s := by
  rcases readInstant?_cases h with h | ⟨date, hdate, rfl⟩
  · obtain ⟨c, clock, fraction, zone, hc, ⟨hclock, _⟩, hfraction, ⟨_, hzone⟩, rfl⟩ :=
      timestamp?_parts h
    have hend : Undotted zone := undotted_of_forall fun d hd => (hzone d hd).1
    rw [List.append_assoc]
    refine undotted_append
      (List.forall_mem_cons.mpr ⟨(unmarked_of_isDigit hc).1, hclock⟩) ?_
    rcases hfraction with rfl | ⟨digits, hdigits, rfl⟩
    · exact hend
    · cases digits with
      | nil => exact absurd rfl hdigits.1
      | cons d digits =>
        exact ⟨fun _ => hdigits.pointless d List.mem_cons_self,
          undotted_append hdigits.pointless hend⟩
  · obtain ⟨front, c, hfront, hc, rfl⟩ := plainDate?_parts hdate
    refine undotted_append (fun d hd => (hfront d hd).1) ?_
    exact (unmarked_of_isDigit hc).1

/-- There are no blanks around a timestamp. -/
theorem trim_of_timestamp? {i : Instant} (h : timestamp? s = some i) : trim s = s := by
  obtain ⟨c, clock, fraction, zone, hc, _, _, ⟨hne, hzone⟩, rfl⟩ := timestamp?_parts h
  have hstart : trimStart (c :: clock ++ fraction ++ zone) = c :: clock ++ fraction ++ zone :=
    trimStart_eq_self (by rintro _ ⟨⟩; exact isBlank_of_isDigit hc)
  rw [trim, hstart]
  apply trimEnd_eq_self
  rw [List.getLast?_append_of_ne_nil _ hne]
  exact fun d hd => (hzone d (List.mem_of_getLast? hd)).2

/-- Blanks before a plain date do not matter, and there are none behind it. -/
theorem plainDate?_trim {date : Date} (h : plainDate? s = some date) :
    plainDate? (trim s) = some date := by
  have hstart : plainDate? (trimStart s) = some date := by
    rw [← h, plainDate?, plainDate?, trimStart_trimStart]
  obtain ⟨front, c, _, hc, heq⟩ := plainDate?_parts hstart
  have hend : trimEnd (trimStart s) = trimStart s := by
    apply trimEnd_eq_self
    rw [heq, List.getLast?_concat]
    rintro _ ⟨⟩
    exact isBlank_of_isDigit hc
  rw [trim, hend, hstart]

/-- Without the blanks around it, the text names the same instant. -/
theorem readInstant?_trim {i : Instant} (h : readInstant? s = some i) :
    readInstant? (trim s) = some i := by
  rcases readInstant?_cases h with ht | ⟨date, hdate, rfl⟩
  · rw [trim_of_timestamp? ht, readInstant?, ht]
    rfl
  · have htrim := plainDate?_trim hdate
    -- without the blanks a plain date cannot be a timestamp: it has no colon
    have hnone : timestamp? (trim s) = none := by
      rw [Option.eq_none_iff_forall_ne_some]
      intro j hj
      obtain ⟨c, clock, fraction, zone, _, ⟨_, hcolon⟩, _, _, htimestamp⟩ := timestamp?_parts hj
      obtain ⟨front, d, hfront, hd, hplain⟩ := plainDate?_parts htrim
      have hmem : ':' ∈ front ++ [d] := by
        rw [← hplain, htimestamp]
        simp [hcolon]
      rcases List.mem_append.mp hmem with hmem | hmem
      · exact (hfront _ hmem).2 rfl
      · exact (unmarked_of_isDigit hd).2 (List.mem_singleton.mp hmem).symm
    rw [readInstant?, hnone, htrim]
    rfl

theorem trim_ne_nil_of_readInstant? {i : Instant} (h : readInstant? s = some i) : trim s ≠ [] := by
  intro hnil
  have htrim := readInstant?_trim h
  rw [hnil] at htrim
  cases htrim

end FacetSearch.Calendar
