import FacetSearch.Calendar.Date
/-!
# Instants

Points on the UTC time line, and the RFC 3339 text that names each of them. A leap second is
kept inside the second before it, with a fraction of one second or more, so that it sorts after
that second and before the next.
-/

namespace FacetSearch.Calendar

structure Instant where
  /-- Seconds since 1 January 1970, leap seconds not counted. -/
  seconds : Int
  /-- Nanoseconds within the second, from 10^9 on within the leap second after it. -/
  nanos : Nat
  deriving DecidableEq, Repr

namespace Instant

def Before (a b : Instant) : Prop :=
  a.seconds < b.seconds ∨ (a.seconds = b.seconds ∧ a.nanos < b.nanos)

instance (a b : Instant) : Decidable (a.Before b) := inferInstanceAs (Decidable (_ ∨ _))

/-- The instant at a time of day in UTC. -/
def ofDate (date : Date) (hour minute second nanos : Nat) : Instant :=
  ⟨(date.dayNumber - epochDay) * 86400 + (hour * 3600 + minute * 60 + second : Nat), nanos⟩

def midnight (date : Date) : Instant := ofDate date 0 0 0 0

/-- The instant that a clock set `offset` seconds ahead of UTC shows as this one. -/
def behind (i : Instant) (offset : Int) : Instant := ⟨i.seconds - offset, i.nanos⟩

def date (i : Instant) : Date := Date.ofDayNumber (i.seconds / 86400 + epochDay)

def secondOfDay (i : Instant) : Nat := (i.seconds % 86400).toNat

end Instant

/-- A number with leading zeros up to a width. -/
def padded (width n : Nat) : String :=
  let digits := Nat.repr n
  String.ofList (List.replicate (width - digits.length) '0') ++ digits

/-- Years from 0 to 9999 have four digits; others have a sign and at least four. -/
def yearText (year : Int) : String :=
  if 0 ≤ year ∧ year ≤ 9999 then padded 4 year.toNat
  else (if year < 0 then "-" else "+") ++ padded 4 year.natAbs

/-- No fraction, or the fewest of 3, 6 and 9 digits that are exact. -/
def fractionText (nanos : Nat) : String :=
  if nanos = 0 then ""
  else if nanos % 1000000 = 0 then "." ++ padded 3 (nanos / 1000000)
  else if nanos % 1000 = 0 then "." ++ padded 6 (nanos / 1000)
  else "." ++ padded 9 nanos

/-- The RFC 3339 text of an instant, in UTC. -/
def Instant.render (i : Instant) : String :=
  let d := i.date
  let s := i.secondOfDay
  yearText d.year ++ "-" ++ padded 2 d.month ++ "-" ++ padded 2 d.day ++ "T" ++
    padded 2 (s / 3600) ++ ":" ++ padded 2 (s / 60 % 60) ++ ":" ++
    padded 2 (s % 60 + i.nanos / 1000000000) ++ fractionText (i.nanos % 1000000000) ++ "+00:00"

end FacetSearch.Calendar
