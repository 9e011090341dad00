import FacetSearch.Calendar.Instant
import FacetSearch.Text.Blank
/-!
# Reading instants

A bound of a date range is an RFC 3339 timestamp, or a plain date, which stands for its midnight
in UTC. A plain date has a year of up to four digits, or of any length after a sign; month and
day may be short, and blanks may stand before each number.
-/

namespace FacetSearch.Calendar

/-- Digits at the start, at least one and at most `most` of them. -/
def number? (most : Nat) (s : List Char) : Option (Nat × List Char) :=
  let digits := (s.take most).takeWhile Char.isDigit
  if digits = [] then none
  else some (digits.foldl (fun n d => 10 * n + (d.toNat - '0'.toNat)) 0, s.drop digits.length)

/-- Exactly two digits. -/
def twoDigits? (s : List Char) : Option (Nat × List Char) :=
  if (s.take 2).length = 2 ∧ (s.take 2).all Char.isDigit then number? 2 s else none

def fourDigits? (s : List Char) : Option (Nat × List Char) :=
  if (s.take 4).length = 4 ∧ (s.take 4).all Char.isDigit then number? 4 s else none

/-- The text after a given character. -/
def after? (c : Char) : List Char → Option (List Char)
  | d :: rest => if d = c then some rest else none
  | [] => none

def separator? : List Char → Option (List Char)
  | c :: rest => if c = 'T' ∨ c = 't' ∨ c = ' ' then some rest else none
  | [] => none

/-- The nanoseconds of a fraction; digits after the ninth are dropped. -/
def fraction? (s : List Char) : Option (Nat × List Char) :=
  match s with
  | '.' :: rest => do
    let (n, _) ← number? 9 rest
    let digits := rest.takeWhile Char.isDigit
    return (n * Nat.pow 10 (9 - min 9 digits.length), rest.drop digits.length)
  | _ => some (0, s)

/-- Seconds ahead of UTC: `Z`, or a sign with hours up to 23 and minutes up to 59. -/
def offset? : List Char → Option (Int × List Char)
  | c :: rest =>
    if c = 'Z' ∨ c = 'z' then some (0, rest)
    else if c = '+' ∨ c = '-' ∨ c = '\u2212' then do
      let (hours, rest) ← twoDigits? rest
      let rest ← after? ':' rest
      let (minutes, rest) ← twoDigits? rest
      if hours ≤ 23 ∧ minutes ≤ 59 then
        let seconds : Int := (hours * 3600 + minutes * 60 : Nat)
        return (if c = '+' then seconds else -seconds, rest)
      else none
    else none
  | [] => none

/-- An RFC 3339 timestamp. The second may be 60 at any minute: a leap second. -/
def timestamp? (s : List Char) : Option Instant := do
  let (year, s) ← fourDigits? s
  let s ← after? '-' s
  let (month, s) ← twoDigits? s
  let s ← after? '-' s
  let (day, s) ← twoDigits? s
  let s ← separator? s
  let (hour, s) ← twoDigits? s
  let s ← after? ':' s
  let (minute, s) ← twoDigits? s
  let s ← after? ':' s
  let (second, s) ← twoDigits? s
  let (nanos, s) ← fraction? s
  let (offset, s) ← offset? s
  let date : Date := ⟨year, month, day⟩
  if date.Valid ∧ hour ≤ 23 ∧ minute ≤ 59 ∧ second ≤ 60 ∧ s = [] then
    let leap := second / 60
    return (Instant.ofDate date hour minute (second - leap)
      (nanos + leap * 1000000000)).behind offset
  else none

/-- A year, with a sign of any length and without one of at most four digits. -/
def year? (s : List Char) : Option (Int × List Char) :=
  match s with
  | '-' :: rest => (number? rest.length rest).map fun (n, rest) => (-(n : Int), rest)
  | '+' :: rest => (number? rest.length rest).map fun (n, rest) => ((n : Int), rest)
  | _ => (number? 4 s).map fun (n, rest) => ((n : Int), rest)

/-- A plain date; years run from -262143 to 262142. -/
def plainDate? (s : List Char) : Option Date := do
  let (year, s) ← year? (Text.trimStart s)
  let s ← after? '-' s
  let (month, s) ← number? 2 (Text.trimStart s)
  let s ← after? '-' s
  let (day, s) ← number? 2 (Text.trimStart s)
  let date : Date := ⟨year, month, day⟩
  if date.Valid ∧ -262143 ≤ year ∧ year ≤ 262142 ∧ s = [] then some date else none

/-- The instant that a date bound names. -/
def readInstant? (s : List Char) : Option Instant :=
  (timestamp? s).orElse fun _ => (plainDate? s).map Instant.midnight

end FacetSearch.Calendar
