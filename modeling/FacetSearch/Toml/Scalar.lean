import FacetSearch.Calendar.Date
import FacetSearch.Config.Setting
import FacetSearch.Decimal.Numeral
import FacetSearch.Json.Reader
/-!
# TOML numbers and dates

Integers have 64 bits and a sign. Dates and times become texts in one spelling: `T` between date
and time, and only the digits of a second that count.
-/

namespace FacetSearch.Toml

open Config (Setting)

/-! ## Numbers -/

/-- Digits with single underscores between them, without the underscores. -/
def digits? (isDigit : Char → Bool) : Bool → List Char → Option (List Char)
  | between, [] => if between then some [] else none
  | between, c :: rest =>
    if c = '_' then if between then digits? isDigit false rest else none
    else if isDigit c then (digits? isDigit true rest).map (c :: ·)
    else none

/-- A decimal integer without sign: no zero before another digit. -/
def whole? (s : List Char) : Option (List Char) :=
  if s.head? = some '0' ∧ s ≠ ['0'] then none else digits? Char.isDigit false s

def inRange (n : Int) : Option Setting :=
  if Json.isInt64 n then some (.int n) else none

/-- The value of digits of a base. -/
def digitsIn (base : Nat) (digits : List Char) : Nat :=
  digits.foldl (fun n c => base * n + (Json.hexValue? c).getD 0) 0

def based? (base : Nat) (s : List Char) : Option Setting := do
  let digits ← digits? (fun c => (Json.hexValue? c).any (· < base)) false s
  inRange (digitsIn base digits)

/-- A float with a fraction, an exponent or both. It must not be too large. -/
def fractional? (negative : Bool) (s : List Char) : Option Setting := do
  let mantissa := s.takeWhile fun c => c ≠ 'e' && c ≠ 'E'
  let exponent := s.drop mantissa.length
  let whole ← whole? (mantissa.takeWhile (· ≠ '.'))
  let point := mantissa.dropWhile (· ≠ '.')
  if point = [] ∧ exponent = [] then none
  let fraction ← if point = [] then some [] else digits? Char.isDigit false (point.drop 1)
  let power ← match exponent with
    | [] => some []
    | _ :: '-' :: rest => (digits? Char.isDigit false rest).map ('-' :: ·)
    | _ :: '+' :: rest => digits? Char.isDigit false rest
    | _ :: rest => digits? Char.isDigit false rest
  let numeral := whole ++ (if fraction = [] then [] else '.' :: fraction) ++
    (if power = [] then [] else 'e' :: power)
  match Decimal.readDouble numeral with
  | .ok x => if x.isInf ∧ ¬ negative then none else some (.float (if negative then -x else x))
  | .error _ => none

/-- A number, all of the text. -/
def number? (s : List Char) : Option Setting :=
  let (negative, signed, unsigned) := match s with
    | '-' :: rest => (true, true, rest)
    | '+' :: rest => (false, true, rest)
    | s => (false, false, s)
  match unsigned with
  | ['i', 'n', 'f'] =>
    let infinity := Float.ofBits Decimal.infinityBits.toUInt64
    some (.float (if negative then -infinity else infinity))
  | ['n', 'a', 'n'] => some (.float (0.0 / 0.0))
  | '0' :: 'x' :: rest => if signed then none else based? 16 rest
  | '0' :: 'o' :: rest => if signed then none else based? 8 rest
  | '0' :: 'b' :: rest => if signed then none else based? 2 rest
  | _ =>
    match whole? unsigned with
    | some digits =>
      let n : Int := Decimal.digitsValue digits
      inRange (if negative then -n else n)
    | none => fractional? negative unsigned

/-! ## Dates and times -/

/-- A number of exactly `count` digits within bounds. -/
def field? (count low high : Nat) (s : List Char) : Option (Nat × List Char) :=
  let digits := s.take count
  let n := Decimal.digitsValue digits
  if digits.length = count ∧ digits.all Char.isDigit ∧ low ≤ n ∧ n ≤ high then
    some (n, s.drop count)
  else none

def expect? (c : Char) : List Char → Option (List Char)
  | [] => none
  | d :: rest => if c = d then some rest else none

/-- A number with at least `width` digits. -/
def padded (width n : Nat) : String :=
  let digits := toString n
  String.ofList (List.replicate (width - digits.length) '0') ++ digits

def date? (s : List Char) : Option (String × List Char) := do
  let (year, s) ← field? 4 0 9999 s
  let s ← expect? '-' s
  let (month, s) ← field? 2 1 12 s
  let s ← expect? '-' s
  let (day, s) ← field? 2 1 31 s
  if Calendar.daysInMonth year month < day then none
  else return (padded 4 year ++ "-" ++ padded 2 month ++ "-" ++ padded 2 day, s)

/-- The digits of a fraction of a second that count: nine at most, and no zeros at the end. -/
def fractionText (digits : List Char) : String :=
  let kept := ((digits.take 9).reverse.dropWhile (· = '0')).reverse
  if kept = [] then "" else "." ++ String.ofList kept

def time? (s : List Char) : Option (String × List Char) := do
  let (hour, s) ← field? 2 0 23 s
  let s ← expect? ':' s
  let (minute, s) ← field? 2 0 59 s
  let s ← expect? ':' s
  let (second, s) ← field? 2 0 60 s
  let text := padded 2 hour ++ ":" ++ padded 2 minute ++ ":" ++ padded 2 second
  match s with
  | '.' :: rest =>
    let digits := rest.takeWhile Char.isDigit
    if digits = [] then return (text, s)
    else return (text ++ fractionText digits, rest.drop digits.length)
  | s => return (text, s)

def offset? : List Char → Option (String × List Char)
  | [] => none
  | c :: rest =>
    if c = 'Z' ∨ c = 'z' then some ("Z", rest)
    else if c = '+' ∨ c = '-' then do
      let (hour, rest) ← field? 2 0 23 rest
      let rest ← expect? ':' rest
      let (minute, rest) ← field? 2 0 59 rest
      let sign := if c = '-' ∧ (hour, minute) ≠ (0, 0) then "-" else "+"
      return (sign ++ padded 2 hour ++ ":" ++ padded 2 minute, rest)
    else none

/-- A date, a time, or both with an offset or without. -/
def moment? (s : List Char) : Option (String × List Char) :=
  match date? s with
  | none => time? s
  | some (date, s) =>
    let time := match s with
      | c :: rest => if c = 'T' ∨ c = 't' ∨ c = ' ' then time? rest else none
      | [] => none
    match time with
    | none => some (date, s)
    | some (time, s) =>
      match offset? s with
      | none => some (date ++ "T" ++ time, s)
      | some (offset, s) => some (date ++ "T" ++ time ++ offset, s)

/-! ## Scalars -/

/-- The characters of numbers and words. -/
def isScalarChar (c : Char) : Bool := c.isAlphanum || c = '+' || c = '-' || c = '.' || c = '_'

/-- A number, a date or a truth value. -/
def scalar? (s : List Char) : Option (Setting × List Char) :=
  match moment? s with
  | some (moment, rest) => some (.text moment, rest)
  | none =>
    let word := s.takeWhile isScalarChar
    let value :=
      if word = "true".toList then some (.bool true)
      else if word = "false".toList then some (.bool false)
      else number? word
    value.map fun value => (value, s.drop word.length)

end FacetSearch.Toml
