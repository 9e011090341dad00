import FacetSearch.Decimal.Double
import FacetSearch.Text.Blank
/-!
# Numerals

Reading a decimal numeral as the nearest double. A numeral is an optional sign followed by
digits with at most one point, at least one digit on either side of it, and an optional
exponent; or one of the words `inf`, `infinity` and `nan` in any case.
-/

namespace FacetSearch.Decimal

def digitsValue (digits : List Char) : Nat :=
  digits.foldl (fun n d => 10 * n + (d.toNat - '0'.toNat)) 0

/-- Why a text is no numeral. -/
inductive NumeralFault where
  | empty | malformed
  deriving DecidableEq, Repr

def NumeralFault.message : NumeralFault → String
  | .empty => "cannot parse float from empty string"
  | .malformed => "invalid float literal"

/-- A sign, and the text after it. -/
def splitSign : List Char → Bool × List Char
  | '-' :: rest => (true, rest)
  | '+' :: rest => (false, rest)
  | s => (false, s)

/-- Digits, all of them, at least one. -/
def allDigits? (s : List Char) : Option Nat :=
  if s ≠ [] ∧ s.all Char.isDigit then some (digitsValue s) else none

/-- The exponent that ends a numeral, zero when nothing is left. -/
def exponent? : List Char → Option Int
  | [] => some 0
  | c :: rest =>
    if c = 'e' ∨ c = 'E' then
      let (negative, digits) := splitSign rest
      (allDigits? digits).map fun n => if negative then -(n : Int) else n
    else none

/-- A numeral without sign: digits, a point, digits, an exponent. -/
def magnitude? (s : List Char) : Option Float :=
  let whole := s.takeWhile Char.isDigit
  let rest := s.dropWhile Char.isDigit
  let (fraction, rest) :=
    match rest with
    | '.' :: rest => (rest.takeWhile Char.isDigit, rest.dropWhile Char.isDigit)
    | _ => ([], rest)
  if whole = [] ∧ fraction = [] then none
  else (exponent? rest).map fun e =>
    toDouble (digitsValue (whole ++ fraction)) (e - fraction.length)

def word? (s : List Char) : Option Float :=
  match Text.asciiLower (String.ofList s) with
  | "inf" => some (Float.ofBits infinityBits.toUInt64)
  | "infinity" => some (Float.ofBits infinityBits.toUInt64)
  | "nan" => some (0.0 / 0.0)
  | _ => none

/-- The double that a numeral names. -/
def readDouble (s : List Char) : Except NumeralFault Float :=
  if s = [] then .error .empty
  else
    let (negative, rest) := splitSign s
    match (magnitude? rest).orElse fun _ => word? rest with
    | some x => .ok (if negative then -x else x)
    | none => .error .malformed

end FacetSearch.Decimal
