import FacetSearch.Decimal.Numeral
import FacetSearch.Json.Value
/-!
# Reading JSON

A reader for JSON texts. Of members with one key the last counts, in the place of the first.
Nesting is limited to 127 levels.

A numeral with a fraction or an exponent, or one outside the integer range, is a double. It is
read the fast way: its digits, as many as fit into 64 bits, make an integer, which is rounded to
a double and then scaled once by a power of ten, rounding again. The result may differ from the
nearest double in its last bit.
-/

namespace FacetSearch.Json

def isSpace (c : Char) : Bool := c = ' ' || c = '\n' || c = '\t' || c = '\r'

def skipSpace (s : List Char) : List Char := s.dropWhile isSpace

/-! ## Strings -/

def hexValue? (c : Char) : Option Nat :=
  if '0' ≤ c ∧ c ≤ '9' then some (c.toNat - '0'.toNat)
  else if 'a' ≤ c ∧ c ≤ 'f' then some (c.toNat - 'a'.toNat + 10)
  else if 'A' ≤ c ∧ c ≤ 'F' then some (c.toNat - 'A'.toNat + 10)
  else none

/-- A 16-bit unit of four hexadecimal digits. -/
def unit? : List Char → Option (Nat × List Char)
  | a :: b :: c :: d :: rest => do
    let a ← hexValue? a
    let b ← hexValue? b
    let c ← hexValue? c
    let d ← hexValue? d
    return (((a * 16 + b) * 16 + c) * 16 + d, rest)
  | _ => none

/-- The character after `\u`; surrogates count only as a pair. -/
def unicodeEscape? (s : List Char) : Option (Char × List Char) := do
  let (high, s) ← unit? s
  if 0xdc00 ≤ high ∧ high < 0xe000 then none
  else if 0xd800 ≤ high ∧ high < 0xdc00 then
    match s with
    | '\\' :: 'u' :: s => do
      let (low, s) ← unit? s
      if 0xdc00 ≤ low ∧ low < 0xe000 then
        return (Char.ofNat (0x10000 + (high - 0xd800) * 0x400 + (low - 0xdc00)), s)
      else none
    | _ => none
  else return (Char.ofNat high, s)

/-- The character that an escape after a backslash stands for. -/
def escape? : List Char → Option (Char × List Char)
  | [] => none
  | c :: rest =>
    if c = 'u' then unicodeEscape? rest
    else if c = '\x22' ∨ c = '\\' ∨ c = '/' then some (c, rest)
    else if c = 'b' then some ('\x08', rest)
    else if c = 'f' then some ('\x0c', rest)
    else if c = 'n' then some ('\n', rest)
    else if c = 'r' then some ('\r', rest)
    else if c = 't' then some ('\t', rest)
    else none

/-- The rest of a string after its opening quote, given what was read so far, last first. Each
character takes one unit of fuel. -/
def string? : Nat → List Char → List Char → Option (String × List Char)
  | 0, _, _ => none
  | _, _, [] => none
  | fuel + 1, read, c :: rest =>
    if c = '\x22' then some (String.ofList read.reverse, rest)
    else if c = '\\' then
      match escape? rest with
      | some (e, rest) => string? fuel (e :: read) rest
      | none => none
    else if c.toNat < 0x20 then none
    else string? fuel (c :: read) rest

/-! ## Numbers -/

/-- The digits that fit into 64 bits as an integer, and how many digits were left over. -/
def significand (start : Nat) (digits : List Char) : Nat × Nat :=
  digits.foldl (fun (n, dropped) d =>
    let next := 10 * n + (d.toNat - '0'.toNat)
    if dropped = 0 ∧ isUInt64 next then (next, 0) else (n, dropped + 1)) (start, 0)

/-- One scaling step by at most 308 powers of ten; nothing when the value is too large. -/
def scale? (x : Float) (exponent : Int) : Option Float :=
  if 0 ≤ exponent then
    if x == 0 then some x
    else if 308 < exponent then none
    else
      let y := x * Decimal.toDouble 1 exponent
      if y.isInf then none else some y
  else if -308 ≤ exponent then some (x / Decimal.toDouble 1 (-exponent))
  else
    -- the smallest double is above 10^-324, so two steps of 308 leave at most zero
    let once := x / 1e308
    if -616 ≤ exponent then some (once / Decimal.toDouble 1 (-exponent - 308))
    else some (once / 1e308)

/-- The value of the digits of a numeral that is not an integer of the exact range. -/
def fastDouble? (whole fraction : List Char) (exponent : Int) : Option Float :=
  let (first, dropped) := significand 0 whole
  let (all, unread) := if dropped = 0 then significand first fraction else significand first []
  let read := if dropped = 0 then fraction.length - unread else 0
  scale? all.toUInt64.toFloat (dropped - read + exponent)

/-- The digits and sign of an exponent after its mark. -/
def exponentTail? (s : List Char) : Option (Int × List Char) :=
  let (negative, s) := Decimal.splitSign s
  let digits := s.takeWhile Char.isDigit
  if digits = [] then none
  else
    let n : Int := Decimal.digitsValue digits
    some (if negative then -n else n, s.drop digits.length)

/-- The parts of a numeral without its sign: digits, the fraction if there is a point, the
exponent if there is one, and the rest. -/
structure Parts where
  whole : List Char
  fraction : Option (List Char)
  exponent : Option Int
  rest : List Char

def parts? (s : List Char) : Option Parts := do
  let whole := s.takeWhile Char.isDigit
  let s := s.drop whole.length
  if whole = [] ∨ (whole.head? = some '0' ∧ whole.length ≠ 1) then none
  let (fraction, s) ← match s with
    | '.' :: s =>
      let digits := s.takeWhile Char.isDigit
      if digits = [] then none else some (some digits, s.drop digits.length)
    | _ => some (none, s)
  let (exponent, s) ← match s with
    | c :: s' =>
      if c = 'e' ∨ c = 'E' then (exponentTail? s').map fun (e, s) => (some e, s)
      else some (none, c :: s')
    | [] => some (none, [])
  return ⟨whole, fraction, exponent, s⟩

/-- A number; the minus sign belongs to it. -/
def number? (s : List Char) : Option (Json × List Char) := do
  let (negative, s) := match s with
    | '-' :: s => (true, s)
    | _ => (false, s)
  let p ← parts? s
  let n := Decimal.digitsValue p.whole
  let exact := p.fraction.isNone && p.exponent.isNone &&
    (if negative then 0 < n && isInt64 (-n) else isUInt64 n)
  if exact then return (.int (if negative then -(n : Int) else n), p.rest)
  else
    let x ← fastDouble? p.whole (p.fraction.getD []) (p.exponent.getD 0)
    return (.float (if negative then -x else x), p.rest)

/-! ## Values -/

def word? (word : String) (value : Json) (s : List Char) : Option (Json × List Char) :=
  if word.toList.isPrefixOf s then some (value, s.drop word.length) else none

/-- The deepest nesting of arrays and objects. -/
def maxDepth : Nat := 127

mutual

/-- A value, with `depth` more levels of nesting allowed. -/
def value? (fuel : Nat) (depth : Nat) (s : List Char) : Option (Json × List Char) :=
  match fuel with
  | 0 => none
  | fuel + 1 =>
    match s with
    | [] => none
    | c :: rest =>
      if c = '\x22' then (string? fuel [] rest).map fun (text, rest) => (.str text, rest)
      else if c = '[' then
        match depth with
        | 0 => none
        | depth + 1 =>
          match skipSpace rest with
          | ']' :: rest => some (.arr [], rest)
          | rest => items? fuel depth [] rest
      else if c = '\x7b' then
        match depth with
        | 0 => none
        | depth + 1 =>
          match skipSpace rest with
          | '\x7d' :: rest => some (.obj [], rest)
          | rest => members? fuel depth [] rest
      else if c = 'n' then word? "null" .null s
      else if c = 't' then word? "true" (.bool true) s
      else if c = 'f' then word? "false" (.bool false) s
      else number? s
  termination_by structural fuel

/-- The rest of a non-empty array, given the items read so far, last first. -/
def items? (fuel : Nat) (depth : Nat) (read : List Json) (s : List Char) :
    Option (Json × List Char) :=
  match fuel with
  | 0 => none
  | fuel + 1 =>
    match value? fuel depth (skipSpace s) with
    | none => none
    | some (item, rest) =>
      match skipSpace rest with
      | ',' :: rest => items? fuel depth (item :: read) rest
      | ']' :: rest => some (.arr (item :: read).reverse, rest)
      | _ => none
  termination_by structural fuel

/-- The rest of a non-empty object, given the members read so far. -/
def members? (fuel : Nat) (depth : Nat) (read : List (String × Json)) (s : List Char) :
    Option (Json × List Char) :=
  match fuel with
  | 0 => none
  | fuel + 1 =>
    match skipSpace s with
    | '\x22' :: rest =>
      match string? fuel [] rest with
      | none => none
      | some (key, rest) =>
        match skipSpace rest with
        | ':' :: rest =>
          match value? fuel depth (skipSpace rest) with
          | none => none
          | some (value, rest) =>
            match skipSpace rest with
            | ',' :: rest => members? fuel depth ((key, value) :: read) rest
            | '\x7d' :: rest => some (object ((key, value) :: read).reverse, rest)
            | _ => none
        | _ => none
    | _ => none
  termination_by structural fuel

end

/-- The value at the start of a text, and the text after it. -/
def readSome? (s : List Char) : Option (Json × List Char) :=
  let s := skipSpace s
  value? (2 * s.length + 2) maxDepth s

/-- The value of a whole text. -/
def read? (text : String) : Option Json :=
  match readSome? text.toList with
  | some (value, rest) => if skipSpace rest = [] then some value else none
  | none => none

end FacetSearch.Json
