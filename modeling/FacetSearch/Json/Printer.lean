import FacetSearch.Decimal.Layout
import FacetSearch.Json.Value
/-!
# JSON texts

The compact text of a value. Quotes, backslashes and control characters are escaped, all other
characters stand for themselves. Doubles always show that they are doubles, by a point or an
exponent.
-/

namespace FacetSearch.Json

/-- Numbers in JSON: an exponent from 10^16 on and below 10^-5, and `.0` on whole numbers. -/
def numberLayout : Decimal.Layout where
  tie := .toEven
  writtenOut point := -5 < point && point ≤ 16
  wholeSuffix := ".0"
  infinity := "null"
  notANumber := "null"

def hexDigit (n : Nat) : Char := (Nat.toDigits 16 n).headD '0'

def escape (c : Char) : String :=
  if c = '\x22' then "\\\""
  else if c = '\\' then "\\\\"
  else if c = '\n' then "\\n"
  else if c = '\r' then "\\r"
  else if c = '\t' then "\\t"
  else if c = '\x08' then "\\b"
  else if c = '\x0c' then "\\f"
  else if c.toNat < 0x20 then
    "\\u00" ++ String.ofList [hexDigit (c.toNat / 16), hexDigit (c.toNat % 16)]
  else c.toString

def quote (s : String) : String :=
  (s.toList.foldl (fun out c => out ++ escape c) "\"") ++ "\""

mutual

/-- The text of a value, added to what is written already. -/
def write (out : String) : Json → String
  | .null => out ++ "null"
  | .bool b => out ++ if b then "true" else "false"
  | .int n => out ++ toString n
  | .float x => out ++ if x.isFinite then numberLayout.render x else "null"
  | .str s => out ++ quote s
  | .arr items => writeItems (out ++ "[") true items ++ "]"
  | .obj members => writeMembers (out ++ "\x7b") true members ++ "\x7d"

def writeItems (out : String) (first : Bool) : List Json → String
  | [] => out
  | item :: rest => writeItems (write (if first then out else out ++ ",") item) false rest

def writeMembers (out : String) (first : Bool) : List (String × Json) → String
  | [] => out
  | (key, value) :: rest =>
    writeMembers (write ((if first then out else out ++ ",") ++ quote key ++ ":") value) false rest

end

def render (j : Json) : String := write "" j

end FacetSearch.Json
