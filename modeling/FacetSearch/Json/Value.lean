import FacetSearch.Ordered
/-!
# JSON values

Objects keep the order in which their members were written. Integers between -2^63 and 2^64 - 1
are kept exact; every other number is a double.
-/

namespace FacetSearch

inductive Json where
  | null
  | bool (value : Bool)
  | int (value : Int)
  | float (value : Float)
  | str (value : String)
  | arr (items : List Json)
  | obj (members : List (String × Json))
  deriving Inhabited

namespace Json

/-- The member of an object with a given key. -/
def get? (key : String) : Json → Option Json
  | .obj members => members.lookup key
  | _ => none

def isNull : Json → Bool
  | .null => true
  | _ => false

/-- An object from members of which the last one with a key counts, in the place of the first. -/
def object (members : List (String × Json)) : Json := .obj (OrderedMap.ofList members).entries

/-- A double that is not finite has no JSON numeral and is written as null. -/
def ofFloat (x : Float) : Json := if x.isFinite then .float x else .null

def ofNat (n : Nat) : Json := .int n

def ofUInt64 (n : UInt64) : Json := .int n.toNat

def strings (texts : List String) : Json := .arr (texts.map .str)

/-- Nothing is written as null. -/
def ofOption (encode : α → Json) : Option α → Json
  | some a => encode a
  | none => .null

def ofOptionStr : Option String → Json := ofOption .str

/-! ## Reading values of one type -/

def str? : Json → Option String
  | .str s => some s
  | _ => none

def bool? : Json → Option Bool
  | .bool b => some b
  | _ => none

def arr? : Json → Option (List Json)
  | .arr items => some items
  | _ => none

/-- Integers of 64 bits with a sign. -/
def isInt64 (n : Int) : Bool := -0x8000000000000000 ≤ n && n < 0x8000000000000000

/-- Integers of 64 bits without a sign. -/
def isUInt64 (n : Int) : Bool := 0 ≤ n && n < 0x10000000000000000

/-- A natural number below a bound; a double is never one, even a whole one. -/
def natBelow? (bound : Nat) : Json → Option Nat
  | .int n => if 0 ≤ n ∧ n < bound then some n.toNat else none
  | _ => none

def uint64? (j : Json) : Option UInt64 := (j.natBelow? 0x10000000000000000).map Nat.toUInt64

/-- The double nearest to an integer of at most 64 bits. -/
def floatOfInt (n : Int) : Float :=
  let magnitude := n.natAbs.toUInt64.toFloat
  if n < 0 then -magnitude else magnitude

/-- Any number, an integer as the double nearest to it. -/
def float? : Json → Option Float
  | .int n => some (floatOfInt n)
  | .float x => some x
  | _ => none

def list? (read : Json → Option α) (j : Json) : Option (List α) :=
  j.arr?.bind fun items => items.mapM read

def strings? : Json → Option (List String) := list? str?

/-- Null stands for nothing. -/
def optional? (read : Json → Option α) : Json → Option (Option α)
  | .null => some none
  | j => (read j).map some

end Json

end FacetSearch
