import FacetSearch.Decimal.Shortest
/-!
# Texts of doubles

The shortest digits of a double, laid out with or without an exponent. A layout says at which
positions of the point the digits are written out, what follows a whole number, and how values
that are not finite are called.
-/

namespace FacetSearch.Decimal

structure Layout where
  tie : Tie
  /-- Digits are written out when the point stands this many places after the first digit. -/
  writtenOut : Int → Bool
  wholeSuffix : String
  infinity : String
  notANumber : String

def zeros (n : Nat) : String := String.ofList (List.replicate n '0')

/-- Digits with the point `point` places after the start, written out or with an exponent. -/
def Layout.arrange (layout : Layout) (digits : String) (point : Int) : String :=
  if layout.writtenOut point then
    if point ≤ 0 then "0." ++ zeros (-point).toNat ++ digits
    else if digits.length ≤ point.toNat then
      digits ++ zeros (point.toNat - digits.length) ++ layout.wholeSuffix
    else
      String.ofList (digits.toList.take point.toNat) ++ "." ++
        String.ofList (digits.toList.drop point.toNat)
  else
    let fraction := String.ofList (digits.toList.drop 1)
    String.ofList (digits.toList.take 1) ++ (if fraction = "" then "" else "." ++ fraction) ++
      "e" ++ toString (point - 1)

/-- The text of a double: the fewest digits that read back as it. -/
def Layout.render (layout : Layout) (x : Float) : String :=
  if x.isNaN then layout.notANumber
  else
    let magnitude :=
      if x.isInf then layout.infinity
      else
        let b := Binary.ofBits (x.toBits.toNat % signBit)
        if b.mantissa = 0 then "0" ++ layout.wholeSuffix
        else
          let s := b.shortest layout.tie
          let digits := Nat.repr s.digits
          layout.arrange digits (digits.length + s.exponent)
    (if isNegative x then "-" else "") ++ magnitude

/-- Numbers as people write them: never an exponent, and no fraction on a whole number. -/
def plain : Layout where
  tie := .up
  writtenOut _ := true
  wholeSuffix := ""
  infinity := "inf"
  notANumber := "NaN"

/-- A whole number below 10^15 is written as an integer; any other keeps all its digits. -/
def display (x : Float) : String :=
  match (Binary.ofBits (x.toBits.toNat % signBit)).whole? with
  | some n =>
    if n < 1000000000000000 then toString (if isNegative x then -(n : Int) else n)
    else plain.render x
  | none => plain.render x

end FacetSearch.Decimal
