/-!
# Doubles from decimals

The double nearest to a decimal numeral, found in exact integer arithmetic: a quotient of
integers is rounded to 53 binary places, a half going to the even neighbour.
-/

namespace FacetSearch.Decimal

/-- The quotient rounded to the nearest integer; a half goes to the even neighbour. -/
def roundHalfEven (num den : Nat) : Nat :=
  let quotient := num / den
  let rest := num % den
  if 2 * rest < den then quotient
  else if den < 2 * rest then quotient + 1
  else quotient + quotient % 2

/-- The leading bit of a mantissa, which the bits of a double leave out. -/
def hiddenBit : Nat := 0x10000000000000

/-- The bits of positive infinity, above those of every finite double. -/
def infinityBits : Nat := 0x7ff <<< 52

/-- The bits of the double nearest to the quotient of `num` by the positive `den`. -/
def nearestBits (num den : Nat) : Nat :=
  if num = 0 then 0
  else
    let guess : Int := (num.log2 : Int) - (den.log2 : Int) - 52
    let scaled (e : Int) : Nat × Nat := (num <<< (-e).toNat, den <<< e.toNat)
    let full := hiddenBit * (scaled guess).2 ≤ (scaled guess).1
    let e := max (if full then guess else guess - 1) (-1074)
    let mantissa := roundHalfEven (scaled e).1 (scaled e).2
    min (((e + 1074).toNat <<< 52) + mantissa) infinityBits

/-- The double nearest to `mantissa · 10 ^ exponent`. -/
def toDouble (mantissa : Nat) (exponent : Int) : Float :=
  if mantissa = 0 then 0
  else if 400 < exponent then Float.ofBits infinityBits.toUInt64
  else if exponent + (mantissa.log2 / 3 + 1 : Nat) < -400 then 0
  else Float.ofBits
    (nearestBits (mantissa * Nat.pow 10 exponent.toNat)
      (Nat.pow 10 (-exponent).toNat)).toUInt64

/-- A finite positive double is `mantissa · 2 ^ exponent`. -/
structure Binary where
  mantissa : Nat
  exponent : Int
  deriving DecidableEq, Repr

/-- The magnitude of a double, from its bits. -/
def Binary.ofBits (bits : Nat) : Binary :=
  let fraction := bits % hiddenBit
  let biased : Nat := bits / hiddenBit % 2048
  if biased = 0 then ⟨fraction, -1074⟩ else ⟨hiddenBit + fraction, (biased : Int) - 1075⟩

/-- The magnitude as a whole number, if it is one. -/
def Binary.whole? (b : Binary) : Option Nat :=
  if 0 ≤ b.exponent then some (b.mantissa <<< b.exponent.toNat)
  else
    let unit := Nat.pow 2 (-b.exponent).toNat
    if b.mantissa % unit = 0 then some (b.mantissa / unit) else none

/-- The neighbour below is only half as far away as the one above. -/
def Binary.AtPowerOfTwo (b : Binary) : Prop :=
  b.mantissa = hiddenBit ∧ -1074 < b.exponent

instance (b : Binary) : Decidable b.AtPowerOfTwo := inferInstanceAs (Decidable (_ ∧ _))

/-- The bit of the sign. -/
def signBit : Nat := 0x8000000000000000

def isNegative (x : Float) : Bool := signBit ≤ x.toBits.toNat

end FacetSearch.Decimal
