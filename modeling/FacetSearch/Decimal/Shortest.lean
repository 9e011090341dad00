import FacetSearch.Decimal.Double
/-!
# Shortest decimals

The shortest decimal that reads back as a given double, and among those of that length the
nearest one. A decimal reads back when it lies in the interval of numbers that round to the
double; the ends belong to the interval when the mantissa is even.
-/

namespace FacetSearch.Decimal

/-- Where a decimal goes that lies exactly between two candidates. -/
inductive Tie where
  | up | toEven
  deriving DecidableEq, Repr

/-- The decimal `digits · 10 ^ exponent`. -/
structure Scaled where
  digits : Nat
  exponent : Int
  deriving DecidableEq, Repr

def digitCount (n : Nat) : Nat := (Nat.toDigits 10 n).length

/-- The width of a value that is not less than one once the point has moved by `places`. -/
def Binary.fractionWidth (b : Binary) (places : Nat) : Int :=
  digitCount ((b.mantissa * Nat.pow 10 places) >>> (-b.exponent).toNat) - places

/-- The least `e` with the value below `10 ^ e`. -/
def Binary.decimalWidth (b : Binary) : Int :=
  if 0 ≤ b.exponent then digitCount (b.mantissa <<< b.exponent.toNat) else b.fractionWidth 400

/-! ## Decimals with a given exponent

`c · 10 ^ k` and `n` quarters of the last binary place compare as `c * grid` and `n * quarter`. -/

def Binary.grid (b : Binary) (k : Int) : Nat :=
  Nat.pow 10 k.toNat * Nat.pow 2 (2 - b.exponent).toNat

def Binary.quarter (b : Binary) (k : Int) : Nat :=
  Nat.pow 10 (-k).toNat * Nat.pow 2 (b.exponent - 2).toNat

/-- Whether `c · 10 ^ k` reads back as the double. -/
def Binary.readsBack (b : Binary) (k : Int) (c : Nat) : Bool :=
  let low := (4 * b.mantissa - if b.AtPowerOfTwo then 1 else 2) * b.quarter k
  let high := (4 * b.mantissa + 2) * b.quarter k
  if b.mantissa % 2 = 0 then low ≤ c * b.grid k && c * b.grid k ≤ high
  else low < c * b.grid k && c * b.grid k < high

/-- The multiple of `10 ^ k` that reads back as the double and lies nearest to it, if any. -/
def Binary.onGrid? (tie : Tie) (b : Binary) (k : Int) : Option Nat :=
  let grid := b.grid k
  let value := 4 * b.mantissa * b.quarter k
  let below := value / grid
  match b.readsBack k below, b.readsBack k (below + 1) with
  | true, true =>
    let down := value - below * grid
    let up := (below + 1) * grid - value
    if down < up then some below
    else if up < down then some (below + 1)
    else match tie with
      | .up => some (below + 1)
      | .toEven => some (below + below % 2)
  | true, false => some below
  | false, true => some (below + 1)
  | false, false => none

/-- Trailing zeros move into the exponent. -/
def Scaled.normalize : Nat → Scaled → Scaled
  | 0, s => s
  | fuel + 1, s =>
    if s.digits ≠ 0 ∧ s.digits % 10 = 0 then normalize fuel ⟨s.digits / 10, s.exponent + 1⟩ else s

/-- The shortest decimal of a positive double; seventeen digits always suffice. -/
def Binary.shortest (tie : Tie) (b : Binary) : Scaled :=
  let width := b.decimalWidth
  let found := (List.range 17).findSome? fun n =>
    let k := width - (n + 1 : Nat)
    (b.onGrid? tie k).map fun c => Scaled.mk c k
  Scaled.normalize 20 (found.getD ⟨b.mantissa, 0⟩)

example : (Binary.ofBits (0.1 : Float).toBits.toNat).shortest .up = ⟨1, -1⟩ := by decide +kernel
example : (Binary.ofBits 1).shortest .toEven = ⟨5, -324⟩ := by decide +kernel

end FacetSearch.Decimal
