import Liquid.Number.Digits
import Liquid.Number.Double

/-!
# Shortest digits

The fewest decimal digits that read back as a given double. The reals that round to a finite
double form an interval around it, closed exactly when its mantissa is even; below a power of
two the interval reaches only half as far. For one digit, two digits and so on, the two
neighbours of the double on that decimal grid are tested: if any point of a grid lies in the
interval then so does a neighbour, so the first grid with a hit has the fewest digits. Of two
hits the nearer is taken, and the upper one at equal distance. Seventeen digits always hit.

All quantities are kept as numerators over one denominator, so the tests are exact.
-/

namespace Liquid

namespace Double

/-- A positive value and the ends of its rounding interval over one denominator. -/
structure Interval where
  low : Nat
  value : Nat
  high : Nat
  denominator : Nat
  closed : Bool
deriving Repr, DecidableEq

def interval (mantissa : Nat) (exponent : Int) : Interval :=
  let atPower := mantissa = twoPow 52 ∧ -1074 < exponent
  let low := 4 * mantissa - (if atPower then 1 else 2)
  let e := exponent - 2
  let up := twoPow e.toNat
  { low := low * up
    value := 4 * mantissa * up
    high := (4 * mantissa + 2) * up
    denominator := twoPow (-e).toNat
    closed := mantissa % 2 == 0 }

/-- The same interval with `10 ^ k` as the unit. -/
def Interval.inUnits (i : Interval) (k : Int) : Interval :=
  let up := tenPow (-k).toNat
  { i with
    low := i.low * up
    value := i.value * up
    high := i.high * up
    denominator := i.denominator * tenPow k.toNat }

def Interval.holds (i : Interval) (d : Nat) : Bool :=
  let point := d * i.denominator
  if i.closed then i.low ≤ point && point ≤ i.high else i.low < point && point < i.high

/-- The nearer of the two neighbours on the grid of whole units that lie in the interval. -/
def Interval.nearest? (i : Interval) : Option Nat :=
  let below := i.value / i.denominator
  let above := below + 1
  match i.holds below, i.holds above with
  | true, true =>
    if i.value - below * i.denominator < above * i.denominator - i.value then some below
    else some above
  | true, false => some below
  | false, true => some above
  | false, false => none

/-! ### The search -/

/-- The exponent of the leading decimal digit. -/
def Interval.leading (i : Interval) : Int :=
  if i.denominator ≤ i.value then Int.ofNat (digitCount (i.value / i.denominator)) - 1
  else -Int.ofNat (digitCount (i.denominator / i.value))

/-- Digits and the power of ten of the last of them, from grids of `count` digits upwards. A hit
that has carried into one digit more is a power of ten. -/
def Interval.digitsFrom (i : Interval) : (more count : Nat) → Nat × Int
  | 0, count =>
    let k := i.leading + 1 - count
    ((i.inUnits k).value / (i.inUnits k).denominator, k)
  | more + 1, count =>
    let k := i.leading + 1 - count
    match (i.inUnits k).nearest? with
    | some d => if d == tenPow count then (1, k + count) else (d, k)
    | none => i.digitsFrom more (count + 1)

/-- The shortest digits of `mantissa * 2 ^ exponent`, with the power of ten of the last one. -/
def shortest (mantissa : Nat) (exponent : Int) : Nat × Int :=
  (interval mantissa exponent).digitsFrom 17 1

end Double

end Liquid
