import Liquid.Number.Shortest

/-!
# Numbers as text

A whole double is written with all its digits and `.0`; any other finite one with its shortest
digits, positionally, whatever its size. The point may be replaced by another separator.
-/

namespace Liquid

/-! ### Positional notation -/

/-- `digits * 10 ^ exponent` with as many places as it needs and no exponent. -/
def positional (digits : Nat) (exponent : Int) : List Char :=
  if 0 ≤ exponent then digitsOf (digits * tenPow exponent.toNat)
  else
    let places := (-exponent).toNat
    digitsOf (digits / tenPow places) ++ '.' :: padLeft places (digitsOf (digits % tenPow places))

def intText (i : Int64) : String := toString i.toInt

namespace Double

def sign (negative : Bool) : List Char := if negative then ['-'] else []

def chars (f : Float) : List Char :=
  match shape f with
  | .nan => "NaN".toList
  | .infinite negative => sign negative ++ "inf".toList
  | .finite negative m e =>
    sign negative ++
      if isWhole m e then digitsOf (wholePart m e) ++ ".0".toList
      else
        let (digits, exponent) := shortest m e
        positional digits exponent

/-- The text of a double with `separator` in the place of the point. -/
def text (separator : Char) (f : Float) : String :=
  String.ofList ((chars f).map fun c => if c == '.' then separator else c)

end Double

end Liquid
