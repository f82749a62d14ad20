import Liquid.Text.Quoted
import Liquid.Value.Write

/-!
# Values for inspection

The constructor of a value around its content, so that values that are written alike can be told
apart. A lazy value shows its content only once it was computed. Doubles of extreme size are shown
with an exponent.
-/

namespace Liquid

namespace Double

/-- One digit, the others behind a point, and the power of ten. -/
def scientific (digits : Nat) (exponent : Int) : List Char :=
  let text := digitsOf digits
  let power := exponent + Int.ofNat (text.length - 1)
  let fraction := text.drop 1
  text.take 1 ++ (if fraction.isEmpty then [] else '.' :: fraction)
    ++ 'e' :: (toString power).toList

/-- Whether the leading digit stands for less than 10 ^ -4 or for at least 10 ^ 16. -/
def isExtreme (digits : Nat) (exponent : Int) : Bool :=
  let leading := exponent + Int.ofNat (digitCount digits) - 1
  digits ≠ 0 && (leading < -4 || 16 ≤ leading)

def inspect (f : Float) : String :=
  match shape f with
  | .finite negative m e =>
    let (digits, exponent) := if m = 0 then (0, 0) else shortest m e
    if isExtreme digits exponent then
      String.ofList (sign negative ++ scientific digits exponent)
    else text '.' f
  | _ => text '.' f

end Double

/-- Texts with commas in between. -/
def listed (items : List String) : String := ", ".intercalate items

namespace Value

mutual

def inspect (computed : Cell → Bool) : Value → String
  | .nil => "Nil"
  | .bool b => "Bool(" ++ toString b ++ ")"
  | .int i => "Int(" ++ intText i ++ ")"
  | .float f => "Float(" ++ Double.inspect f ++ ")"
  | .str s => "Str(" ++ Text.quoted s ++ ")"
  | .array items => "Array([" ++ listed (inspectItems computed items) ++ "])"
  | .hash entries => "Hash(\x7b" ++ listed (inspectEntries computed entries) ++ "\x7d)"
  | .object o => "Object(Object(" ++ o.type ++ "))"
  | .lazy cell content =>
    if computed cell then "Lazy(Lazy(" ++ content.inspect computed ++ "))"
    else "Lazy(Lazy(<pending>))"

def inspectItems (computed : Cell → Bool) : List Value → List String
  | [] => []
  | v :: rest => v.inspect computed :: inspectItems computed rest

def inspectEntries (computed : Cell → Bool) : List (String × Value) → List String
  | [] => []
  | (key, v) :: rest =>
    (Text.quoted key ++ ": " ++ v.inspect computed) :: inspectEntries computed rest

end

end Value

/-- A record with its fields, whose values are already shown. -/
def inspectRecord (name : String) (fields : List (String × String)) : String :=
  name ++ " \x7b " ++ listed (fields.map fun (field, value) => field ++ ": " ++ value) ++ " \x7d"

/-- Names in ascending order. -/
def inspectNames (names : List String) : String :=
  "[" ++ listed ((names.mergeSort fun a b => a ≤ b).map Text.quoted) ++ "]"

end Liquid
