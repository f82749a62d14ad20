import Liquid.Number.Reading

/-!
# Numbers

A number is a 64-bit whole number or a double. An operation on two whole numbers stays whole when
its exact result fits; otherwise, and whenever a double takes part, it is carried out on doubles.
-/

namespace Liquid

inductive Number where
  | int (i : Int64)
  | float (f : Float)

namespace Number

def toFloat : Number → Float
  | .int i => Float.ofInt i.toInt
  | .float f => f

/-- The nearest 64-bit whole number. -/
def clamp (i : Int) : Int64 :=
  if i < Int64.minValue.toInt then Int64.minValue
  else if Int64.maxValue.toInt < i then Int64.maxValue
  else Int64.ofInt i

/-- A double loses its fraction; infinities and "not a number" have no whole part. -/
def toInt? : Number → Option Int64
  | .int i => some i
  | .float f => (Double.truncated? f).map clamp

def isZero (n : Number) : Bool := Double.isZero n.toFloat

/-- A whole number if the text is one that fits, else a double. -/
def read? (s : List Char) : Option Number :=
  match readInt64? s with
  | some i => some (.int i)
  | none => (readDouble? s).map .float

/-! ### Arithmetic -/

/-- An operation with its exact form on whole numbers, undefined where that does not fit, and
its rounded form on doubles. -/
structure Operation where
  exact : Int64 → Int64 → Option Int64
  rounded : Float → Float → Float

def combine (op : Operation) : Number → Number → Number
  | .int a, .int b =>
    match op.exact a b with
    | some n => .int n
    | none => .float (op.rounded (Number.int a).toFloat (Number.int b).toFloat)
  | a, b => .float (op.rounded a.toFloat b.toFloat)

def sum : Operation := ⟨fun a b => int64? (a.toInt + b.toInt), (· + ·)⟩

def difference : Operation := ⟨fun a b => int64? (a.toInt - b.toInt), (· - ·)⟩

def product : Operation := ⟨fun a b => int64? (a.toInt * b.toInt), (· * ·)⟩

/-- Truncates towards zero; undefined for a zero divisor. -/
def quotient : Operation :=
  ⟨fun a b => if b.toInt = 0 then none else int64? (a.toInt.tdiv b.toInt), (· / ·)⟩

/-- Goes with the quotient and is defined exactly when that is. -/
def modulo : Operation :=
  ⟨fun a b => (quotient.exact a b).bind fun _ => int64? (a.toInt.tmod b.toInt), Double.remainder⟩

end Number

end Liquid
