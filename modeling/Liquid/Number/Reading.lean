import Liquid.Number.Digits
import Liquid.Number.Double
import Liquid.Text.Letter

/-!
# Reading numbers

A whole number is an optional sign and digits, within 64 bits. A double is an optional sign and
then `inf`, `infinity` or `nan` in any case, or digits with an optional point and an optional
exponent, with a digit on at least one side of the point. The value of the digits is rounded to
the nearest double once; sizes far outside the range of doubles are settled before that, so the
arithmetic stays small. Digits round to single precision in the same way.
-/

namespace Liquid

def int64? (i : Int) : Option Int64 :=
  if Int64.minValue.toInt ≤ i ∧ i ≤ Int64.maxValue.toInt then some (Int64.ofInt i) else none

theorem int64?_toInt (i : Int64) : int64? i.toInt = some i := by
  have low : Int64.minValue.toInt ≤ i.toInt := by simpa using i.minValue_le_toInt
  have high : i.toInt ≤ Int64.maxValue.toInt := by simpa using i.toInt_le
  rw [int64?, if_pos ⟨low, high⟩, Int64.ofInt_toInt]

theorem toInt_of_int64? {i : Int} {n : Int64} (h : int64? i = some n) : n.toInt = i := by
  simp only [int64?] at h
  split at h
  · rename_i range
    obtain rfl := Option.some.inj h
    have low : -9223372036854775808 ≤ i := range.1
    have high : i ≤ 9223372036854775807 := range.2
    exact Int64.toInt_ofInt_of_le low (by omega)
  · simp at h

/-! ### Signs and digits -/

/-- Whether a minus was read, and the rest after an optional sign. -/
def readSign : List Char → Bool × List Char
  | '-' :: rest => (true, rest)
  | '+' :: rest => (false, rest)
  | rest => (false, rest)

/-- All of the text as digits, at least one. -/
def allDigits? (s : List Char) : Option Nat :=
  if s.isEmpty || !s.all Text.isDigit then none else some (digitsValue s)

def readInt64? (s : List Char) : Option Int64 :=
  let (negative, rest) := readSign s
  match allDigits? rest with
  | some n => int64? (Double.signed negative n)
  | none => none

/-! ### Doubles -/

/-- An optional exponent at the end of a number. -/
def readExponent? : List Char → Option Int
  | [] => some 0
  | c :: rest =>
    if c == 'e' || c == 'E' then
      let (negative, digits) := readSign rest
      (allDigits? digits).map (Double.signed negative)
    else none

def asciiLower (c : Char) : Char :=
  if 'A' ≤ c && c ≤ 'Z' then Char.ofNat (c.toNat + 32) else c

/-- A number as it is written: digits and the power of ten of the last one, or a name. -/
inductive Decimal where
  | nan
  | infinite
  | finite (digits : Nat) (exponent : Int)
deriving Repr, DecidableEq

def readUnsigned? (s : List Char) : Option Decimal :=
  let name := s.map asciiLower
  if name == "inf".toList || name == "infinity".toList then some .infinite
  else if name == "nan".toList then some .nan
  else
    let whole := s.takeWhile Text.isDigit
    let afterWhole := s.dropWhile Text.isDigit
    let (fraction, tail) :=
      match afterWhole with
      | '.' :: rest => (rest.takeWhile Text.isDigit, rest.dropWhile Text.isDigit)
      | rest => ([], rest)
    if whole.isEmpty && fraction.isEmpty then none
    else
      (readExponent? tail).map fun exponent =>
        .finite (digitsValue (whole ++ fraction)) (exponent - Int.ofNat fraction.length)

/-! ### Rounding -/

/-- Zero, or a number of a size that no double has. -/
def Decimal.extreme? (digits : Nat) (exponent : Int) : Option Decimal :=
  let leading := Int.ofNat (digitCount digits) + exponent
  if digits = 0 || leading < -330 then some (.finite 0 0)
  else if 310 < leading then some .infinite
  else none

/-- The nearest double. -/
def Decimal.toDouble : Decimal → Float
  | .nan => 0.0 / 0.0
  | .infinite => 1.0 / 0.0
  | .finite digits exponent =>
    match extreme? digits exponent with
    | some .infinite => 1.0 / 0.0
    | some _ => 0.0
    | none =>
      if 0 ≤ exponent then Float.ofScientific digits false exponent.toNat
      else Float.ofScientific digits true (-exponent).toNat

/-- The nearest single-precision number, as the double of the same value. -/
def Decimal.toSingle : Decimal → Float
  | .nan => 0.0 / 0.0
  | .infinite => 1.0 / 0.0
  | .finite digits exponent =>
    match extreme? digits exponent with
    | some .infinite => 1.0 / 0.0
    | some _ => 0.0
    | none =>
      if 0 ≤ exponent then (Float32.ofScientific digits false exponent.toNat).toFloat
      else (Float32.ofScientific digits true (-exponent).toNat).toFloat

def readSigned? (round : Decimal → Float) (s : List Char) : Option Float :=
  let (negative, rest) := readSign s
  (readUnsigned? rest).map fun d => if negative then -(round d) else round d

def readDouble? (s : List Char) : Option Float := readSigned? Decimal.toDouble s

def readSingle? (s : List Char) : Option Float := readSigned? Decimal.toSingle s

end Liquid
