import Liquid.Number.Written
import Liquid.Value.Basic

/-!
# Data from outside

Structured data that values are made from: numbers of any size, bytes, and moments of the
calendar. A number becomes a whole number when it is one and fits; a whole number that does not
fit becomes a double if it is one and zero if not; a double that is not finite says nothing. Bytes
and moments become their text.
-/

namespace Liquid

structure Date where
  year : Int
  month : Nat
  day : Nat
deriving Repr, DecidableEq

structure Time where
  hour : Nat
  minute : Nat
  second : Nat
  nanosecond : Nat
deriving Repr, DecidableEq

inductive Datum where
  | null
  | bool (b : Bool)
  | whole (i : Int)
  | real (f : Float)
  | str (s : String)
  | bytes (b : List UInt8)
  | date (d : Date)
  | time (t : Time)
  | moment (d : Date) (t : Time)
  | array (items : List Datum)
  | object (fields : List (String × Datum))

instance : Inhabited Datum := ⟨.null⟩

/-! ### Texts -/

def padded (width n : Nat) : String := String.ofList (padLeft width (digitsOf n))

/-- Four places, of which a minus takes one. -/
def yearText (year : Int) : String :=
  if year < 0 then "-" ++ padded 3 year.natAbs else padded 4 year.natAbs

def Date.text (d : Date) : String :=
  yearText d.year ++ "-" ++ padded 2 d.month ++ "-" ++ padded 2 d.day

def Time.text (t : Time) : String :=
  padded 2 t.hour ++ ":" ++ padded 2 t.minute ++ ":" ++ padded 2 t.second
    ++ if t.nanosecond = 0 then "" else "." ++ padded 9 t.nanosecond

/-- Two hexadecimal digits, also for a byte that is a printable character. -/
def byteText (b : UInt8) : String :=
  "\\x" ++ String.ofList (padLeft 2 (Nat.toDigits 16 b.toNat))

def bytesText (bytes : List UInt8) : String := "b\"" ++ String.join (bytes.map byteText) ++ "\""

/-! ### Values -/

namespace Value

/-- A whole number of any size, as the nearest double where it does not fit. -/
def ofInt (i : Int) : Value :=
  match int64? i with
  | some n => .int n
  | none => .float (Float.ofInt i)

/-- Whether a double stands for a whole number. What is read back from a double stops at the
greatest number of 64 bits without a sign, so 2 ^ 64 stands for that one. -/
def isExactly (f : Float) (i : Int) : Bool :=
  (Double.truncated? f).any fun back => min back (Int.ofNat UInt64.size - 1) == i

/-- A whole number that does not fit and is no double either becomes zero. -/
def ofWhole (i : Int) : Value :=
  match int64? i with
  | some n => .int n
  | none =>
    let f := Float.ofInt i
    .float (if isExactly f i then f else 0.0)

/-- A double between the least and, rounded to a double, the greatest 64-bit number is compared
with its whole part; the upper bound thereby becomes the greatest such number. -/
def ofReal (f : Float) : Value :=
  match Double.truncated? f with
  | none => .nil
  | some i =>
    let n := Number.clamp i
    if i.natAbs ≤ twoPow 63 ∧ Double.same (Number.int n).toFloat f then .int n else .float f

mutual

def ofDatum : Datum → Value
  | .null => .nil
  | .bool b => .bool b
  | .whole i => ofWhole i
  | .real f => ofReal f
  | .str s => .str s
  | .bytes b => .str (bytesText b)
  | .date d => .str d.text
  | .time t => .str t.text
  | .moment d t => .str (d.text ++ "T" ++ t.text)
  | .array items => .array (ofItems items)
  | .object fields => ofPairs (ofFields fields)

def ofItems : List Datum → List Value
  | [] => []
  | d :: rest => ofDatum d :: ofItems rest

def ofFields : List (String × Datum) → List (String × Value)
  | [] => []
  | (key, d) :: rest => (key, ofDatum d) :: ofFields rest

end

end Value

end Liquid
