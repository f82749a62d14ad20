import Liquid.Number.Digits

/-!
# Doubles

A double is read as its sign, its mantissa and the exponent of two, or as infinity or "not a
number". Order, truncation and the exact remainder are then arithmetic of whole numbers. Order
needs only the bits: without the sign they count the doubles upwards from zero, so the signed
count orders them all and gives both zeros one place.
-/

namespace Liquid

/-- What a double stands for; a finite one is the mantissa times a power of two. -/
inductive DoubleShape where
  | nan
  | infinite (negative : Bool)
  | finite (negative : Bool) (mantissa : Nat) (exponent : Int)
deriving Repr, DecidableEq

namespace Double

def shapeOfBits (bits : Nat) : DoubleShape :=
  let negative := bits / twoPow 63 % 2 == 1
  let field : Nat := bits / twoPow 52 % twoPow 11
  let fraction := bits % twoPow 52
  if field = 2047 then if fraction = 0 then .infinite negative else .nan
  else if field = 0 then .finite negative fraction (-1074)
  else .finite negative (twoPow 52 + fraction) (Int.ofNat field - 1075)

def shape (f : Float) : DoubleShape := shapeOfBits f.toBits.toNat

def signed (negative : Bool) (n : Nat) : Int := if negative then -Int.ofNat n else Int.ofNat n

def isFinite (f : Float) : Bool :=
  match shape f with
  | .finite .. => true
  | _ => false

/-- The double with the given parts, exact for a mantissa below 2 ^ 53 and an exponent of at
least -1074: the mantissa is moved up until its top bit is the implicit one or the exponent
reaches its least value. -/
def compose (negative : Bool) (mantissa : Nat) (exponent : Int) : Float :=
  let up := min (52 - Nat.log2 mantissa) (exponent + 1074).toNat
  let m := mantissa * twoPow up
  let field := if m < twoPow 52 then 0 else (exponent - up + 1075).toNat
  let magnitude := field * twoPow 52 + m % twoPow 52
  Float.ofBits (UInt64.ofNat (if negative then twoPow 63 + magnitude else magnitude))

/-! ### Order -/

/-- The signed count of doubles from zero; nothing for "not a number". -/
def rank? (f : Float) : Option Int :=
  match shape f with
  | .nan => none
  | _ =>
    let bits := f.toBits.toNat
    some (signed (bits / twoPow 63 % 2 == 1) (bits % twoPow 63))

/-- Nothing when either side is not a number. -/
def compare? (a b : Float) : Option Ordering :=
  match rank? a, rank? b with
  | some x, some y => some (compare x y)
  | _, _ => none

def same (a b : Float) : Bool := compare? a b == some .eq

def isZero (f : Float) : Bool := rank? f == some 0

theorem compare?_swap (a b : Float) : compare? b a = (compare? a b).map Ordering.swap := by
  unfold compare?
  cases rank? a <;> cases rank? b <;> simp [Int.compare_swap]

theorem same_comm (a b : Float) : same a b = same b a := by
  unfold same
  rw [compare?_swap a b]
  cases h : compare? a b with
  | none => rfl
  | some o => cases o <;> rfl

/-! ### Whole parts -/

/-- The part before the point of `mantissa * 2 ^ exponent`. -/
def wholePart (mantissa : Nat) (exponent : Int) : Nat :=
  if 0 ≤ exponent then mantissa * twoPow exponent.toNat
  else mantissa / twoPow (-exponent).toNat

/-- Nothing is left after the point. -/
def isWhole (mantissa : Nat) (exponent : Int) : Bool :=
  0 ≤ exponent || mantissa % twoPow (-exponent).toNat == 0

/-- The finite double without its fraction; nothing for infinities and "not a number". -/
def truncated? (f : Float) : Option Int :=
  match shape f with
  | .finite negative m e => some (signed negative (wholePart m e))
  | _ => none

/-! ### Remainder -/

/-- The exact remainder of truncating division, with the sign of the dividend. Both sides are
whole multiples of the smaller of their two units, and so is the remainder. -/
def remainder (a b : Float) : Float :=
  match shape a, shape b with
  | .finite negative m e, .finite _ n d =>
    if n = 0 then 0.0 / 0.0
    else
      let unit := min e d
      let left := m * twoPow (e - unit).toNat
      let right := n * twoPow (d - unit).toNat
      compose negative (left % right) unit
  | .finite .., .infinite _ => a
  | _, _ => 0.0 / 0.0

end Double

end Liquid
