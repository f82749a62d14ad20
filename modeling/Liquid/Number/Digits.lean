/-!
# Powers and digits

The powers of the two bases, and numbers as lists of ASCII digits, most significant first, and
back.
-/

namespace Liquid

def twoPow (k : Nat) : Nat := Nat.pow 2 k

def tenPow (k : Nat) : Nat := Nat.pow 10 k

def digitsOf (n : Nat) : List Char := Nat.toDigits 10 n

def digitCount (n : Nat) : Nat := (digitsOf n).length

def digitsValue (digits : List Char) : Nat :=
  digits.foldl (fun n c => 10 * n + (c.toNat - 48)) 0

/-- Zeros in front up to the width. -/
def padLeft (width : Nat) (s : List Char) : List Char :=
  List.replicate (width - s.length) '0' ++ s

end Liquid
