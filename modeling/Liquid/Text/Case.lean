import Liquid.Text.Case.Table

/-!
# Letter case

Upper and lower casing with the full maps: one character may become several. The only map that
looks at its surroundings is that of the capital sigma, which ends a word as `ς` and is `σ`
anywhere else. A word goes on past characters that case ignores, such as an apostrophe.
-/

namespace Liquid.Text

def isUpper (c : Char) : Bool := inStrides upperStrides c.toNat

def isLower (c : Char) : Bool := inStrides lowerStrides c.toNat

def isCased (c : Char) : Bool := inRanges casedRanges c.toNat

def isCaseIgnorable (c : Char) : Bool := inRanges caseIgnorableRanges c.toNat

/-! ### Single characters -/

/-- The entry of a code point in an ascending list of expansions. -/
def expansion? : List (Nat × List Nat) → Nat → Option (List Nat)
  | [], _ => none
  | (m, image) :: rest, n =>
    if n < m then none else if n = m then some image else expansion? rest n

/-- The image of a character: a single one if there is one, else its expansion, else itself. -/
def mapped (single : List (Stride × Nat)) (several : List (Nat × List Nat)) (c : Char) :
    List Char :=
  match shifted? single c.toNat with
  | some n => [Char.ofNat n]
  | none =>
    match expansion? several c.toNat with
    | some image => image.map Char.ofNat
    | none => [c]

def upperChar (c : Char) : List Char := mapped upperMap upperExpansions c

def lowerChar (c : Char) : List Char := mapped lowerMap lowerExpansions c

/-! ### Words -/

/-- Whether the first character that case does not ignore is a cased one. -/
def reachesCased (s : List Char) : Bool :=
  match s.dropWhile isCaseIgnorable with
  | c :: _ => isCased c
  | [] => false

/-- A sigma ends its word when a cased letter comes before it and none after. -/
def endsWord (before after : List Char) : Bool := reachesCased before && !reachesCased after

/-- `before` holds what precedes, nearest character first. -/
def lowerAfter : List Char → List Char → List Char
  | _, [] => []
  | before, c :: rest =>
    (if c == 'Σ' then [if endsWord before rest then 'ς' else 'σ'] else lowerChar c)
      ++ lowerAfter (c :: before) rest

end Liquid.Text

namespace Liquid

def upperText (s : String) : String := String.ofList (s.toList.flatMap Text.upperChar)

def lowerText (s : String) : String := String.ofList (Text.lowerAfter [] s.toList)

/-- The first character in upper case and the others as they are. -/
def capitalizeText (s : String) : String :=
  match s.toList with
  | [] => ""
  | c :: rest => String.ofList (Text.upperChar c ++ rest)

end Liquid
