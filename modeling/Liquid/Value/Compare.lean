import Liquid.Text.Search
import Liquid.Value.Write

/-!
# Comparing values

Two equalities. The strict one keeps whole numbers and doubles apart, tells host objects apart by
their handles and lazy values by their cells. The loose one looks behind the cells, compares whole
numbers with doubles by value, and goes into arrays in the same way; everything else, hashes
included, it leaves to the strict one. Numbers are ordered by value and texts by code point;
nothing else is ordered.
-/

namespace Liquid

namespace Value

/-! ### Equality -/

mutual

def same : Value → Value → Bool
  | .nil, .nil => true
  | .bool a, .bool b => a == b
  | .int a, .int b => a == b
  | .float a, .float b => Double.same a b
  | .str a, .str b => a == b
  | .array a, .array b => sameItems a b
  | .hash a, .hash b => sameEntries a b
  | .object a, .object b => a.handle == b.handle
  | .lazy a _, .lazy b _ => a == b
  | _, _ => false

def sameItems : List Value → List Value → Bool
  | [], [] => true
  | a :: as, b :: bs => a.same b && sameItems as bs
  | _, _ => false

def sameEntries : List (String × Value) → List (String × Value) → Bool
  | [], [] => true
  | (k, a) :: as, (l, b) :: bs => k == l && a.same b && sameEntries as bs
  | _, _ => false

end

def sameNumber (i : Int64) (f : Float) : Bool := Double.same (Number.int i).toFloat f

mutual

def looseEq : Value → Value → Bool
  | .lazy _ content, other => content.looseEq other
  | .array items, other =>
    match other.resolved with
    | .array others => looseEqItems items others
    | _ => false
  | .int i, other =>
    match other.resolved with
    | .float f => sameNumber i f
    | other => same (.int i) other
  | .float f, other =>
    match other.resolved with
    | .int i => sameNumber i f
    | other => same (.float f) other
  | v, other => same v other.resolved

def looseEqItems : List Value → List Value → Bool
  | [], [] => true
  | a :: as, b :: bs => a.looseEq b && looseEqItems as bs
  | _, _ => false

end

/-! ### Order -/

/-- Nothing when the two cannot be compared. -/
def compare? (a b : Value) : Option Ordering :=
  match a.resolved, b.resolved with
  | .int i, .int j => some (compare i.toInt j.toInt)
  | .int i, .float g => Double.compare? (Number.int i).toFloat g
  | .float f, .int j => Double.compare? f (Number.int j).toFloat
  | .float f, .float g => Double.compare? f g
  | .str s, .str t => some (compare s t)
  | _, _ => none

/-! ### Containment -/

/-- A text contains the text of another value, an array an equal item, a hash a key. -/
def contains (v needle : Value) : Bool :=
  match v.resolved with
  | .str s =>
    match needle.resolved with
    | .nil => false
    | needle => containsText s needle.plain
  | .array items => items.any fun item => item.looseEq needle
  | .hash entries =>
    match needle.str? with
    | some key => (Entries.get? key entries).isSome
    | none => false
  | _ => false

end Value

end Liquid
