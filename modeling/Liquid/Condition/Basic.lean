import Liquid.Markup.Expr

/-!
# Conditions

A condition is a chain of tests joined by `and` and `or`. Neither binds closer: the chain is
grouped from the right, as its type says, so `a or b and c` is `a or (b and c)` and `a and b or c`
is `a and (b or c)`.
-/

namespace Liquid

inductive Operator where
  | eq
  | ne
  | lt
  | gt
  | le
  | ge
  | contains
deriving Repr, DecidableEq

def Operator.ofWord? : String → Option Operator
  | "==" => some .eq
  | "!=" => some .ne
  | "<>" => some .ne
  | "<" => some .lt
  | ">" => some .gt
  | "<=" => some .le
  | ">=" => some .ge
  | "contains" => some .contains
  | _ => none

def Operator.word : Operator → String
  | .eq => "=="
  | .ne => "!="
  | .lt => "<"
  | .gt => ">"
  | .le => "<="
  | .ge => ">="
  | .contains => "contains"

theorem Operator.ofWord?_word (op : Operator) : ofWord? op.word = some op := by
  cases op <;> rfl

inductive Combinator where
  | and
  | or
deriving Repr, DecidableEq

def Combinator.ofWord? : String → Option Combinator
  | "and" => some .and
  | "or" => some .or
  | _ => none

def Combinator.word : Combinator → String
  | .and => "and"
  | .or => "or"

inductive Test where
  /-- Holds always: the test of an `else` branch. -/
  | always
  | truthy (v : Variable)
  | compare (left : Variable) (op : Operator) (right : Variable)

inductive Condition where
  | last (test : Test)
  | link (test : Test) (combinator : Combinator) (rest : Condition)

namespace Condition

def test : Condition → Test
  | last t => t
  | link t .. => t

/-- The number of tests. -/
def length : Condition → Nat
  | last _ => 1
  | link _ _ rest => rest.length + 1

def isElse (c : Condition) : Bool :=
  match c.test with
  | .always => true
  | _ => false

end Condition

end Liquid
