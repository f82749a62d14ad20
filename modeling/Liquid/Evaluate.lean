import Liquid.Condition.Basic
import Liquid.Environment
import Liquid.Markup.Expr

/-!
# Evaluation

The value of an expression under an environment and a value for each name. Objects are exposed,
that is, replaced by what their adapter's transform gives, wherever they are used whole: as the
input or an argument of a filter, as an index, in a comparison. A path ends at the first nil,
and what follows it is not evaluated.
-/

namespace Liquid

def Literal.value : Literal → Value
  | .nil => .nil
  | .bool b => .bool b
  | .int i => .int i
  | .float f => .float f
  | .str s => .str s
  | .empty => .str ""
  | .blank => .str ""

/-! ### Ranges -/

/-- The most items in a range. -/
def maxRangeLength : Nat := 1000000

/-- The whole numbers from `first` on. -/
def consecutive (first : Int) (count : Nat) : List Value :=
  (List.range count).map fun k => .int (Int64.ofInt (first + Int.ofNat k))

def range (first last : Int64) : Except Error Value :=
  let length := last.toInt - first.toInt + 1
  if length ≤ 0 then .ok (.array [])
  else if length ≤ maxRangeLength then .ok (.array (consecutive first.toInt length.toNat))
  else
    let first := intText first
    let last := intText last
    .error (.render s!"range ({first}..{last}) is longer than {maxRangeLength} items")

/-! ### Expressions -/

mutual

/-- The value as it is, without its transform. -/
def Expr.resolve (env : Environment) (names : String → Value) : Expr → Eval Value
  | .literal l => return l.value
  | .range first last => do
    let first ← first.resolve env names
    let last ← last.resolve env names
    match ← first.readInt?, ← last.readInt? with
    | some i, some j => ExceptT.mk (pure (range i j))
    | _, _ =>
      let first ← first.readPlain
      let last ← last.readPlain
      throw (.render s!"invalid range ({first}..{last})")
  | .lookup name path => do
    let v ← walk env names (names name) path
    v.read

/-- Follows a path from a value. -/
def walk (env : Environment) (names : String → Value) : Value → List Segment → Eval Value
  | v, [] => return v
  | v, segment :: rest => do
    if (← v.read).isNil then return .nil
    else
      let found ← segment.step env names v
      walk env names (found.getD .nil) rest

/-- One step of a path, if it leads anywhere. -/
def Segment.step (env : Environment) (names : String → Value) (v : Value) :
    Segment → Eval (Option Value)
  | .field name => env.registry.member? v name
  | .index e => do
    let index ← env.registry.expose (← e.resolve env names)
    env.registry.index? v index

end

/-- The value to use whole. -/
def Expr.exposed (env : Environment) (names : String → Value) (e : Expr) : Eval Value := do
  env.registry.expose (← e.resolve env names)

def exposedAll (env : Environment) (names : String → Value) : List Expr → Eval (List Value)
  | [] => return []
  | e :: rest => do
    let v ← e.exposed env names
    return v :: (← exposedAll env names rest)

/-- Sends a value through filters from left to right. -/
def pipe (env : Environment) (names : String → Value) : Value → List FilterCall → Eval Value
  | v, [] => return v
  | v, call :: rest => do
    let input ← env.registry.expose v
    let args ← exposedAll env names call.args
    let v ← Filter.apply env.filters call.name input args
    pipe env names v rest

def Variable.evaluate (env : Environment) (names : String → Value) (v : Variable) :
    Eval Value := do
  pipe env names (← v.expr.resolve env names) v.filters

def Variable.exposed (env : Environment) (names : String → Value) (v : Variable) :
    Eval Value := do
  env.registry.expose (← v.evaluate env names)

/-! ### Tests -/

inductive Emptiness where
  | empty
  | blank
deriving Repr, DecidableEq

/-- The literals `empty` and `blank` stand for a question and not for a value. -/
def Variable.emptiness? (v : Variable) : Option Emptiness :=
  match v.literal? with
  | some .empty => some .empty
  | some .blank => some .blank
  | _ => none

def Emptiness.test (e : Emptiness) (op : Operator) (v : Value) : Eval Bool := do
  let v ← v.read
  let holds :=
    match e with
    | .empty => v.isEmpty
    | .blank => v.isBlank
  match op with
  | .eq => return holds
  | .ne => return !holds
  | op =>
    let word := op.word
    throw (.render s!"cannot use '{word}' with empty or blank")

/-- Whether an ordering answers an operator. -/
def Operator.holds : Operator → Ordering → Bool
  | .lt, o => o == .lt
  | .gt, o => o == .gt
  | .le, o => o != .gt
  | .ge, o => o != .lt
  | _, _ => false

/-- Nothing is less or greater than nil. -/
def compareOrdered (op : Operator) (left right : Value) : Eval Bool := do
  if (← left.read).isNil then return false
  if (← right.read).isNil then return false
  match ← left.readCompare? right with
  | some ordering => return op.holds ordering
  | none =>
    let left := left.typeName
    let right := right.typeName
    throw (.render s!"comparison of {left} with {right} failed")

def compareValues (op : Operator) (left right : Value) : Eval Bool := do
  match op with
  | .eq => left.readLooseEq right
  | .ne => return !(← left.readLooseEq right)
  | .contains => left.readContains right
  | op => compareOrdered op left right

def Test.evaluate (env : Environment) (names : String → Value) : Test → Eval Bool
  | .always => return true
  | .truthy v => do return (← (← v.evaluate env names).read).isTruthy
  | .compare left op right =>
    match right.emptiness?, left.emptiness? with
    | some e, _ => do e.test op (← left.exposed env names)
    | none, some e => do e.test op (← right.exposed env names)
    | none, none => do
      let l ← left.exposed env names
      let r ← right.exposed env names
      compareValues op l r

/-- Only as many tests are evaluated as decide the condition. -/
def Condition.evaluate (env : Environment) (names : String → Value) : Condition → Eval Bool
  | .last t => t.evaluate env names
  | .link t c rest => do
    match c, ← t.evaluate env names with
    | .and, true => rest.evaluate env names
    | .and, false => return false
    | .or, true => return true
    | .or, false => rest.evaluate env names

end Liquid
