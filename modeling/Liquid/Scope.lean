import Liquid.Bindings
import Liquid.Value.Basic

/-!
# Scopes

The frames that a render has open. The outermost one is always there, so it is kept apart from
those that blocks push and pop; the innermost of these comes first.
-/

namespace Liquid

structure Scopes where
  outermost : Bindings Value
  inner : List (Bindings Value)

namespace Scopes

def new : Scopes := ⟨Bindings.empty, []⟩

instance : Inhabited Scopes := ⟨new⟩

def depth (s : Scopes) : Nat := s.inner.length + 1

def getFrom? (outermost : Bindings Value) (name : String) : List (Bindings Value) → Option Value
  | [] => outermost.get? name
  | frame :: rest =>
    match frame.get? name with
    | some v => some v
    | none => getFrom? outermost name rest

/-- The binding in the innermost frame that has one. -/
def get? (s : Scopes) (name : String) : Option Value := getFrom? s.outermost name s.inner

/-- Binds in the innermost frame. -/
def set (s : Scopes) (name : String) (v : Value) : Scopes :=
  match s.inner with
  | [] => { s with outermost := s.outermost.insert name v }
  | frame :: rest => { s with inner := frame.insert name v :: rest }

/-- Binds in the outermost frame. -/
def assign (s : Scopes) (name : String) (v : Value) : Scopes :=
  { s with outermost := s.outermost.insert name v }

def push (s : Scopes) : Scopes := { s with inner := Bindings.empty :: s.inner }

/-- The outermost frame stays. -/
def pop (s : Scopes) : Scopes := { s with inner := s.inner.tail }

/-! ### Laws -/

theorem depth_pos (s : Scopes) : 1 ≤ s.depth := Nat.le_add_left 1 _

@[simp] theorem pop_push (s : Scopes) : s.push.pop = s := rfl

@[simp] theorem depth_push (s : Scopes) : s.push.depth = s.depth + 1 := rfl

theorem get?_set (s : Scopes) (name other : String) (v : Value) :
    (s.set name v).get? other = if name = other then some v else s.get? other := by
  obtain ⟨outermost, inner⟩ := s
  cases inner with
  | nil => simp [set, get?, getFrom?]
  | cons frame rest =>
    by_cases h : name = other <;> simp [set, get?, getFrom?, h]

end Scopes

end Liquid
