import Liquid.Bindings
import Liquid.Value.Basic

/-!
# Native types and adapters

A host object shows its members in two ways: its type describes them itself, or an adapter is
registered for the type. An adapter may also narrow what is visible, replace the object by another
value wherever it is used whole, and answer for names that no visible member has. All of these may
make new objects, which need handles of their own.
-/

namespace Liquid

/-- Computations that draw numbers no other object or cell has. -/
abbrev Fresh (α : Type) := StateM Nat α

def Fresh.number : Fresh Nat := modifyGet fun n => (n, n + 1)

/-- A new object. -/
def Fresh.object (type : String) (native : Bool) (fields : List (String × Value)) :
    Fresh Value := do
  return .object ⟨← Fresh.number, type, native, fields⟩

/-- A new lazy value. -/
def Fresh.lazy (label : String) (content : Value) : Fresh Value := do
  return .lazy ⟨← Fresh.number, label⟩ content

abbrev Getter := HostObject Value → Fresh Value

/-- A type that describes its own members; `beforeMethod` answers for all other names. -/
structure NativeType where
  members : List (String × Getter)
  beforeMethod : HostObject Value → String → Fresh (Option Value)

inductive Visibility where
  | all
  | only (names : List String)
deriving Repr, DecidableEq

def Visibility.allows : Visibility → String → Bool
  | .all, _ => true
  | .only names, name => names.contains name

structure Adapter where
  members : List (String × Getter)
  visibility : Visibility
  transform : Option (HostObject Value → Fresh Value)
  catchAll : Option (HostObject Value → String → Fresh (Option Value))

/-- The adapters of an environment by the names of their types. Each state of a registry has a
number of its own, so that what is remembered about one state is never taken for another. -/
structure Registry where
  number : Nat
  natives : String → Option NativeType
  /-- How many values in a row may stand in for an object that is asked for a member. -/
  depth : Nat
  adapters : Bindings Adapter

namespace Registry

def size (r : Registry) : Nat := r.adapters.size

def isEmpty (r : Registry) : Bool := r.adapters.entries.isEmpty

def transform? (r : Registry) (type : String) : Option (HostObject Value → Fresh Value) :=
  (r.adapters.get? type).bind (·.transform)

end Registry

end Liquid
