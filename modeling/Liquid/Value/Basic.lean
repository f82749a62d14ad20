import Liquid.Number.Basic
import Liquid.Text.Blank

/-!
# Values

All that a template can see. Host objects are opaque here: a handle that tells objects apart, the
name of their type, and the data that adapters read. A lazy value is a cell together with what
the cell computes; the cell is computed at most once, wherever its copies go, and whether that has
happened is no part of the value.
-/

namespace Liquid

/-- The place of a lazily computed value, with a label to count computations under. -/
structure Cell where
  serial : Nat
  label : String
deriving Repr, DecidableEq

/-- A handle to an object of the host. A native type describes its own members. -/
structure HostObject (α : Type) where
  handle : Nat
  type : String
  native : Bool
  fields : List (String × α)

inductive Value where
  | nil
  | bool (b : Bool)
  | int (i : Int64)
  | float (f : Float)
  | str (s : String)
  | array (items : List Value)
  /-- The entries ascend by their keys. -/
  | hash (entries : List (String × Value))
  | object (o : HostObject Value)
  | lazy (cell : Cell) (content : Value)

instance : Inhabited Value := ⟨.nil⟩

/-- The constructor of a value behind its cells. -/
inductive ValueKind where
  | nil
  | bool
  | int
  | float
  | str
  | array
  | hash
  | object
deriving Repr, DecidableEq

/-! ### Entries -/

namespace Entries

def get? (name : String) : List (String × Value) → Option Value
  | [] => none
  | (key, value) :: rest => if key == name then some value else get? name rest

/-- Puts an entry at its place, in the stead of one with the same key. -/
def insert (name : String) (value : Value) : List (String × Value) → List (String × Value)
  | [] => [(name, value)]
  | (key, old) :: rest =>
    if name < key then (name, value) :: (key, old) :: rest
    else if key == name then (name, value) :: rest
    else (key, old) :: insert name value rest

/-- Later pairs win. -/
def ofPairs (pairs : List (String × Value)) : List (String × Value) :=
  pairs.foldl (fun entries (key, value) => insert key value entries) []

end Entries

namespace Value

def ofNumber : Number → Value
  | .int i => .int i
  | .float f => .float f

/-- A count, as a double should it not fit 64 bits. -/
def ofNat (n : Nat) : Value :=
  match int64? n with
  | some i => .int i
  | none => .float (Float.ofNat n)

def ofPairs (pairs : List (String × Value)) : Value := .hash (Entries.ofPairs pairs)

/-! ### Behind the cells -/

def resolved : Value → Value
  | .lazy _ content => content.resolved
  | v => v

/-- No cell on the outside. -/
def isResolved : Value → Bool
  | .lazy .. => false
  | _ => true

theorem isResolved_resolved : (v : Value) → v.resolved.isResolved = true
  | .lazy _ content => isResolved_resolved content
  | .nil | .bool _ | .int _ | .float _ | .str _ | .array _ | .hash _ | .object _ => rfl

theorem resolved_resolved : (v : Value) → v.resolved.resolved = v.resolved
  | .lazy _ content => resolved_resolved content
  | .nil | .bool _ | .int _ | .float _ | .str _ | .array _ | .hash _ | .object _ => rfl

def kind (v : Value) : ValueKind :=
  match v.resolved with
  | .nil => .nil
  | .bool _ => .bool
  | .int _ => .int
  | .float _ => .float
  | .str _ => .str
  | .array _ => .array
  | .hash _ => .hash
  | .object _ => .object
  | .lazy .. => .nil

def typeName (v : Value) : String :=
  match v.resolved with
  | .nil => "nil"
  | .bool _ => "bool"
  | .int _ => "int"
  | .float _ => "float"
  | .str _ => "string"
  | .array _ => "array"
  | .hash _ => "hash"
  | .object o => o.type
  | .lazy .. => "nil"

/-! ### Views -/

/-- All but nil and false. -/
def isTruthy (v : Value) : Bool :=
  match v.resolved with
  | .nil => false
  | .bool b => b
  | _ => true

def isNil (v : Value) : Bool :=
  match v.resolved with
  | .nil => true
  | _ => false

/-- Equal to the literal `empty`. -/
def isEmpty (v : Value) : Bool :=
  match v.resolved with
  | .str s => s.isEmpty
  | .array items => items.isEmpty
  | .hash entries => entries.isEmpty
  | _ => false

/-- Equal to the literal `blank`. -/
def isBlank (v : Value) : Bool :=
  match v.resolved with
  | .nil => true
  | .bool b => !b
  | .str s => isBlankText s
  | .array items => items.isEmpty
  | .hash entries => entries.isEmpty
  | _ => false

def str? (v : Value) : Option String :=
  match v.resolved with
  | .str s => some s
  | _ => none

/-- Numbers, and texts that hold one. -/
def number? (v : Value) : Option Number :=
  match v.resolved with
  | .int i => some (.int i)
  | .float f => some (.float f)
  | .str s => Number.read? (Text.trim s.toList)
  | _ => none

def int? (v : Value) : Option Int64 := v.number?.bind Number.toInt?

end Value

end Liquid
