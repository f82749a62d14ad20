import Liquid.Host.Schema
import Liquid.Value.Cells

/-!
# The heap

What lives longer than one evaluation and is shared by all: which cells were computed, the next
unused numbers, and the schemas remembered so far. No value depends on the cells computed; they are
kept because it can be asked how often a lazy value was computed.
-/

namespace Liquid

structure Heap where
  /-- The cells computed so far, each once. -/
  computed : List Cell
  /-- The next number for an object or a cell. -/
  supply : Nat
  /-- The next number for the state of a registry. -/
  registries : Nat
  schemas : SchemaTable

namespace Heap

def new : Heap := ⟨[], 0, 0, SchemaTable.new⟩

def isComputed (h : Heap) (cell : Cell) : Bool := h.computed.contains cell

def compute (h : Heap) (cells : List Cell) : Heap :=
  { h with
    computed := cells.foldl
      (fun done cell => if done.contains cell then done else cell :: done) h.computed }

/-- How many cells under a label were computed. -/
def computations (h : Heap) (label : String) : Nat :=
  (h.computed.filter fun cell => cell.label == label).length

end Heap

/-! ### Computations on the heap -/

abbrev Live (α : Type) := StateM Heap α

namespace Live

def draw {α : Type} (x : Fresh α) : Live α := fun heap =>
  let (a, supply) := x.run heap.supply
  (a, { heap with supply })

def compute (cells : List Cell) : Live Unit :=
  match cells with
  | [] => pure ()
  | cells => modify fun heap => heap.compute cells

end Live

namespace Value

/-- The value behind the cells, which are computed. -/
def read (v : Value) : Live Value := do
  Live.compute v.outerCells
  return v.resolved

/-- The text, for which every cell inside is computed. -/
def readText (format : Format) (v : Value) : Live String := do
  Live.compute v.cells
  return v.text format

def readPlain (v : Value) : Live String := v.readText Format.plain

def readNumber? (v : Value) : Live (Option Number) := do
  return (← v.read).number?

def readInt? (v : Value) : Live (Option Int64) := do
  return (← v.read).int?

def readLooseEq (a b : Value) : Live Bool := do
  Live.compute (a.looseEqCells b)
  return a.looseEq b

def readContains (v needle : Value) : Live Bool := do
  Live.compute (v.containsCells needle)
  return v.contains needle

def readCompare? (a b : Value) : Live (Option Ordering) := do
  Live.compute a.outerCells
  Live.compute b.outerCells
  return a.compare? b

end Value

/-! ### Registries -/

namespace Registry

def nextNumber : Live Nat :=
  modifyGet fun heap => (heap.registries, { heap with registries := heap.registries + 1 })

def new (natives : String → Option NativeType) (depth : Nat) : Live Registry := do
  return ⟨← nextNumber, natives, depth, Bindings.empty⟩

/-- A later adapter of a type takes the place of the earlier one. -/
def register (r : Registry) (type : String) (adapter : Adapter) : Live Registry := do
  return { r with
    number := ← nextNumber
    adapters := r.adapters.insert type adapter }

def clone (r : Registry) : Live Registry := do
  return { r with number := ← nextNumber }

/-- The schema of an object's type, remembered by the state of the registry and the type. -/
def fetchSchema (r : Registry) (o : HostObject Value) : Live Schema := fun heap =>
  let (schema, schemas) := heap.schemas.fetch ⟨r.number, o.type⟩ fun _ => r.schema o
  (schema, { heap with schemas })

end Registry

end Liquid
