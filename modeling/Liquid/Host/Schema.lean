import Liquid.Host.Adapter

/-!
# Schemas

The schema of a type in a registry is its visible members: those it describes itself, then those
of its adapter, as far as they are allowed; of several with one name the last counts. Schemas are
remembered in a small table in which each key has one slot, so a key that shares its slot pushes
the other out. The number of schemas computed is kept for inspection.
-/

namespace Liquid

/-- The visible members, the last described in front. -/
abbrev Schema := List (String × Getter)

def Schema.get? (s : Schema) (name : String) : Option Getter :=
  (s.find? fun member => member.1 == name).map (·.2)

/-- All members that the type and its adapter describe, in this order. -/
def Registry.described (r : Registry) (o : HostObject Value) : List (String × Getter) :=
  let own :=
    match o.native, r.natives o.type with
    | true, some type => type.members
    | _, _ => []
  match r.adapters.get? o.type with
  | some adapter => own ++ adapter.members
  | none => own

def Registry.visibility (r : Registry) (type : String) : Visibility :=
  match r.adapters.get? type with
  | some adapter => adapter.visibility
  | none => .all

def Registry.schema (r : Registry) (o : HostObject Value) : Schema :=
  ((r.described o).filter fun member => (r.visibility o.type).allows member.1).reverse

/-! ### The table -/

structure SchemaKey where
  registry : Nat
  type : String
deriving Repr, DecidableEq

def schemaSlots : Nat := 32

structure SchemaTable where
  /-- The slot of a key; any function does. -/
  place : SchemaKey → Fin schemaSlots
  slots : Vector (Option (SchemaKey × Schema)) schemaSlots
  /-- How many schemas were computed. -/
  computed : Nat

def SchemaKey.slot (key : SchemaKey) : Fin schemaSlots :=
  ⟨(key.registry + 7 * key.type.length) % schemaSlots, Nat.mod_lt _ (by decide)⟩

namespace SchemaTable

def new : SchemaTable := ⟨SchemaKey.slot, Vector.replicate schemaSlots none, 0⟩

/-- The schema under a key, computed only if its slot holds another. -/
def fetch (table : SchemaTable) (key : SchemaKey) (compute : Unit → Schema) :
    Schema × SchemaTable :=
  let store :=
    let schema := compute ()
    (schema, { table with
      slots := table.slots.set (table.place key) (some (key, schema))
      computed := table.computed + 1 })
  match table.slots[table.place key] with
  | some (held, schema) => if held = key then (schema, table) else store
  | none => store

end SchemaTable

end Liquid
