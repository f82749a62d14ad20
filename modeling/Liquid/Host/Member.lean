import Liquid.Heap

/-!
# Members and indexes

`value.name` and `value[index]`. Containers and texts have their entries and the members `size`,
`first` and `last`. For a host object the steps are taken in order, each if the ones before found
nothing: a visible member, the adapter's answer for any name, the member of what the adapter's
transform gives if no member is visible at all, and the type's own answer for any name.
-/

namespace Liquid

namespace Value

def pair (entry : String × Value) : Value := .array [.str entry.1, entry.2]

/-- The members of everything but host objects. An entry hides the member of the same name. -/
def member? (v : Value) (name : String) : Option Value :=
  match v.resolved with
  | .hash entries =>
    match Entries.get? name entries with
    | some found => some found
    | none =>
      match name with
      | "size" => some (ofNat entries.length)
      | "first" => entries.head?.map pair
      | "last" => entries.getLast?.map pair
      | _ => none
  | .array items =>
    match name with
    | "size" => some (ofNat items.length)
    | "first" => items.head?
    | "last" => items.getLast?
    | _ => none
  | .str s =>
    match name with
    | "size" => some (ofNat s.length)
    | _ => none
  | _ => none

/-- A negative index counts from the end. -/
def item? (items : List Value) (i : Int) : Option Value :=
  if 0 ≤ i then items[i.toNat]?
  else if i.natAbs ≤ items.length then items[items.length - i.natAbs]?
  else none

end Value

namespace Registry

/-- The value to use instead of an object that is used whole. All else is itself. -/
def expose (r : Registry) (v : Value) : Live Value := do
  match ← v.read with
  | .object o =>
    match r.transform? o.type with
    | some transform => Live.draw (transform o)
    | none => return .object o
  | v => return v

def catchAll? (r : Registry) (o : HostObject Value) (name : String) : Live (Option Value) :=
  match (r.adapters.get? o.type).bind (·.catchAll) with
  | some answer => Live.draw (answer o name)
  | none => return none

def beforeMethod? (r : Registry) (o : HostObject Value) (name : String) : Live (Option Value) :=
  match o.native, r.natives o.type with
  | true, some type => Live.draw (type.beforeMethod o name)
  | _, _ => return none

/-- What the transform of a type without visible members gives, unless that is an object. -/
def standIn? (r : Registry) (schema : Schema) (o : HostObject Value) : Live (Option Value) := do
  match schema.isEmpty, r.transform? o.type with
  | true, some transform =>
    match ← Live.draw (transform o) with
    | .object _ => return none
    | v => return some v
  | _, _ => return none

def memberWithin (r : Registry) : (transforms : Nat) → Value → String → Live (Option Value)
  | 0, _, _ => return none
  | transforms + 1, v, name => do
    match ← v.read with
    | .object o =>
      let schema ← r.fetchSchema o
      match schema.get? name with
      | some getter => return some (← Live.draw (getter o))
      | none =>
        match ← r.catchAll? o name with
        | some found => return some found
        | none =>
          match ← r.standIn? schema o with
          | some v => r.memberWithin transforms v name
          | none => r.beforeMethod? o name
    | v => return v.member? name

def member? (r : Registry) (v : Value) (name : String) : Live (Option Value) :=
  r.memberWithin (r.depth + 1) v name

/-- Arrays take numbers and everything else takes names. -/
def index? (r : Registry) (v index : Value) : Live (Option Value) := do
  match ← v.read, ← index.read with
  | .array items, index => return index.int?.bind fun i => Value.item? items i.toInt
  | v, .str name => r.member? v name
  | _, _ => return none

end Registry

end Liquid
