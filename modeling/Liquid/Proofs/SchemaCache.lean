import Liquid.Host.Member
import Mathlib.Logic.Function.Basic

/-!
# Lookups with and without remembered schemas

Schemas are remembered by the state of the registry and the name of the type, in a table where one
key may push out another. A lookup should not tell whether the schema it needed was remembered.

## Main result

`Ledger.Mirrors.memberWithin`: on a heap that remembers only what is right, a lookup finds what it
would find if each schema were computed when it is needed. `Ledger.Mirrors.member`: unless a
transform makes a lazy object, it computes one schema at most.

## Proof strategy

A number is given to one state of one registry and never again, so what is stored under a number
can be compared with that state for good (`Ledger.Right`). A lookup is compared with its fresh
counterpart step by step (`Ledger.Mirrors`), on heaps that differ in the table alone.
-/

namespace Liquid

/-! ### Fresh schemas -/

namespace Registry

/-- The schema, computed where it is needed. -/
def freshSchema (r : Registry) (o : HostObject Value) : Live Schema := return r.schema o

/-- As `memberWithin`, with fresh schemas. -/
def memberAfreshWithin (r : Registry) : (transforms : Nat) → Value → String → Live (Option Value)
  | 0, _, _ => return none
  | transforms + 1, v, name => do
    match ← v.read with
    | .object o =>
      let schema ← r.freshSchema o
      match schema.get? name with
      | some getter => return some (← Live.draw (getter o))
      | none =>
        match ← r.catchAll? o name with
        | some found => return some found
        | none =>
          match ← r.standIn? schema o with
          | some v => r.memberAfreshWithin transforms v name
          | none => r.beforeMethod? o name
    | v => return v.member? name

def memberAfresh (r : Registry) (v : Value) (name : String) : Live (Option Value) :=
  r.memberAfreshWithin (r.depth + 1) v name

/-- A schema depends on the type and on whether the type describes the object. -/
theorem schema_congr (r : Registry) {o o' : HostObject Value} (type : o.type = o'.type)
    (native : o.native = o'.native) : r.schema o = r.schema o' := by
  simp only [schema, described, type, native]

end Registry

/-! ### The table -/

namespace SchemaTable

variable {table : SchemaTable}

/-- Whatever the slots hold is right. -/
def Holds (table : SchemaTable) (right : SchemaKey → Schema → Prop) : Prop :=
  ∀ (i : Fin schemaSlots) key schema, table.slots[i] = some (key, schema) → right key schema

theorem holds_new (place : SchemaKey → Fin schemaSlots) (right : SchemaKey → Schema → Prop) :
    Holds { new with place } right := by
  intro i key schema held
  simp [new] at held

/-- A fetch stores and gives only what is right, and computes at most one schema. -/
theorem fetch_spec {right : SchemaKey → Schema → Prop} (holds : table.Holds right)
    (key : SchemaKey) (compute : Unit → Schema) (fresh : right key (compute ())) :
    right key (table.fetch key compute).1 ∧ (table.fetch key compute).2.Holds right ∧
      (table.fetch key compute).2.computed ≤ table.computed + 1 := by
  have stored : Holds { table with
      slots := table.slots.set (table.place key) (some (key, compute ()))
      computed := table.computed + 1 } right := by
    intro i other schema held
    simp only [Fin.getElem_fin, Vector.getElem_set] at held
    -- The slot that was written, or one that was left alone.
    split at held
    next =>
      cases held
      exact fresh
    next => exact holds i other schema held
  unfold fetch
  split
  next found schema held =>
    -- The slot is taken, by this key or by another that gives way.
    split
    next same =>
      subst same
      exact ⟨holds _ _ _ held, holds, Nat.le_succ _⟩
    next => exact ⟨fresh, stored, Nat.le_refl _⟩
  next => exact ⟨fresh, stored, Nat.le_refl _⟩

end SchemaTable

/-! ### Numbers and what they stand for -/

/-- What is known of the handles and of the numbers that were given to registries. -/
structure Ledger where
  /-- Whether the type describes its objects, on which all handles of the type agree. -/
  nature : String → Bool
  /-- The state of a registry that was given the number. -/
  state : Nat → Registry
  /-- The next number. -/
  used : Nat

/-- Agrees with the other handles of its type, if it is an object at all. -/
def Value.Natured (v : Value) (nature : String → Bool) : Prop :=
  ∀ o, v.resolved = .object o → o.native = nature o.type

/-- The same but for the remembered schemas. -/
structure Heap.Alike (h h' : Heap) : Prop where
  computed : h.computed = h'.computed
  supply : h.supply = h'.supply
  registries : h.registries = h'.registries

namespace Ledger

variable (l : Ledger)

/-- What a slot may hold: the schema of the state that the key's number stands for. -/
def Right (key : SchemaKey) (schema : Schema) : Prop :=
  key.registry < l.used ∧
    ∀ o, o.type = key.type → o.native = l.nature o.type → schema = (l.state key.registry).schema o

structure Faithful (h : Heap) : Prop where
  registries : h.registries = l.used
  schemas : h.schemas.Holds l.Right

/-- The registry is in the state that its number stands for. -/
structure Knows (r : Registry) : Prop where
  used : r.number < l.used
  state : l.state r.number = r

/-- The same value on heaps that are alike but for the schemas. All that the first one remembers is
right, and it has computed at most so many. -/
structure Mirrored (bound : Nat) {α : Type} (P : α → Prop) (o o' : α × Heap) : Prop where
  same : o.1 = o'.1
  holds : P o.1
  alike : o.2.Alike o'.2
  faithful : l.Faithful o.2
  computed : o.2.schemas.computed ≤ bound

/-- The first computation does the same as the second, which remembers no schemas, and computes at
most so many of them. -/
def Mirrors (cost : Nat) {α : Type} (P : α → Prop) (x y : Live α) : Prop :=
  ∀ h h', h.Alike h' → l.Faithful h → l.Mirrored (h.schemas.computed + cost) P (x h) (y h')

namespace Mirrors

variable {l} {cost more : Nat} {α β : Type} {P : α → Prop} {Q : β → Prop}

theorem pure {a : α} (holds : P a) : l.Mirrors 0 P (pure a) (pure a) :=
  fun _ _ alike faithful => ⟨rfl, holds, alike, faithful, Nat.le_refl _⟩

theorem bind {x y : Live α} {f g : α → Live β} (first : l.Mirrors cost P x y)
    (rest : ∀ a, P a → l.Mirrors more Q (f a) (g a)) :
    l.Mirrors (cost + more) Q (x >>= f) (y >>= g) := by
  intro h h' alike faithful
  have ran := first h h' alike faithful
  have next := rest (x h).1 ran.holds (x h).2 (y h').2 ran.alike ran.faithful
  have left : (x >>= f) h = f (x h).1 (x h).2 := rfl
  -- The second side goes on from its own value, which is the same.
  have right : (y >>= g) h' = g (x h).1 (y h').2 := by
    rw [ran.same]
    rfl
  have bound : (f (x h).1 (x h).2).2.schemas.computed ≤ h.schemas.computed + (cost + more) := by
    have sofar := ran.computed
    have total := next.computed
    omega
  rw [left, right]
  exact { next with computed := bound }

theorem mono {P' : α → Prop} {x y : Live α} (run : l.Mirrors cost P x y) (cheaper : cost ≤ more)
    (weaker : ∀ a, P a → P' a) : l.Mirrors more P' x y := by
  intro h h' alike faithful
  have ran := run h h' alike faithful
  have bound : (x h).2.schemas.computed ≤ h.schemas.computed + more := by
    have total := ran.computed
    omega
  exact { ran with holds := weaker _ ran.holds, computed := bound }

/-- Nothing is promised of what is not asked for any more. -/
theorem any {x y : Live α} (run : l.Mirrors 0 P x y) : l.Mirrors cost (fun _ => True) x y :=
  run.mono (Nat.zero_le _) fun _ _ => trivial

theorem answer (a : α) : l.Mirrors 0 (fun _ => True) (Pure.pure a) (Pure.pure a) := pure trivial

theorem draw {x : Fresh α} (holds : ∀ n, P (x n).1) :
    l.Mirrors 0 P (Live.draw x) (Live.draw x) := by
  intro h h' alike faithful
  -- A drawn number depends on the supply, which is alike, and the table is left alone.
  have supply := alike.supply
  refine ⟨?_, holds _, ?_, ⟨faithful.registries, faithful.schemas⟩, Nat.le_refl _⟩
  · simp only [Live.draw, supply]
    rfl
  · exact ⟨alike.computed, by simp only [Live.draw, supply]; rfl, alike.registries⟩

theorem drawn (x : Fresh α) : l.Mirrors 0 (fun _ => True) (Live.draw x) (Live.draw x) :=
  draw fun _ => trivial

theorem read (v : Value) : l.Mirrors 0 (· = v.resolved) v.read v.read := by
  intro h h' alike faithful
  unfold Value.read Live.compute
  cases cells : v.outerCells with
  | nil => exact ⟨rfl, rfl, alike, faithful, Nat.le_refl _⟩
  | cons cell rest =>
    refine ⟨rfl, rfl, ⟨?_, alike.supply, alike.registries⟩,
      ⟨faithful.registries, faithful.schemas⟩, Nat.le_refl _⟩
    change (h.compute (cell :: rest)).computed = (h'.compute (cell :: rest)).computed
    simp only [Heap.compute, alike.computed]

/-- The one place where the two differ: one looks the schema up, the other computes it. -/
theorem fetch {r : Registry} (known : l.Knows r) {o : HostObject Value}
    (natured : o.native = l.nature o.type) :
    l.Mirrors 1 (· = r.schema o) (r.fetchSchema o) (r.freshSchema o) := by
  intro h h' alike faithful
  -- The schema of one handle is that of all handles of its type, for their natures agree.
  have fresh : l.Right ⟨r.number, o.type⟩ (r.schema o) := by
    refine ⟨known.used, fun o' type native => ?_⟩
    rw [known.state]
    exact r.schema_congr type.symm (by rw [natured, native, type])
  obtain ⟨right, holds, bound⟩ := SchemaTable.fetch_spec faithful.schemas ⟨r.number, o.type⟩
    (fun _ => r.schema o) fresh
  -- Found in the table or not, it is what the state of this number would compute.
  have found : (r.fetchSchema o h).1 = r.schema o := by
    have given := right.2 o rfl natured
    rw [known.state] at given
    exact given
  exact ⟨found, found, ⟨alike.computed, alike.supply, alike.registries⟩,
    ⟨faithful.registries, holds⟩, bound⟩

/-! ### Lookups -/

variable {r : Registry}

theorem catchAll (r : Registry) (o : HostObject Value) (name : String) :
    l.Mirrors 0 (fun _ => True) (r.catchAll? o name) (r.catchAll? o name) := by
  unfold Registry.catchAll?
  split
  next => exact drawn _
  next => exact pure trivial

theorem beforeMethod (r : Registry) (o : HostObject Value) (name : String) :
    l.Mirrors 0 (fun _ => True) (r.beforeMethod? o name) (r.beforeMethod? o name) := by
  unfold Registry.beforeMethod?
  split
  next => exact drawn _
  next => exact pure trivial

/-- What stands in for an object is what its transform gives, unless that is an object. -/
theorem standIn {P : Value → Prop} (schema : Schema) (o : HostObject Value)
    (standIns : ∀ transform, r.transform? o.type = some transform →
      ∀ n, (∀ o', (transform o n).1 ≠ .object o') → P (transform o n).1) :
    l.Mirrors 0 (fun found => ∀ v, found = some v → P v) (r.standIn? schema o)
      (r.standIn? schema o) := by
  unfold Registry.standIn?
  split
  next transform _ given =>
    have drawn := draw (l := l) (x := transform o)
      (P := fun v => (∀ o', v ≠ .object o') → P v) fun n => standIns transform given n
    rw [← Nat.zero_add 0]
    refine bind drawn fun v holds => ?_
    split
    next => exact pure fun _ same => nomatch same
    next v others =>
      refine pure fun v' same => ?_
      cases same
      exact holds others
  next => exact pure fun _ same => nomatch same

/-- One round of a lookup, if the rounds after it mirror each other for whatever stands in. -/
theorem round {P : Value → Prop} {transforms : Nat} {name : String} (known : l.Knows r)
    (rest : ∀ v, P v → l.Mirrors more (fun _ => True) (r.memberWithin transforms v name)
      (r.memberAfreshWithin transforms v name))
    {v : Value} (natured : v.Natured l.nature)
    (standIns : ∀ o transform, r.transform? o.type = some transform →
      ∀ n, (∀ o', (transform o n).1 ≠ .object o') → P (transform o n).1) :
    l.Mirrors (1 + more) (fun _ => True) (r.memberWithin (transforms + 1) v name)
      (r.memberAfreshWithin (transforms + 1) v name) := by
  unfold Registry.memberWithin Registry.memberAfreshWithin
  -- Step by step; only the fetch costs a schema, and only what stands in goes on.
  rw [← Nat.zero_add (1 + more)]
  refine bind (read v) fun resolved same => ?_
  cases resolved with
  | object o =>
    refine bind (fetch known (natured o same.symm)) fun schema _ => ?_
    cases schema.get? name with
    | some getter => exact (bind (drawn (getter o)) fun _ _ => answer _).any
    | none =>
      rw [← Nat.zero_add more]
      refine bind (catchAll r o name) fun found _ => ?_
      cases found with
      | some => exact (answer _).any
      | none =>
        rw [← Nat.zero_add more]
        refine bind (standIn schema o (standIns o)) fun found holds => ?_
        cases found with
        | some v => exact rest v (holds v rfl)
        | none => exact (beforeMethod r o name).any
  | _ => exact (answer _).any

/-- What is no object has no schema. -/
theorem plain (r : Registry) {v : Value} (others : ∀ o, v.resolved ≠ .object o)
    (transforms : Nat) (name : String) :
    l.Mirrors 0 (fun _ => True) (r.memberWithin transforms v name)
      (r.memberAfreshWithin transforms v name) := by
  cases transforms with
  | zero => exact answer none
  | succ transforms =>
    unfold Registry.memberWithin Registry.memberAfreshWithin
    rw [← Nat.zero_add 0]
    refine bind (read v) fun resolved same => ?_
    cases resolved with
    | object o => exact absurd same.symm (others o)
    | _ => exact answer _

end Mirrors

/-! ### Registries that change -/

variable {l} {r : Registry} {h : Heap}

/-- The ledger after the next number is given to a registry. -/
def give (l : Ledger) (r : Registry) : Ledger :=
  { l with state := Function.update l.state l.used r, used := l.used + 1 }

theorem Knows.give (known : l.Knows r) (other : Registry) : (l.give other).Knows r := by
  refine ⟨Nat.lt_succ_of_lt known.used, ?_⟩
  have earlier : r.number ≠ l.used := Nat.ne_of_lt known.used
  simp only [Ledger.give, Function.update_of_ne earlier, known.state]

theorem knows_give (number : r.number = l.used) : (l.give r).Knows r := by
  refine ⟨number ▸ Nat.lt_succ_self _, ?_⟩
  simp only [Ledger.give, number, Function.update_self]

/-- What was right stays right, for the new number is no number of a key. -/
theorem Faithful.give (faithful : l.Faithful h) (r : Registry) :
    (l.give r).Faithful { h with registries := h.registries + 1 } := by
  refine ⟨by rw [faithful.registries]; rfl, fun i key schema held => ?_⟩
  obtain ⟨used, right⟩ := faithful.schemas i key schema held
  refine ⟨Nat.lt_succ_of_lt used, fun o type native => ?_⟩
  have earlier : key.registry ≠ l.used := Nat.ne_of_lt used
  simpa only [Ledger.give, Function.update_of_ne earlier] using right o type native

end Ledger

/-! ### Adapters -/

/-- The objects that stand in for others agree with the handles of their type. -/
def Adapter.Natured (a : Adapter) (nature : String → Bool) : Prop :=
  ∀ transform, a.transform = some transform → ∀ o n, (transform o n).1.Natured nature

/-- An object that stands in for another is no lazy one. -/
def Adapter.Settled (a : Adapter) : Prop :=
  ∀ transform, a.transform = some transform → ∀ o n o',
    (transform o n).1.resolved = .object o' → (transform o n).1 = .object o'

/-- All adapters of a registry are of this kind. -/
def Registry.All (r : Registry) (Fit : Adapter → Prop) : Prop :=
  ∀ type a, r.adapters.get? type = some a → Fit a

theorem Registry.All.of_transform? {r : Registry} {Fit : Adapter → Prop} (all : r.All Fit)
    {type : String} {transform : HostObject Value → Fresh Value}
    (given : r.transform? type = some transform) :
    ∃ a, Fit a ∧ a.transform = some transform := by
  obtain ⟨a, found, same⟩ := Option.bind_eq_some_iff.mp given
  exact ⟨a, all type a found, same⟩

namespace Ledger.Mirrors

variable {l : Ledger} {r : Registry}

/-- Each round computes one schema at most. -/
theorem memberWithin (known : l.Knows r) (natured : r.All (·.Natured l.nature)) (name : String)
    (transforms : Nat) {v : Value} (agrees : v.Natured l.nature) :
    l.Mirrors transforms (fun _ => True) (r.memberWithin transforms v name)
      (r.memberAfreshWithin transforms v name) := by
  induction transforms generalizing v with
  | zero => exact answer none
  | succ transforms ih =>
    refine (round known (fun v agrees => ih agrees) agrees ?_).mono (by omega) fun _ => id
    intro o transform given n _
    obtain ⟨a, fit, same⟩ := natured.of_transform? given
    exact fit transform same o n

/-- Without lazy objects there is one round. -/
theorem member (known : l.Knows r) (settled : r.All Adapter.Settled) (name : String) {v : Value}
    (agrees : v.Natured l.nature) :
    l.Mirrors 1 (fun _ => True) (r.member? v name) (r.memberAfresh v name) := by
  change l.Mirrors (1 + 0) _ _ _
  refine round known (fun v others => plain r others _ name) agrees ?_
  -- What stands in is no object, and if it is settled there is none behind it.
  intro o transform given n others o' resolved
  obtain ⟨a, fit, same⟩ := settled.of_transform? given
  exact others o' (fit transform same o n o' resolved)

end Ledger.Mirrors

end Liquid
