import Liquid.Proofs.SchemaCache
import Mathlib.Data.ENat.Basic

/-!
# Runs on remembered schemas

## Main result

`World.answers_afresh`: over every run of new registries, registrations, clones and lookups, with
any function that chooses the slots, lookups answer as if no schema were remembered, provided that
the handles of each type agree on whether the type describes itself. `World.natures_differ` shows
what becomes of handles that do not agree: the table tells types apart, and not natures.

`World.computed_le_lookups`: such a run computes at most one schema for each lookup, provided that
no transform makes a lazy object; `World.lazy_costs_two` is a lookup that computes two.

## Proof strategy

Two worlds go through the same actions, one with remembered and one with fresh schemas. They agree
as long as there is a ledger that the registries and the table of the first keep to, and each new
number opens a new line in it.
-/

namespace Liquid

/-! ### Runs -/

/-- Registries on one thread, with the heap they share. -/
structure World where
  registries : List Registry
  heap : Heap

inductive Action where
  | create (natives : String → Option NativeType) (depth : Nat)
  | register (index : Nat) (type : String) (adapter : Adapter)
  /-- The clone comes behind all other registries. -/
  | clone (index : Nat)
  | look (index : Nat) (v : Value) (name : String)

namespace World

/-- Does something with one of the registries, if it is there. -/
def withRegistry (w : World) (index : Nat)
    (f : Registry → Option Value × World) : Option Value × World :=
  match w.registries[index]? with
  | some r => f r
  | none => (none, w)

variable (look : Registry → Value → String → Live (Option Value))

/-- What a lookup finds, and the world after the action. -/
def act (w : World) : Action → Option Value × World
  | .create natives depth =>
    let (r, heap) := Registry.new natives depth w.heap
    (none, ⟨w.registries ++ [r], heap⟩)
  | .register index type adapter => w.withRegistry index fun r =>
    let (r, heap) := r.register type adapter w.heap
    (none, ⟨w.registries.set index r, heap⟩)
  | .clone index => w.withRegistry index fun r =>
    let (r, heap) := r.clone w.heap
    (none, ⟨w.registries ++ [r], heap⟩)
  | .look index v name => w.withRegistry index fun r =>
    let (found, heap) := look r v name w.heap
    (found, ⟨w.registries, heap⟩)

def run (w : World) : List Action → List (Option Value) × World
  | [] => ([], w)
  | action :: rest =>
    let (found, w) := w.act look action
    let (answers, w) := run w rest
    (found :: answers, w)

end World

def Action.isLook : Action → Bool
  | .look .. => true
  | _ => false

/-- How many schemas these actions may compute, if a lookup may compute so many. -/
def Action.cost (each : ℕ∞) (actions : List Action) : ℕ∞ :=
  each * (actions.countP Action.isLook : Nat)

private theorem Action.cost_cons (each : ℕ∞) (action : Action) (rest : List Action) :
    cost each (action :: rest) = cost each [action] + cost each rest := by
  cases look : action.isLook <;> simp [cost, look, mul_add, add_comm]

/-- Registers only what fits, and looks into what agrees with the other handles of its type. -/
def Action.Fits (nature : String → Bool) (Fit : Adapter → Prop) : Action → Prop
  | .register _ _ adapter => Fit adapter
  | .look _ v _ => v.Natured nature
  | _ => True

namespace World

variable {nature : String → Bool} {Fit : Adapter → Prop} {each : ℕ∞}

/-- Two worlds that differ in the remembered schemas alone, of which those of the first are
right. -/
structure Agree (nature : String → Bool) (Fit : Adapter → Prop) (l : Ledger) (w w' : World) :
    Prop where
  nature : l.nature = nature
  registries : w.registries = w'.registries
  alike : w.heap.Alike w'.heap
  faithful : l.Faithful w.heap
  knows : ∀ r ∈ w.registries, l.Knows r
  fit : ∀ r ∈ w.registries, r.All Fit

variable {l : Ledger} {w w' : World}

/-- A registry is added, or takes the place of another, under the next number. -/
theorem Agree.give (agree : Agree nature Fit l w w') {r : Registry} (number : r.number = l.used)
    (fit : r.All Fit) {registries : List Registry}
    (members : ∀ other ∈ registries, other ∈ w.registries ∨ other = r) :
    Agree nature Fit (l.give r)
      ⟨registries, { w.heap with registries := w.heap.registries + 1 }⟩
      ⟨registries, { w'.heap with registries := w.heap.registries + 1 }⟩ where
  nature := agree.nature
  registries := rfl
  alike := ⟨agree.alike.computed, agree.alike.supply, rfl⟩
  faithful := agree.faithful.give r
  knows other member := by
    rcases members other member with older | rfl
    · exact (agree.knows other older).give r
    · exact Ledger.knows_give number
  fit other member := by
    rcases members other member with older | rfl
    · exact agree.fit other older
    · exact fit

/-- The same was found, and the worlds after it agree; at most so many schemas were computed up to
then. -/
structure Follows (nature : String → Bool) (Fit : Adapter → Prop) (bound : ℕ∞)
    (o o' : Option Value × World) : Prop where
  found : o.1 = o'.1
  agree : ∃ l, Agree nature Fit l o.2 o'.2
  computed : (o.2.heap.schemas.computed : ℕ∞) ≤ bound

theorem Agree.withRegistry (agree : Agree nature Fit l w w') {bound : ℕ∞}
    (before : (w.heap.schemas.computed : ℕ∞) ≤ bound) (index : Nat)
    {f f' : Registry → Option Value × World}
    (follows : ∀ r ∈ w.registries, Follows nature Fit bound (f r) (f' r)) :
    Follows nature Fit bound (w.withRegistry index f) (w'.withRegistry index f') := by
  unfold World.withRegistry
  rw [← agree.registries]
  cases found : w.registries[index]? with
  | none => exact ⟨rfl, ⟨l, agree⟩, before⟩
  | some r => exact follows r (List.mem_of_getElem? found)

/-- An action finds the same in both worlds and keeps them in agreement. -/
theorem Agree.act (agree : Agree nature Fit l w w')
    (lookups : ∀ (l : Ledger) (r : Registry) (v : Value) (name : String), l.nature = nature →
      l.Knows r → r.All Fit → v.Natured nature → ∃ cost : Nat, cost ≤ each ∧
      l.Mirrors cost (fun _ => True) (r.member? v name) (r.memberAfresh v name))
    {action : Action} (fits : action.Fits nature Fit) :
    Follows nature Fit (w.heap.schemas.computed + Action.cost each [action])
      (w.act Registry.member? action) (w'.act Registry.memberAfresh action) := by
  obtain ⟨registries, computed, supply, n, schemas⟩ := w
  obtain ⟨registries', computed', supply', n', schemas'⟩ := w'
  obtain rfl : registries = registries' := agree.registries
  obtain rfl : n = n' := agree.alike.registries
  have number : n = l.used := agree.faithful.registries
  -- Whatever changes takes the next number, which is the same in both worlds.
  have behind {r other : Registry} (member : other ∈ registries ++ [r]) :
      other ∈ registries ∨ other = r :=
    (List.mem_append.mp member).imp_right List.mem_singleton.mp
  cases action with
  | create natives depth =>
    let r : Registry := ⟨n, natives, depth, Bindings.empty⟩
    have fit : r.All Fit := fun type a found => by cases found
    exact ⟨rfl, ⟨l.give r, agree.give number fit fun _ => behind⟩, le_self_add⟩
  | register index type adapter =>
    refine agree.withRegistry le_self_add index fun old member => ?_
    let r : Registry := { old with number := n, adapters := old.adapters.insert type adapter }
    have fit : r.All Fit := by
      intro other a found
      simp only [r, Bindings.get?_insert] at found
      split at found
      next =>
        cases found
        exact fits
      next => exact agree.fit old member other a found
    exact ⟨rfl, ⟨l.give r, agree.give number fit fun _ => List.mem_or_eq_of_mem_set⟩,
      le_self_add⟩
  | clone index =>
    refine agree.withRegistry le_self_add index fun old member => ?_
    let r : Registry := { old with number := n }
    have fit : r.All Fit := agree.fit old member
    exact ⟨rfl, ⟨l.give r, agree.give number fit fun _ => behind⟩, le_self_add⟩
  | look index v name =>
    have one : Action.cost each [.look index v name] = each := by simp [Action.cost, Action.isLook]
    rw [one]
    refine agree.withRegistry le_self_add index fun r member => ?_
    -- A lookup changes no registry, so the ledger stays as it is.
    obtain ⟨cost, within, mirrors⟩ :=
      lookups l r v name agree.nature (agree.knows r member) (agree.fit r member) fits
    have ran := mirrors _ _ agree.alike agree.faithful
    refine ⟨ran.same, ⟨l, { agree with alike := ran.alike, faithful := ran.faithful }⟩, ?_⟩
    calc ((Registry.member? r v name _).2.schemas.computed : ℕ∞)
      _ ≤ ((_ + cost : Nat) : ℕ∞) := Nat.cast_le.mpr ran.computed
      _ ≤ _ := by
        rw [Nat.cast_add]
        exact add_le_add_right within _

theorem Agree.run (agree : Agree nature Fit l w w') (each : ℕ∞)
    (lookups : ∀ (l : Ledger) (r : Registry) (v : Value) (name : String), l.nature = nature →
      l.Knows r → r.All Fit → v.Natured nature → ∃ cost : Nat, cost ≤ each ∧
      l.Mirrors cost (fun _ => True) (r.member? v name) (r.memberAfresh v name))
    {actions : List Action} (fits : ∀ action ∈ actions, action.Fits nature Fit) :
    (w.run Registry.member? actions).1 = (w'.run Registry.memberAfresh actions).1 ∧
      (∃ l, Agree nature Fit l (w.run Registry.member? actions).2
        (w'.run Registry.memberAfresh actions).2) ∧
      ((w.run Registry.member? actions).2.heap.schemas.computed : ℕ∞) ≤
        w.heap.schemas.computed + Action.cost each actions := by
  -- Over the actions, with the ledger that each of them leaves.
  induction actions generalizing l w w' with
  | nil => exact ⟨rfl, ⟨l, agree⟩, le_self_add⟩
  | cons action rest ih =>
    obtain ⟨found, ⟨l, after⟩, bound⟩ := agree.act lookups (fits action List.mem_cons_self)
    obtain ⟨answers, last, total⟩ := ih after fun action member =>
      fits action (List.mem_cons_of_mem _ member)
    refine ⟨?_, last, ?_⟩
    · simp only [World.run, found, answers]
    · rw [Action.cost_cons, ← add_assoc]
      exact total.trans (add_le_add_left bound _)

/-- Nothing has been registered yet; any function may choose the slots. -/
def start (place : SchemaKey → Fin schemaSlots) : World :=
  ⟨[], { Heap.new with schemas := { SchemaTable.new with place } }⟩

private theorem agree_start (nature : String → Bool) (Fit : Adapter → Prop)
    (place : SchemaKey → Fin schemaSlots) :
    Agree nature Fit ⟨nature, fun _ => ⟨0, fun _ => none, 0, Bindings.empty⟩, 0⟩ (start place)
      (start place) where
  nature := rfl
  registries := rfl
  alike := ⟨rfl, rfl, rfl⟩
  faithful := ⟨rfl, SchemaTable.holds_new place _⟩
  knows _ member := nomatch member
  fit _ member := nomatch member

theorem runs_agree (nature : String → Bool) (place : SchemaKey → Fin schemaSlots)
    {actions : List Action}
    (fits : ∀ action ∈ actions, action.Fits nature (·.Natured nature)) :
    ((start place).run Registry.member? actions).1 =
      ((start place).run Registry.memberAfresh actions).1 ∧
    ∃ l, Agree nature (·.Natured nature) l ((start place).run Registry.member? actions).2
      ((start place).run Registry.memberAfresh actions).2 := by
  have agree := agree_start nature (·.Natured nature) place
  obtain ⟨answers, last, -⟩ := agree.run ⊤ (fun l r v name same known fit agrees => by
    subst same
    exact ⟨_, le_top, .memberWithin known fit name (r.depth + 1) agrees⟩) fits
  exact ⟨answers, last⟩

/-- Whatever was looked up before and whatever keys share a slot, a lookup answers as if the schema
were computed for it. -/
theorem answers_afresh (nature : String → Bool) (place : SchemaKey → Fin schemaSlots)
    {actions : List Action}
    (fits : ∀ action ∈ actions, action.Fits nature (·.Natured nature)) :
    ((start place).run Registry.member? actions).1 =
      ((start place).run Registry.memberAfresh actions).1 := (runs_agree nature place fits).1

/-- Without lazy objects, as many schemas are computed as there are lookups, or fewer. -/
theorem computed_le_lookups (nature : String → Bool) (place : SchemaKey → Fin schemaSlots)
    {actions : List Action}
    (fits : ∀ action ∈ actions, action.Fits nature Adapter.Settled) :
    ((start place).run Registry.member? actions).2.heap.schemas.computed ≤
      actions.countP Action.isLook := by
  have agree := agree_start nature Adapter.Settled place
  have bound := (agree.run 1 (fun l r v name same known fit agrees => by
    subst same
    exact ⟨1, le_refl _, .member known fit name agrees⟩) fits).2.2
  simpa [start, SchemaTable.new, Action.cost] using bound

/-! ### Handles that do not agree -/

/-- A type that describes one member, and two handles of it, one of which does not say so. -/
def mixed : List Action :=
  let described : NativeType := ⟨[("name", fun _ => pure (.str "a"))], fun _ _ => pure none⟩
  [.create (fun _ => some described) 0,
   .look 0 (.object ⟨0, "Person", false, []⟩) "name",
   .look 0 (.object ⟨1, "Person", true, []⟩) "name"]

/-- The schema of the first handle hides the member of the second. -/
theorem natures_differ :
    ((start SchemaKey.slot).run Registry.member? mixed).1.map Option.isSome =
      [false, false, false] ∧
    ((start SchemaKey.slot).run Registry.memberAfresh mixed).1.map Option.isSome =
      [false, false, true] := by
  decide +kernel

/-- An adapter whose transform makes a lazy object. -/
def lazily : List Action :=
  let behind : Value := .object ⟨1, "Inner", false, []⟩
  let adapter : Adapter := ⟨[], .all, some fun _ => pure (.lazy ⟨0, "inner"⟩ behind), none⟩
  [.create (fun _ => none) 1, .register 0 "Outer" adapter,
   .look 0 (.object ⟨0, "Outer", false, []⟩) "name"]

/-- The lookup goes on in the object behind the lazy value. -/
theorem lazy_costs_two :
    ((start SchemaKey.slot).run Registry.member? lazily).2.heap.schemas.computed = 2 := by
  decide +kernel

end World

end Liquid
