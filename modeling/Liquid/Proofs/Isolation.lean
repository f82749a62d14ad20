import Liquid.Proofs.ScopeDiscipline
import Liquid.Proofs.Simulation

/-!
# Isolated assigns

An assign binds in the outermost frame of its render, and unless the template is isolated also in
the store that the renders of a template share.

## Main result

`Template.render_isolated`: both renders have the same result, be it output and errors or a failure.
The isolated one leaves the store as it was, and the other one overlays it with the bindings that
its executed assigns gave, also if it fails part way.

## Proof strategy

The store comes behind the scopes in every look-up. A name that only the store of one side binds
anew is bound in the outermost frame as well, on both sides, and that frame is never popped: so
nothing that is looked up comes from where the stores differ. The stores themselves are what every
run leaves of them.
-/

namespace Liquid

/-- The same setting, with assigns that last or do not. -/
def Setting.persisting (s : Setting) (persists : Bool) : Setting := { s with persists }

namespace Isolation

/-- The same progress, but for stores that differ in names which the outermost frame binds. -/
structure Similar (p q : Progress) : Prop where
  scopes : p.scopes = q.scopes
  store : ∀ name, p.scopes.outermost.get? name = none → p.store.get? name = q.store.get? name
  errors : p.errors = q.errors
  out : p.out = q.out
  heap : p.heap = q.heap
  checks : p.checks = q.checks

private theorem outermost_of_insert {b : Bindings Value} {name other : String} {v : Value}
    (unbound : (b.insert name v).get? other = none) : b.get? other = none := by
  rw [Bindings.get?_insert] at unbound
  split at unbound
  next => cases unbound
  next => exact unbound

private theorem outermost_of_set {s : Scopes} {name other : String} {v : Value}
    (unbound : (s.set name v).outermost.get? other = none) : s.outermost.get? other = none := by
  obtain ⟨outermost, inner⟩ := s
  cases inner with
  | nil => exact outermost_of_insert unbound
  | cons frame rest => exact unbound

/-- A name that the scopes do not bind is not bound in the outermost frame. -/
theorem outermost_of_get? {s : Scopes} {name : String} (unbound : s.get? name = none) :
    s.outermost.get? name = none := by
  obtain ⟨outermost, inner⟩ := s
  unfold Scopes.get? at unbound
  induction inner with
  | nil => exact unbound
  | cons frame rest ih =>
    simp only [Scopes.getFrom?] at unbound
    cases found : frame.get? name with
    | none =>
      rw [found] at unbound
      exact ih unbound
    | some v =>
      rw [found] at unbound
      cases unbound

theorem Similar.valueOf {s : Setting} {b : Bool} {p q : Progress} (sim : Similar p q) :
    Render.valueOf (s.persisting b) q = Render.valueOf s p := by
  funext name
  unfold Render.valueOf
  rw [← sim.scopes]
  cases found : p.scopes.get? name with
  | some v => rfl
  | none =>
    rw [sim.store name (outermost_of_get? found)]
    rfl

/-- A render that persists on the left, and the same one isolated on the right. -/
def simulation (s : Setting) : Simulation (s.persisting true) (s.persisting false) where
  Sim := Similar
  Alike := Eq
  mode := rfl
  deadline := rfl
  checks sim := sim.checks
  check sim := { sim with checks := by rw [Setting.checked, Setting.checked, sim.checks]; rfl }
  push sim := { sim with scopes := by rw [sim.scopes] }
  pop sim := { sim with scopes := by rw [sim.scopes] }
  write text _ _ sim := { sim with out := by rw [sim.out] }
  record e _ _ sim := { sim with errors := by rw [sim.errors] }
  set name v w p q same sim := by
    subst same
    exact { sim with
      scopes := by rw [sim.scopes]
      store := fun other unbound => sim.store other (outermost_of_set unbound) }
  loopInfo := loopInfo_same

/-! ### The parts of a template -/

open Congruence

variable {s : Setting}

theorem keeps_eval {α : Type} (f : Environment → (String → Value) → Eval α) :
    (simulation s).congruence.Keeps (Render.eval f) := by
  intro p q sim
  have names : Render.valueOf (s.persisting false) q = Render.valueOf (s.persisting true) p :=
    sim.valueOf (s := s.persisting true) (b := false)
  simp only [Render.eval, names, sim.heap]
  exact .of_eq { sim with heap := rfl }

theorem keeps_writeValue (v : Value) :
    (simulation s).congruence.Keeps (Render.writeValue v) := by
  intro p q sim
  rw [Render.writeValue_apply, Render.writeValue_apply, sim.out, sim.heap]
  exact .ok rfl { sim with out := rfl, heap := rfl }

theorem keeps_assign (name : String) (v : Value) :
    (simulation s).congruence.Keeps (Render.assign name v) := by
  intro p q sim
  refine .ok rfl { sim with
    scopes := congrArg (Scopes.assign · name v) sim.scopes
    store := fun other unbound => ?_ }
  -- The one name whose bindings differ from now on is the one that is not asked for.
  have free : p.scopes.outermost.get? other = none := outermost_of_insert unbound
  change ((p.scopes.outermost.insert name v).get? other) = none at unbound
  rw [Bindings.get?_insert] at unbound
  have distinct : name ≠ other := fun same => by simp [same] at unbound
  change (p.store.insert name v).get? other = q.store.get? other
  rw [Bindings.get?_insert, if_neg distinct]
  exact sim.store other free

theorem supports (part : Part) (known : part ≠ .host) :
    (simulation s).congruence.Supports part :=
  supports_of_keeps rfl keeps_eval keeps_writeValue keeps_assign known

theorem result_same {r r' : Except Error Flow × Progress} (run : Coupled Similar Eq r r') :
    (Template.result r').1 = (Template.result r).1 := by
  cases run with
  | ok _ sim => simp only [Template.result, Except.map, sim.out, sim.errors]
  | error _ => rfl

end Isolation

namespace Template

/-- What the executed assigns of a render give; none if the render does not begin. -/
def assigned (t : Template) (data : Value) (o : Options) (clock : Clock) (store : Bindings Value)
    (heap : Heap) : List (String × Value) :=
  match (t.setting data o clock).run heap with
  | (.ok s, heap) => Liquid.assigned s (allVisits s (start store heap) t.document.nodes)
  | (.error _, _) => []

private theorem setting_persisting (t : Template) (isolated : Bool) (data : Value) (o : Options)
    (clock : Clock) (heap : Heap) :
    { t with isolated }.setting data o clock heap =
      match t.setting data o clock heap with
      | (.ok s, heap) => (.ok (s.persisting !isolated), heap)
      | (.error e, heap) => (.error e, heap) := by
  cases data <;> rfl

/-- Isolated or not, a render has the same result; isolated it leaves the store alone, and
otherwise it overlays the store with what its executed assigns gave, however it ends. -/
theorem render_isolated (t : Template) (standard : isStandard t.document.nodes = true)
    (data : Value) (o : Options) (clock : Clock) (store : Bindings Value) (heap : Heap) :
    let shared : Template := { t with isolated := false }
    let isolated : Template := { t with isolated := true }
    (isolated.render data o clock store heap).1 = (shared.render data o clock store heap).1 ∧
    (isolated.render data o clock store heap).2.1 = store ∧
    (shared.render data o clock store heap).2.1 =
      store.overlay ⟨shared.assigned data o clock store heap⟩ := by
  intro shared isolated
  have sharedSetting := t.setting_persisting false data o clock heap
  have isolatedSetting := t.setting_persisting true data o clock heap
  rcases set : t.setting data o clock heap with ⟨r, begun⟩
  rw [set] at sharedSetting isolatedSetting
  cases r with
  | error e =>
    have none : shared.assigned data o clock store heap = [] := by
      simp only [assigned, ExceptT.run, shared, sharedSetting]
    rw [render_of_setting_refused store isolatedSetting,
      render_of_setting_refused store sharedSetting, none]
    exact ⟨rfl, rfl, rfl⟩
  | ok s =>
    have given : shared.assigned data o clock store heap =
        Liquid.assigned (s.persisting true)
          (allVisits (s.persisting true) (start store begun) t.document.nodes) := by
      simp only [assigned, ExceptT.run, shared, sharedSetting, Bool.not_false]
    have known := not_host_of_isStandard standard
    have run := (Isolation.simulation s).congruence.renderAll_related t.document.nodes
      (fun part member => Isolation.supports part (known part member))
      (start store begun) (start store begun) ⟨rfl, fun _ _ => rfl, rfl, rfl, rfl, rfl⟩
    have lasting := (renderAll_leaves (s.persisting true) t.document.nodes known
      (start store begun)).store
    have lost := (renderAll_leaves (s.persisting false) t.document.nodes known
      (start store begun)).store
    rw [render_of_setting store isolatedSetting, render_of_setting store sharedSetting, given]
    refine ⟨?_, lost, lasting⟩
    exact Isolation.result_same run

/-- `{% assign x = "a" %}{% if x == "a" %}{% assign x = "b" %}{% endif %}{{ x | none }}`. -/
def assignsAndFails : List Node :=
  let x : Variable := ⟨.lookup "x" [], []⟩
  let a : Variable := ⟨.literal (.str "a"), []⟩
  [.tag ⟨0, 0⟩ "assign" "x = \"a\"" (.assign "x" a),
   .tag ⟨0, 0⟩ "if" "x == \"a\"" (.branches
     [(.last (.compare x .eq a),
       [.tag ⟨0, 0⟩ "assign" "x = \"b\"" (.assign "x" ⟨.literal (.str "b"), []⟩)])]),
   .output ⟨0, 0⟩ "x | none" { x with filters := [⟨"none", []⟩] }]

/-- One render fails at its last node, and one runs out of time before the second assign. -/
theorem render_isolated_assignsAndFails :
    let t : Template := ⟨bareEngine, "assigns", "", ⟨assignsAndFails, ⟨0, 0⟩⟩, false⟩
    let strict : Options := { Options.plain with mode := .strict }
    let hurried : Options := { Options.plain with timeout := some 3 }
    let store : Bindings Value := ⟨[("x", .nil), ("y", .nil)]⟩
    isStandard t.document.nodes = true ∧
    ({ t with isolated := true }.render .nil strict (.stopped 0) store Heap.new).1 =
      .error (.render "unknown filter 'none'") ∧
    ({ t with isolated := true }.render .nil strict (.stopped 0) store Heap.new).2.1 = store ∧
    ({ t with isolated := false }.render .nil strict (.stopped 0) store Heap.new).2.1 =
      ⟨[("x", .str "b"), ("y", .nil)]⟩ ∧
    ({ t with isolated := true }.render .nil hurried ticking store Heap.new).1 = .error .timeout ∧
    ({ t with isolated := true }.render .nil hurried ticking store Heap.new).2.1 = store ∧
    ({ t with isolated := false }.render .nil hurried ticking store Heap.new).2.1 =
      ⟨[("x", .str "a"), ("y", .nil)]⟩ := by
  intro t strict hurried store
  have settled := render_isolated t rfl .nil strict (.stopped 0) store Heap.new
  have given : { t with isolated := false }.assigned .nil strict (.stopped 0) store Heap.new =
      [("x", .str "a"), ("x", .str "b")] := by rfl
  have stopped := render_isolated t rfl .nil hurried ticking store Heap.new
  have begun : { t with isolated := false }.assigned .nil hurried ticking store Heap.new =
      [("x", .str "a")] := by rfl
  refine ⟨rfl, settled.1.trans ?_, settled.2.1, settled.2.2.trans ?_, stopped.1.trans ?_,
    stopped.2.1, stopped.2.2.trans ?_⟩
  · decide +kernel
  · rw [given]
    rfl
  · decide +kernel
  · rw [begun]
    rfl

end Template

end Liquid
