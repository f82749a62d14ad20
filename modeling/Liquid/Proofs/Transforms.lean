import Liquid.Proofs.Given
import Liquid.Proofs.Simulation
import Liquid.Proofs.WholeUse

/-!
# What transforms stand in for

An adapter's transform replaces an object wherever it is used whole. Then a template that uses a
name only whole cannot tell whether the name stands for the object or for what the transform makes
of it. Two places do not keep to this: the condition that asks whether a value is truthy, and the
bounds of a range, look at the object itself.

## Main result

`Template.render_standIn`: the result of a render, in either error mode, is the same for the object
and for its stand-in, provided that no condition asks a falsy stand-in and no range is bounded by
one that could be told from an object there. `StandIn.truthy_same_iff` and `StandIn.silent_iff` say
that neither proviso can be done without.

## Proof strategy

A simulation: the progress of the two renders differs only in what the names stand for. All that
is evaluated is the same on both sides by the lemmas on names used whole, except for what is no
more than one of the names. That is either written, and then exposed, or assigned, and then the
name it is assigned to is one of the names.
-/

namespace Liquid

namespace StandIn

variable {σ : Setting} (s : StandIn σ.env.registry) (names : List String)

/-- The same progress but for the object and its stand-in under the names. -/
structure Similar (p q : Progress) : Prop where
  scopes : Scopes.Pointwise (s.Stands names) p.scopes q.scopes
  store : Bindings.Pointwise (s.Stands names) p.store q.store
  errors : p.errors = q.errors
  out : p.out = q.out
  heap : p.heap = q.heap
  checks : p.checks = q.checks

variable {s names} {globals data : Bindings Value}

def simulation (σ : Setting) (s : StandIn σ.env.registry) (names : List String)
    (globals data : Bindings Value) : Simulation σ (σ.withNames globals data) where
  Sim := s.Similar names
  Alike := Eq
  mode := (σ.withNames_mode globals data).symm
  deadline := (σ.withNames_deadline globals data).symm
  checks sim := sim.checks
  check sim := { sim with checks := by rw [Setting.checked, Setting.checked, sim.checks]; rfl }
  push sim := { sim with scopes := sim.scopes.push }
  pop sim := { sim with scopes := sim.scopes.pop }
  write text _ _ sim := { sim with out := by rw [sim.out] }
  record e _ _ sim := { sim with errors := by rw [sim.errors] }
  set name v _ _ _ same sim := by
    subst same
    exact { sim with scopes := sim.scopes.set (.same name v) }
  loopInfo := loopInfo_same

private theorem agree_of_similar (inData : Bindings.Pointwise (s.Stands names) σ.data data)
    (inGlobals : Bindings.Pointwise (s.Stands names) σ.env.globals globals) {p q : Progress}
    (sim : s.Similar names p q) :
    s.Agree names (Render.valueOf σ p) (Render.valueOf (σ.withNames globals data) q) :=
  fun name => Render.valueOf_pointwise sim.scopes inData sim.store inGlobals (.same name .nil)

/-! ### The parts of a template -/

section

open Congruence

variable (inData : Bindings.Pointwise (s.Stands names) σ.data data)
  (inGlobals : Bindings.Pointwise (s.Stands names) σ.env.globals globals)

include inData inGlobals

/-- A step that evaluates to the same on both sides. -/
theorem keeps_eval {α : Type} {f : Environment → (String → Value) → Eval α}
    (same : ∀ held held', s.Agree names held held' →
      f σ.env held = f { σ.env with globals } held') :
    (simulation σ s names globals data).congruence.Keeps (Render.eval f) := by
  intro p q sim
  have agree := agree_of_similar inData inGlobals sim
  simp only [Render.eval, same _ _ agree, sim.heap]
  exact .of_eq { sim with heap := rfl }

/-- The one step whose result may differ. -/
theorem evaluates {v : Variable} (fits : ∀ e ∈ v.within, s.Fits names e) :
    let run := Render.eval fun env held => v.evaluate env held
    (simulation σ s names globals data).congruence.Rel false
      (fun a b => a = b ∨ v.isName names = true ∧ a = .object s.object ∧ b = s.value) run run := by
  intro run p q sim
  have agree := agree_of_similar inData inGlobals sim
  -- Equal computations leave equal heaps; the others do not touch the heap.
  rcases evaluate_gives globals agree fits with same | ⟨bare, object, value⟩
  · have outcome : Coupled (s.Similar names) Eq (run σ p)
        (run (σ.withNames globals data) q) := by
      simp only [run, Render.eval, same, sim.heap]
      exact .of_eq { sim with heap := rfl }
    exact outcome.mono fun _ _ => Or.inl
  -- No more than one of the names: the object here, its stand-in there.
  · have left : run σ p = (.ok (.object s.object), p) := by
      simp only [run, Render.eval, object]
      rfl
    have right : run (σ.withNames globals data) q = (.ok s.value, q) := by
      simp only [run, Render.eval, Setting.withNames] at value ⊢
      rw [value]
      rfl
    rw [left, right]
    exact .ok (.inr ⟨bare, rfl, rfl⟩) sim

end

/-- The object is written as its stand-in. -/
theorem output_object (env : Environment) (s : StandIn env.registry) (format : Format) :
    env.output format (.object s.object) = env.output format s.value := by
  simp only [Environment.output, expose_object, expose_value]

private theorem output_withNames (format : Format) (v : Value) :
    (σ.withNames globals data).env.output format v = σ.env.output format v := rfl

theorem writes {a b : Value} (related : a = b ∨ a = .object s.object ∧ b = s.value) :
    (simulation σ s names globals data).congruence.Rel false Eq (Render.writeValue a)
      (Render.writeValue b) := by
  intro p q sim
  have text : σ.env.output σ.format a = σ.env.output σ.format b := by
    rcases related with rfl | ⟨rfl, rfl⟩
    · rfl
    · exact output_object σ.env s σ.format
  rw [Render.writeValue_apply, Render.writeValue_apply, output_withNames, text, sim.heap, sim.out]
  exact .ok rfl { sim with heap := rfl, out := rfl }

theorem assigns {name : String} {a b : Value} (stands : s.Stands names name a b) :
    (simulation σ s names globals data).congruence.Rel false Eq (Render.assign name a)
      (Render.assign name b) := by
  intro p q sim
  refine .ok rfl { sim with scopes := sim.scopes.assign stands, store := ?_ }
  -- Isolated or not, both sides do the same with what lasts.
  change Bindings.Pointwise _ (if σ.persists then _ else _) (if σ.persists then _ else _)
  cases σ.persists with
  | true => exact sim.store.insert stands
  | false => exact sim.store

/-- What a part may do with the names. -/
structure Admits (s : StandIn r) (names : List String) (part : Part) : Prop where
  known : part ≠ .host
  kept : part.keepsNames names = true
  fits : ∀ e ∈ part.within, s.Fits names e
  truthy : part.asks names = true → s.value.isTruthy = true

theorem attribute_same {row : TableRow} (inData : Bindings.Pointwise (s.Stands names) σ.data data)
    (inGlobals : Bindings.Pointwise (s.Stands names) σ.env.globals globals)
    (fits : ∀ entry ∈ row.attributes, ∀ e ∈ entry.2.within, s.Fits names e)
    (key : String) :
    (simulation σ s names globals data).congruence.Keeps (row.attribute? key) := by
  unfold TableRow.attribute?
  split
  next e found =>
    refine keeps_eval inData inGlobals fun held held' agree => ?_
    have member := List.mem_of_find?_eq_some found
    simp only [exposed_same globals agree (fits _ member)]
  next => exact (simulation σ s names globals data).congruence.pure rfl

theorem supports (inData : Bindings.Pointwise (s.Stands names) σ.data data)
    (inGlobals : Bindings.Pointwise (s.Stands names) σ.env.globals globals) {part : Part}
    (admitted : s.Admits names part) :
    (simulation σ s names globals data).congruence.Supports part := by
  obtain ⟨known, kept, fits, truthy⟩ := admitted
  have done (flow : Flow) : (simulation σ s names globals data).congruence.Keeps (pure flow) :=
    (simulation σ s names globals data).congruence.pure rfl
  cases part with
  | output v =>
    refine Congruence.bind _ (evaluates inData inGlobals fits) fun a b related => ?_
    exact Congruence.next (writes (related.imp_right And.right)) fun _ => done .normal
  | assign name v =>
    refine Congruence.bind _ (evaluates inData inGlobals fits) fun a b related => ?_
    refine Congruence.next (assigns ?_) fun _ => done .normal
    -- A name that is assigned the object becomes one of the names.
    rcases related with rfl | ⟨bare, rfl, rfl⟩
    · exact .same name a
    · exact .swapped (by simpa [Part.keepsNames, bare] using kept)
  | condition c =>
    exact keeps_eval inData inGlobals fun held held' agree =>
      condition_same globals agree fits fun t member asks =>
        truthy (List.any_eq_true.mpr ⟨t, member, asks⟩)
  | row row =>
    refine ⟨?_, attribute_same inData inGlobals fun entry member e inside =>
      fits e (List.mem_append_right _ (List.mem_flatMap.mpr ⟨entry, member, inside⟩))⟩
    -- The collection is exposed, so the cells walk through the same items.
    intro collection p q sim
    have exposed := keeps_eval inData inGlobals
      (f := fun env held => row.collection.exposed env held)
      (fun held held' agree => exposed_same globals agree fun e member =>
        fits e (List.mem_append_left _ member)) p q sim
    exact exposed.mono fun v w same => same ▸ walked_refl v
  | host => exact absurd rfl known

end StandIn

namespace Template

open StandIn

private theorem admits_of_usesWhole {nodes : List Node} {r : Registry} {s : StandIn r}
    {names : List String} (standard : isStandard nodes = true)
    (whole : usesWhole names nodes = true)
    (truthy : s.value.isTruthy = true ∨ asksName names nodes = false)
    (bounds : s.Silent ∨ boundsName names nodes = false) :
    ∀ part ∈ allParts nodes, s.Admits names part := by
  intro part member
  -- What no part does at all, this part does not do either.
  have used := List.all_eq_true.mp whole part member
  rw [Bool.and_eq_true, List.all_eq_true] at used
  refine ⟨not_host_of_isStandard standard part member, used.1, fun e inside => ?_, fun asks => ?_⟩
  · refine ⟨used.2 e inside, fun bound => bounds.resolve_right fun free => ?_⟩
    have found : boundsName names nodes = true :=
      List.any_eq_true.mpr ⟨part, member, List.any_eq_true.mpr ⟨e, inside, bound⟩⟩
    rw [free] at found
    cases found
  · refine truthy.resolve_right fun free => ?_
    have found : asksName names nodes = true := List.any_eq_true.mpr ⟨part, member, asks⟩
    rw [free] at found
    cases found

/-- Whatever uses the names only whole renders the object and its stand-in alike, if it does not
ask a falsy stand-in and sets no bounds with one that is not silent. -/
theorem render_standIn (t : Template) (s : StandIn t.engine.env.registry) (names : List String)
    (standard : isStandard t.document.nodes = true)
    (whole : usesWhole names t.document.nodes = true)
    (truthy : s.value.isTruthy = true ∨ asksName names t.document.nodes = false)
    (bounds : s.Silent ∨ boundsName names t.document.nodes = false) {g g' : Given}
    (replaced : g.Pointwise (s.Stands names) g') (o : Options) (clock : Clock) (heap : Heap) :
    (t.renderWith g o clock heap).1 = (t.renderWith g' o clock heap).1 ∧
      Bindings.Pointwise (s.Stands names) (t.renderWith g o clock heap).2.1
        (t.renderWith g' o clock heap).2.1 := by
  have admitted := admits_of_usesWhole standard whole truthy bounds
  have run := (StandIn.simulation (t.settingWith g o clock) s names g'.globals
    (g'.data.overlay g'.assigns)).congruence.renderAll_related t.document.nodes
    (fun part member => StandIn.supports (replaced.data.overlay replaced.assigns)
      replaced.globals (admitted part member)) (start g.store heap) (start g'.store heap)
      ⟨.new, replaced.store, rfl, rfl, rfl, rfl⟩
  -- The setting with the other names is that of the other render.
  change Coupled _ _ _ (renderAll t.document.nodes (t.settingWith g' o clock) (start g'.store heap))
    at run
  rw [renderWith_eq, renderWith_eq]
  generalize renderAll t.document.nodes (t.settingWith g o clock) (start g.store heap) = left at run
  generalize renderAll t.document.nodes (t.settingWith g' o clock) (start g'.store heap) = right
    at run
  cases run with
  | @ok _ _ p q same sim =>
    refine ⟨?_, sim.store⟩
    simp only [result, sim.out, sim.errors, Except.map]
  | error sim => exact ⟨rfl, sim.store⟩

/-! ### An adapter for one type -/

/-- An engine in which objects of the type `Foo` give way to a fixed value. -/
def adaptedEngine (v : Value) : Engine :=
  let adapter : Adapter := ⟨[], .all, some fun _ => pure v, none⟩
  let registry : Registry := ⟨0, fun _ => none, 1, ⟨[("Foo", adapter)]⟩⟩
  { bareEngine with env := { bareEngine.env with registry } }

def foo : HostObject Value := ⟨0, "Foo", false, []⟩

def fooStandIn (v : Value) (computed : v.isResolved = true) (plain : ∀ o, v ≠ .object o) :
    StandIn (adaptedEngine v).env.registry :=
  ⟨foo, v, fun _ => pure v, rfl, rfl, computed, plain⟩

/-- The data `x` and nothing else. -/
def given (x : Value) : Given := ⟨Bindings.empty, ⟨[("x", x)]⟩, Bindings.empty, Bindings.empty⟩

def adapted (v : Value) (nodes : List Node) : Template :=
  ⟨adaptedEngine v, "adapted", "", ⟨nodes, ⟨0, 0⟩⟩, false⟩

/-- `{{ x }}`, `{% assign y = x %}` and `{% if y == "a" %}{{ y | upcase }}{% endif %}`. -/
def wholeUses : List Node :=
  let x : Variable := ⟨.lookup "x" [], []⟩
  let y : Variable := ⟨.lookup "y" [], []⟩
  [.output ⟨0, 0⟩ "x" x,
   .tag ⟨0, 0⟩ "assign" "y = x" (.assign "y" x),
   .tag ⟨0, 0⟩ "if" "y == \"a\"" (.branches
     [(.last (.compare y .eq ⟨.literal (.str "a"), []⟩),
       [.output ⟨0, 0⟩ "y | upcase" ⟨.lookup "y" [], [⟨"upcase", []⟩]⟩])])]

/-- `{% if x %}yes{% else %}no{% endif %}`. -/
def asking : List Node :=
  [.tag ⟨0, 0⟩ "if" "x" (.branches
    [(.last (.truthy ⟨.lookup "x" [], []⟩), [.text ⟨0, 0⟩ "yes"]),
     (.last .always, [.text ⟨0, 0⟩ "no"])])]

/-- `{{ (1..x) }}`. -/
def counting : List Node :=
  [.output ⟨0, 0⟩ "(1..x)" ⟨.range (.literal (.int 1)) (.lookup "x" []), []⟩]

theorem render_standIn_wholeUses :
    let t := adapted (.str "a") wholeUses
    isStandard t.document.nodes = true ∧ usesWhole ["x", "y"] t.document.nodes = true ∧
    asksName ["x", "y"] t.document.nodes = false ∧
    (t.renderWith (given (.object foo)) Options.plain (.stopped 0) Heap.new).1 =
      .ok ⟨"aA", #[]⟩ := by
  let t := adapted (.str "a") wholeUses
  let s : StandIn t.engine.env.registry :=
    fooStandIn (.str "a") rfl fun _ same => nomatch same
  have replaced : (given (.object foo)).Pointwise (s.Stands ["x", "y"]) (given (.str "a")) :=
    ⟨.nil, .cons ⟨rfl, .swapped (by decide)⟩ .nil, .nil, .nil⟩
  have same := render_standIn t s ["x", "y"] rfl (by decide) (.inl rfl) (.inr (by decide))
    replaced Options.plain (.stopped 0) Heap.new
  refine ⟨rfl, by decide, by decide, same.1.trans ?_⟩
  decide +kernel

/-- The object is asked whether it is truthy, and not what stands in for it. -/
theorem asking_tells :
    let t := adapted .nil asking
    (∃ s : StandIn t.engine.env.registry, s.object = foo ∧ s.value = .nil) ∧
    isStandard t.document.nodes = true ∧ usesWhole ["x"] t.document.nodes = true ∧
    (t.renderWith (given (.object foo)) Options.plain (.stopped 0) Heap.new).1 = .ok ⟨"yes", #[]⟩ ∧
    (t.renderWith (given .nil) Options.plain (.stopped 0) Heap.new).1 = .ok ⟨"no", #[]⟩ := by
  refine ⟨⟨fooStandIn .nil rfl (fun _ same => nomatch same), rfl, rfl⟩, ?_⟩
  decide +kernel

/-- A bound is read off the object, which is no number. -/
theorem counting_tells :
    let t := adapted (.int 3) counting
    (∃ s : StandIn t.engine.env.registry, s.object = foo ∧ s.value = .int 3) ∧
    isStandard t.document.nodes = true ∧ usesWhole ["x"] t.document.nodes = true ∧
    (t.renderWith (given (.object foo)) Options.plain (.stopped 0) Heap.new).1 =
      .ok ⟨"Liquid error: invalid range (1..)", #[.render "invalid range (1..)"]⟩ ∧
    (t.renderWith (given (.int 3)) Options.plain (.stopped 0) Heap.new).1 = .ok ⟨"123", #[]⟩ := by
  refine ⟨⟨fooStandIn (.int 3) rfl (fun _ same => nomatch same), rfl, rfl⟩, ?_⟩
  decide +kernel

end Template

end Liquid
