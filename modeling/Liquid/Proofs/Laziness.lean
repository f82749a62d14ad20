import Liquid.Proofs.BlindEvaluation
import Liquid.Proofs.Following
import Liquid.Proofs.Given

/-!
# Laziness does not show

A render cannot tell a lazy value from what its cell computes, wherever the value is held: in the
data, in the assigns of the render, in the store or in the globals, and however deep in arrays and
hashes. There is one exception. Two hashes are compared strictly, lazy values and all, so a hash
that holds a lazy value does not equal the hash that holds what it computes.

## Main result

`Template.render_versions`: with other versions of what names stand for, a render has the same
result, and it leaves versions of the same values in the store, provided that every comparison it
comes to is steady. `Template.comparing_tells` is a render for which the proviso fails.

## Proof strategy

A simulation along the visits of the render: the progress on both sides differs only in versions of
what names stand for, and in the cells computed so far. That every comparison is steady is known of
the render on the left alone.
-/

namespace Liquid

open Value

/-- What is compared at a visit. -/
def Visit.comparisons (s : Setting) : Visit → List Comparison
  | ⟨.condition c, p⟩ => c.comparisons s.env (Render.valueOf s p) p.heap
  | _ => []

private theorem Environment.output_alike {env : Environment} (blind : env.Blind)
    (globals : Bindings Value)
    (format : Format) {v w : Value} (version : Version v w) :
    Live.Alike Eq (env.output format v) ((env.withGlobals globals).output format w) := by
  refine (env.registry.expose_alike version).bind fun u u' twin => ?_
  refine (read_alike twin.version).bind fun a a' read => ?_
  rw [read.version.reading kind kind_forced]
  have same : (env.withGlobals globals).transformers = env.transformers := rfl
  rw [same]
  cases found : env.transformers a.kind with
  | some f => exact blind.transformers _ f found twin
  | none => exact readText_alike format twin.version

namespace Forcing

/-- The same progress, but for versions of what names stand for, and for the cells computed. -/
structure Similar (p q : Progress) : Prop where
  scopes : Scopes.Pointwise (fun _ => Version) p.scopes q.scopes
  store : Bindings.Pointwise (fun _ => Version) p.store q.store
  errors : p.errors = q.errors
  out : p.out = q.out
  heap : p.heap.UpToCells q.heap
  checks : p.checks = q.checks

/-- Two renders in one mode, with one deadline. -/
def simulation (left right : Setting) (mode : left.mode = right.mode)
    (deadline : left.deadline = right.deadline) : Simulation left right where
  Sim := Similar
  Alike := Version
  mode
  deadline
  checks sim := sim.checks
  check sim :=
    { sim with checks := by rw [Setting.checked, Setting.checked, deadline, sim.checks] }
  push sim := { sim with scopes := sim.scopes.push }
  pop sim := { sim with scopes := sim.scopes.pop }
  write text _ _ sim := { sim with out := by rw [sim.out] }
  record e _ _ sim := { sim with errors := by rw [sim.errors] }
  set name _ _ _ _ version sim := { sim with scopes := sim.scopes.set version }
  loopInfo _ _ _ _ := .same

theorem eval_coupled {α β : Type} {R : α → β → Prop} {f : Environment → (String → Value) → Eval α}
    {g : Environment → (String → Value) → Eval β} {left right : Setting} {p q : Progress}
    (sim : Similar p q)
    (agree : Agree (Outcome R) ((f left.env (Render.valueOf left p)).run p.heap)
      ((g right.env (Render.valueOf right q)).run q.heap)) :
    Coupled Similar R (Render.eval f left p) (Render.eval g right q) := by
  unfold Render.eval
  generalize (f left.env (Render.valueOf left p)).run p.heap = o at agree
  generalize (g right.env (Render.valueOf right q)).run q.heap = o' at agree
  obtain ⟨r, heap⟩ := o
  obtain ⟨r', heap'⟩ := o'
  obtain ⟨outcome, alike⟩ := agree
  cases outcome with
  | ok related => exact .ok related { sim with heap := alike }
  | error e => exact .error { sim with heap := alike }

/-! ### Visits -/

variable {s : Setting} {globals data : Bindings Value}

/-- The names of both sides, whatever the progress. -/
def Names (s : Setting) (globals data : Bindings Value) : Prop :=
  ∀ p q, Similar p q →
    Versions (Render.valueOf s p) (Render.valueOf (s.withNames globals data) q)

private theorem names_of (inGlobals : Bindings.Pointwise (fun _ => Version) s.env.globals globals)
    (inData : Bindings.Pointwise (fun _ => Version) s.data data) : Names s globals data :=
  fun _ _ sim _ => Render.valueOf_pointwise sim.scopes inData sim.store inGlobals .same

variable {p q : Progress}

theorem evaluates (names : Names s globals data) (blind : s.env.Blind) (v : Variable)
    (sim : Similar p q) :
    let step := Render.eval fun env names => v.evaluate env names
    Coupled Similar Version (step s p) (step (s.withNames globals data) q) :=
  eval_coupled sim (evaluate_alike globals (names p q sim) blind v _ _ sim.heap)

theorem writes (blind : s.env.Blind) {v w : Value} (version : Version v w) (sim : Similar p q) :
    Coupled Similar Eq (Render.writeValue v s p)
      (Render.writeValue w (s.withNames globals data) q) := by
  have agree := Environment.output_alike blind globals s.format version _ _ sim.heap
  rw [Render.writeValue_apply, Render.writeValue_apply]
  refine .ok rfl { sim with out := ?_, heap := agree.heap }
  exact congrArg₂ (· ++ ·) sim.out agree.result

theorem assigns (name : String) {v w : Value} (version : Version v w) (sim : Similar p q) :
    Coupled Similar Eq (Render.assign name v s p)
      (Render.assign name w (s.withNames globals data) q) := by
  refine .ok rfl { sim with scopes := sim.scopes.assign version, store := ?_ }
  change Bindings.Pointwise _ (if s.persists then _ else _) (if s.persists then _ else _)
  cases s.persists with
  | true => exact sim.store.insert version
  | false => exact sim.store

theorem attribute_same (names : Names s globals data) (row : TableRow) (key : String)
    (sim : Similar p q) :
    Coupled Similar Eq (row.attribute? key s p)
      (row.attribute? key (s.withNames globals data) q) := by
  unfold TableRow.attribute?
  generalize List.find? _ row.attributes = found
  rcases found with _ | ⟨_, e⟩
  · exact .ok rfl sim
  · exact eval_coupled sim (exposedInt_alike globals (names p q sim) e _ _ sim.heap)

private theorem header_shown (names : Names s globals data) (row : TableRow) (sim : Similar p q) :
    Coupled Similar (TableRow.Shown Version) (row.header s p)
      (row.header (s.withNames globals data) q) := by
  unfold TableRow.header
  refine Coupled.bind (eval_coupled sim
    (exposed_alike globals (names p q sim) row.collection _ _ sim.heap)) ?_
  intro v w twin p q sim
  cases v
  -- Only an array is shown. Its versions have as many items.
  case array items =>
    obtain ⟨others, rfl, versions⟩ := twin.version.array
    refine (attribute_same names row "offset" sim).bind fun offset _ same _ _ sim => ?_
    subst same
    refine (attribute_same names row "limit" sim).bind fun limit _ same _ _ sim => ?_
    subst same
    refine (attribute_same names row "cols" sim).bind fun columns _ same _ _ sim => ?_
    subst same
    exact .ok (.some ⟨Congruence.window_alike versions _ _, rfl⟩) sim
  all_goals cases twin <;> first | exact .ok .none sim | contradiction

theorem supports (names : Names s globals data) (blind : s.env.Blind) {visit : Visit}
    (known : visit.part ≠ .host)
    (steady : ∀ c ∈ visit.comparisons s, c.isSteady = true) :
    (simulation s (s.withNames globals data) rfl rfl).Supports visit := by
  obtain ⟨part, p⟩ := visit
  cases part with
  | output v =>
    intro q sim
    refine (evaluates names blind v sim).bind fun _ _ version p q sim => ?_
    exact (writes blind version sim).bind fun _ _ _ _ _ sim => .ok rfl sim
  | assign name v =>
    intro q sim
    refine (evaluates names blind v sim).bind fun _ _ version p q sim => ?_
    exact (assigns name version sim).bind fun _ _ _ _ _ sim => .ok rfl sim
  | condition c =>
    intro q sim
    exact eval_coupled sim (condition_agrees globals (names p q sim) blind c sim.heap steady)
  | row row => exact fun q sim => header_shown names row sim
  | host => exact absurd rfl known

end Forcing

/-! ### Forcing everything -/

def Bindings.forced (b : Bindings Value) : Bindings Value := ⟨forcedEntries b.entries⟩

theorem Bindings.forced_versions (b : Bindings Value) :
    Bindings.Pointwise (fun _ => Version) b b.forced := by
  obtain ⟨entries⟩ := b
  unfold Bindings.Pointwise Bindings.forced
  induction entries with
  | nil => exact .nil
  | cons entry rest ih => exact .cons ⟨rfl, .forced⟩ ih

namespace Template

def Given.forced (g : Given) : Given :=
  ⟨g.globals.forced, g.data.forced, g.assigns.forced, g.store.forced⟩

theorem Given.forced_versions (g : Given) : g.Pointwise (fun _ => Version) g.forced :=
  ⟨g.globals.forced_versions, g.data.forced_versions, g.assigns.forced_versions,
    g.store.forced_versions⟩

/-- Every comparison that the render comes to is steady. -/
def comparesSteadily (t : Template) (g : Given) (o : Options) (clock : Clock) (heap : Heap) :
    Bool :=
  let s := t.settingWith g o clock
  (allVisits s (start g.store heap) t.document.nodes).all fun visit =>
    (visit.comparisons s).all Comparison.isSteady

/-- Forcing what names stand for changes neither the result of a render nor, but for what is forced,
the store, if every comparison that the render comes to is steady. -/
theorem render_versions (t : Template) (standard : isStandard t.document.nodes = true)
    (blind : t.engine.env.Blind) {g g' : Given} (versions : g.Pointwise (fun _ => Version) g')
    (o : Options) (clock : Clock) {heap heap' : Heap} (alike : heap.UpToCells heap')
    (steady : t.comparesSteadily g o clock heap = true) :
    (t.renderWith g' o clock heap').1 = (t.renderWith g o clock heap).1 ∧
    Bindings.Pointwise (fun _ => Version) (t.renderWith g o clock heap).2.1
      (t.renderWith g' o clock heap').2.1 ∧
    (t.renderWith g o clock heap).2.2.UpToCells (t.renderWith g' o clock heap').2.2 := by
  let s := t.settingWith g o clock
  -- The setting of the other render is this one with the other names.
  let s' := t.settingWith g' o clock
  have names := Forcing.names_of (s := s) versions.globals (versions.data.overlay versions.assigns)
  have supported : ∀ visit ∈ allVisits s (start g.store heap) t.document.nodes,
      (Forcing.simulation s s' rfl rfl).Supports visit := by
    intro visit member
    have known := not_host_of_isStandard standard _ (all_visits s _ _ visit member)
    have compared := List.all_eq_true.mp (List.all_eq_true.mp steady visit member)
    exact Forcing.supports names ⟨blind.filters, blind.transformers⟩ known compared
  have run := (Forcing.simulation s s' rfl rfl).renderAll_follows t.document.nodes
    (start g.store heap) (start g'.store heap') ⟨.new, versions.store, rfl, rfl, alike, rfl⟩
    supported
  rw [renderWith_eq, renderWith_eq]
  change Coupled Forcing.Similar Eq _ _ at run
  generalize renderAll t.document.nodes (t.settingWith g o clock) (start g.store heap) = left at run
  generalize renderAll t.document.nodes (t.settingWith g' o clock) (start g'.store heap') = right
    at run
  cases run with
  | ok _ sim =>
    refine ⟨?_, sim.store, sim.heap⟩
    simp only [result, sim.out, sim.errors, Except.map]
  | error sim => exact ⟨rfl, sim.store, sim.heap⟩

/-- Arrays between brackets. -/
def bracketed : Transformer := fun v => do return "[" ++ (← v.readPlain) ++ "]"

def bracketingEngine : Engine :=
  let transformers := fun kind => if kind = .array then some bracketed else none
  { bareEngine with env := { bareEngine.env with transformers } }

private theorem bracketingEngine_blind : bracketingEngine.env.Blind where
  filters := rfl
  transformers kind f found v w twin := by
    have taken : f = bracketed := by
      by_cases array : kind = .array
      · simpa [bracketingEngine, array] using found.symm
      · simp [bracketingEngine, array] at found
    subst taken
    exact (readPlain_alike twin.version).next fun _ => .pure rfl

def lazily (serial : Nat) (content : Value) : Value := .lazy ⟨serial, ""⟩ content

/-- `{{ a }}`, `{% if a == b %}{% assign c = h.k %}{% endif %}` and
`{% tablerow i in b cols: c %}{{ i | append: c }}{% endtablerow %}`. -/
def readingAll : List Node :=
  let a : Variable := ⟨.lookup "a" [], []⟩
  let b : Variable := ⟨.lookup "b" [], []⟩
  [.output ⟨0, 0⟩ "a" a,
   .tag ⟨0, 0⟩ "if" "a == b" (.branches
     [(.last (.compare a .eq b),
       [.tag ⟨0, 0⟩ "assign" "c = h.k" (.assign "c" ⟨.lookup "h" [.field "k"], []⟩)])]),
   .tag ⟨0, 0⟩ "tablerow" "i in b cols: c" (.tablerow
     ⟨"i", .lookup "b" [], [("cols", .lookup "c" [])]⟩
     [.output ⟨0, 0⟩ "i | append: c"
       ⟨.lookup "i" [], [⟨"append", [.lookup "c" []]⟩]⟩])]

/-- Lazy values among the items of arrays, under the key of a hash, and within each other. -/
def lazyGiven : Given where
  globals := ⟨[("a", .array [lazily 0 (.str "x"), lazily 1 (lazily 2 (.str "y"))])]⟩
  data :=
    ⟨[("b", lazily 3 (.array [.str "x", .str "y"])), ("h", .hash [("k", lazily 4 (.str "1"))])]⟩
  assigns := Bindings.empty
  store := Bindings.empty

theorem render_versions_readingAll :
    let t : Template := ⟨bracketingEngine, "reading", "", ⟨readingAll, ⟨0, 0⟩⟩, false⟩
    isStandard t.document.nodes = true ∧
    t.comparesSteadily lazyGiven Options.plain (.stopped 0) Heap.new = true ∧
    (t.renderWith lazyGiven.forced Options.plain (.stopped 0) Heap.new).1 =
      .ok ⟨"[xy]<tr class=\"row1\">\n<td class=\"col1\">x1</td></tr>\n<tr class=\"row2\">" ++
        "<td class=\"col1\">y1</td></tr>\n", #[]⟩ := by
  intro t
  have steady : t.comparesSteadily lazyGiven Options.plain (.stopped 0) Heap.new = true := by
    decide +kernel
  have same := render_versions t rfl bracketingEngine_blind lazyGiven.forced_versions
    Options.plain (.stopped 0) (.refl Heap.new) steady
  exact ⟨rfl, steady, same.1.trans (by decide +kernel)⟩

/-- `{% if a == b %}yes{% else %}no{% endif %}`. -/
def comparing : List Node :=
  [.tag ⟨0, 0⟩ "if" "a == b" (.branches
    [(.last (.compare ⟨.lookup "a" [], []⟩ .eq ⟨.lookup "b" [], []⟩), [.text ⟨0, 0⟩ "yes"]),
     (.last .always, [.text ⟨0, 0⟩ "no"])])]

/-- A hash that holds a lazy value does not equal the hash that holds what it computes. -/
theorem comparing_tells :
    let t : Template := ⟨bareEngine, "comparing", "", ⟨comparing, ⟨0, 0⟩⟩, false⟩
    let data := [("a", .hash [("k", lazily 0 (.int 1))]), ("b", .hash [("k", .int 1)])]
    let g : Given := ⟨Bindings.empty, ⟨data⟩, Bindings.empty, Bindings.empty⟩
    isStandard t.document.nodes = true ∧ t.engine.env.Blind ∧
    (t.renderWith g Options.plain (.stopped 0) Heap.new).1 = .ok ⟨"no", #[]⟩ ∧
    (t.renderWith g.forced Options.plain (.stopped 0) Heap.new).1 = .ok ⟨"yes", #[]⟩ := by
  refine ⟨rfl, ⟨rfl, fun _ _ found => nomatch found⟩, ?_⟩
  decide +kernel

end Template

end Liquid
