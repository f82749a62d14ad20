import Liquid.Proofs.Simulation

/-!
# Hidden members

An adapter with an allow-list shows only some of the members that a type and its adapter describe.
The rest is nothing a template can get at, by whatever path it goes: what a hidden member would be
read as has no part in what is rendered.

## Main result

`Template.render_shown`: a template of the language renders alike, down to the heap, in two
registries that differ only in how members are read that are not shown.

## Proof strategy

A schema holds the shown members only, so both registries compute the same schemas
(`Registry.SameShown.schema`), and a table that remembers them cannot tell the two apart. With the
same schemas a lookup takes the same steps. An evaluation asks the registry for nothing but members,
indexes and what to use instead of an object (`Registry.Interchangeable`), so it is the same
computation on both sides, and the two renders go in step by a simulation under which their progress
is equal.
-/

namespace Liquid

/-! ### What is shown -/

/-- Members of the same names in the same order; those that are shown are read alike. -/
def SameShown (visibility : Visibility) (members others : List (String × Getter)) : Prop :=
  List.Forall₂ (fun member other =>
    member.1 = other.1 ∧ (visibility.allows member.1 = true → member.2 = other.2)) members others

structure NativeType.SameShown (visibility : Visibility) (own own' : NativeType) : Prop where
  members : Liquid.SameShown visibility own.members own'.members
  beforeMethod : own.beforeMethod = own'.beforeMethod

structure Adapter.SameShown (adapter adapter' : Adapter) : Prop where
  members : Liquid.SameShown adapter.visibility adapter.members adapter'.members
  visibility : adapter.visibility = adapter'.visibility
  transform : adapter.transform = adapter'.transform
  catchAll : adapter.catchAll = adapter'.catchAll

/-- Registries in one state whose types and adapters differ at most in how members are read that are
not shown. -/
structure Registry.SameShown (r r' : Registry) : Prop where
  number : r.number = r'.number
  depth : r.depth = r'.depth
  natives (type : String) :
    Option.Rel (NativeType.SameShown (r.visibility type)) (r.natives type) (r'.natives type)
  adapters (type : String) :
    Option.Rel Adapter.SameShown (r.adapters.get? type) (r'.adapters.get? type)

namespace SameShown

variable {visibility : Visibility} {members others : List (String × Getter)}

theorem refl (visibility : Visibility) (members : List (String × Getter)) :
    SameShown visibility members members :=
  List.forall₂_same.mpr fun _ _ => ⟨rfl, fun _ => rfl⟩

theorem append {members' others' : List (String × Getter)}
    (same : SameShown visibility members others) (more : SameShown visibility members' others') :
    SameShown visibility (members ++ members') (others ++ others') :=
  List.rel_append same more

private theorem filter_eq (same : SameShown visibility members others) :
    members.filter (fun member => visibility.allows member.1) =
      others.filter fun member => visibility.allows member.1 := by
  induction same with
  | nil => rfl
  | @cons member other _ _ first _ ih =>
    obtain ⟨name, getter⟩ := member
    obtain ⟨name', getter'⟩ := other
    obtain ⟨rfl, alike⟩ := first
    cases shown : visibility.allows name with
    | true =>
      cases alike shown
      simp only [List.filter_cons, shown, ↓reduceIte, ih]
    | false =>
      simp only [List.filter_cons, shown, Bool.false_eq_true, ↓reduceIte]
      exact ih

end SameShown

/-! ### What a registry can be asked -/

/-- Registries with the same answers to all that an evaluation asks. -/
structure Registry.Interchangeable (r r' : Registry) : Prop where
  expose : r.expose = r'.expose
  member? : r.member? = r'.member?
  index? : r.index? = r'.index?

namespace Registry.SameShown

variable {r r' : Registry} (same : r.SameShown r')

include same

theorem visibility (type : String) : r.visibility type = r'.visibility type := by
  have related := same.adapters type
  unfold Registry.visibility
  generalize r.adapters.get? type = adapter, r'.adapters.get? type = adapter' at related
  cases related with
  | none => rfl
  | some related => exact related.visibility

theorem transform? : r.transform? = r'.transform? := by
  funext type
  have related := same.adapters type
  unfold Registry.transform?
  generalize r.adapters.get? type = adapter, r'.adapters.get? type = adapter' at related
  cases related with
  | none => rfl
  | some related => exact related.transform

theorem catchAll? : r.catchAll? = r'.catchAll? := by
  funext o name
  have related := same.adapters o.type
  unfold Registry.catchAll?
  generalize r.adapters.get? o.type = adapter, r'.adapters.get? o.type = adapter' at related
  cases related with
  | none => rfl
  | some related => simp only [Option.bind_some, related.catchAll]

theorem beforeMethod? : r.beforeMethod? = r'.beforeMethod? := by
  funext o name
  have related := same.natives o.type
  unfold Registry.beforeMethod?
  generalize r.natives o.type = own, r'.natives o.type = own' at related
  cases related with
  | none => rfl
  | @some own own' related => cases o.native <;> simp only [related.beforeMethod]

/-! ### Schemas -/

theorem described (o : HostObject Value) :
    Liquid.SameShown (r.visibility o.type) (r.described o) (r'.described o) := by
  have native := same.natives o.type
  have adapted := same.adapters o.type
  have shown (adapter : Adapter) (found : r.adapters.get? o.type = some adapter) :
      r.visibility o.type = adapter.visibility := by
    rw [Registry.visibility, found]
  unfold Registry.described
  generalize r.natives o.type = own, r'.natives o.type = own' at native
  generalize r.adapters.get? o.type = adapter, r'.adapters.get? o.type = adapter' at adapted shown
  cases adapted
  case' some related => refine .append ?_ (shown _ rfl ▸ related.members)
  -- What the type describes itself comes first, if the object is of a native type.
  all_goals
    cases native with
    | none => exact .refl _ _
    | some related =>
      cases o.native with
      | true => exact related.members
      | false => exact .refl _ []

/-- A schema has no room for what is hidden. -/
theorem schema (o : HostObject Value) : r.schema o = r'.schema o := by
  unfold Registry.schema
  rw [(same.described o).filter_eq, same.visibility]

theorem fetchSchema : r.fetchSchema = r'.fetchSchema := by
  funext o heap
  simp only [Registry.fetchSchema, same.number, same.schema]

/-! ### Lookups -/

theorem standIn? : r.standIn? = r'.standIn? := by
  funext schema o
  simp only [Registry.standIn?, same.transform?]

theorem memberWithin (transforms : Nat) :
    r.memberWithin transforms = r'.memberWithin transforms := by
  induction transforms with
  | zero => rfl
  | succ transforms ih =>
    funext v name
    simp only [Registry.memberWithin, same.fetchSchema, same.catchAll?, same.standIn?,
      same.beforeMethod?, ih]

theorem member? : r.member? = r'.member? := by
  funext v name
  rw [Registry.member?, Registry.member?, same.memberWithin, same.depth]

theorem interchangeable : r.Interchangeable r' where
  expose := by
    funext v
    simp only [Registry.expose, same.transform?]
  member? := same.member?
  index? := by
    funext v index
    simp only [Registry.index?, same.member?]

end Registry.SameShown

/-! ### Evaluation -/

/-- The same environment with other adapters. -/
def Environment.withRegistry (env : Environment) (r : Registry) : Environment :=
  { env with registry := r }

section

variable {env : Environment} {r : Registry}

mutual

theorem Expr.resolve_interchange (same : env.registry.Interchangeable r) (names : String → Value) :
    (e : Expr) → e.resolve env names = e.resolve (env.withRegistry r) names
  | .literal _ => by simp only [Expr.resolve]
  | .range first last => by
    simp only [Expr.resolve, first.resolve_interchange same names,
      last.resolve_interchange same names]
  | .lookup name path => by
    simp only [Expr.resolve, walk_interchange same names path]

private theorem walk_interchange (same : env.registry.Interchangeable r) (names : String → Value) :
    (path : List Segment) → (v : Value) →
      walk env names v path = walk (env.withRegistry r) names v path
  | [], _ => by simp only [walk]
  | segment :: rest, v => by
    simp only [walk, segment.step_interchange same names, walk_interchange same names rest]

private theorem Segment.step_interchange (same : env.registry.Interchangeable r)
    (names : String → Value) : (segment : Segment) → (v : Value) →
      segment.step env names v = segment.step (env.withRegistry r) names v
  | .field _, _ => by
    simp only [Segment.step, same.member?]
    rfl
  | .index e, _ => by
    simp only [Segment.step, e.resolve_interchange same names, same.expose, same.index?]
    rfl

end

variable (same : env.registry.Interchangeable r) (names : String → Value)

include same

theorem Expr.exposed_interchange (e : Expr) :
    e.exposed env names = e.exposed (env.withRegistry r) names := by
  simp only [Expr.exposed, e.resolve_interchange same, same.expose]
  rfl

private theorem exposedAll_interchange (es : List Expr) :
    exposedAll env names es = exposedAll (env.withRegistry r) names es := by
  induction es with
  | nil => rfl
  | cons e rest ih => simp only [exposedAll, e.exposed_interchange same, ih]

private theorem pipe_interchange (v : Value) (calls : List FilterCall) :
    pipe env names v calls = pipe (env.withRegistry r) names v calls := by
  induction calls generalizing v with
  | nil => rfl
  | cons call rest ih =>
    simp only [pipe, same.expose, exposedAll_interchange same, ih]
    rfl

theorem Variable.evaluate_interchange (v : Variable) :
    v.evaluate env names = v.evaluate (env.withRegistry r) names := by
  simp only [Variable.evaluate, v.expr.resolve_interchange same, pipe_interchange same]

theorem Variable.exposed_interchange (v : Variable) :
    v.exposed env names = v.exposed (env.withRegistry r) names := by
  simp only [Variable.exposed, v.evaluate_interchange same, same.expose]
  rfl

theorem Test.evaluate_interchange (t : Test) :
    t.evaluate env names = t.evaluate (env.withRegistry r) names := by
  cases t with
  | always => rfl
  | truthy v => simp only [Test.evaluate, v.evaluate_interchange same]
  | compare left op right =>
    simp only [Test.evaluate, left.exposed_interchange same, right.exposed_interchange same]

theorem Condition.evaluate_interchange (c : Condition) :
    c.evaluate env names = c.evaluate (env.withRegistry r) names := by
  induction c with
  | last t => simp only [Condition.evaluate, t.evaluate_interchange same]
  | link t c rest ih => simp only [Condition.evaluate, t.evaluate_interchange same, ih]

omit names in
private theorem Environment.output_interchange :
    env.output = (env.withRegistry r).output := by
  funext format v
  simp only [Environment.output, same.expose]
  rfl

end

/-! ### Rendering -/

/-- The same setting with other adapters. -/
def Setting.withRegistry (s : Setting) (r : Registry) : Setting :=
  { s with env := s.env.withRegistry r }

namespace Render

/-- Equal progress in settings that differ in their adapters. -/
def inStep (s : Setting) (r : Registry) : Simulation s (s.withRegistry r) := .equal rfl rfl

variable {s : Setting} {r : Registry}

theorem inStep_keeps_eval {α : Type} {f : Environment → (String → Value) → Eval α}
    (same : ∀ names, f s.env names = f (s.env.withRegistry r) names) :
    (inStep s r).congruence.Keeps (eval f) := by
  rintro p q rfl
  -- The registry has no part in what a name stands for.
  have run : eval f (s.withRegistry r) p = eval f s p := by
    have names : valueOf (s.withRegistry r) p = valueOf s p := rfl
    simp only [eval, names, same]
    rfl
  rw [run]
  exact .of_eq rfl

private theorem inStep_keeps_assign (name : String) (v : Value) :
    (inStep s r).congruence.Keeps (assign name v) := by
  rintro p q rfl
  exact .of_eq rfl

variable (same : s.env.registry.Interchangeable r)

include same

private theorem inStep_keeps_write (v : Value) : (inStep s r).congruence.Keeps (writeValue v) := by
  rintro p q rfl
  rw [writeValue_apply, writeValue_apply, Environment.output_interchange same]
  exact .of_eq rfl

private theorem inStep_supports {part : Part} (known : part ≠ .host) :
    (inStep s r).congruence.Supports part := by
  refine Congruence.supports_of_evaluated rfl
    (fun v => inStep_keeps_eval fun names => ?_) (fun c => inStep_keeps_eval fun names => ?_)
    (fun e => inStep_keeps_eval fun names => ?_) (fun e => inStep_keeps_eval fun names => ?_)
    (inStep_keeps_write same) inStep_keeps_assign known
  · exact v.evaluate_interchange same names
  · exact c.evaluate_interchange same names
  · exact e.exposed_interchange same names
  · simp only [e.exposed_interchange same]

end Render

/-- Nodes do the same whichever of two interchangeable registries they run under. -/
theorem renderAll_interchange {nodes : List Node} (standard : isStandard nodes = true)
    {s : Setting} {r : Registry} (same : s.env.registry.Interchangeable r) (p : Progress) :
    renderAll nodes s p = renderAll nodes (s.withRegistry r) p := by
  have known := not_host_of_isStandard standard
  have run := (Render.inStep s r).congruence.renderAll_related nodes
    (fun part member => Render.inStep_supports same (known part member)) p p rfl
  change Coupled Eq Eq _ _ at run
  generalize renderAll nodes s p = left at run ⊢
  generalize renderAll nodes (s.withRegistry r) p = right at run ⊢
  cases run with
  | ok alike sim => rw [alike, sim]
  | error sim => rw [sim]

namespace Template

/-- The same template in an engine with other adapters. -/
def withRegistry (t : Template) (r : Registry) : Template :=
  { t with engine := { t.engine with env := t.engine.env.withRegistry r } }

private theorem setting_withRegistry (t : Template) (r : Registry) (data : Value) (o : Options)
    (clock : Clock) (heap : Heap) :
    (t.withRegistry r).setting data o clock heap =
      match t.setting data o clock heap with
      | (.ok s, heap) => (.ok (s.withRegistry r), heap)
      | (.error e, heap) => (.error e, heap) := by
  cases data <;> rfl

private theorem env_of_setting {t : Template} {data : Value} {o : Options} {clock : Clock}
    {s : Setting}
    {heap begun : Heap} (set : t.setting data o clock heap = (.ok s, begun)) :
    s.env = t.engine.env := by
  cases data <;> cases set <;> rfl

/-- How a member is read that is not shown has no part in what a template renders. -/
theorem render_shown (t : Template) {r : Registry} (shown : t.engine.env.registry.SameShown r)
    (standard : isStandard t.document.nodes = true) (data : Value) (o : Options) (clock : Clock)
    (store : Bindings Value) (heap : Heap) :
    (t.withRegistry r).render data o clock store heap = t.render data o clock store heap := by
  have other := t.setting_withRegistry r data o clock heap
  rcases set : t.setting data o clock heap with ⟨outcome, begun⟩
  rw [set] at other
  cases outcome with
  | error e => rw [render_of_setting_refused store other, render_of_setting_refused store set]
  | ok s =>
    have same : s.env.registry.Interchangeable r :=
      env_of_setting set ▸ shown.interchangeable
    rw [render_of_setting store other, render_of_setting store set,
      renderAll_interchange standard same]
    rfl

/-! ### A secret -/

/-- The type and its adapter both describe `hidden`, and only `visible` is shown. -/
def keeping (secret : String) : Registry :=
  let members : List (String × Getter) :=
    [("visible", fun _ => pure (.str "seen")), ("hidden", fun _ => pure (.str secret))]
  ⟨0, fun type => if type = "Secret" then some ⟨members, fun _ _ => pure none⟩ else none,
    0, ⟨[("Secret", ⟨members, .only ["visible"], none, none⟩)]⟩⟩

private theorem keeping_sameShown (secret other : String) :
    (keeping secret).SameShown (keeping other) where
  number := rfl
  depth := rfl
  natives type := by
    by_cases named : type = "Secret"
    · subst named
      exact .some ⟨.cons ⟨rfl, fun _ => rfl⟩ (.cons ⟨rfl, fun shown => by cases shown⟩ .nil), rfl⟩
    · simp only [keeping, named, ↓reduceIte]
      exact .none
  adapters type := by
    by_cases named : type = "Secret"
    · subst named
      exact .some ⟨.cons ⟨rfl, fun _ => rfl⟩ (.cons ⟨rfl, fun shown => by cases shown⟩ .nil),
        rfl, rfl, rfl⟩
    · have unknown (secret : String) : (keeping secret).adapters.get? type = none := by
        simp [keeping, Bindings.get?, Bindings.getFrom?, Ne.symm named]
      rw [unknown, unknown]
      exact .none

/-- `{{ box.item.hidden }}{{ box.item["hidden"] }}`,
`{% if box.item.hidden == "a" %}told{% endif %}` and `{{ box.item.visible | upcase }}`. -/
def prying : List Node :=
  let item (last : Segment) : Expr := .lookup "box" [.field "item", last]
  [.output ⟨0, 0⟩ "" ⟨item (.field "hidden"), []⟩,
   .output ⟨0, 0⟩ "" ⟨item (.index (.literal (.str "hidden"))), []⟩,
   .tag ⟨0, 0⟩ "if" "" (.branches
     [(.last (.compare ⟨item (.field "hidden"), []⟩ .eq ⟨.literal (.str "a"), []⟩),
       [.text ⟨0, 0⟩ "told"])]),
   .output ⟨0, 0⟩ "" ⟨item (.field "visible"), [⟨"upcase", []⟩]⟩]

theorem render_shown_prying :
    let t : Template :=
      withRegistry ⟨bareEngine, "prying", "", ⟨prying, ⟨0, 0⟩⟩, false⟩ (keeping "a")
    let secret : HostObject Value := ⟨0, "Secret", true, []⟩
    let data : Value := .hash [("box", .hash [("item", .object secret)])]
    let hidden (r : Registry) := (r.described secret).map fun member => (member.2 secret 0).1.plain
    t.engine.env.registry.SameShown (keeping "b") ∧ isStandard t.document.nodes = true ∧
    hidden t.engine.env.registry = ["seen", "a", "seen", "a"] ∧
    hidden (keeping "b") = ["seen", "b", "seen", "b"] ∧
    ((t.withRegistry (keeping "b")).render data Options.plain (.stopped 0) Bindings.empty
        Heap.new).1 =
      .ok ⟨"SEEN", #[]⟩ := by
  intro t secret data hidden
  have shown : t.engine.env.registry.SameShown (keeping "b") := keeping_sameShown "a" "b"
  have same := render_shown t shown rfl data Options.plain (.stopped 0) Bindings.empty Heap.new
  refine ⟨shown, rfl, by decide +kernel, by decide +kernel, ?_⟩
  rw [same]
  decide +kernel

end Template

end Liquid
