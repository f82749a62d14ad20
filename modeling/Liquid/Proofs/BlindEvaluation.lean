import Liquid.Environment
import Liquid.Proofs.BlindFilters
import Liquid.Proofs.Steadiness

/-!
# Evaluation is blind to laziness

When each name stands for versions of one value, expressions evaluate to versions of one value, and
conditions to the same answer, if the comparisons that they come to are steady. Environments take
part as far as their filters and transformers do: the filters have to be the standard ones, and the
transformers have to write all versions of a value alike.
-/

namespace Liquid

open Value

/-- Writes all versions of a value alike. -/
def Transformer.Blind (f : Transformer) : Prop :=
  ∀ {v w : Value}, Twin v w → Live.Alike Eq (f v) (f w)

/-- The filters are the standard ones, and no transformer sees whether a value is lazy. -/
structure Environment.Blind (env : Environment) : Prop where
  filters : env.filters = Filter.standard
  transformers : ∀ kind f, env.transformers kind = some f → f.Blind

/-- The same environment with other globals. -/
def Environment.withGlobals (env : Environment) (globals : Bindings Value) : Environment :=
  { env with globals }

/-- Each name stands for versions of one value. -/
def Versions (names names' : String → Value) : Prop :=
  ∀ name, Version (names name) (names' name)

/-! ### Expressions -/

variable {env : Environment} (globals : Bindings Value) {names names' : String → Value}

private theorem range_alike (i j : Int64) : Eval.Alike Twin (ExceptT.mk (pure (range i j)))
    (ExceptT.mk (pure (range i j))) := fun _ _ alike => ⟨by
  cases range i j with
  | ok v => exact .ok (.same v)
  | error e => exact .error e, alike⟩

mutual

theorem resolve_alike (versions : Versions names names') : (e : Expr) →
    Eval.Alike Twin (e.resolve env names) (e.resolve (env.withGlobals globals) names')
  | .literal l => .pure (.same l.value)
  | .range first last => by
    refine (resolve_alike versions first).bind fun v v' left => ?_
    refine (resolve_alike versions last).bind fun w w' right => ?_
    refine (Eval.Alike.lift (readInt?_alike left.version)).next fun i => ?_
    refine (Eval.Alike.lift (readInt?_alike right.version)).next fun j => ?_
    -- A refusal writes both ends, and versions of an end are written alike.
    have failed := (Filter.plain_alike left.version).next fun first =>
      (Filter.plain_alike right.version).next fun last =>
        Eval.Alike.throw (R := Twin) (.render s!"invalid range ({first}..{last})")
    cases i <;> cases j <;> first | exact range_alike _ _ | exact failed
  | .lookup name path =>
    (walk_alike versions path (versions name)).bind fun _ _ found => .lift (read_alike found)

private theorem walk_alike (versions : Versions names names') : (path : List Segment) →
    {v w : Value} → Version v w →
    Eval.Alike Version (walk env names v path) (walk (env.withGlobals globals) names' w path)
  | [], _, _, version => .pure version
  | segment :: rest, v, w, version => by
    unfold walk
    refine (Eval.Alike.lift (read_alike version)).bind fun u u' twin => ?_
    rw [twin.version.reading isNil isNil_forced]
    split
    next => exact .pure .same
    next =>
      refine (step_alike versions segment version).bind fun a b found => ?_
      refine walk_alike versions rest ?_
      cases found with
      | none => exact .same
      | some version => exact version

private theorem step_alike (versions : Versions names names') : (segment : Segment) →
    {v w : Value} → Version v w →
    Eval.Alike (Option.Rel Version) (segment.step env names v)
      (segment.step (env.withGlobals globals) names' w)
  | .field name, _, _, version => .lift (env.registry.memberWithin_alike name _ version)
  | .index e, _, _, version =>
    (resolve_alike versions e).bind fun _ _ index =>
      (Eval.Alike.lift (env.registry.expose_alike index.version)).bind fun _ _ index =>
        .lift (env.registry.index?_alike version index.version)

end

theorem exposed_alike (versions : Versions names names') (e : Expr) :
    Eval.Alike Twin (e.exposed env names) (e.exposed (env.withGlobals globals) names') :=
  (resolve_alike globals versions e).bind fun _ _ found =>
    .lift (env.registry.expose_alike found.version)

theorem exposedInt_alike (versions : Versions names names') (e : Expr) :
    Eval.Alike Eq (do (← e.exposed env names).readInt?)
      (do (← e.exposed (env.withGlobals globals) names').readInt?) :=
  (exposed_alike globals versions e).bind fun _ _ found => .lift (readInt?_alike found.version)

private theorem exposedAll_alike (versions : Versions names names') (es : List Expr) :
    Eval.Alike (List.Forall₂ Version) (exposedAll env names es)
      (exposedAll (env.withGlobals globals) names' es) := by
  induction es with
  | nil => exact .pure .nil
  | cons e rest ih =>
    exact (exposed_alike globals versions e).bind fun _ _ first =>
      ih.bind fun _ _ others => .pure (.cons first.version others)

private theorem pipe_alike (versions : Versions names names') (blind : env.Blind)
    (calls : List FilterCall) {v w : Value} (version : Version v w) :
    Eval.Alike Version (pipe env names v calls)
      (pipe (env.withGlobals globals) names' w calls) := by
  induction calls generalizing v w with
  | nil => exact .pure version
  | cons call rest ih =>
    refine (Eval.Alike.lift (env.registry.expose_alike version)).bind fun _ _ input => ?_
    refine (exposedAll_alike globals versions call.args).bind fun _ _ args => ?_
    refine Eval.Alike.bind ?_ fun _ _ given => ih given
    change Eval.Alike Version (Filter.apply env.filters _ _ _) (Filter.apply env.filters _ _ _)
    rw [blind.filters]
    exact Filter.apply_alike call.name input args

theorem evaluate_alike (versions : Versions names names') (blind : env.Blind) (v : Variable) :
    Eval.Alike Version (v.evaluate env names) (v.evaluate (env.withGlobals globals) names') :=
  (resolve_alike globals versions v.expr).bind fun _ _ found =>
    pipe_alike globals versions blind v.filters found.version

private theorem variable_exposed_alike (versions : Versions names names') (blind : env.Blind)
    (v : Variable) :
    Eval.Alike Twin (v.exposed env names) (v.exposed (env.withGlobals globals) names') :=
  (evaluate_alike globals versions blind v).bind fun _ _ found =>
    .lift (env.registry.expose_alike found)

/-! ### Comparisons -/

private theorem emptiness_alike (e : Emptiness) (op : Operator) {v w : Value}
    (version : Version v w) :
    Eval.Alike Eq (e.test op v) (e.test op w) := by
  refine (Eval.Alike.lift (read_alike version)).bind fun u u' twin => ?_
  rw [twin.version.reading isEmpty isEmpty_forced, twin.version.reading isBlank isBlank_forced]
  cases op <;> first | exact .pure rfl | exact .throw _

private theorem compareOrdered_alike (op : Operator) {v v' w w' : Value} (left : Version v v')
    (right : Version w w') : Eval.Alike Eq (compareOrdered op v w) (compareOrdered op v' w') := by
  refine (Eval.Alike.lift (read_alike left)).bind fun a a' read => ?_
  rw [read.version.reading isNil isNil_forced]
  split
  next => exact .pure rfl
  refine (Eval.Alike.lift (read_alike right)).bind fun b b' read => ?_
  rw [read.version.reading isNil isNil_forced]
  split
  next => exact .pure rfl
  refine (Eval.Alike.lift (readCompare?_alike left right)).next fun ordering => ?_
  cases ordering with
  | some ordering => exact .pure rfl
  | none =>
    rw [left.reading typeName typeName_forced, right.reading typeName typeName_forced]
    exact .throw _

private theorem compareValues_alike {c : Comparison} (steady : c.isSteady = true) {v w : Value}
    (left : Version c.left v) (right : Version c.right w) :
    Eval.Alike Eq (compareValues c.op c.left c.right) (compareValues c.op v w) := by
  obtain ⟨op, a, b⟩ := c
  have ordered := compareOrdered_alike op left right
  cases op
  case eq =>
    exact .lift (.reading (looseEq_version a left right steady).symm)
  case ne =>
    exact (Eval.Alike.lift (.reading (looseEq_version a left right steady).symm)).next fun _ =>
      .pure rfl
  case contains =>
    exact .lift (.reading (contains_version a left right steady).symm)
  all_goals exact ordered

/-! ### Conditions -/

/-- The comparison of a test, with the values of its operands. -/
def Test.comparison? (env : Environment) (names : String → Value) :
    Test → Eval (Option Comparison)
  | .compare left op right =>
    match right.emptiness?, left.emptiness? with
    | none, none => do return some ⟨op, ← left.exposed env names, ← right.exposed env names⟩
    | _, _ => return none
  | _ => return none

/-- What a test compares when it is evaluated on this heap. -/
def Test.comparisons (env : Environment) (names : String → Value) (heap : Heap) (t : Test) :
    List Comparison :=
  match (t.comparison? env names).run heap with
  | (.ok (some c), _) => [c]
  | _ => []

/-- Whether the rest of a chain is asked when the test before it is answered. -/
def Combinator.asksOn : Combinator → Bool → Bool
  | .and, holds => holds
  | .or, holds => !holds

/-- The comparisons of the tests that decide a condition. -/
def Condition.comparisons (env : Environment) (names : String → Value) (heap : Heap) :
    Condition → List Comparison
  | .last t => t.comparisons env names heap
  | .link t c rest =>
    t.comparisons env names heap ++
      match (t.evaluate env names).run heap with
      | (.ok holds, after) => if c.asksOn holds then rest.comparisons env names after else []
      | (.error _, _) => []

private theorem test_agrees (versions : Versions names names') (blind : env.Blind) (t : Test)
    {h h' : Heap} (alike : h.UpToCells h')
    (steady : ∀ c ∈ t.comparisons env names h, c.isSteady = true) :
    Agree (Outcome Eq) ((t.evaluate env names).run h)
      ((t.evaluate (env.withGlobals globals) names').run h') := by
  cases t with
  | always => exact ⟨.ok rfl, alike⟩
  | truthy v =>
    have evaluated := evaluate_alike globals versions blind v
    refine evaluated.bind (fun _ _ found => ?_) h h' alike
    refine (Eval.Alike.lift (read_alike found)).bind fun _ _ read => .pure ?_
    exact (read.version.reading isTruthy isTruthy_forced).symm
  | compare left op right =>
    have first := variable_exposed_alike globals versions blind left
    have second := variable_exposed_alike globals versions blind right
    cases asked : right.emptiness? with
    | some e =>
      simp only [Test.evaluate, asked]
      exact first.bind (fun _ _ twin => emptiness_alike e op twin.version) h h' alike
    | none =>
      cases asked' : left.emptiness? with
      | some e =>
        simp only [Test.evaluate, asked, asked']
        exact second.bind (fun _ _ twin => emptiness_alike e op twin.version) h h' alike
      | none =>
        simp only [Test.comparisons, Test.comparison?, asked, asked'] at steady
        simp only [Test.evaluate, asked, asked']
        refine Eval.agree_bind (first h h' alike) fun v v' k k' run twin alike => ?_
        refine Eval.agree_bind (second k k' alike) fun w w' l l' run' twin' alike => ?_
        -- What is compared here is the comparison that is known to be steady.
        refine compareValues_alike (steady ⟨op, v, w⟩ ?_) twin.version twin'.version l l' alike
        rw [Eval.run_bind_ok run, Eval.run_bind_ok run']
        exact List.mem_singleton.mpr rfl

theorem condition_agrees (versions : Versions names names') (blind : env.Blind) (c : Condition)
    {h h' : Heap} (alike : h.UpToCells h')
    (steady : ∀ comparison ∈ c.comparisons env names h, comparison.isSteady = true) :
    Agree (Outcome Eq) ((c.evaluate env names).run h)
      ((c.evaluate (env.withGlobals globals) names').run h') := by
  induction c generalizing h h' with
  | last t => exact test_agrees globals versions blind t alike steady
  | link t c rest ih =>
    rw [Condition.comparisons] at steady
    have first := test_agrees globals versions blind t alike fun comparison member =>
      steady comparison (List.mem_append_left _ member)
    refine Eval.agree_bind first fun holds _ k k' run same alike => ?_
    subst same
    have later := fun comparison member => steady comparison (List.mem_append_right _ member)
    rw [run] at later
    -- Whether the rest decides is known to both sides.
    cases c <;> cases holds <;> first | exact ih alike later | exact ⟨.ok rfl, alike⟩

end Liquid
