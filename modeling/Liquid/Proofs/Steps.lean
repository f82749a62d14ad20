import Liquid.Filter.Standard
import Liquid.Template.Basic

/-!
# What the steps of rendering do

One law for each step, as an equation between its outcome and what it was given: a result or an
error, together with the progress. Later proofs use these and do not look into the monad.
-/

namespace Liquid

theorem Live.bind_apply {α β : Type} (x : Live α) (f : α → Live β) (h : Heap) :
    (x >>= f) h = f (x h).1 (x h).2 := rfl

namespace Eval

variable {α β : Type} {x : Eval α} {f : α → Eval β} {h h' : Heap}

theorem bind_ok {a : α} (run : x h = (.ok a, h')) : (x >>= f) h = f a h' := by
  simp only [bind, ExceptT.bind, ExceptT.mk, StateT.bind, run, ExceptT.bindCont]

theorem bind_error {e : Error} (run : x h = (.error e, h')) : (x >>= f) h = (.error e, h') := by
  simp only [bind, ExceptT.bind, ExceptT.mk, StateT.bind, run, ExceptT.bindCont]
  rfl

/-- What stands behind a step that cannot fail goes on from its result. -/
theorem lift_bind (x : Live α) (f : α → Eval β) (heap : Heap) :
    ((liftM x : Eval α) >>= f) heap = f (x heap).1 (x heap).2 := rfl

end Eval

/-! ### Checks of the deadline -/

namespace Setting

variable {s : Setting} {p : Progress}

theorem isLate_iff : s.isLate p = true ↔ ∃ passed ∈ s.deadline, passed p.checks = true := by
  rw [isLate, Option.any_eq_true]
  rfl

theorem checks_le_checked : p.checks ≤ (s.checked p).checks := by
  unfold checked
  split
  next => exact Nat.le_succ p.checks
  next => exact Nat.le_refl p.checks

theorem isLate_of_timeless (timeless : s.deadline = none) : s.isLate p = false := by
  rw [isLate, timeless, Option.any_none]

theorem checked_of_timeless (timeless : s.deadline = none) : s.checked p = p := by
  rw [checked, timeless]
  rfl

end Setting

namespace Render

variable {α β : Type}

theorem bind_ok {x : Render α} {f : α → Render β} {s : Setting} {p q : Progress} {a : α}
    (run : x s p = (.ok a, q)) : (x >>= f) s p = f a s q := by
  simp only [bind, ReaderT.bind, ExceptT.bind, ExceptT.mk, StateT.bind, run, ExceptT.bindCont]

theorem bind_error {x : Render α} {f : α → Render β} {s : Setting} {p q : Progress} {e : Error}
    (run : x s p = (.error e, q)) : (x >>= f) s p = (.error e, q) := by
  simp only [bind, ReaderT.bind, ExceptT.bind, ExceptT.mk, StateT.bind, run, ExceptT.bindCont]
  rfl

section

variable {f : Environment → (String → Value) → Eval α} {s : Setting} {p q : Progress}
  {r : Except Error α} {heap : Heap}

theorem eval_of_run (run : f s.env (valueOf s p) p.heap = (r, heap)) :
    eval f s p = (r, { p with heap }) := by
  change ((f s.env (valueOf s p) p.heap).1, { p with heap := (f s.env (valueOf s p) p.heap).2 }) = _
  rw [run]

theorem run_of_eval (run : eval f s p = (r, q)) :
    ∃ heap, f s.env (valueOf s p) p.heap = (r, heap) ∧ q = { p with heap } := by
  rw [eval_of_run rfl] at run
  cases run
  exact ⟨_, rfl, rfl⟩

end

/-- An evaluation goes on from the result and the heap of another. -/
theorem eval_bind_ok {f : Environment → (String → Value) → Eval α}
    {g : α → Eval β} {s : Setting} {p q : Progress} {a : α} (run : eval f s p = (.ok a, q)) :
    eval (fun env names => f env names >>= g) s p =
      ((g a q.heap).1, { q with heap := (g a q.heap).2 }) := by
  obtain ⟨heap, inside, rfl⟩ := run_of_eval run
  exact eval_of_run (Eval.bind_ok inside)

theorem stack_apply {x : Render α} {s : Setting} {p q : Progress} {r : Except Error α}
    (run : x s { p with scopes := p.scopes.push } = (r, q)) :
    stack x s p = (r, { q with scopes := q.scopes.pop }) := by
  rw [stack, run]

theorem checkDeadline_apply (s : Setting) (p : Progress) :
    checkDeadline s p = (if s.isLate p then .error .timeout else .ok (), s.checked p) := rfl

/-- Writing a value cannot fail. -/
theorem writeValue_apply (v : Value) (s : Setting) (p : Progress) :
    writeValue v s p = (.ok (), { p with
      out := p.out ++ (s.env.output s.format v p.heap).1
      heap := (s.env.output s.format v p.heap).2 }) := rfl

end Render

/-- A list goes on behind a node unless the node leaves the loop, its round, or the render. -/
theorem renderAll_cons_apply (n : Node) (rest : List Node) (s : Setting) (p : Progress)
    (early : s.isLate p = false) :
    renderAll (n :: rest) s p =
      match Render.recover n.render s (s.checked p) with
      | (.ok .normal, q) => renderAll rest s q
      | (.ok flow, q) => (.ok flow, q)
      | (.error e, q) => (.error e, q) := by
  have checked : Render.checkDeadline s p = (.ok (), s.checked p) := by
    simp [Render.checkDeadline_apply, early]
  rw [renderAll, Render.bind_ok checked]
  rcases run : Render.recover n.render s (s.checked p) with ⟨r, q⟩
  cases r with
  | error e => rw [Render.bind_error run]
  | ok flow =>
    rw [Render.bind_ok run]
    cases flow <;> rfl

theorem renderAll_cons_late (n : Node) (rest : List Node) {s : Setting} {p : Progress}
    (late : s.isLate p = true) : renderAll (n :: rest) s p = (.error .timeout, s.checked p) := by
  have checked : Render.checkDeadline s p = (.error .timeout, s.checked p) := by
    simp [Render.checkDeadline_apply, late]
  rw [renderAll, Render.bind_error checked]

/-! ### Templates -/

namespace Template

variable {t : Template} {data : Value} {o : Options} {clock : Clock} {heap begun : Heap}

/-- A template is made of a document that was parsed. -/
theorem parse_eq_ok_iff {engine : Engine} {name source : String} {t : Template} :
    parse engine name source = .ok t ↔
      ∃ d, Document.parse engine.tags name source = .ok d ∧
        t = ⟨engine, name, source, d, false⟩ := by
  unfold parse
  rw [bind_eq_ok]
  refine exists_congr fun d => and_congr_right fun _ => ?_
  exact ⟨fun made => (Except.ok.inj made).symm, fun made => congrArg Except.ok made.symm⟩

/-- What a render gives, from the outcome of its nodes. -/
def result (o : Except Error Flow × Progress) : Except Error Rendered × Bindings Value × Heap :=
  (o.1.map fun _ => ⟨o.2.out, o.2.errors⟩, o.2.store, o.2.heap)

theorem render_of_setting {s : Setting} (store : Bindings Value)
    (set : t.setting data o clock heap = (.ok s, begun)) :
    t.render data o clock store heap =
      result (renderAll t.document.nodes s (start store begun)) := by
  simp only [render, run, ExceptT.run, set, result]

/-- A render that does not begin touches no store. -/
theorem render_of_setting_refused {e : Error} (store : Bindings Value)
    (refused : t.setting data o clock heap = (.error e, begun)) :
    t.render data o clock store heap = (.error e, store, begun) := by
  simp only [render, run, ExceptT.run, refused, Except.map, start]

theorem render_of_setting_error {e : Error} (store : Bindings Value)
    (refused : t.setting data o clock heap = (.error e, begun)) :
    (t.render data o clock store heap).1 = .error e := by
  rw [render_of_setting_refused store refused]

/-- A clock on which a millisecond passes from each reading to the next. -/
def ticking : Clock := ⟨fun i => i, Nat.le_succ⟩

/-- An engine with the standard filters and nothing of a host. -/
def bareEngine : Engine where
  tags := Bindings.empty
  env := ⟨Filter.standard, ⟨0, fun _ => none, 0, Bindings.empty⟩, fun _ => none, Bindings.empty⟩

end Template

end Liquid
