import Liquid.Proofs.Parts
import Liquid.Proofs.ScopeDiscipline
import Liquid.Proofs.SplitEvaluation
import Mathlib.Control.Monad.Basic

/-!
# Expressions cut by an assign

`{% assign t = x.a %}{{ t.b | f }}` gives what `{{ x.a.b | f }}` gives. A variable can be cut behind
any segment of its path and behind any of its filters, if the name in between is not used in it.

## Main result

`Render.assign_cut`: the value is the same up to the cells around it, or the error is the same, and
once the value is read the heap is the same too. If the first part gives nil, no index of the second
part is evaluated, and if it fails, the whole fails with it.

## Proof strategy

The first part of a path leaves its value behind with the cells read, and this is as good as the
value (`read_walk`, `read_pipe`). All else that the second part evaluates does not use the new name
(`evaluate_congr`).
-/

namespace Liquid

/-! ### Cuts -/

/-- A variable with a place to cut it, in its path or in its pipeline. -/
inductive Cut where
  | path (name : String) (before after : List Segment) (calls : List FilterCall)
  | pipeline (e : Expr) (before after : List FilterCall)

namespace Cut

def whole : Cut → Variable
  | path name before after calls => ⟨.lookup name (before ++ after), calls⟩
  | pipeline e before after => ⟨e, before ++ after⟩

def first : Cut → Variable
  | path name before _ _ => ⟨.lookup name before, []⟩
  | pipeline e before _ => ⟨e, before⟩

/-- The segments behind the cut. -/
def segments : Cut → List Segment
  | path _ _ after _ => after
  | pipeline _ _ _ => []

/-- The filters behind the cut. -/
def calls : Cut → List FilterCall
  | path _ _ _ calls => calls
  | pipeline _ _ after => after

/-- What is behind the cut, from a name on. -/
def second (t : String) (c : Cut) : Variable := ⟨.lookup t c.segments, c.calls⟩

end Cut

/-! ### Names that are not used -/

/-- A path from this name. -/
def Expr.startsWith (t : String) : Expr → Bool
  | .lookup name _ => name == t
  | _ => false

/-- Uses the name anywhere, be it within an index or an argument. -/
def Variable.mentions (t : String) (v : Variable) : Bool := v.within.any (Expr.startsWith t)

section

variable {t : String} {names names' : String → Value} (env : Environment)

def Unused (t : String) (es : List Expr) : Prop := ∀ e ∈ es, e.startsWith t = false

mutual

theorem resolve_congr (agree : ∀ name, name ≠ t → names' name = names name) : (e : Expr) →
    Unused t e.within → e.resolve env names' = e.resolve env names
  | .literal _, _ => by rw [Expr.resolve, Expr.resolve]
  | .range first last, unused => by
    have left := resolve_congr agree first fun e member => unused e (by simp [Expr.within, member])
    have right := resolve_congr agree last fun e member => unused e (by simp [Expr.within, member])
    rw [Expr.resolve, Expr.resolve, left, right]
  | .lookup name path, unused => by
    have other : name ≠ t := by
      simpa [Expr.startsWith] using unused (.lookup name path) (by simp [Expr.within])
    have more := walk_congr agree path (fun e member => unused e (by simp [Expr.within, member]))
    rw [Expr.resolve, Expr.resolve, agree name other, more]

theorem walk_congr (agree : ∀ name, name ≠ t → names' name = names name) :
    (path : List Segment) → Unused t (pathWithin path) →
    (v : Value) → walk env names' v path = walk env names v path
  | [], _, _ => by rw [walk, walk]
  | segment :: rest, unused, v => by
    have first := step_congr agree segment fun e member => unused e (by simp [pathWithin, member])
    have more := walk_congr agree rest fun e member => unused e (by simp [pathWithin, member])
    simp only [walk, first, more]

private theorem step_congr (agree : ∀ name, name ≠ t → names' name = names name) :
    (segment : Segment) → Unused t segment.within →
    (v : Value) → segment.step env names' v = segment.step env names v
  | .field _, _, _ => by rw [Segment.step, Segment.step]
  | .index e, unused, v => by rw [Segment.step, Segment.step, resolve_congr agree e unused]

end

variable (agree : ∀ name, name ≠ t → names' name = names name)
include agree

private theorem exposedAll_congr (es : List Expr) (unused : Unused t (es.flatMap Expr.within)) :
    exposedAll env names' es = exposedAll env names es := by
  induction es with
  | nil => rfl
  | cons e rest ih =>
    have first := resolve_congr env agree e fun e member => unused e (by simp [member])
    have others := ih fun e member => unused e (List.mem_append_right _ member)
    simp only [exposedAll, Expr.exposed, first, others]

private theorem pipe_congr (calls : List FilterCall) (unused : Unused t (callsWithin calls))
    (v : Value) :
    pipe env names' v calls = pipe env names v calls := by
  induction calls generalizing v with
  | nil => rfl
  | cons call rest ih =>
    have args := exposedAll_congr env agree call.args fun e member =>
      unused e (List.mem_append_left _ member)
    have others := ih fun e member => unused e (List.mem_append_right _ member)
    simp only [pipe, args, others]

end

/-! ### Evaluation -/

variable {t : String} {c : Cut}

private theorem pathWithin_append (before after : List Segment) :
    pathWithin (before ++ after) = pathWithin before ++ pathWithin after := by
  induction before with
  | nil => rfl
  | cons segment rest ih => simp only [List.cons_append, pathWithin, ih, List.append_assoc]

/-- The second part uses the name only where it begins. -/
theorem Cut.unused_second (unused : c.whole.mentions t = false) :
    Unused t (pathWithin c.segments) ∧ Unused t (callsWithin c.calls) := by
  have within : ∀ e ∈ c.whole.within, e.startsWith t = false := by
    simpa [Variable.mentions] using unused
  cases c with
  | path name before after calls =>
    refine ⟨fun e member => within e ?_, fun e member => within e ?_⟩
    · change e ∈ pathWithin after at member
      simp [Cut.whole, Variable.within, Expr.within, pathWithin_append, member]
    · change e ∈ callsWithin calls at member
      simp [Cut.whole, Variable.within, member]
  | pipeline e before after =>
    refine ⟨by simp [Unused, Cut.segments, pathWithin], fun e member => within e ?_⟩
    have within : e ∈ callsWithin (before ++ after) := by
      rw [callsWithin, List.flatMap_append]
      exact List.mem_append_right _ member
    simp [Cut.whole, Variable.within, within]

/-- Once the value is read, both ways are the same. -/
theorem Cut.evaluate_whole (env : Environment) (names : String → Value) (c : Cut) :
    (do let z ← c.whole.evaluate env names; z.read : Eval Value) = (do
      let u ← c.first.evaluate env names
      let x ← walk env names u c.segments
      let y ← x.read
      let z ← pipe env names y c.calls
      z.read) := by
  cases c with
  | path name before after calls =>
    simp only [whole, first, segments, Cut.calls, Variable.evaluate, Expr.resolve, walk_append,
      bind_assoc, pipe, pure_bind]
    congr 1
    funext u
    have taken := congrArg (· >>= fun y => (do let z ← pipe env names y calls; z.read : Eval Value))
      (read_walk env names u after)
    simp only [bind_assoc] at taken
    rw [taken]
  | pipeline e before after =>
    simp only [whole, first, segments, Cut.calls, evaluate_append, walk, bind_assoc, pure_bind,
      read_pipe]

private theorem Cut.evaluate_second (unused : c.whole.mentions t = false) {env : Environment}
    {names names' : String → Value} (agree : ∀ name, name ≠ t → names' name = names name)
    {h h' : Heap} (run : c.first.evaluate env names h = (.ok (names' t), h')) :
    (do let z ← (c.second t).evaluate env names'; z.read : Eval Value) h' =
      (do let z ← c.whole.evaluate env names; z.read : Eval Value) h := by
  obtain ⟨path, pipeline⟩ := c.unused_second unused
  rw [c.evaluate_whole, Eval.bind_ok run]
  simp only [second, Variable.evaluate, Expr.resolve, bind_assoc, walk_congr env agree _ path,
    pipe_congr env agree _ pipeline]

/-- A path ends at nil. -/
theorem resolve_lookup_of_isNil (env : Environment) {names : String → Value}
    (nil : (names t).isNil = true) (path : List Segment) :
    (Expr.lookup t path).resolve env names = (Expr.lookup t []).resolve env names := by
  cases path with
  | nil => rfl
  | cons segment rest =>
    have ended : (names t).resolved = .nil := by
      cases held : (names t).resolved with
      | nil => rfl
      | _ => simp [Value.isNil, held] at nil
    funext h
    -- The path is left behind its first segment, with the cells around nil computed.
    have walked : walk env names (names t) (segment :: rest) h =
        (.ok .nil, h.compute (names t).outerCells) := by
      rw [walk_cons_apply, ended]
      rfl
    rw [Expr.resolve, Expr.resolve, Eval.bind_ok walked, walk, pure_bind]
    change _ = (Except.ok ((names t).read h).1, ((names t).read h).2)
    rw [Value.read_apply, ended]
    rfl

/-! ### Reading -/

private theorem Eval.read_fst (x : Eval Value) (h : Heap) :
    ((do let z ← x; z.read : Eval Value) h).1 = (x h).1.map Value.resolved := by
  rcases run : x h with ⟨e | z, h'⟩
  · rw [Eval.bind_error run]
    rfl
  · rw [Eval.bind_ok run]
    rfl

/-- What fails does so before it is read. -/
theorem Eval.error_of_read {x : Eval Value} {e : Error} {h h' : Heap}
    (run : (do let z ← x; z.read : Eval Value) h = (.error e, h')) : x h = (.error e, h') := by
  rcases inside : x h with ⟨e' | z, k⟩
  · rw [Eval.bind_error inside] at run
    exact run
  · rw [Eval.bind_ok inside] at run
    cases run

/-! ### Main result -/

namespace Scopes

variable {s : Scopes} {v : Value} {name : String}

private theorem get?_assign (unbound : ∀ frame ∈ s.inner, frame.get? t = none) :
    (s.assign t v).get? t = some v := by
  obtain ⟨outermost, inner⟩ := s
  rw [get?, assign]
  induction inner with
  | nil => rw [getFrom?, Bindings.get?_insert, if_pos rfl]
  | cons frame rest ih =>
    rw [getFrom?, unbound frame List.mem_cons_self]
    exact ih fun frame member => unbound frame (List.mem_cons_of_mem _ member)

private theorem get?_assign_of_ne (other : name ≠ t) : (s.assign t v).get? name = s.get? name :=
  get?_congr rfl (by rw [assign, Bindings.get?_insert, if_neg other.symm])

end Scopes

namespace Render

section

variable {s : Setting} {p : Progress} {heap : Heap}

/-- What an assign leaves: its name stands for the value, unless an inner frame binds it, and all
other names for what they stood for. -/
theorem assign_apply (t : String) (v : Variable) {u : Value}
    (run : v.evaluate s.env (valueOf s p) p.heap = (.ok u, heap))
    (unbound : ∀ frame ∈ p.scopes.inner, frame.get? t = none) :
    ∃ after, (Tag.assign t v).render s p = (.ok .normal, after) ∧ after.heap = heap ∧
      valueOf s after t = u ∧ ∀ name, name ≠ t → valueOf s after name = valueOf s p name := by
  refine ⟨{ p with
    scopes := p.scopes.assign t u
    store := if s.persists then p.store.insert t u else p.store
    heap }, ?_, rfl, ?_, fun name other => ?_⟩
  · rw [Tag.render, bind_ok (eval_of_run run)]
    rfl
  · simp only [valueOf, Scopes.get?_assign unbound]
  · have store : (if s.persists then p.store.insert t u else p.store).get? name =
        p.store.get? name := by
      split
      next => rw [Bindings.get?_insert, if_neg other.symm]
      next => rfl
    simp only [valueOf, Scopes.get?_assign_of_ne other, store]

end

/-- A variable may be evaluated in two parts with an assign in between. -/
theorem assign_cut (c : Cut) (t : String) (unused : c.whole.mentions t = false) (s : Setting)
    (p : Progress) (unbound : ∀ frame ∈ p.scopes.inner, frame.get? t = none) :
    let evaluated (v : Variable) : Render Value := eval fun env names => v.evaluate env names
    let read (v : Variable) : Render Value :=
      eval fun env names => do let w ← v.evaluate env names; w.read
    (∀ e q, evaluated c.first s p = (.error e, q) → evaluated c.whole s p = (.error e, q)) ∧
    ∀ u q, evaluated c.first s p = (.ok u, q) → ∃ after,
      (Tag.assign t c.first).render s p = (.ok .normal, after) ∧
      (evaluated (c.second t) s after).1.map Value.resolved =
        (evaluated c.whole s p).1.map Value.resolved ∧
      (read (c.second t) s after).2.heap = (read c.whole s p).2.heap ∧
      (u.isNil = true →
        evaluated (c.second t) s after = evaluated ⟨.lookup t [], c.calls⟩ s after) := by
  intro evaluated read
  refine ⟨fun e q run => ?_, fun u q run => ?_⟩
  · obtain ⟨heap, first, rfl⟩ := run_of_eval run
    refine eval_of_run (Eval.error_of_read ?_)
    rw [c.evaluate_whole, Eval.bind_error first]
  · obtain ⟨heap, first, rfl⟩ := run_of_eval run
    obtain ⟨after, assigned, rfl, value, others⟩ := assign_apply t c.first first unbound
    have same := c.evaluate_second unused others (value.symm ▸ first)
    refine ⟨after, assigned, ?_, congrArg (·.2) same, fun nil => ?_⟩
    · change ((c.second t).evaluate s.env (valueOf s after) after.heap).1.map _ =
        (c.whole.evaluate s.env (valueOf s p) p.heap).1.map _
      rw [← Eval.read_fst, same, Eval.read_fst]
    · rw [← value] at nil
      have ended := resolve_lookup_of_isNil s.env nil c.segments
      have evaluates : (c.second t).evaluate s.env (valueOf s after) =
          Variable.evaluate s.env (valueOf s after) ⟨.lookup t [], c.calls⟩ := by
        rw [Cut.second, Variable.evaluate, Variable.evaluate, ended]
      change (((c.second t).evaluate s.env (valueOf s after) after.heap).1,
        { after with heap := ((c.second t).evaluate s.env (valueOf s after) after.heap).2 }) = _
      rw [evaluates]
      rfl

/-- `x.a` is lazy, and an object whose adapter makes a hash of it. It has no `k`, so the range
behind `x.a.k` is not evaluated, while it fails behind `x.a`. -/
theorem assign_cut_badRange :
    let adapter : Adapter := ⟨[], .all, some fun _ => pure (.hash [("b", .str "c")]), none⟩
    let registry : Registry := ⟨0, fun _ => none, 1, ⟨[("Foo", adapter)]⟩⟩
    let x : Value := .hash [("a", .lazy ⟨0, ""⟩ (.object ⟨1, "Foo", false, []⟩))]
    let s : Setting := ⟨{ Template.bareEngine.env with registry }, ⟨[("x", x)]⟩, .inline,
      Format.plain, none, false⟩
    let p := Template.start Bindings.empty Heap.new
    let badRange : Segment := .index (.range (.literal (.str "?")) (.literal .nil))
    let evaluated (v : Variable) : Render Value := eval fun env names => v.evaluate env names
    let outcome (c : Cut) := c.whole.mentions "t" = false ∧ ∃ after,
      (Tag.assign "t" c.first).render s p = (.ok .normal, after) ∧
      (evaluated (c.second "t") s after).1.map Value.resolved =
        (evaluated c.whole s p).1.map Value.resolved
    let ending : Cut := .path "x" [.field "a", .field "k"] [badRange] []
    let failing : Cut := .path "x" [.field "a"] [badRange, .field "b"] []
    let filtered : Cut :=
      .pipeline (.lookup "x" [.field "a", .field "b"]) [⟨"upcase", []⟩] [⟨"size", []⟩]
    let written (c : Cut) : Except Error String := (evaluated c.whole s p).1.map Value.plain
    (outcome ending ∧ written ending = .ok "") ∧
    (outcome failing ∧ written failing = .error (.render "invalid range (?..)")) ∧
    (outcome filtered ∧ written filtered = .ok "1") := by
  intro adapter registry x s p badRange evaluated outcome ending failing filtered written
  have cut (c : Cut) (unused : c.whole.mentions "t" = false)
      (succeeds : (evaluated c.first s p).1.isOk = true) : outcome c := by
    rcases run : evaluated c.first s p with ⟨e | u, q⟩
    · rw [run] at succeeds
      cases succeeds
    · obtain ⟨after, assigned, same, _⟩ := (assign_cut c "t" unused s p nofun).2 u q run
      exact ⟨unused, after, assigned, same⟩
  exact ⟨⟨cut ending (by decide) (by decide +kernel), by decide +kernel⟩,
    ⟨cut failing (by decide) (by decide +kernel), by decide +kernel⟩,
    cut filtered (by decide) (by decide +kernel), by decide +kernel⟩

end Render

end Liquid
