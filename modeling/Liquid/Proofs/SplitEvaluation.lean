import Liquid.Proofs.Steps

/-!
# Evaluation in parts

A path can be followed and a pipeline run up to some point and taken up from there. What was found
at that point may be read before it is taken up: a cell that was computed stays so, and to read a
value again computes nothing.

## Main result

`walk_append` and `pipe_append` take up what was found, `read_walk` and `read_pipe` what is behind
its cells. What is found in the end is the same, and so is the heap.
-/

namespace Liquid

variable {α β : Type}

/-! ### Cells stay computed -/

private theorem Heap.mem_compute {cell : Cell} (h : Heap) (cells : List Cell) :
    cell ∈ (h.compute cells).computed ↔ cell ∈ h.computed ∨ cell ∈ cells := by
  rw [compute]
  generalize h.computed = done
  induction cells generalizing done with
  | nil => simp
  | cons first rest ih =>
    have added : cell ∈ (if done.contains first then done else first :: done) ↔
        cell ∈ done ∨ cell = first := by
      split
      next held => simp_all
      next => rw [List.mem_cons, or_comm]
    rw [List.foldl_cons, ih, added, List.mem_cons, or_assoc]

private theorem Heap.compute_of_computed (h : Heap) {cells : List Cell}
    (done : ∀ cell ∈ cells, cell ∈ h.computed) : h.compute cells = h := by
  induction cells with
  | nil => rfl
  | cons first rest ih =>
    have held : h.computed.contains first = true :=
      List.contains_iff_mem.mpr (done first List.mem_cons_self)
    have same := ih fun cell member => done cell (List.mem_cons_of_mem first member)
    rw [compute, List.foldl_cons, if_pos held]
    exact same

namespace Live

/-- Every cell that was computed before is computed after. -/
def Grows (x : Live α) : Prop := ∀ h, ∀ cell ∈ h.computed, cell ∈ (x h).2.computed

theorem Grows.pure (a : α) : Grows (pure a) := fun _ _ member => member

theorem Grows.bind {x : Live α} {f : α → Live β} (first : Grows x) (rest : ∀ a, Grows (f a)) :
    Grows (x >>= f) := fun h cell member => rest _ _ cell (first h cell member)

theorem Grows.draw (x : Fresh α) : Grows (Live.draw x) := fun _ _ member => member

private theorem compute_apply (cells : List Cell) (h : Heap) :
    compute cells h = ((), h.compute cells) := by
  cases cells <;> rfl

theorem Grows.reading (cells : List Cell) (a : α) :
    Grows (do Live.compute cells; return a) := fun h cell member => by
  rw [bind_apply, compute_apply]
  exact (h.mem_compute cells).mpr (.inl member)

end Live

namespace Value

variable {v : Value}

theorem read_apply (v : Value) (h : Heap) : v.read h = (v.resolved, h.compute v.outerCells) := by
  rw [read, Live.bind_apply, Live.compute_apply]
  rfl

private theorem read_of_computed {h : Heap} (done : ∀ cell ∈ v.outerCells, cell ∈ h.computed) :
    v.read h = (v.resolved, h) := by
  rw [read_apply, h.compute_of_computed done]

theorem resolved_of_isResolved (resolved : v.isResolved = true) : v.resolved = v := by
  cases v
  case lazy => cases resolved
  all_goals rfl

theorem outerCells_of_isResolved (resolved : v.isResolved = true) : v.outerCells = [] := by
  cases v
  case lazy => cases resolved
  all_goals rfl

theorem read_of_isResolved (resolved : v.isResolved = true) : v.read = pure v := by
  rw [read, outerCells_of_isResolved resolved, resolved_of_isResolved resolved]
  rfl

private theorem outerCells_resolved (v : Value) : v.resolved.outerCells = [] :=
  outerCells_of_isResolved v.isResolved_resolved

private theorem read_resolved (v : Value) : v.resolved.read = pure v.resolved :=
  read_of_isResolved v.isResolved_resolved

/-- A computation that begins by reading a value may be given what was read. -/
theorem read_bind (v : Value) (f : Value → Live α) :
    (do let w ← v.read; let again ← w.read; f again) = (do let w ← v.read; f w) := by
  funext h
  simp only [Live.bind_apply, read_apply, read_resolved]
  rfl

end Value

namespace Registry

variable (r : Registry)

theorem read_expose (v : Value) : (do let w ← v.read; r.expose w) = r.expose v := v.read_bind _

theorem read_member? (v : Value) (name : String) :
    (do let w ← v.read; r.member? w name) = r.member? v name := v.read_bind _

private theorem read_index? (v index : Value) :
    (do let w ← v.read; r.index? w index) = r.index? v index := v.read_bind _

/-- An object is exposed by its transform. -/
theorem expose_adapted {o : HostObject Value} {transform : HostObject Value → Fresh Value}
    (adapted : r.transform? o.type = some transform) :
    r.expose (.object o) = Live.draw (transform o) := by
  have read : (Value.object o).read = pure (.object o) := rfl
  simp only [expose, read, pure_bind, adapted]

private theorem expose_grows (v : Value) : Live.Grows (r.expose v) := by
  refine (Live.Grows.reading _ _).bind fun w => ?_
  split
  next =>
    split
    next => exact .draw _
    next => exact .pure _
  next => exact .pure _

private theorem memberWithin_grows (name : String) (transforms : Nat) (v : Value) :
    Live.Grows (r.memberWithin transforms v name) := by
  induction transforms generalizing v with
  | zero => exact .pure none
  | succ transforms ih =>
    refine (Live.Grows.reading _ _).bind fun w => ?_
    split
    next o =>
      refine Live.Grows.bind (fun _ _ member => member) fun schema => ?_
      split
      next => exact (Live.Grows.draw _).bind fun _ => .pure _
      next =>
        have catchAll : Live.Grows (r.catchAll? o name) := by
          unfold catchAll?
          split
          next => exact .draw _
          next => exact .pure none
        have beforeMethod : Live.Grows (r.beforeMethod? o name) := by
          unfold beforeMethod?
          split
          next => exact .draw _
          next => exact .pure none
        have standIn : Live.Grows (r.standIn? schema o) := by
          unfold standIn?
          split
          next =>
            refine (Live.Grows.draw _).bind fun v => ?_
            split <;> exact .pure _
          next => exact .pure none
        refine catchAll.bind fun found => ?_
        split
        next => exact .pure _
        next =>
          refine standIn.bind fun found => ?_
          split
          next v => exact ih v
          next => exact beforeMethod
    next => exact .pure _

private theorem index?_grows (v index : Value) : Live.Grows (r.index? v index) := by
  refine (Live.Grows.reading _ _).bind fun w => (Live.Grows.reading _ _).bind fun i => ?_
  split
  next => exact .pure _
  next => exact r.memberWithin_grows _ _ _
  next => exact .pure none

end Registry

namespace Eval

def Grows (x : Eval α) : Prop := Live.Grows x.run

theorem Grows.pure (a : α) : Grows (pure a : Eval α) := fun _ _ member => member

theorem Grows.throw (e : Error) : Grows (throw e : Eval α) := fun _ _ member => member

theorem Grows.lift {x : Live α} (grows : Live.Grows x) : Grows (liftM x : Eval α) := grows

theorem Grows.bind {x : Eval α} {f : α → Eval β} (first : Grows x) (rest : ∀ a, Grows (f a)) :
    Grows (x >>= f) := by
  intro h cell member
  have held := first h cell member
  change cell ∈ ((x >>= f) h).2.computed
  rcases run : x h with ⟨r, h'⟩
  change cell ∈ (x h).2.computed at held
  rw [run] at held
  cases r with
  | error e =>
    rw [bind_error run]
    exact held
  | ok a =>
    rw [bind_ok run]
    exact rest a h' cell held

theorem bind_congr {x y : Eval α} {f : α → Eval β} {h h' : Heap} (same : x h = y h') :
    (x >>= f) h = (y >>= f) h' := by
  rcases run : y h' with ⟨r, k⟩
  rw [run] at same
  cases r with
  | error e => rw [bind_error run, bind_error same]
  | ok a => rw [bind_ok run, bind_ok same]

/-- What goes on from a value that is read. -/
theorem read_bind_apply (v : Value) (f : Value → Eval α) (h : Heap) :
    ((liftM v.read : Eval Value) >>= f) h = f v.resolved (h.compute v.outerCells) := by
  rw [lift_bind, Value.read_apply]

private theorem read_read (v : Value) : (do let w ← v.read; w.read : Eval Value) = v.read := by
  funext h
  rw [read_bind_apply, Value.read_resolved]
  change (Except.ok v.resolved, h.compute v.outerCells) = (Except.ok (v.read h).1, (v.read h).2)
  rw [Value.read_apply]

end Eval

/-! ### Paths and pipelines -/

variable (env : Environment) (names : String → Value)

mutual

theorem resolve_grows : (e : Expr) → (e.resolve env names).Grows
  | .literal _ => by
    rw [Expr.resolve]
    exact .pure _
  | .range first last => by
    rw [Expr.resolve]
    refine (resolve_grows first).bind fun first => (resolve_grows last).bind fun last => ?_
    refine (Eval.Grows.lift (.reading _ _)).bind fun i => ?_
    refine (Eval.Grows.lift (.reading _ _)).bind fun j => ?_
    split
    next => exact fun _ _ member => member
    next =>
      refine (Eval.Grows.lift (.reading _ _)).bind fun _ => ?_
      exact (Eval.Grows.lift (.reading _ _)).bind fun _ => .throw _
  | .lookup name path => by
    rw [Expr.resolve]
    exact (walk_grows path (names name)).bind fun v => .lift (.reading _ _)

private theorem walk_grows : (path : List Segment) → (v : Value) → (walk env names v path).Grows
  | [], v => by
    rw [walk]
    exact .pure v
  | segment :: rest, v => by
    rw [walk]
    refine (Eval.Grows.lift (.reading _ _)).bind fun w => ?_
    split
    next => exact .pure _
    next => exact (step_grows segment v).bind fun found => walk_grows rest _

private theorem step_grows : (segment : Segment) → (v : Value) → (segment.step env names v).Grows
  | .field name, v => by
    rw [Segment.step]
    exact .lift (env.registry.memberWithin_grows _ _ v)
  | .index e, v => by
    rw [Segment.step]
    refine (resolve_grows e).bind fun index => ?_
    refine (Eval.Grows.lift (env.registry.expose_grows index)).bind fun index => ?_
    exact .lift (env.registry.index?_grows v index)

end

private theorem walk_nil (path : List Segment) : walk env names .nil path = pure .nil := by
  cases path with
  | nil => rw [walk]
  | cons segment rest =>
    rw [walk]
    rfl

theorem walk_append (before after : List Segment) (v : Value) :
    walk env names v (before ++ after) =
      (do let u ← walk env names v before; walk env names u after) := by
  induction before generalizing v with
  | nil => simp [walk]
  | cons segment rest ih =>
    rw [List.cons_append, walk, walk]
    simp only [ih, bind_assoc]
    congr 1
    funext w
    split
    next => simp only [pure_bind, walk_nil]
    next => simp only [bind_assoc]

theorem pipe_append (before after : List FilterCall) (v : Value) :
    pipe env names v (before ++ after) =
      (do let u ← pipe env names v before; pipe env names u after) := by
  induction before generalizing v with
  | nil => simp [pipe]
  | cons call rest ih => simp only [List.cons_append, pipe, ih, bind_assoc]

theorem evaluate_append (e : Expr) (before after : List FilterCall) :
    Variable.evaluate env names ⟨e, before ++ after⟩ =
      (do let u ← Variable.evaluate env names ⟨e, before⟩; pipe env names u after) := by
  simp only [Variable.evaluate, pipe_append, bind_assoc]

/-- A step from what is behind the cells of a value, once these are computed. -/
theorem step_of_computed {v : Value} {h : Heap}
    (done : ∀ cell ∈ v.outerCells, cell ∈ h.computed) (segment : Segment) :
    segment.step env names v.resolved h = segment.step env names v h := by
  cases segment with
  | field name =>
    have same : env.registry.member? v.resolved name h = env.registry.member? v name h := by
      rw [← env.registry.read_member? v, Live.bind_apply, Value.read_of_computed done]
    rw [Segment.step, Segment.step]
    exact congrArg (fun found => (Except.ok found.1, found.2)) same
  | index e =>
    have grows := resolve_grows env names e h
    rw [Segment.step, Segment.step]
    rcases run : e.resolve env names h with ⟨r, after⟩
    change ∀ cell ∈ h.computed, cell ∈ (e.resolve env names h).2.computed at grows
    rw [run] at grows
    cases r with
    | error e => rw [Eval.bind_error run, Eval.bind_error run]
    | ok index =>
      rw [Eval.bind_ok run, Eval.bind_ok run, Eval.lift_bind, Eval.lift_bind]
      -- The cells are still computed when the index is known.
      have still : ∀ cell ∈ v.outerCells,
          cell ∈ (env.registry.expose index after).2.computed := fun cell member =>
        env.registry.expose_grows index after cell (grows cell (done cell member))
      have same (i : Value) :
          env.registry.index? v.resolved i (env.registry.expose index after).2 =
            env.registry.index? v i (env.registry.expose index after).2 := by
        rw [← env.registry.read_index? v, Live.bind_apply, Value.read_of_computed still]
      exact congrArg (fun found => (Except.ok found.1, found.2)) (same _)

theorem walk_cons_apply (segment : Segment) (rest : List Segment) (v : Value) (h : Heap) :
    walk env names v (segment :: rest) h =
      (if v.resolved.isNil then pure Value.nil
        else do
          let found ← segment.step env names v
          walk env names (found.getD .nil) rest : Eval Value) (h.compute v.outerCells) := by
  rw [walk, Eval.read_bind_apply]

/-- What is behind the cells may be taken up in the place of what was found. -/
theorem read_walk (v : Value) (path : List Segment) :
    (do let w ← v.read; let x ← walk env names w path; x.read : Eval Value) =
      (do let x ← walk env names v path; x.read) := by
  cases path with
  | nil =>
    simp only [walk, pure_bind]
    exact Eval.read_read v
  | cons segment rest =>
    funext h
    rw [Eval.read_bind_apply]
    have done : ∀ cell ∈ v.outerCells, cell ∈ (h.compute v.outerCells).computed :=
      fun cell member => (h.mem_compute _).mpr (.inr member)
    -- Both ways begin by reading the value, and after that they take the same step.
    refine Eval.bind_congr ?_
    rw [walk_cons_apply, walk_cons_apply, Value.outerCells_resolved, Value.resolved_resolved]
    change (ite _ _ _ : Eval Value) (h.compute v.outerCells) = _
    split
    next => rfl
    next => exact Eval.bind_congr (step_of_computed env names done segment)

theorem read_pipe (v : Value) (calls : List FilterCall) :
    (do let w ← v.read; let x ← pipe env names w calls; x.read : Eval Value) =
      (do let x ← pipe env names v calls; x.read) := by
  cases calls with
  | nil =>
    simp only [pipe, pure_bind]
    exact Eval.read_read v
  | cons call rest =>
    -- The first filter exposes its input, and this begins with reading it.
    funext h
    have exposed := congrFun (env.registry.read_expose v) h
    rw [Live.bind_apply, Value.read_apply] at exposed
    simp only [pipe, bind_assoc]
    rw [Eval.read_bind_apply, Eval.lift_bind, Eval.lift_bind, exposed]

end Liquid
