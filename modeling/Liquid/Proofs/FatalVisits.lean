import Liquid.Proofs.BlindEvaluation
import Liquid.Proofs.Visits

/-!
# Errors of the caller end the render

An error of the template is written where its node stands, and the render goes on behind it. An
error of the caller goes all the way up, through lists, branches and table rows, in both error
modes.

Filters fail with such errors. The applications of filters that an evaluation comes to are listed
here along the evaluation itself: from left to right in a pipe, operand by operand in a comparison,
and up to the test that decides a condition.

## Main results

`Visit.failsWith_of_application`: a part fails with the error of any application that it comes to.

`renderAll_fails`: nodes fail with the fatal error of any part that they come to.

## Proof strategy

Whatever an evaluation comes to behind a step, it comes to only if that step succeeds. So the step
that fails is the last one, and every lemma here is one case of a list of steps read in order.
-/

namespace Liquid

/-! ### Applications of filters -/

/-- A filter with the values it is about to be applied to. -/
structure Application where
  name : String
  input : Value
  args : List Value

def Application.apply (env : Environment) (a : Application) : Eval Value :=
  Filter.apply env.filters a.name a.input a.args

/-- The application fails, whatever happened before it. -/
def Application.Fails (env : Environment) (e : Error) (a : Application) : Prop :=
  ∀ heap, (a.apply env heap).1 = .error e

section Applications

variable (env : Environment) (names : String → Value)

/-- What a call in a pipe applies to the value that was sent so far. -/
def FilterCall.application (v : Value) (call : FilterCall) : Eval Application := do
  let input ← env.registry.expose v
  let args ← exposedAll env names call.args
  return ⟨call.name, input, args⟩

def pipeApplications (heap : Heap) : Value → List FilterCall → List Application
  | _, [] => []
  | v, call :: rest =>
    match call.application env names v heap with
    | (.ok a, between) =>
      a ::
        match a.apply env between with
        | (.ok w, after) => pipeApplications after w rest
        | (.error _, _) => []
    | (.error _, _) => []

def Variable.applications (heap : Heap) (v : Variable) : List Application :=
  match v.expr.resolve env names heap with
  | (.ok w, after) => pipeApplications env names after w v.filters
  | (.error _, _) => []

def Test.applications (heap : Heap) : Test → List Application
  | .always => []
  | .truthy v => v.applications env names heap
  | .compare left _ right =>
    match right.emptiness?, left.emptiness? with
    | some _, _ => left.applications env names heap
    | none, some _ => right.applications env names heap
    | none, none =>
      left.applications env names heap ++
        match left.exposed env names heap with
        | (.ok _, after) => right.applications env names after
        | (.error _, _) => []

/-- Up to the test that decides. -/
def Condition.applications (heap : Heap) : Condition → List Application
  | .last t => t.applications env names heap
  | .link t c rest =>
    t.applications env names heap ++
      match t.evaluate env names heap with
      | (.ok holds, after) => if c.asksOn holds then rest.applications after else []
      | (.error _, _) => []

end Applications

/-- The applications that a visited part comes to. -/
def Visit.applications (s : Setting) : Visit → List Application
  | ⟨.output v, p⟩ => v.applications s.env (Render.valueOf s p) p.heap
  | ⟨.assign _ v, p⟩ => v.applications s.env (Render.valueOf s p) p.heap
  | ⟨.condition c, p⟩ => c.applications s.env (Render.valueOf s p) p.heap
  | _ => []

/-! ### Evaluations that fail -/

/-- The step fails on this heap. -/
def Eval.FailsOn {α : Type} (e : Error) (x : Eval α) (heap : Heap) : Prop :=
  (x heap).1 = .error e

namespace Eval.FailsOn

variable {α β : Type} {e : Error} {x : Eval α} {f : α → Eval β} {heap between : Heap}

theorem bind (fails : FailsOn e x heap) : FailsOn e (x >>= f) heap := by
  have run : x heap = (.error e, (x heap).2) := Prod.ext fails rfl
  rw [FailsOn, bind_error run]

theorem behind {a : α} (run : x heap = (.ok a, between)) (fails : FailsOn e (f a) between) :
    FailsOn e (x >>= f) heap := by
  rwa [FailsOn, bind_ok run]

end Eval.FailsOn

section Evaluation

variable {env : Environment} {names : String → Value} {e : Error} {a : Application}

/-- A pipe in steps. -/
theorem pipe_cons (v : Value) (call : FilterCall) (rest : List FilterCall) :
    pipe env names v (call :: rest) =
      (call.application env names v >>= fun a =>
        a.apply env >>= fun w => pipe env names w rest) := by
  rw [pipe, FilterCall.application]
  simp only [bind_assoc, pure_bind]
  rfl

private theorem pipe_fails (fails : a.Fails env e) (calls : List FilterCall) {v : Value}
    {heap : Heap}
    (member : a ∈ pipeApplications env names heap v calls) :
    Eval.FailsOn e (pipe env names v calls) heap := by
  induction calls generalizing v heap with
  | nil => cases member
  | cons call rest ih =>
    rw [pipeApplications] at member
    rw [pipe_cons]
    split at member
    next b between first =>
      refine .behind first ?_
      rcases List.mem_cons.mp member with rfl | later
      · exact .bind (fails between)
      -- What comes later is listed only because this application succeeds.
      · split at later
        next w after applied => exact .behind applied (ih later)
        next => cases later
    next => cases member

theorem Variable.evaluate_fails (fails : a.Fails env e) {v : Variable} {heap : Heap}
    (member : a ∈ v.applications env names heap) :
    Eval.FailsOn e (v.evaluate env names) heap := by
  rw [Variable.applications] at member
  split at member
  next w after resolved => exact .behind resolved (pipe_fails fails v.filters member)
  next => cases member

theorem Variable.exposed_fails (fails : a.Fails env e) {v : Variable} {heap : Heap}
    (member : a ∈ v.applications env names heap) :
    Eval.FailsOn e (v.exposed env names) heap := .bind (evaluate_fails fails member)

theorem Test.evaluate_fails (fails : a.Fails env e) {t : Test} {heap : Heap}
    (member : a ∈ t.applications env names heap) :
    Eval.FailsOn e (t.evaluate env names) heap := by
  cases t with
  | always => cases member
  | truthy v => exact .bind (v.evaluate_fails fails member)
  | compare left op right =>
    cases asked : right.emptiness? with
    | some question =>
      simp only [Test.applications, asked] at member
      simp only [Test.evaluate, asked]
      exact .bind (left.exposed_fails fails member)
    | none =>
      cases asked' : left.emptiness? with
      | some question =>
        simp only [Test.applications, asked, asked'] at member
        simp only [Test.evaluate, asked, asked']
        exact .bind (right.exposed_fails fails member)
      | none =>
        simp only [Test.applications, asked, asked'] at member
        simp only [Test.evaluate, asked, asked']
        rcases List.mem_append.mp member with first | second
        · exact .bind (left.exposed_fails fails first)
        · split at second
          next l after shown =>
            exact .behind shown (.bind (right.exposed_fails fails second))
          next => cases second

theorem Condition.evaluate_fails (fails : a.Fails env e) : (c : Condition) → {heap : Heap} →
    a ∈ c.applications env names heap → Eval.FailsOn e (c.evaluate env names) heap
  | .last t, heap, member => t.evaluate_fails fails member
  | .link t c rest, heap, member => by
    rw [Condition.applications] at member
    rw [Condition.evaluate]
    rcases List.mem_append.mp member with here | later
    · exact .bind (t.evaluate_fails fails here)
    · split at later
      next holds after tested =>
        refine .behind tested ?_
        split at later
        -- The condition goes on just as the list does, when the test has not decided it.
        next asks =>
          have behind := rest.evaluate_fails fails later
          cases c <;> cases holds <;> first | exact behind | contradiction
        next => cases later
      next => cases later

end Evaluation

/-! ### Steps that fail -/

/-- The step fails with the error from this progress. -/
def Render.FailsFrom {α : Type} (e : Error) (s : Setting) (p : Progress) (x : Render α) : Prop :=
  (x s p).1 = .error e

namespace Render.FailsFrom

variable {α β : Type} {e : Error} {s : Setting} {p q : Progress} {x : Render α} {f : α → Render β}

theorem run (fails : FailsFrom e s p x) : ∃ q, x s p = (.error e, q) := ⟨_, Prod.ext fails rfl⟩

theorem bind (fails : FailsFrom e s p x) : FailsFrom e s p (x >>= f) := by
  obtain ⟨q, run⟩ := fails.run
  rw [FailsFrom, bind_error run]

theorem stack (fails : FailsFrom e s { p with scopes := p.scopes.push } x) :
    FailsFrom e s p (Render.stack x) := by
  obtain ⟨q, run⟩ := fails.run
  rw [FailsFrom, stack_apply run]

/-- What is fatal is not written where it happened. -/
theorem recover {x : Render Flow} (fatal : e.isFatal = true) (fails : FailsFrom e s p x) :
    FailsFrom e s p (Render.recover x) := by
  obtain ⟨q, run⟩ := fails.run
  simp [FailsFrom, Render.recover, run, fatal]

theorem eval {f : Environment → (String → Value) → Eval α}
    (fails : Eval.FailsOn e (f s.env (valueOf s p)) p.heap) : FailsFrom e s p (Render.eval f) :=
  fails

end Render.FailsFrom

/-! ### Visits that fail -/

/-- The part that is visited fails where it is evaluated. -/
def Visit.FailsWith (s : Setting) (e : Error) : Visit → Prop
  | ⟨.output v, p⟩ => Render.FailsFrom e s p (Render.eval fun env names => v.evaluate env names)
  | ⟨.assign _ v, p⟩ => Render.FailsFrom e s p (Render.eval fun env names => v.evaluate env names)
  | ⟨.condition c, p⟩ => Render.FailsFrom e s p (Render.eval fun env names => c.evaluate env names)
  | ⟨.row row, p⟩ => Render.FailsFrom e s p row.header
  | ⟨.host, _⟩ => False

theorem Visit.failsWith_of_application {s : Setting} {visit : Visit} {a : Application} {e : Error}
    (fails : a.Fails s.env e) (member : a ∈ visit.applications s) : visit.FailsWith s e := by
  obtain ⟨part, p⟩ := visit
  cases part with
  | output v => exact .eval (v.evaluate_fails fails member)
  | assign name v => exact .eval (v.evaluate_fails fails member)
  | condition c => exact .eval (c.evaluate_fails fails member)
  | row row => cases member
  | host => cases member

section Nodes

variable {s : Setting} {e : Error}

/-- The cells fail with a body that fails from the start of one of them. -/
theorem TableRow.cells_fails {name : String} {length columns : Nat} {body : Render Flow}
    {start : Progress} (fails : Render.FailsFrom e s start body) :
    (items : List Value) → {index row column : Nat} → {p : Progress} →
    start ∈ cellStarts name length columns body s index row column items p →
    Render.FailsFrom e s p (cells name length columns body index row column items)
  | [], _, _, _, _, member => nomatch member
  | item :: rest, index, row, column, p, member => by
    rw [cellStarts] at member
    rw [Render.FailsFrom, cells_cons_apply]
    rcases List.mem_cons.mp member with rfl | later
    · obtain ⟨q, run⟩ := fails.run
      rw [run]
    · split at later
      next => cases later
      next flow q _ =>
        split at later
        next => cases later
        next goesOn =>
          rw [if_neg goesOn]
          split at later
          next full =>
            rw [if_pos full]
            exact cells_fails fails rest later
          next notFull =>
            rw [if_neg notFull]
            exact cells_fails fails rest later

private theorem TableRow.render_fails_header {row : TableRow} {p : Progress}
    (fails : Render.FailsFrom e s p row.header) (body : Render Flow) :
    Render.FailsFrom e s p (row.render body) := by
  obtain ⟨q, run⟩ := fails.run
  rw [Render.FailsFrom, render_apply, run]

private theorem TableRow.render_fails_body {row : TableRow} {p start : Progress}
    {body : Render Flow}
    (member : start ∈ row.starts body s p) (fails : Render.FailsFrom e s start body) :
    Render.FailsFrom e s p (row.render body) := by
  rw [starts] at member
  rw [Render.FailsFrom, render_apply]
  split at member
  next shown columns q run =>
    rw [run]
    obtain ⟨r, inside⟩ := (cells_fails fails shown member).run
    dsimp only
    rw [inside]
  next => cases member

mutual

theorem Node.render_fails (fatal : e.isFatal = true) : (n : Node) → (p : Progress) →
    ∀ visit ∈ n.visits s p, visit.FailsWith s e → Render.FailsFrom e s p n.render
  | .text _ _, _, _, member, _ => nomatch member
  | .output _ _ v, p, visit, member, fails => by
    obtain rfl := List.mem_singleton.mp member
    exact .bind fails
  | .tag _ _ _ body, p, visit, member, fails => body.render_fails fatal p visit member fails

theorem Tag.render_fails (fatal : e.isFatal = true) : (t : Tag) → (p : Progress) →
    ∀ visit ∈ t.visits s p, visit.FailsWith s e → Render.FailsFrom e s p t.render
  | .assign name v, p, visit, member, fails => by
    obtain rfl := List.mem_singleton.mp member
    exact .bind fails
  | .interrupt _, _, _, member, _ => nomatch member
  -- The frame of the body is popped without a look at what became of it.
  | .branches branches, p, visit, member, fails =>
    .stack (renderFirst_fails fatal branches _ visit member fails)
  | .tablerow row nodes, p, visit, member, fails => by
    rcases List.mem_cons.mp member with rfl | inside
    · exact TableRow.render_fails_header fails _
    · obtain ⟨start, starts, inside⟩ := List.mem_flatMap.mp inside
      exact TableRow.render_fails_body starts (renderAll_fails fatal nodes start visit inside fails)
  | .action _, _, _, member, fails => by
    rw [List.mem_singleton.mp member] at fails
    exact fails.elim
  | .block _ _, _, _, member, fails => by
    rw [List.mem_singleton.mp member] at fails
    exact fails.elim

private theorem renderFirst_fails (fatal : e.isFatal = true) :
    (branches : List (Condition × List Node)) → (p : Progress) →
    ∀ visit ∈ firstVisits s p branches, visit.FailsWith s e →
      Render.FailsFrom e s p (renderFirst branches)
  | [], _, _, member, _ => nomatch member
  | (c, nodes) :: rest, p, visit, member, fails => by
    rw [firstVisits] at member
    rw [Render.FailsFrom, renderFirst_cons_apply]
    rcases List.mem_cons.mp member with rfl | inside
    · obtain ⟨q, run⟩ := Render.FailsFrom.run fails
      rw [run]
    · -- The branch whose condition holds, the branches behind it, and a condition that fails.
      split at inside
      next q _ =>
        exact renderAll_fails fatal nodes q visit inside fails
      next q _ =>
        exact renderFirst_fails fatal rest q visit inside fails
      next => cases inside

/-- A fatal error of a part that nodes come to is the error of the nodes. -/
theorem renderAll_fails (fatal : e.isFatal = true) : (nodes : List Node) → (p : Progress) →
    ∀ visit ∈ allVisits s p nodes, visit.FailsWith s e → Render.FailsFrom e s p (renderAll nodes)
  | [], _, _, member, _ => nomatch member
  | n :: rest, p, visit, member, fails => by
    rw [allVisits] at member
    split at member
    -- After `break` or `continue` the nodes come to nothing.
    next => cases member
    next early =>
      rw [Render.FailsFrom, renderAll_cons_apply n rest s p (Bool.eq_false_iff.mpr early)]
      rcases List.mem_append.mp member with inside | later
      · obtain ⟨q, run⟩ := (n.render_fails fatal _ visit inside fails).recover fatal |>.run
        rw [run]
      · split at later
        next q run =>
          rw [run]
          exact renderAll_fails fatal rest q visit later fails
        next => cases later

end

end Nodes

end Liquid
