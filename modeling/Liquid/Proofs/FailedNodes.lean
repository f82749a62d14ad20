import Liquid.Proofs.ErrorModes
import Liquid.Proofs.ScopeDiscipline

/-!
# What a failed node leaves behind

A failed step keeps what it did before it failed. That nothing half-done ever shows in a document
is due to the order in which the tags do their work: everything that can fail is computed before
anything is written or bound, and what is nested in a block recovers from its own failures.

## Main result

`renderAll_after_failed`: where a node fails, the list goes on from the progress before that node
with the message written, the error recorded, and nothing else changed but the heap.

## Proof strategy

A step fails cleanly if it can fail only while the heap alone has changed. Reading is clean, and so
is a clean step behind one that reads. In the inline mode a list of nodes fails only with errors of
the caller, so the bodies of blocks add no failure of their own.
-/

namespace Liquid

namespace Render

variable {α β : Type} {s : Setting}

/-- Where the step fails, and not with an error of the caller, only the heap has changed. -/
def FailsCleanly (s : Setting) (x : Render α) : Prop :=
  ∀ p q e, x s p = (.error e, q) → e.isFatal = false → q = { p with heap := q.heap }

/-- The step fails only with errors of the caller. -/
def FailsFatally (s : Setting) (x : Render α) : Prop :=
  ∀ p q e, x s p = (.error e, q) → e.isFatal = true

theorem FailsFatally.cleanly {x : Render α} (fatal : FailsFatally s x) : FailsCleanly s x :=
  fun p q e failed mild => absurd (fatal p q e failed) (by simp [mild])

theorem FailsFatally.bind {x : Render α} {f : α → Render β} (first : FailsFatally s x)
    (rest : ∀ a, FailsFatally s (f a)) : FailsFatally s (x >>= f) := by
  intro p q e failed
  rcases run : x s p with ⟨r, after⟩
  cases r with
  | error e' =>
    rw [bind_error run] at failed
    cases failed
    exact first _ _ _ run
  | ok a =>
    rw [bind_ok run] at failed
    exact rest a _ _ _ failed

/-- A step that cannot fail. -/
theorem failsFatally_of_ok {x : Render α} (total : ∀ p, ∃ a q, x s p = (.ok a, q)) :
    FailsFatally s x := by
  intro p q e failed
  obtain ⟨a, after, run⟩ := total p
  rw [run] at failed
  cases failed

theorem failsFatally_write (text : String) : FailsFatally s (write text) :=
  failsFatally_of_ok fun _ => ⟨(), _, rfl⟩

private theorem failsFatally_set (name : String) (v : Value) : FailsFatally s (set name v) :=
  failsFatally_of_ok fun _ => ⟨(), _, rfl⟩

theorem failsFatally_pure (a : α) : FailsFatally s (pure a : Render α) :=
  failsFatally_of_ok fun p => ⟨a, p, rfl⟩

theorem FailsFatally.stack {x : Render α} (inside : FailsFatally s x) :
    FailsFatally s (stack x) := by
  intro p q e failed
  rcases run : x s { p with scopes := p.scopes.push } with ⟨r, after⟩
  rw [stack_apply run] at failed
  cases failed
  exact inside _ _ _ run

/-- What comes behind a step that only reads may fail as cleanly as that. -/
theorem FailsCleanly.bind {x : Render α} {f : α → Render β} (first : Reads x)
    (rest : ∀ a, FailsCleanly s (f a)) : FailsCleanly s (x >>= f) := by
  intro p q e failed mild
  obtain ⟨heap, same⟩ := first s p
  rcases run : x s p with ⟨r, after⟩
  rw [run] at same
  cases same
  cases r with
  | error e' =>
    rw [bind_error run] at failed
    cases failed
    rfl
  | ok a =>
    rw [bind_ok run] at failed
    exact rest a { p with heap } q e failed mild

/-- The frame is popped on the way out of a failure as well. -/
theorem FailsCleanly.stack {x : Render α} (inside : FailsCleanly s x) :
    FailsCleanly s (stack x) := by
  intro p q e failed mild
  rcases run : x s { p with scopes := p.scopes.push } with ⟨r, after⟩
  rw [stack_apply run] at failed
  cases failed
  rw [inside _ _ _ run mild]
  rfl

end Render

open Render

/-! ### Nodes -/

section

variable {s : Setting}

private theorem failsFatally_renderAll (inline : s.mode = .inline) (nodes : List Node) :
    FailsFatally s (renderAll nodes) :=
  fun _ _ _ failed => fatal_of_renderAll_error inline nodes failed

private theorem failsCleanly_renderFirst (inline : s.mode = .inline)
    (branches : List (Condition × List Node)) : FailsCleanly s (renderFirst branches) := by
  -- Over the branches, for the conditions before the one that fails only read.
  induction branches with
  | nil => exact (failsFatally_pure Flow.normal).cleanly
  | cons branch rest ih =>
    obtain ⟨c, nodes⟩ := branch
    rw [renderFirst]
    refine .bind (reads_eval _) fun holds => ?_
    cases holds with
    | true => exact (failsFatally_renderAll inline nodes).cleanly
    | false => exact ih

private theorem TableRow.failsFatally_cells {body : Render Flow} (inside : FailsFatally s body)
    (name : String) (length columns : Nat) (items : List Value) (index row column : Nat) :
    FailsFatally s (cells name length columns body index row column items) := by
  induction items generalizing index row column with
  | nil => exact failsFatally_pure ()
  | cons item rest ih =>
    rw [cells]
    refine (failsFatally_set _ _).bind fun _ => (failsFatally_set _ _).bind fun _ =>
      (failsFatally_write _).bind fun _ => inside.bind fun flow =>
      (failsFatally_write _).bind fun _ => ?_
    split
    next => exact failsFatally_pure ()
    next =>
      split
      next => exact (failsFatally_write _).bind fun _ => ih _ _ _
      next => exact ih _ _ _

/-- The header is complete before the first markup is written. -/
theorem TableRow.failsCleanly_render (row : TableRow) {body : Render Flow}
    (inside : FailsFatally s body) : FailsCleanly s (row.render body) := by
  rw [render_eq]
  refine .bind (reads_header row) fun header => FailsFatally.cleanly ?_
  rcases header with _ | ⟨shown, columns⟩
  · exact failsFatally_pure Flow.normal
  · exact (failsFatally_write _).bind fun _ =>
      (failsFatally_cells inside row.name _ columns shown 0 1 0).stack.bind fun _ =>
      (failsFatally_write _).bind fun _ => failsFatally_pure Flow.normal

theorem failsCleanly_render (inline : s.mode = .inline) (n : Node)
    (standard : isStandard [n] = true) : FailsCleanly s n.render := by
  have known := not_host_of_isStandard standard
  cases n with
  | text span text =>
    rw [Node.render]
    exact ((failsFatally_write text).bind fun _ => failsFatally_pure Flow.normal).cleanly
  | output span markup v =>
    rw [Node.render]
    refine .bind (reads_eval _) fun w => FailsFatally.cleanly ?_
    exact (failsFatally_of_ok fun p => ⟨_, _, writeValue_apply w s p⟩).bind fun _ =>
      failsFatally_pure Flow.normal
  | tag span name markup body =>
    rw [Node.render]
    cases body with
    | assign target v =>
      rw [Tag.render]
      refine .bind (reads_eval _) fun w => FailsFatally.cleanly ?_
      exact (failsFatally_of_ok fun _ => ⟨(), _, rfl⟩).bind fun _ =>
        failsFatally_pure Flow.normal
    | interrupt flow =>
      rw [Tag.render]
      exact (failsFatally_pure flow).cleanly
    | branches branches =>
      rw [Tag.render]
      exact (failsCleanly_renderFirst inline branches).stack
    | tablerow row nodes =>
      rw [Tag.render]
      exact row.failsCleanly_render (failsFatally_renderAll inline nodes)
    | action run => exact absurd rfl (known .host (by simp [allParts, Node.parts, Tag.parts]))
    | block around nodes =>
      exact absurd rfl (known .host (by simp [allParts, Node.parts, Tag.parts]))

end

/-! ### Lists -/

/-- What stands in front of a message that is written. -/
def Error.label : Error → String
  | .malformed _ => "Liquid syntax error: "
  | _ => "Liquid error: "

private theorem inlineText_eq (e : Error) : inlineText e = e.label ++ e.message := by
  cases e <;> rfl

/-- Where a node fails, and not with an error of the caller, its message stands in its place and
the error is recorded. Scopes and store are those from before the node. -/
theorem renderAll_after_failed (n : Node) (standard : isStandard [n] = true) {s : Setting}
    (inline : s.mode = .inline) {p q : Progress} {e : Error}
    (failed : n.render s p = (.error e, q)) (mild : e.isFatal = false) :
    ∃ after, Render.recover n.render s p = (.ok .normal, after) ∧
      (∀ before, s.checked before = p → s.isLate before = false →
        ∀ rest, renderAll (n :: rest) s before = renderAll rest s after) ∧
      after.out = p.out ++ (e.label ++ e.message) ∧ after.errors = p.errors.push e ∧
      after.scopes = p.scopes ∧ after.store = p.store := by
  have clean := failsCleanly_render inline n standard p q e failed mild
  have recovered : Render.recover n.render s p = (.ok .normal, Progress.report q e) := by
    unfold Render.recover
    rw [failed]
    simp [mild, inline]
  refine ⟨Progress.report q e, recovered, ?_, ?_⟩
  · rintro before rfl early rest
    rw [renderAll_cons_apply n rest s before early, recovered]
  · rw [← inlineText_eq, clean]
    exact ⟨rfl, rfl, rfl, rfl⟩

/-- `{% if x %}yes{% elsif y < 1 %}no{% endif %}`. -/
def secondTestFails : Node :=
  .tag ⟨0, 10⟩ "if" "x" (.branches
    [(.last (.truthy ⟨.lookup "x" [], []⟩), [.text ⟨10, 3⟩ "yes"]),
     (.last (.compare ⟨.lookup "y" [], []⟩ .lt ⟨.literal (.int 1), []⟩), [.text ⟨30, 2⟩ "no"])])

/-- It fails in a frame of its own and behind a test for which a cell was computed. -/
theorem renderAll_after_failed_secondTestFails :
    let x : Value := .lazy ⟨7, "x"⟩ (.bool false)
    let s : Setting :=
      ⟨Template.bareEngine.env, ⟨[("x", x), ("y", .str "a")]⟩, .inline, Format.plain, none, true⟩
    let frame : Bindings Value := ⟨[("v", .nil)]⟩
    let p : Progress := { Template.start Bindings.empty Heap.new with
      scopes := ⟨Bindings.empty, [frame]⟩
      out := "before " }
    let e : Error := .render "comparison of string with int failed"
    ∃ after, Render.recover secondTestFails.render s p = (.ok .normal, after) ∧
      (∀ rest, renderAll (secondTestFails :: rest) s p = renderAll rest s after) ∧
      after.out = "before Liquid error: comparison of string with int failed" ∧
      after.errors = #[e] ∧ after.scopes = p.scopes ∧ after.store = p.store ∧
      after.heap.computed = [⟨7, "x"⟩] := by
  intro x s frame p e
  have failed : (secondTestFails.render s p).1 = .error e := by decide +kernel
  obtain ⟨after, recovered, goesOn, out, errors, scopes, store⟩ :=
    renderAll_after_failed secondTestFails rfl (s := s) rfl (p := p)
      (q := (secondTestFails.render s p).2) (e := e) (Prod.ext failed rfl) rfl
  have computed : (Render.recover secondTestFails.render s p).2.heap.computed = [⟨7, "x"⟩] := by
    decide +kernel
  rw [recovered] at computed
  exact ⟨after, recovered, goesOn p rfl rfl, out, errors, scopes, store, computed⟩

end Liquid
