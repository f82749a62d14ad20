import Liquid.Proofs.Congruence
import Liquid.Proofs.Steps

/-!
# Simulations

Most comparisons of two renders are simulations: the progress of both is related at the beginning
and stays so, and every step ends on both sides in the same way. Such a relation only has to say
what it makes of the few changes that rendering itself brings about; that it carries through
binds, frames and recovered errors is the same for all.

## Main result

`renderAll_behind`: what nodes do does not depend on what was written and recorded before.
-/

namespace Liquid

/-- Both steps succeed with related results or fail with the same error, and leave the progress
related. -/
inductive Coupled (Sim : Progress → Progress → Prop) {α β : Type} (R : α → β → Prop) :
    Except Error α × Progress → Except Error β × Progress → Prop where
  | ok {a : α} {b : β} {p q : Progress} : R a b → Sim p q → Coupled Sim R (.ok a, p) (.ok b, q)
  | error {e : Error} {p q : Progress} : Sim p q → Coupled Sim R (.error e, p) (.error e, q)

/-- A relation between the progress of two renders that what happens outside of expressions
respects. -/
structure Simulation (left right : Setting) where
  Sim : Progress → Progress → Prop
  /-- Values that may take each other's place as the item of a cell. -/
  Alike : Value → Value → Prop
  mode : left.mode = right.mode
  deadline : left.deadline = right.deadline
  checks {p q : Progress} : Sim p q → p.checks = q.checks
  check {p q : Progress} : Sim p q → Sim (left.checked p) (right.checked q)
  push {p q : Progress} : Sim p q →
    Sim { p with scopes := p.scopes.push } { q with scopes := q.scopes.push }
  pop {p q : Progress} : Sim p q →
    Sim { p with scopes := p.scopes.pop } { q with scopes := q.scopes.pop }
  write (text : String) {p q : Progress} : Sim p q →
    Sim { p with out := p.out ++ text } { q with out := q.out ++ text }
  record (e : Error) {p q : Progress} : Sim p q →
    Sim { p with errors := p.errors.push e } { q with errors := q.errors.push e }
  set (name : String) {v w : Value} {p q : Progress} : Alike v w → Sim p q →
    Sim { p with scopes := p.scopes.set name v } { q with scopes := q.scopes.set name w }
  loopInfo (index length column columns : Nat) :
    Alike (TableRow.loopInfo index length column columns)
      (TableRow.loopInfo index length column columns)

namespace Coupled

variable {Sim : Progress → Progress → Prop} {α β γ δ : Type} {R : α → β → Prop}
  {S : γ → δ → Prop}

theorem bind {left right : Setting} {x : Render α} {y : Render β} {f : α → Render γ}
    {g : β → Render δ} {p q : Progress} (first : Coupled Sim R (x left p) (y right q))
    (rest : ∀ a b, R a b → ∀ p q, Sim p q → Coupled Sim S (f a left p) (g b right q)) :
    Coupled Sim S ((x >>= f) left p) ((y >>= g) right q) := by
  generalize run : x left p = o at first
  generalize run' : y right q = o' at first
  cases first with
  | ok related sim =>
    rw [Render.bind_ok run, Render.bind_ok run']
    exact rest _ _ related _ _ sim
  | error sim =>
    rw [Render.bind_error run, Render.bind_error run']
    exact .error sim

theorem stack {Inner : Progress → Progress → Prop} {left right : Setting} {x : Render α}
    {y : Render β} {p q : Progress}
    (pop : ∀ {p q}, Inner p q →
      Sim { p with scopes := p.scopes.pop } { q with scopes := q.scopes.pop })
    (inside : Coupled Inner R (x left { p with scopes := p.scopes.push })
      (y right { q with scopes := q.scopes.push })) :
    Coupled Sim R (Render.stack x left p) (Render.stack y right q) := by
  unfold Render.stack
  generalize x left { p with scopes := p.scopes.push } = o at inside
  generalize y right { q with scopes := q.scopes.push } = o' at inside
  cases inside with
  | ok related sim => exact .ok related (pop sim)
  | error sim => exact .error (pop sim)

theorem recover {left right : Setting} (mode : left.mode = right.mode) {x y : Render Flow}
    {p q : Progress}
    (report : ∀ e {p q}, Sim p q →
      Sim (Render.Progress.report p e) (Render.Progress.report q e))
    (inside : Coupled Sim Eq (x left p) (y right q)) :
    Coupled Sim Eq (Render.recover x left p) (Render.recover y right q) := by
  unfold Render.recover
  generalize x left p = o at inside
  generalize y right q = o' at inside
  cases inside with
  | ok same sim => exact .ok same sim
  | @error e p q sim =>
    simp only [mode]
    -- Mode and error are the same, so both sides go on or neither does.
    by_cases ends : (e.isFatal || decide (right.mode = .strict)) = true
    · simp only [ends, ↓reduceIte]
      exact .error sim
    · simp only [ends]
      exact .ok rfl (report e sim)

theorem mono {Q : α → β → Prop} {o : Except Error α × Progress} {o' : Except Error β × Progress}
    (run : Coupled Sim R o o') (weaker : ∀ a b, R a b → Q a b) : Coupled Sim Q o o' := by
  cases run with
  | ok related sim => exact .ok (weaker _ _ related) sim
  | error sim => exact .error sim

/-- Outcomes that are the same but for the progress. -/
theorem of_eq {r : Except Error α} {p q : Progress} (sim : Sim p q) :
    Coupled Sim Eq (r, p) (r, q) := by
  cases r with
  | ok a => exact .ok rfl sim
  | error e => exact .error sim

end Coupled

namespace Simulation

variable {left right : Setting} (S : Simulation left right)

/-- An error that is written in place of what failed is also recorded. -/
theorem report (e : Error) {p q : Progress} (sim : S.Sim p q) :
    S.Sim (Render.Progress.report p e) (Render.Progress.report q e) :=
  S.write (Render.inlineText e) (S.record e sim)

/-- Both sides are late at the same checks. -/
theorem isLate_eq {p q : Progress} (sim : S.Sim p q) : left.isLate p = right.isLate q := by
  rw [Setting.isLate, Setting.isLate, S.deadline, S.checks sim]

/-- Whatever the parts of a template respect, the template respects. -/
def congruence : Congruence where
  Rel _ _ _ R x y := ∀ p q, S.Sim p q → Coupled S.Sim R (x left p) (y right q)
  Alike := S.Alike
  pure related _ _ sim := .ok related sim
  bind first rest p q sim := (first p q sim).bind rest
  enter := id
  stack inside p q sim := .stack S.pop (inside _ _ (S.push sim))
  recover inside p q sim := .recover S.mode S.report (inside p q sim)
  deadline p q sim := by
    rw [Render.checkDeadline_apply, Render.checkDeadline_apply, S.isLate_eq sim]
    exact .of_eq (S.check sim)
  write text _ _ sim := .ok rfl (S.write text sim)
  set name _ _ alike _ _ sim := .ok rfl (S.set name alike sim)
  loopInfo := S.loopInfo

/-- Equal progress in settings with the same mode and the same deadline. -/
def equal (mode : left.mode = right.mode) (deadline : left.deadline = right.deadline) :
    Simulation left right where
  Sim := Eq
  Alike := Eq
  mode := mode
  deadline := deadline
  checks same := congrArg Progress.checks same
  check same := by rw [same, Setting.checked, Setting.checked, deadline]
  push same := by rw [same]
  pop same := by rw [same]
  write _ _ _ same := by rw [same]
  record _ _ _ same := by rw [same]
  set _ _ _ _ _ alike same := by rw [alike, same]
  loopInfo := loopInfo_same

end Simulation

/-- What a table row does in a setting depends on what its body does in it. -/
theorem TableRow.render_congr (row : TableRow) {s : Setting} {x y : Render Flow}
    (same : x s = y s) : row.render x s = row.render y s := by
  let C := (Simulation.equal (rfl : s.mode = s.mode) rfl).congruence
  have step {α : Type} {x y : Render α} (same : x s = y s) : C.Rel false Eq x y := by
    rintro p q rfl
    rw [same]
    exact .of_eq rfl
  have supported : C.Supports (.row row) :=
    Congruence.supports_of_keeps rfl (fun _ => step rfl) (fun _ => step rfl)
      (fun _ _ => step rfl) nofun
  funext p
  have run := Congruence.row_related supported (step same) p p rfl
  change Coupled Eq Eq (row.render x s p) (row.render y s p) at run
  generalize row.render x s p = left at run ⊢
  generalize row.render y s p = right at run ⊢
  cases run with
  | ok same sim => rw [same, sim]
  | error sim => rw [sim]

/-! ### Behind what was written -/

namespace Render

/-- The same progress behind an output and errors. -/
def Progress.behind (out : String) (errors : Array Error) (p : Progress) : Progress :=
  { p with out := out ++ p.out, errors := errors ++ p.errors }

/-- Progress from nothing written and recorded, and the same progress behind what was. -/
def appending {left right : Setting} (mode : left.mode = right.mode)
    (deadline : left.deadline = right.deadline) (out : String) (errors : Array Error) :
    Simulation left right where
  Sim p q := q = Progress.behind out errors p
  Alike := Eq
  mode := mode
  deadline := deadline
  checks sim := by rw [sim]; rfl
  check sim := by rw [sim, Setting.checked, Setting.checked, deadline]; rfl
  push sim := by rw [sim]; rfl
  pop sim := by rw [sim]; rfl
  write text _ _ sim := by
    rw [sim, Progress.behind, Progress.behind, String.append_assoc]
  record e _ _ sim := by
    rw [sim, Progress.behind, Progress.behind, Array.push_append]
  set name _ _ _ _ same sim := by rw [sim, same]; rfl
  loopInfo := loopInfo_same

variable {s : Setting} {mode : s.mode = s.mode} {deadline : s.deadline = s.deadline} {out : String}
  {errors : Array Error}

theorem appending_keeps {α : Type} {x : Render α}
    (frame : ∀ p, x s (Progress.behind out errors p) =
      ((x s p).1, Progress.behind out errors (x s p).2)) :
    (appending mode deadline out errors).congruence.Keeps x := by
  rintro p q rfl
  rw [frame p]
  exact .of_eq rfl

private theorem appending_supports {part : Part} (known : part ≠ .host) :
    (appending mode deadline out errors).congruence.Supports part := by
  refine Congruence.supports_of_keeps rfl (fun f => ?_) (fun v => ?_) (fun name v => ?_) known
  · exact appending_keeps fun p => rfl
  · refine appending_keeps fun p => ?_
    rw [writeValue_apply, writeValue_apply]
    simp only [Progress.behind, String.append_assoc]
  · exact appending_keeps fun p => rfl

end Render

/-- What nodes do does not depend on what was written and recorded before. -/
theorem renderAll_behind {nodes : List Node} (standard : isStandard nodes = true) (s : Setting)
    (out : String) (errors : Array Error) (p : Progress) :
    renderAll nodes s (Render.Progress.behind out errors p) =
      ((renderAll nodes s p).1, Render.Progress.behind out errors (renderAll nodes s p).2) := by
  have known := not_host_of_isStandard standard
  have mode : s.mode = s.mode := rfl
  have run := (Render.appending mode rfl out errors).congruence.renderAll_related nodes
    (fun part member => Render.appending_supports (known part member)) p _ rfl
  change Coupled (fun p q => q = Render.Progress.behind out errors p) Eq _ _ at run
  generalize renderAll nodes s p = left at run
  generalize renderAll nodes s (Render.Progress.behind out errors p) = right at run
  cases run with
  | ok same sim => rw [same, sim]
  | error sim => rw [sim]

end Liquid
