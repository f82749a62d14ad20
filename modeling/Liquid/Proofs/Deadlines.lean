import Liquid.Proofs.Simulation

/-!
# Deadlines

The deadline is checked in front of each node, so that it may pass anywhere in a template. What it
does to a render is to end it, and until it does so it leaves no trace.

## Main results

`renderAll_timeless`: nodes that are rendered with a deadline are ended by a check that comes too
late, or do what they do without a deadline.

`Options.passed_later`: a deadline that has passed stays so.

## Proof strategy

A render with a deadline is compared with the one without. Their progress is the same but for the
checks that were counted, up to a check at which the deadline has passed. Its error is fatal, so
nothing behind that check is rendered.
-/

namespace Liquid

def Setting.timeless (s : Setting) : Setting := { s with deadline := none }

/-- A check, this one or one behind it, came too late and ended what was rendered. -/
structure Stopped (deadline : Option (Nat → Bool)) (first : Nat) {α : Type}
    (o : Except Error α × Progress) : Prop where
  timeout : o.1 = .error .timeout
  late : ∃ passed ∈ deadline, ∃ check, first ≤ check ∧ check < o.2.checks ∧ passed check = true

namespace Stopped

variable {deadline : Option (Nat → Bool)} {n : Nat} {α β : Type}

/-- If the deadline had not passed at the first check, it had at a later one. -/
theorem later {o : Except Error α × Progress} (stopped : Stopped deadline n o)
    (early : deadline.any (fun passed => passed n) = false) : Stopped deadline (n + 1) o := by
  obtain ⟨passed, rfl, check, behind, before, late⟩ := stopped.late
  refine ⟨stopped.timeout, passed, rfl, check, Nat.lt_of_le_of_ne behind ?_, before, late⟩
  rintro rfl
  simp [late] at early

/-- What changes nothing about the timeout and the checks keeps a render stopped. -/
theorem congr {o : Except Error α × Progress} {o' : Except Error β × Progress}
    (stopped : Stopped deadline n o) (timeout : o'.1 = .error .timeout)
    (checks : o'.2.checks = o.2.checks) : Stopped deadline n o' :=
  ⟨timeout, checks ▸ stopped.late⟩

theorem bind {s : Setting} {x : Render α} {p : Progress} (stopped : Stopped deadline n (x s p))
    (f : α → Render β) : Stopped deadline n ((x >>= f) s p) := by
  rcases run : x s p with ⟨r, q⟩
  rw [run] at stopped
  obtain rfl : r = .error .timeout := stopped.timeout
  rw [Render.bind_error run]
  exact stopped.congr rfl rfl

theorem stack {s : Setting} {x : Render α} {p : Progress}
    (stopped : Stopped deadline n (x s { p with scopes := p.scopes.push })) :
    Stopped deadline n (Render.stack x s p) := stopped.congr stopped.timeout rfl

/-- A timeout is not recovered from. -/
theorem recover {s : Setting} {x : Render Flow} {p : Progress}
    (stopped : Stopped deadline n (x s p)) : Stopped deadline n (Render.recover x s p) := by
  rcases run : x s p with ⟨r, q⟩
  rw [run] at stopped
  obtain rfl : r = .error .timeout := stopped.timeout
  have same : Render.recover x s p = (.error .timeout, q) := by
    simp [Render.recover, run, Error.isFatal]
  rw [same]
  exact stopped

end Stopped

namespace Render

/-! ### Up to the deadline -/

/-- The same progress but for the checks since `n`, none of which the other one counts. -/
def Progress.Timeless (n : Nat) (p q : Progress) : Prop := n ≤ p.checks ∧ q = { p with checks := n }

/-- Two steps that do the same until a check behind `n` ends the first. -/
def Paced (s : Setting) {α β : Type} (R : α → β → Prop) (x : Render α) (y : Render β) : Prop :=
  ∀ n p q, Progress.Timeless n p q →
    Stopped s.deadline n (x s p) ∨
      Coupled (Progress.Timeless n) R (x s p) (y s.timeless q)

variable {s : Setting} {α β γ δ : Type} {R : α → β → Prop} {S : γ → δ → Prop}

theorem Paced.bind {x : Render α} {y : Render β} {f : α → Render γ} {g : β → Render δ}
    (first : Paced s R x y) (rest : ∀ a b, R a b → Paced s S (f a) (g b)) :
    Paced s S (x >>= f) (y >>= g) := by
  intro n p q same
  rcases first n p q same with stopped | run
  · exact .inl (stopped.bind f)
  · rcases left : x s p with ⟨r, p'⟩
    rcases right : y s.timeless q with ⟨r', q'⟩
    rw [left, right] at run
    cases run with
    | ok related same =>
      rw [bind_ok left, bind_ok right]
      exact rest _ _ related n _ _ same
    | error same =>
      rw [bind_error left, bind_error right]
      exact .inr (.error same)

/-- A check that comes in time shows in the count alone. -/
theorem paced_checkDeadline : Paced s Eq checkDeadline checkDeadline := by
  rintro n p q ⟨behind, rfl⟩
  have goesOn : s.timeless.isLate { p with checks := n } = false := rfl
  have uncounted : s.timeless.checked { p with checks := n } = { p with checks := n } := rfl
  rw [checkDeadline_apply, checkDeadline_apply, goesOn, uncounted]
  cases late : s.isLate p with
  | false => exact .inr (.ok rfl ⟨Nat.le_trans behind Setting.checks_le_checked, rfl⟩)
  | true =>
    obtain ⟨passed, given, late⟩ := Setting.isLate_iff.mp late
    refine .inl ⟨rfl, passed, given, p.checks, behind, ?_, late⟩
    simp [Setting.checked, Option.mem_def.mp given]

/-- Up to a check that comes too late, a render does what it does without a deadline. -/
def pacing (s : Setting) : Congruence where
  Rel _ _ _ R x y := Paced s R x y
  Alike := Eq
  pure related _ _ _ same := .inr (.ok related same)
  bind := Paced.bind
  enter := id
  stack inside n p q same := by
    obtain ⟨behind, rfl⟩ := same
    refine (inside n { p with scopes := p.scopes.push } _ ⟨behind, rfl⟩).imp Stopped.stack
      (Coupled.stack ?_)
    rintro p _ ⟨behind, rfl⟩
    exact ⟨behind, rfl⟩
  recover inside n p q same := by
    have mode : s.mode = s.timeless.mode := rfl
    refine (inside n p q same).imp Stopped.recover (Coupled.recover mode ?_)
    rintro e p _ ⟨behind, rfl⟩
    exact ⟨behind, rfl⟩
  deadline := paced_checkDeadline
  write text n p q same := by
    obtain ⟨behind, rfl⟩ := same
    exact .inr (.ok rfl ⟨behind, rfl⟩)
  set name v w alike n p q same := by
    obtain ⟨behind, rfl⟩ := same
    obtain rfl := alike
    exact .inr (.ok rfl ⟨behind, rfl⟩)
  loopInfo := loopInfo_same

theorem pacing_keeps {x : Render α}
    (frame : ∀ n p, x s.timeless { p with checks := n } =
      ((x s p).1, { (x s p).2 with checks := n }) ∧ (x s p).2.checks = p.checks) :
    (pacing s).Keeps x := by
  rintro n p _ ⟨behind, rfl⟩
  obtain ⟨same, checks⟩ := frame n p
  rw [same]
  exact .inr (.of_eq ⟨checks ▸ behind, rfl⟩)

private theorem pacing_supports {part : Part} (known : part ≠ .host) : (pacing s).Supports part :=
  Congruence.supports_of_keeps rfl (fun _ => pacing_keeps fun _ _ => ⟨rfl, rfl⟩)
    (fun _ => pacing_keeps fun _ _ => ⟨rfl, rfl⟩) (fun _ _ => pacing_keeps fun _ _ => ⟨rfl, rfl⟩)
    known

end Render

/-- A deadline ends a render or leaves no trace. -/
theorem renderAll_timeless {nodes : List Node} (standard : isStandard nodes = true) (s : Setting)
    (p : Progress) :
    Stopped s.deadline p.checks (renderAll nodes s p) ∨
      renderAll nodes s.timeless p =
        ((renderAll nodes s p).1, { (renderAll nodes s p).2 with checks := p.checks }) := by
  have known := not_host_of_isStandard standard
  have run := (Render.pacing s).renderAll_related nodes
    (fun part member => Render.pacing_supports (known part member)) p.checks p p
    ⟨Nat.le_refl _, rfl⟩
  refine run.imp_right fun run => ?_
  generalize renderAll nodes s p = left at run ⊢
  generalize renderAll nodes s.timeless p = right at run ⊢
  cases run with
  | ok same progress => rw [same, progress.2]
  | error progress => rw [progress.2]

/-! ### Two renders with deadlines -/

/-- One of two renders is stopped behind its first check, or they are the same but for the count of
the checks. -/
def SameUnlessStopped (s s' : Setting) (p : Progress) (x y : Render Flow) : Prop :=
  Stopped s.deadline (p.checks + 1) (x s p) ∨ Stopped s'.deadline (p.checks + 1) (y s' p) ∨
    ∃ checks, y s' p = ((x s p).1, { (x s p).2 with checks })

private theorem Progress.eq_of_timeless {p q : Progress} {n : Nat}
    (same : { p with checks := n } = { q with checks := n }) :
    q = { p with checks := q.checks } := by
  cases p
  cases q
  cases same
  rfl

/-- What is the same without a deadline is the same up to the deadlines, which both have passed at
the first check or neither has. -/
theorem renderAll_same_unless_stopped {nodes nodes' : List Node}
    (standard : isStandard nodes = true) (standard' : isStandard nodes' = true)
    (empty : nodes = [] ↔ nodes' = [])
    (alike : ∀ s, s.deadline = none → renderAll nodes s = renderAll nodes' s)
    {s s' : Setting} (same : s.timeless = s'.timeless) {p : Progress}
    (first : s.isLate p = s'.isLate p) :
    SameUnlessStopped s s' p (renderAll nodes) (renderAll nodes') := by
  cases late : s.isLate p with
  | true =>
    -- Both end at the first check, if they have a node.
    refine .inr (.inr ?_)
    cases nodes with
    | nil =>
      rw [empty.mp rfl]
      exact ⟨p.checks, rfl⟩
    | cons n rest =>
      cases nodes' with
      | nil => cases empty.mpr rfl
      | cons n' rest' =>
        rw [renderAll_cons_late n rest late, renderAll_cons_late n' rest' (first ▸ late)]
        exact ⟨(s'.checked p).checks, rfl⟩
  | false =>
    rcases renderAll_timeless standard s p with stopped | left
    · exact .inl (stopped.later late)
    rcases renderAll_timeless standard' s' p with stopped | right
    · exact .inr (.inl (stopped.later (first.symm.trans late)))
    rw [alike s.timeless rfl, same, right] at left
    obtain ⟨outcome, progress⟩ := Prod.mk.inj left
    exact .inr (.inr ⟨(renderAll nodes' s' p).2.checks,
      Prod.ext outcome (Progress.eq_of_timeless progress.symm)⟩)

theorem Clock.reading_mono (clock : Clock) {i j : Nat} (later : i ≤ j) :
    clock.reading i ≤ clock.reading j := by
  induction later with
  | refl => exact Nat.le_refl _
  | step _ ih => exact Nat.le_trans ih (clock.forward _)

/-- A deadline that has passed at a check has passed at all checks behind it. -/
theorem Options.passed_later {o : Options} {clock : Clock} {passed : Nat → Bool}
    (given : o.passed clock = some passed) {check later : Nat} (behind : check ≤ later)
    (late : passed check = true) : passed later = true := by
  obtain ⟨moment, -, rfl⟩ := Option.map_eq_some_iff.mp given
  have order := clock.reading_mono (Nat.succ_le_succ behind)
  exact decide_eq_true (Nat.le_trans (of_decide_eq_true late) order)

namespace Template

variable {t t' : Template} {data : Value} {o : Options} {heap begun : Heap}

private theorem deadline_of_setting {clock : Clock} {s : Setting}
    (set : t.setting data o clock heap = (.ok s, begun)) : s.deadline = o.passed clock := by
  cases data <;> cases set <;> rfl

private theorem setting_atClock (t : Template) (data : Value) (o : Options) (clock clock' : Clock)
    (heap : Heap) :
    t.setting data o clock' heap =
      match t.setting data o clock heap with
      | (.ok s, heap) => (.ok { s with deadline := o.passed clock' }, heap)
      | (.error e, heap) => (.error e, heap) := by
  cases data <;> rfl

/-- A render was stopped by a deadline that had not passed when it began. -/
def StoppedLate (t : Template) (data : Value) (o : Options) (clock : Clock)
    (store : Bindings Value) (heap : Heap) : Prop :=
  Stopped (o.passed clock) 1 (t.run data o clock store heap (renderAll t.document.nodes))

/-- Renders by two clocks, of templates that render alike without them. -/
theorem render_same_unless_stopped (engine : t.engine = t'.engine)
    (isolated : t.isolated = t'.isolated) (clock clock' : Clock) (store : Bindings Value)
    (alike : ∀ s s' p, s.timeless = s'.timeless → s.isLate p = s'.isLate p →
      SameUnlessStopped s s' p (renderAll t.document.nodes) (renderAll t'.document.nodes))
    (first : (o.passed clock).any (fun passed => passed 0) =
      (o.passed clock').any fun passed => passed 0) :
    t.StoppedLate data o clock store heap ∨ t'.StoppedLate data o clock' store heap ∨
      t.render data o clock store heap = t'.render data o clock' store heap := by
  have other : t'.setting data o clock' heap =
      match t.setting data o clock heap with
      | (.ok s, heap) => (.ok { s with deadline := o.passed clock' }, heap)
      | (.error e, heap) => (.error e, heap) := by
    rw [← t.setting_atClock, setting, setting, engine, isolated]
  rcases set : t.setting data o clock heap with ⟨r, begun⟩
  rw [set] at other
  cases r with
  | error e =>
    rw [render_of_setting_refused store set, render_of_setting_refused store other]
    exact .inr (.inr rfl)
  | ok s =>
    have deadline := deadline_of_setting set
    have late : s.isLate (start store begun) =
        Setting.isLate { s with deadline := o.passed clock' } (start store begun) := by
      rw [Setting.isLate, Setting.isLate, deadline]
      exact first
    have ran : t.run data o clock store heap (renderAll t.document.nodes) =
        renderAll t.document.nodes s (start store begun) := by
      simp only [run, ExceptT.run, set]
    have ran' : t'.run data o clock' store heap (renderAll t'.document.nodes) =
        renderAll t'.document.nodes { s with deadline := o.passed clock' } (start store begun) := by
      simp only [run, ExceptT.run, other]
    rw [StoppedLate, StoppedLate, ran, ran', ← deadline]
    refine (alike s { s with deadline := o.passed clock' } _ rfl late).imp_right (Or.imp_right ?_)
    rintro ⟨checks, same⟩
    rw [render_of_setting store set, render_of_setting store other, same]
    rfl

end Template

end Liquid
