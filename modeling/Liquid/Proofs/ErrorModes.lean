import Liquid.Proofs.Congruence
import Liquid.Proofs.Steps
import Liquid.Template.Basic

/-!
# The two error modes agree

## Main result

`strict_render_follows_inline`: a strict render is the inline render cut off at its first recorded
error. If nothing was recorded the two are the same render; otherwise the strict one fails with
exactly the first recorded error; and where even the inline one fails, with an error of the caller,
the strict one fails as well.

## Proof strategy

The two runs of a step are compared from the same progress (`Lockstep`). They stay the same until
`recover` meets an error that is not fatal: there the inline run records it and goes on, and the
strict run is over. From then on all that has to be known of the inline run is that the recorded
errors grow at their end and that none of them is fatal.
-/

namespace Liquid

/-- The same setting in another mode. -/
def Setting.inMode (s : Setting) (mode : ErrorMode) : Setting := { s with mode }

/-- How an inline and a strict run of one step compare that begin with the same recorded errors. -/
inductive Lockstep {α β : Type} (R : α → β → Prop) (before : Array Error) :
    Except Error α × Progress → Except Error β × Progress → Prop where
  /-- Nothing was recorded, and the runs are the same. -/
  | together {a : α} {b : β} {p : Progress} :
      R a b → p.errors = before → Lockstep R before (.ok a, p) (.ok b, p)
  | failed {e : Error} {p : Progress} :
      p.errors = before → Lockstep R before (.error e, p) (.error e, p)
  /-- The first error that the inline run recorded ended the strict one. -/
  | apart {r : Except Error α} {p q : Progress} {e : Error} (later : List Error) :
      (∀ a, r = .ok a → ∃ b, R a b) → p.errors.toList = before.toList ++ e :: later →
      (∀ recorded ∈ e :: later, recorded.isFatal = false) →
      Lockstep R before (r, p) (.error e, q)

namespace Lockstep

variable {α β γ δ : Type} {R : α → β → Prop} {S : γ → δ → Prop} {before : Array Error}

/-- An inline run only adds errors that are not fatal to those recorded before. -/
theorem recorded {r : Except Error α} {p : Progress} {o : Except Error β × Progress}
    (run : Lockstep R before (r, p) o) :
    (∀ a, r = .ok a → ∃ b, R a b) ∧ ∃ added, p.errors.toList = before.toList ++ added ∧
      ∀ e ∈ added, e.isFatal = false := by
  cases run with
  | together related kept =>
    exact ⟨fun _ same => ⟨_, Except.ok.inj same ▸ related⟩, [], by simp [kept], by simp⟩
  | failed kept => exact ⟨fun _ same => (nomatch same), [], by simp [kept], by simp⟩
  | apart _ related added mild => exact ⟨related, _, added, mild⟩

/-- Once the strict run has ended, whatever the inline run still does changes nothing. -/
theorem resumed {p q : Progress} {e : Error} {later : List Error}
    (added : p.errors.toList = before.toList ++ e :: later)
    (mild : ∀ recorded ∈ e :: later, recorded.isFatal = false)
    {r : Except Error γ} {p' : Progress} {o : Except Error δ × Progress}
    (run : Lockstep S p.errors (r, p') o) : Lockstep S before (r, p') (.error e, q) := by
  obtain ⟨related, more, grown, mildMore⟩ := run.recorded
  refine .apart (later ++ more) related (by simp [grown, added]) ?_
  intro recorded member
  rw [← List.cons_append, List.mem_append] at member
  exact member.elim (mild recorded) (mildMore recorded)

theorem bind {s t : Setting} {x : Render α} {y : Render β} {f : α → Render γ} {g : β → Render δ}
    {p : Progress} (first : Lockstep R p.errors (x s p) (y t p))
    (rest : ∀ a b, R a b → ∀ p, Lockstep S p.errors (f a s p) (g b t p)) :
    Lockstep S p.errors ((x >>= f) s p) ((y >>= g) t p) := by
  generalize left : x s p = o at first
  generalize right : y t p = o' at first
  cases first with
  | together related kept =>
    rw [Render.bind_ok left, Render.bind_ok right, ← kept]
    exact rest _ _ related _
  | failed kept =>
    rw [Render.bind_error left, Render.bind_error right]
    exact .failed kept
  | @apart r _ _ _ _ related added mild =>
    -- The strict run has ended, so only the inline one goes on.
    rw [Render.bind_error right]
    cases r with
    | error e =>
      rw [Render.bind_error left]
      exact .apart _ (fun _ same => nomatch same) added mild
    | ok a =>
      rw [Render.bind_ok left]
      obtain ⟨b, ab⟩ := related a rfl
      exact resumed added mild (rest a b ab _)

/-- Both runs go through the same change of what is not recorded. -/
theorem map {o : Except Error α × Progress} {o' : Except Error β × Progress}
    (run : Lockstep R before o o') (change : Progress → Progress)
    (kept : ∀ p, (change p).errors = p.errors) :
    Lockstep R before (o.1, change o.2) (o'.1, change o'.2) := by
  cases run with
  | together related same => exact .together related ((kept _).trans same)
  | failed same => exact .failed ((kept _).trans same)
  | apart later related added mild =>
    exact .apart later related (by rw [kept]; exact added) mild

theorem stack {s t : Setting} {x : Render α} {y : Render β}
    (inside : ∀ p, Lockstep R p.errors (x s p) (y t p)) (p : Progress) :
    Lockstep R p.errors (Render.stack x s p) (Render.stack y t p) :=
  (inside { p with scopes := p.scopes.push }).map
    (fun after => { after with scopes := after.scopes.pop }) fun _ => rfl

/-- The one step that treats errors differently: where the inline run records its first error, the
strict run ends with it. -/
theorem recover {s : Setting} {x y : Render Flow} {p : Progress}
    (inside : Lockstep Eq p.errors (x (s.inMode .inline) p) (y (s.inMode .strict) p)) :
    Lockstep Eq p.errors (Render.recover x (s.inMode .inline) p)
      (Render.recover y (s.inMode .strict) p) := by
  unfold Render.recover
  generalize x (s.inMode .inline) p = o at inside
  generalize y (s.inMode .strict) p = o' at inside
  cases inside with
  | together same kept => exact .together same kept
  | @failed e q kept =>
    cases fatal : e.isFatal with
    | true => simpa [fatal] using Lockstep.failed kept
    | false =>
      -- Here the two modes part: this error is the first one recorded.
      simp [fatal, Setting.inMode]
      exact .apart [] (fun flow _ => ⟨flow, rfl⟩)
        (by simp [Render.Progress.report, kept]) (by simpa using fatal)
  | @apart r q _ e later related added mild =>
    simp [Setting.inMode]
    -- They had parted inside, and another error may have come since.
    cases r with
    | ok flow => exact .apart later related added mild
    | error last =>
      cases fatal : last.isFatal with
      | true => simpa [fatal] using .apart later (by simp) added mild
      | false =>
        simp [fatal]
        refine .apart (later ++ [last]) (fun flow _ => ⟨flow, rfl⟩)
          (by simp [Render.Progress.report, added]) ?_
        intro recorded member
        rw [← List.cons_append, List.mem_append, List.mem_singleton] at member
        exact member.elim (mild recorded) fun same => same ▸ fatal

/-- A step that neither depends on the mode nor records errors. -/
theorem of_eq {o : Except Error α × Progress} (kept : o.2.errors = before) :
    Lockstep Eq before o o := by
  obtain ⟨r, p⟩ := o
  cases r with
  | ok a => exact .together rfl kept
  | error e => exact .failed kept

end Lockstep

/-- Inline and strict runs of the steps of a render. -/
def lockstep (s : Setting) : Congruence where
  Rel _ _ _ R x y := ∀ p, Lockstep R p.errors (x (s.inMode .inline) p) (y (s.inMode .strict) p)
  Alike := Eq
  pure related _ := .together related rfl
  bind first rest p := (first p).bind rest
  enter := id
  stack := Lockstep.stack
  recover inside p := (inside p).recover
  deadline p := by
    rw [Render.checkDeadline_apply, Render.checkDeadline_apply]
    exact .of_eq rfl
  write text p := .together rfl rfl
  set name v w same p := by
    subst same
    exact .together rfl rfl
  loopInfo := loopInfo_same

namespace lockstep

open Congruence

variable {s : Setting}

theorem keeps_eval {α : Type} (f : Environment → (String → Value) → Eval α) :
    (lockstep s).Keeps (Render.eval f) := fun _ => Lockstep.of_eq rfl

theorem keeps_writeValue (v : Value) : (lockstep s).Keeps (Render.writeValue v) := fun p => by
  rw [Render.writeValue_apply, Render.writeValue_apply]
  exact .of_eq rfl

theorem keeps_assign (name : String) (v : Value) : (lockstep s).Keeps (Render.assign name v) :=
  fun _ => .together rfl rfl

theorem supports (part : Part) (known : part ≠ .host) : (lockstep s).Supports part :=
  supports_of_keeps rfl keeps_eval keeps_writeValue keeps_assign known

end lockstep

private theorem fatal_of_recover_error {x : Render Flow} {s : Setting} (inline : s.mode = .inline)
    {p q : Progress} {e : Error} (run : Render.recover x s p = (.error e, q)) :
    e.isFatal = true := by
  unfold Render.recover at run
  split at run
  next => cases run
  next failed _ _ =>
    cases fatal : failed.isFatal with
    | true =>
      simp only [fatal, Bool.true_or, ↓reduceIte] at run
      cases run
      exact fatal
    | false =>
      simp [fatal, inline] at run
      cases run

/-- An inline render ends only with errors of the caller. -/
theorem fatal_of_renderAll_error {s : Setting} (inline : s.mode = .inline) (nodes : List Node)
    {p q : Progress} {e : Error} (run : renderAll nodes s p = (.error e, q)) :
    e.isFatal = true := by
  -- Over the list, for each node is recovered on its own.
  induction nodes generalizing p with
  | nil => cases run
  | cons n rest ih =>
    cases late : s.isLate p with
    | true =>
      rw [renderAll_cons_late n rest late] at run
      cases run
      rfl
    | false =>
      rw [renderAll_cons_apply n rest s p late] at run
      rcases first : Render.recover n.render s (s.checked p) with ⟨r, after⟩
      rw [first] at run
      rcases r with e' | flow
      · cases run
        exact fatal_of_recover_error inline first
      · cases flow
        · exact ih run
        · cases run
        · cases run

namespace Template

private theorem setting_inMode (t : Template) (data : Value) (o : Options) (mode : ErrorMode)
    (clock : Clock)
    (heap : Heap) :
    t.setting data { o with mode } clock heap =
      match t.setting data o clock heap with
      | (.ok s, heap) => (.ok (s.inMode mode), heap)
      | (.error e, heap) => (.error e, heap) := by
  cases data <;> rfl

theorem fatal_of_setting_error {t : Template} {data : Value} {o : Options} {clock : Clock}
    {heap after : Heap} {e : Error} (run : t.setting data o clock heap = (.error e, after)) :
    e.isFatal = true := by
  cases data <;> cases run <;> rfl

private theorem render_inMode (t : Template) {data : Value} {o : Options} (mode : ErrorMode)
    {clock : Clock}
    (store : Bindings Value) {heap begun : Heap} {s : Setting}
    (set : t.setting data o clock heap = (.ok s, begun)) :
    t.render data { o with mode } clock store heap =
      result (renderAll t.document.nodes (s.inMode mode) (start store begun)) := by
  have moded := t.setting_inMode data o mode clock heap
  rw [set] at moded
  exact render_of_setting store moded

private theorem render_inMode_error (t : Template) {data : Value} {o : Options} (mode : ErrorMode)
    {clock : Clock} (store : Bindings Value) {heap after : Heap} {e : Error}
    (refused : t.setting data o clock heap = (.error e, after)) :
    (t.render data { o with mode } clock store heap).1 = .error e := by
  have moded := t.setting_inMode data o mode clock heap
  rw [refused] at moded
  exact render_of_setting_error store moded

/-- A strict render does what the inline one does up to the first error that is recorded, and
fails with that one; an inline render records no fatal error and fails with no other. -/
theorem strict_render_follows_inline (t : Template)
    (standard : isStandard t.document.nodes = true) (data : Value) (o : Options) (clock : Clock)
    (store : Bindings Value) (heap : Heap) :
    let inline := t.render data { o with mode := .inline } clock store heap
    let strict := t.render data { o with mode := .strict } clock store heap
    match inline.1 with
    | .ok rendered =>
      (∀ e ∈ rendered.errors, e.isFatal = false) ∧
        match rendered.errors.toList with
        | [] => strict = inline
        | first :: _ => strict.1 = .error first
    | .error e => e.isFatal = true ∧ ∃ failure, strict.1 = .error failure := by
  rcases set : t.setting data o clock heap with ⟨r, begun⟩
  rcases r with e | s
  · simp only [render_inMode_error t _ store set]
    exact ⟨fatal_of_setting_error set, e, rfl⟩
  · simp only [render_inMode t _ store set]
    -- Nothing is recorded yet, so what the inline run records is all that is recorded.
    have run := (lockstep s).renderAll_related t.document.nodes
      (fun part member => lockstep.supports part (not_host_of_isStandard standard part member))
      (start store begun)
    have fatal := @fatal_of_renderAll_error (s.inMode .inline) rfl t.document.nodes
      (start store begun)
    generalize renderAll t.document.nodes (s.inMode .inline) (start store begun) = inline
      at run fatal
    generalize renderAll t.document.nodes (s.inMode .strict) (start store begun) = strict at run
    cases run with
    | @together flow _ p same kept =>
      subst same
      have none : p.errors = #[] := kept
      simp [result, Except.map, none]
    | failed kept => exact ⟨fatal rfl, _, rfl⟩
    | @apart r p q e later related added mild =>
      have recorded : p.errors.toList = e :: later := added
      cases r with
      | error failure => exact ⟨fatal rfl, e, rfl⟩
      | ok flow =>
        refine ⟨fun failure member => mild failure ?_, ?_⟩
        · exact recorded ▸ Array.mem_toList_iff.mpr member
        · simp only [result, recorded]
          rfl

/-- Fails twice, the first time inside a block. -/
def failingTwice : Template where
  engine := bareEngine
  name := "failing"
  source := ""
  document := ⟨[
    .text ⟨0, 0⟩ "a",
    .tag ⟨0, 0⟩ "if" "" (.branches [(.last .always,
      [.output ⟨0, 0⟩ "" ⟨.literal (.int 1), [⟨"divided_by", [.literal (.int 0)]⟩]⟩])]),
    .text ⟨0, 0⟩ "b",
    .output ⟨0, 0⟩ "" ⟨.literal (.int 1), [⟨"nope", []⟩]⟩], ⟨0, 0⟩⟩
  isolated := false

/-- The inline render goes on to the end, and the strict one fails with the first error. -/
theorem strict_render_failingTwice :
    isStandard failingTwice.document.nodes = true ∧
    (failingTwice.render .nil { Options.plain with mode := .inline } (.stopped 0) Bindings.empty
      Heap.new).1 = .ok ⟨"aLiquid error: divided by 0bLiquid error: unknown filter 'nope'",
        #[.render "divided by 0", .render "unknown filter 'nope'"]⟩ ∧
    (failingTwice.render .nil { Options.plain with mode := .strict } (.stopped 0) Bindings.empty
      Heap.new).1 = .error (.render "divided by 0") := by
  have inline : (failingTwice.render .nil { Options.plain with mode := .inline } (.stopped 0)
      Bindings.empty Heap.new).1 =
      .ok ⟨"aLiquid error: divided by 0bLiquid error: unknown filter 'nope'",
        #[.render "divided by 0", .render "unknown filter 'nope'"]⟩ := by
    decide +kernel
  have follows := strict_render_follows_inline failingTwice rfl .nil Options.plain (.stopped 0)
    Bindings.empty Heap.new
  simp only [inline] at follows
  exact ⟨rfl, inline, follows.2⟩

end Template

end Liquid
