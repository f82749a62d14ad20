import Liquid.Proofs.PairedEvaluation
import Liquid.Proofs.Pointwise
import Liquid.Proofs.Steps

/-!
# Rendering in paired runs

A step of rendering is impartial if two runs of it from paired progress end alike: with the same
result or the same error, the same output and the same errors, and counterparts in the scopes and
the store.

## Main results

`Render.Impartial.bind`: steps one after the other are impartial if each of them is.

`row_impartial`: a row of steps, each in frames of its own, is impartial.

## Proof strategy

Of a step with a result the runs agree on, nothing has to be known but that it is impartial. What
was evaluated on the way is a counterpart when it is written, assigned or walked over, and stays one
while more numbers are drawn.
-/

namespace Liquid

open Pairing Value

/-! ### Bindings and scopes -/

theorem Bindings.Pointwise.later {nature : String → Bool} {σ : Shift} {n k : Nat}
    {b b' : Bindings Value} (related : Bindings.Pointwise (fun _ => Counterpart nature σ n) b b')
    (later : n ≤ k) : Bindings.Pointwise (fun _ => Counterpart nature σ k) b b' :=
  List.Forall₂.imp (fun _ _ same => ⟨same.1, same.2.later later⟩) related

theorem Scopes.Pointwise.later {nature : String → Bool} {σ : Shift} {n k : Nat} {s s' : Scopes}
    (related : Scopes.Pointwise (fun _ => Counterpart nature σ n) s s') (later : n ≤ k) :
    Scopes.Pointwise (fun _ => Counterpart nature σ k) s s' :=
  ⟨related.outermost.later later, related.inner.imp fun _ _ frame => frame.later later⟩

/-- All values that names are bound to are sound. -/
def Bindings.Sound (nature : String → Bool) (n : Nat) (b : Bindings Value) : Prop :=
  ∀ entry ∈ b.entries, entry.2.Sound nature n

theorem Bindings.Sound.pointwise {nature : String → Bool} {σ : Shift} {n : Nat}
    {b : Bindings Value} (sound : b.Sound nature σ.start) (late : σ.start ≤ n) :
    Bindings.Pointwise (fun _ => Counterpart nature σ n) b b :=
  List.forall₂_same.mpr fun entry member => ⟨rfl, .kept (sound entry member) late⟩

/-! ### Progress -/

/-- Two runs of one render that have come equally far. If assigns do not last, the store is the one
that is kept. -/
structure PairedProgress (l : Ledger) (σ : Shift) (s : Setting) (kept : Bindings Value)
    (p q : Progress) : Prop where
  scopes : Scopes.Pointwise (fun _ => Counterpart l.nature σ p.heap.supply) p.scopes q.scopes
  store : Bindings.Pointwise (fun _ => Counterpart l.nature σ p.heap.supply) p.store q.store
  errors : p.errors = q.errors
  out : p.out = q.out
  heap : PairedHeaps l σ p.heap q.heap
  lasting : s.persists = false → p.store = kept
  checks : p.checks = q.checks

/-- Both runs are late at the same checks. -/
theorem PairedProgress.isLate_eq {l : Ledger} {σ : Shift} {s : Setting} {kept : Bindings Value}
    {p q : Progress} (paired : PairedProgress l σ s kept p q) : s.isLate p = s.isLate q := by
  rw [Setting.isLate, Setting.isLate, paired.checks]

theorem PairedProgress.checked {l : Ledger} {σ : Shift} {s : Setting} {kept : Bindings Value}
    {p q : Progress} (paired : PairedProgress l σ s kept p q) :
    PairedProgress l σ s kept (s.checked p) (s.checked q) :=
  { paired with checks := by rw [Setting.checked, Setting.checked, paired.checks] }

def Pairing.progress (l : Ledger) (σ : Shift) (s : Setting) (kept : Bindings Value) :
    Pairing Progress where
  Paired := PairedProgress l σ s kept
  supply p := p.heap.supply

/-- What a render finds is impartial, and its data were made before. -/
structure Setting.Fits (l : Ledger) (base : Nat) (σ : Shift) (s : Setting) : Prop where
  env : s.env.Impartial l base
  data : s.data.Sound l.nature σ.start

/-- Two runs of the step end alike. -/
def Render.Impartial {α : Type} (l : Ledger) (base : Nat) (x : Render α) : Prop :=
  ∀ σ : Shift, base ≤ σ.start → ∀ s : Setting, s.Fits l base σ → ∀ kept,
    (progress l σ s kept).Attempts 0 (fun _ => Eq) (x s) (x s)

namespace Render

variable {l : Ledger} {base : Nat} {σ : Shift} {s : Setting} {kept : Bindings Value} {n : Nat}
  {α β : Type}

/-- What it means for two steps, in terms of what they do from paired progress. -/
theorem attempts_iff {R : Nat → α → β → Prop} {x : Render α} {y : Render β} :
    (progress l σ s kept).Attempts n R (x s) (y s) ↔
      ∀ p q, PairedProgress l σ s kept p q → n ≤ p.heap.supply →
        p.heap.supply ≤ (x s p).2.heap.supply ∧
        Outcome (R (x s p).2.heap.supply) (x s p).1 (y s q).1 ∧
        PairedProgress l σ s kept (x s p).2 (y s q).2 := by
  constructor
  · intro run p q paired late
    obtain ⟨later, outcome, after⟩ := run p q paired late
    exact ⟨later, outcome, after⟩
  · intro each p q paired late
    obtain ⟨later, outcome, after⟩ := each p q paired late
    exact ⟨later, outcome, after⟩

/-- Names stand for counterparts, wherever they are found. -/
theorem valueOf_counterparts (begun : base ≤ σ.start) (fits : s.Fits l base σ) {p q : Progress}
    (paired : PairedProgress l σ s kept p q) :
    Counterparts l.nature σ p.heap.supply (valueOf s p) (valueOf s q) := by
  intro name
  have begunHeap := paired.heap.begun
  have globals : s.env.globals.Sound l.nature σ.start := fun entry member =>
    (fits.env.globals entry member).later begun entry.2
  exact valueOf_pointwise (R := fun _ => Counterpart l.nature σ p.heap.supply) paired.scopes
    (fits.data.pointwise begunHeap) paired.store (globals.pointwise begunHeap) (.plain trivial)

/-- A step on the heap takes the rest of the progress along. -/
theorem paired_of_heap {p q : Progress} (paired : PairedProgress l σ s kept p q) {h h' : Heap}
    (later : p.heap.supply ≤ h.supply) (heaps : PairedHeaps l σ h h') :
    PairedProgress l σ s kept { p with heap := h } { q with heap := h' } :=
  ⟨paired.scopes.later later, paired.store.later later, paired.errors, paired.out, heaps,
    paired.lasting, paired.checks⟩

theorem eval_attempts (begun : base ≤ σ.start) (fits : s.Fits l base σ)
    {R : Nat → α → α → Prop} {f : Environment → (String → Value) → Eval α}
    (run : ∀ {n : Nat} {names names' : String → Value}, Counterparts l.nature σ n names names' →
      (heaps l σ).Attempts n R (f s.env names) (f s.env names')) :
    (progress l σ s kept).Attempts n R (eval f s) (eval f s) := by
  refine attempts_iff.mpr fun p q paired _ => ?_
  -- The names are read once, in the progress that the evaluation begins with.
  obtain ⟨later, outcome, after⟩ := run (valueOf_counterparts begun fits paired) p.heap q.heap
    paired.heap (Nat.le_refl _)
  exact ⟨later, outcome, paired_of_heap paired later after⟩

theorem write_attempts (text : String) :
    (progress l σ s kept).Attempts n (fun _ => Eq) (write text s) (write text s) := by
  refine attempts_iff.mpr fun p q paired _ => ⟨Nat.le_refl _, .ok rfl, ?_⟩
  exact { paired with out := congrArg (· ++ text) paired.out }

theorem writeValue_attempts (begun : base ≤ σ.start) (fits : s.Fits l base σ) {v w : Value}
    (held : Counterpart l.nature σ n v w) :
    (progress l σ s kept).Attempts n (fun _ => Eq) (writeValue v s) (writeValue w s) := by
  refine attempts_iff.mpr fun p q paired late => ?_
  obtain ⟨later, same, after⟩ := s.env.output_matches fits.env begun s.format held p.heap q.heap
    paired.heap late
  rw [writeValue_apply, writeValue_apply, same]
  refine ⟨later, .ok rfl, ?_⟩
  exact { paired_of_heap paired later after with out := congrArg (· ++ _) paired.out }

theorem set_attempts (name : String) {v w : Value} (held : Counterpart l.nature σ n v w) :
    (progress l σ s kept).Attempts n (fun _ => Eq) (set name v s) (set name w s) := by
  refine attempts_iff.mpr fun p q paired late => ⟨Nat.le_refl _, .ok rfl, ?_⟩
  exact { paired with scopes := paired.scopes.set (held.later late) }

private theorem assign_attempts (name : String) {v w : Value}
    (held : Counterpart l.nature σ n v w) :
    (progress l σ s kept).Attempts n (fun _ => Eq) (assign name v s) (assign name w s) := by
  refine attempts_iff.mpr fun p q paired late => ⟨Nat.le_refl _, .ok rfl, ?_⟩
  have held := held.later late
  -- The store is changed on both sides or on neither.
  refine { paired with
    scopes := paired.scopes.assign held
    store := ?_
    lasting := fun isolated => ?_ }
  · change Bindings.Pointwise _ (if s.persists then p.store.insert name v else p.store)
      (if s.persists then q.store.insert name w else q.store)
    split
    next => exact paired.store.insert held
    next => exact paired.store
  · change (if s.persists then p.store.insert name v else p.store) = kept
    rw [isolated]
    exact paired.lasting isolated

private theorem stack_attempts {R : Nat → α → β → Prop} {x : Render α} {y : Render β}
    (inside : (progress l σ s kept).Attempts n R (x s) (y s)) :
    (progress l σ s kept).Attempts n R (stack x s) (stack y s) := by
  refine attempts_iff.mpr fun p q paired late => ?_
  have pushed : PairedProgress l σ s kept { p with scopes := p.scopes.push }
      { q with scopes := q.scopes.push } := { paired with scopes := paired.scopes.push }
  obtain ⟨later, outcome, after⟩ := attempts_iff.mp inside _ _ pushed late
  exact ⟨later, outcome, { after with scopes := after.scopes.pop }⟩

private theorem recover_attempts {x y : Render Flow}
    (inside : (progress l σ s kept).Attempts n (fun _ => Eq) (x s) (y s)) :
    (progress l σ s kept).Attempts n (fun _ => Eq) (recover x s) (recover y s) := by
  refine attempts_iff.mpr fun p q paired late => ?_
  have ran := attempts_iff.mp inside p q paired late
  rcases run : x s p with ⟨r, p'⟩
  rcases run' : y s q with ⟨r', q'⟩
  rw [run, run'] at ran
  obtain ⟨later, outcome, after⟩ := ran
  simp only [recover, run, run']
  cases outcome with
  | ok same => exact ⟨later, .ok same, after⟩
  | error e =>
    -- Mode and error are the same, so both sides go on or neither does.
    by_cases ends : (e.isFatal || decide (s.mode = .strict)) = true
    · simp only [ends, ↓reduceIte]
      exact ⟨later, .error e, after⟩
    · simp only [ends]
      exact ⟨later, .ok rfl, { after with
        out := congrArg (· ++ inlineText e) after.out
        errors := congrArg (·.push e) after.errors }⟩

private theorem captured_attempts (f : String → String) {R : Nat → α → β → Prop} {x : Render α}
    {y : Render β} (inside : (progress l σ s kept).Attempts n R (x s) (y s)) :
    (progress l σ s kept).Attempts n R (captured f x s) (captured f y s) := by
  refine attempts_iff.mpr fun p q paired late => ?_
  -- Inside nothing is written yet; behind it, what is captured goes to the end of what was.
  have emptied : PairedProgress l σ s kept { p with out := "" } { q with out := "" } :=
    { paired with out := rfl }
  have ran := attempts_iff.mp inside _ _ emptied late
  rcases run : x s { p with out := "" } with ⟨r, p'⟩
  rcases run' : y s { q with out := "" } with ⟨r', q'⟩
  rw [run, run'] at ran
  obtain ⟨later, outcome, after⟩ := ran
  simp only [captured, run, run']
  cases outcome with
  | ok related =>
    refine ⟨later, .ok related, { after with out := ?_ }⟩
    rw [paired.out, after.out]
  | error e => exact ⟨later, .error e, { after with out := paired.out }⟩

private theorem checkDeadline_attempts :
    (progress l σ s kept).Attempts n (fun _ => Eq) (checkDeadline s) (checkDeadline s) := by
  refine attempts_iff.mpr fun p q paired _ => ?_
  rw [checkDeadline_apply, checkDeadline_apply, paired.isLate_eq]
  refine ⟨Nat.le_refl _, ?_, paired.checked⟩
  dsimp only
  split
  next => exact .error _
  next => exact .ok rfl

theorem bind_attempts {γ δ : Type} {R : Nat → α → β → Prop} {Q : Nat → γ → δ → Prop}
    {x : Render α} {y : Render β} {f : α → Render γ} {g : β → Render δ}
    (first : (progress l σ s kept).Attempts n R (x s) (y s))
    (rest : ∀ k, n ≤ k → ∀ a b, R k a b → (progress l σ s kept).Attempts k Q (f a s) (g b s)) :
    (progress l σ s kept).Attempts n Q ((x >>= f) s) ((y >>= g) s) := Attempts.bind first rest

/-- Both sides go on from the same result. -/
theorem next_attempts {γ δ : Type} {Q : Nat → γ → δ → Prop} {x y : Render α}
    {f : α → Render γ} {g : α → Render δ}
    (first : (progress l σ s kept).Attempts n (fun _ => Eq) (x s) (y s))
    (rest : ∀ k, n ≤ k → ∀ a, (progress l σ s kept).Attempts k Q (f a s) (g a s)) :
    (progress l σ s kept).Attempts n Q ((x >>= f) s) ((y >>= g) s) := Attempts.next first rest

/-! ### Impartial steps -/

namespace Impartial

/-- An impartial step is so at any time. -/
theorem attempts {x : Render α} (fair : Impartial l base x) (begun : base ≤ σ.start)
    (fits : s.Fits l base σ) : (progress l σ s kept).Attempts n (fun _ => Eq) (x s) (x s) :=
  fun p q paired _ => fair σ begun s fits kept p q paired (Nat.zero_le _)

theorem pure (a : α) : Impartial l base (Pure.pure a : Render α) := fun _ _ _ _ _ => .same a

theorem throw (e : Error) : Impartial l base (MonadExcept.throw e : Render α) :=
  fun _ _ _ _ _ => .throw e

theorem bind {x : Render α} {f : α → Render β} (first : Impartial l base x)
    (rest : ∀ a, Impartial l base (f a)) : Impartial l base (x >>= f) :=
  fun _ begun _ fits _ => next_attempts (first.attempts begun fits) fun _ _ a =>
    (rest a).attempts begun fits

theorem stack {x : Render α} (inside : Impartial l base x) : Impartial l base (Render.stack x) :=
  fun _ begun _ fits _ => stack_attempts (inside.attempts begun fits)

theorem captured {x : Render α} (inside : Impartial l base x) (f : String → String) :
    Impartial l base (Render.captured f x) :=
  fun _ begun _ fits _ => captured_attempts f (inside.attempts begun fits)

theorem recover {x : Render Flow} (inside : Impartial l base x) :
    Impartial l base (Render.recover x) :=
  fun _ begun _ fits _ => recover_attempts (inside.attempts begun fits)

theorem checkDeadline : Impartial l base Render.checkDeadline := fun _ _ _ _ _ =>
  checkDeadline_attempts

theorem write (text : String) : Impartial l base (Render.write text) := fun _ _ _ _ _ =>
  write_attempts text

theorem condition (c : Condition) :
    Impartial l base (Render.eval fun env names => c.evaluate env names) :=
  fun _ begun _ fits _ => eval_attempts begun fits (c.evaluate_attempts fits.env begun)

theorem rowAttribute (row : TableRow) (key : String) : Impartial l base (row.attribute? key) := by
  unfold TableRow.attribute?
  split
  next e _ => exact fun _ begun _ fits _ =>
    eval_attempts begun fits (exposedInt_attempts fits.env begun e)
  next => exact .pure none

theorem output (v : Variable) :
    Impartial l base (do
      Render.writeValue (← Render.eval fun env names => v.evaluate env names)
      return Flow.normal) := by
  intro σ begun s fits kept
  refine bind_attempts (eval_attempts begun fits (v.evaluate_attempts fits.env begun)) ?_
  intro k _ a b held
  exact next_attempts (writeValue_attempts begun fits held) fun _ _ _ => .same _

theorem assign (name : String) (v : Variable) :
    Impartial l base (do
      Render.assign name (← Render.eval fun env names => v.evaluate env names)
      return Flow.normal) := by
  intro σ begun s fits kept
  refine bind_attempts (eval_attempts begun fits (v.evaluate_attempts fits.env begun)) ?_
  intro k _ a b held
  exact next_attempts (assign_attempts name held) fun _ _ _ => .same _

end Impartial

/-! ### Table rows -/

private theorem sound_loopInfo {nature : String → Bool} (index length column columns : Nat) :
    (TableRow.loopInfo index length column columns).Sound nature n := by
  refine soundEntries_iff.mpr ?_
  simp only [List.forall_mem_cons, sound_ofNat, Value.Sound, List.not_mem_nil, false_implies,
    implies_true, and_self]

private theorem cells_attempts (begun : base ≤ σ.start) (fits : s.Fits l base σ)
    {body : Render Flow}
    (fair : Impartial l base body) (name : String) (length columns : Nat) {items : List Value}
    (sound : SoundItems l.nature n items) (index row column : Nat) :
    (progress l σ s kept).Attempts n (fun _ => Eq)
      (TableRow.cells name length columns body index row column items s)
      (TableRow.cells name length columns body index row column (renumberedItems σ items) s) := by
  -- Over the items; the numbers of the cell and its row change on the way.
  induction items generalizing n index row column with
  | nil => exact .same ()
  | cons item rest ih =>
    unfold TableRow.cells
    refine next_attempts (set_attempts name ⟨sound.1, rfl⟩) fun k₁ late₁ _ => ?_
    refine next_attempts (set_attempts "tablerowloop" (.plain (sound_loopInfo ..)))
      fun k₂ late₂ _ => ?_
    refine next_attempts (write_attempts _) fun k₃ late₃ _ => ?_
    refine next_attempts (fair.attempts begun fits) fun k₄ late₄ flow => ?_
    refine next_attempts (write_attempts _) fun k₅ late₅ _ => ?_
    have others : SoundItems l.nature k₅ rest := sound.2.later (by omega) rest
    -- Both sides leave the loop, or both go on in the same row or the next.
    by_cases stopped : flow = .stop
    · rw [if_pos stopped, if_pos stopped]
      exact .same ()
    · rw [if_neg stopped, if_neg stopped]
      by_cases full : column + 1 = columns ∧ index + 1 ≠ length
      · rw [if_pos full, if_pos full]
        exact next_attempts (write_attempts _) fun k₆ late₆ _ =>
          ih (others.later late₆ rest) (index + 1) (row + 1) 0
      · rw [if_neg full, if_neg full]
        exact ih others (index + 1) row (column + 1)

private theorem window_renumbered (items : List Value) (offset : Nat) (limit : Option Nat) :
    TableRow.window offset limit (renumberedItems σ items) =
      renumberedItems σ (TableRow.window offset limit items) := by
  cases limit <;>
    simp only [TableRow.window, renumberedItems_eq_map, List.map_drop, List.map_take]

private theorem sound_window {nature : String → Bool} {items : List Value}
    (sound : SoundItems nature n items) (offset : Nat) (limit : Option Nat) :
    SoundItems nature n (TableRow.window offset limit items) := by
  refine soundItems_iff.mpr fun v member => soundItems_iff.mp sound v ?_
  cases limit with
  | none => exact List.mem_of_mem_drop member
  | some limit => exact List.mem_of_mem_drop (List.mem_of_mem_take member)

theorem row_impartial (row : TableRow) {body : Render Flow} (fair : Impartial l base body) :
    Impartial l base (row.render body) := by
  intro σ begun s fits kept
  unfold TableRow.render
  refine bind_attempts (eval_attempts begun fits
    (exposed_attempts fits.env begun row.collection)) ?_
  rintro k₁ - v _ ⟨sound, rfl⟩
  cases v
  case array items =>
    refine next_attempts ((Impartial.rowAttribute row "offset").attempts begun fits)
      fun k₂ late₂ offset => ?_
    refine next_attempts ((Impartial.rowAttribute row "limit").attempts begun fits)
      fun k₃ late₃ limit => ?_
    refine next_attempts ((Impartial.rowAttribute row "cols").attempts begun fits)
      fun k₄ late₄ columns => ?_
    refine next_attempts (write_attempts _) fun k₅ late₅ _ => ?_
    have later : SoundItems l.nature k₅ items := SoundItems.later (by omega) items sound
    -- The windows are cut by the same numbers, so they are as long as each other.
    rw [window_renumbered, length_renumberedItems]
    refine next_attempts (stack_attempts (cells_attempts begun fits fair row.name _ _
      (sound_window later _ _) 0 1 0)) fun _ _ _ => ?_
    exact next_attempts (write_attempts _) fun _ _ _ => .same _
  all_goals exact .same _

end Render

end Liquid
