import Liquid.Proofs.Simulation

/-!
# Frames in which nothing is bound

Every block of branches pushes a frame, but only table rows bind in the innermost one. A frame that
stays empty hides no name and takes no binding, wherever it lies.

## Main result

`stack_renderFirst`: branches in a frame of their own do what they do without it.

## Proof strategy

Two renders are compared, one of them with an empty frame more at some depth. Binding in the
innermost frame keeps both alike if that is not the empty one, which holds inside a table row, where
a frame was pushed above it.
-/

namespace Liquid

namespace Scopes

/-- The same scopes with an empty frame below so many of the inner ones. -/
def spared (depth : Nat) (s : Scopes) : Scopes :=
  { s with inner := s.inner.take depth ++ Bindings.empty :: s.inner.drop depth }

@[simp] theorem spared_zero (s : Scopes) : s.spared 0 = s.push := rfl

@[simp] theorem spared_push (depth : Nat) (s : Scopes) :
    s.push.spared (depth + 1) = (s.spared depth).push := rfl

private theorem spared_pop {depth : Nat} {s : Scopes} (deep : depth + 1 ≤ s.inner.length) :
    (s.spared (depth + 1)).pop = s.pop.spared depth := by
  obtain ⟨outermost, inner⟩ := s
  cases inner with
  | nil => simp at deep
  | cons frame rest => rfl

private theorem spared_set {depth : Nat} {s : Scopes} (deep : depth + 1 ≤ s.inner.length)
    (name : String)
    (v : Value) : (s.spared (depth + 1)).set name v = (s.set name v).spared (depth + 1) := by
  obtain ⟨outermost, inner⟩ := s
  cases inner with
  | nil => simp at deep
  | cons frame rest => rfl

private theorem getFrom?_spared (outermost : Bindings Value) (name : String)
    (frames rest : List (Bindings Value)) :
    getFrom? outermost name (frames ++ Bindings.empty :: rest) =
      getFrom? outermost name (frames ++ rest) := by
  induction frames with
  | nil => rfl
  | cons frame frames ih => simp only [List.cons_append, getFrom?, ih]

@[simp] theorem get?_spared (depth : Nat) (s : Scopes) (name : String) :
    (s.spared depth).get? name = s.get? name := by
  simp only [get?, spared, getFrom?_spared, List.take_append_drop]

end Scopes

namespace Render

/-- The same progress with an empty frame more. -/
def Progress.Spare (depth : Nat) (p q : Progress) : Prop :=
  depth ≤ p.scopes.inner.length ∧ q = { p with scopes := p.scopes.spared depth }

variable {s : Setting}

namespace Progress.Spare

variable {depth : Nat} {p q : Progress}

theorem push (spare : Spare depth p q) :
    Spare (depth + 1) { p with scopes := p.scopes.push } { q with scopes := q.scopes.push } := by
  obtain ⟨deep, rfl⟩ := spare
  exact ⟨Nat.succ_le_succ deep, rfl⟩

theorem pop (spare : Spare (depth + 1) p q) :
    Spare depth { p with scopes := p.scopes.pop } { q with scopes := q.scopes.pop } := by
  obtain ⟨deep, rfl⟩ := spare
  constructor
  · simp only [Scopes.pop, List.length_tail]
    omega
  · simp only [Scopes.spared_pop deep]

theorem set (spare : Spare (depth + 1) p q) (name : String) (v : Value) :
    Spare (depth + 1) { p with scopes := p.scopes.set name v }
      { q with scopes := q.scopes.set name v } := by
  obtain ⟨deep, rfl⟩ := spare
  constructor
  · obtain ⟨⟨outermost, inner⟩, _⟩ := p
    cases inner with
    | nil => simp at deep
    | cons frame rest => exact deep
  · simp only [Scopes.spared_set deep]

theorem report (e : Error) (spare : Spare depth p q) :
    Spare depth (Render.Progress.report p e) (Render.Progress.report q e) := by
  obtain ⟨deep, rfl⟩ := spare
  exact ⟨deep, rfl⟩

end Progress.Spare

/-- Whatever binds in the innermost frame has the empty one further out. -/
def sparing (s : Setting) : Congruence where
  Rel own _ _ R x y := ∀ depth, (own = true → 0 < depth) → ∀ p q, Progress.Spare depth p q →
    Coupled (Progress.Spare depth) R (x s p) (y s q)
  Alike := Eq
  pure related _ _ _ _ spare := .ok related spare
  bind first rest depth deep p q spare :=
    (first depth deep p q spare).bind fun a b related p q => rest a b related depth deep p q
  enter inside depth _ := inside depth nofun
  stack inside depth _ p q spare :=
    .stack Progress.Spare.pop (inside (depth + 1) (fun _ => Nat.succ_pos depth) _ _ spare.push)
  recover inside depth deep p q spare :=
    .recover rfl (fun e => Progress.Spare.report e) (inside depth deep p q spare)
  deadline depth _ p q spare := by
    obtain ⟨deep, rfl⟩ := spare
    rw [checkDeadline_apply, checkDeadline_apply]
    exact .of_eq ⟨deep, rfl⟩
  write text depth _ p q spare := .ok rfl ⟨spare.1, by rw [spare.2]⟩
  set name v w same depth deep p q spare := by
    obtain ⟨within, rfl⟩ := Nat.exists_eq_add_one.mpr (deep rfl)
    rw [same]
    exact .ok rfl (spare.set name w)
  loopInfo := loopInfo_same

variable {part : Part}

theorem sparing_keeps {α : Type} {x : Render α}
    (frame : ∀ depth p, depth ≤ p.scopes.inner.length →
      x s { p with scopes := p.scopes.spared depth } =
        ((x s p).1, { (x s p).2 with scopes := (x s p).2.scopes.spared depth }) ∧
      (x s p).2.scopes.inner = p.scopes.inner) : (sparing s).Keeps x := by
  rintro depth _ p q ⟨deep, rfl⟩
  obtain ⟨same, inner⟩ := frame depth p deep
  rw [same]
  refine .of_eq ⟨?_, rfl⟩
  rw [inner]
  exact deep

private theorem valueOf_spared (depth : Nat) (p : Progress) :
    valueOf s { p with scopes := p.scopes.spared depth } = valueOf s p := by
  funext name
  simp only [valueOf, Scopes.get?_spared]

private theorem sparing_supports (known : part ≠ .host) : (sparing s).Supports part := by
  refine Congruence.supports_of_keeps rfl (fun f => ?_) (fun v => ?_) (fun name v => ?_) known
  · refine sparing_keeps fun depth p _ => ⟨?_, rfl⟩
    simp only [eval, valueOf_spared]
    rfl
  · refine sparing_keeps fun depth p _ => ?_
    rw [writeValue_apply, writeValue_apply]
    exact ⟨rfl, rfl⟩
  · exact sparing_keeps fun depth p _ => ⟨rfl, rfl⟩

/-- What respects a spare frame is the same in a frame of its own. -/
theorem stack_of_sparing {x : Render Flow} (kept : ∀ s, (sparing s).Keeps x) : stack x = x := by
  funext s p
  have spare : Progress.Spare 0 p { p with scopes := p.scopes.push } := ⟨Nat.zero_le _, rfl⟩
  have inside := kept s 0 nofun p _ spare
  rcases run : x s { p with scopes := p.scopes.push } with ⟨r, q⟩
  rw [run] at inside
  rw [stack_apply run]
  generalize x s p = alone at inside ⊢
  cases inside with
  | ok same spare => rw [same, spare.2, Scopes.spared_zero, Scopes.pop_push]
  | error spare => rw [spare.2, Scopes.spared_zero, Scopes.pop_push]

end Render

/-- A frame of their own makes no difference to branches. -/
theorem stack_renderFirst {branches : List (Condition × List Node)}
    (known : ∀ part ∈ branchParts branches, part ≠ .host) :
    Render.stack (renderFirst branches) = renderFirst branches :=
  Render.stack_of_sparing fun s => (Render.sparing s).renderFirst_related branches
    fun part member => Render.sparing_supports (known part member)

end Liquid
