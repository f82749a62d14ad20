import Liquid.Proofs.Parts
import Mathlib.Data.List.Forall2

/-!
# Comparing two renders

Many laws of rendering compare one render of a template with another: in another error mode, with
other bindings, in another environment. Each picks a relation between computations that the steps
of rendering respect. The induction over the nodes is the same for all of them and stands here: a
relation that respects the steps, and every part of a template, respects the template.
-/

namespace Liquid

/-- Collections that a table row walks in step, if it walks them at all. -/
inductive Walked (Alike : Value → Value → Prop) : Value → Value → Prop where
  | arrays {items others : List Value} :
      List.Forall₂ Alike items others → Walked Alike (.array items) (.array others)
  | neither {v w : Value} :
      (∀ items, v ≠ .array items) → (∀ items, w ≠ .array items) → Walked Alike v w

/-- Whatever is equal is walked in step. -/
theorem walked_refl (v : Value) : Walked Eq v v := by
  cases v
  case array items => exact .arrays (List.forall₂_refl items)
  all_goals exact .neither (fun _ same => nomatch same) fun _ same => nomatch same

/-- For relations that take only equal values for alike. -/
theorem loopInfo_same (index length column columns : Nat) :
    TableRow.loopInfo index length column columns =
      TableRow.loopInfo index length column columns := rfl

/-- A relation between computations that the steps of rendering respect. `own` says that the
innermost frame was pushed for the computation, which therefore may bind in it. -/
structure Congruence where
  Rel (own : Bool) {α β : Type} (R : α → β → Prop) : Render α → Render β → Prop
  /-- Values that may take each other's place as the item of a cell. -/
  Alike : Value → Value → Prop
  pure {own : Bool} {α β : Type} {R : α → β → Prop} {a : α} {b : β} :
    R a b → Rel own R (pure a) (pure b)
  bind {own : Bool} {α β γ δ : Type} {R : α → β → Prop} {S : γ → δ → Prop}
    {x : Render α} {y : Render β} {f : α → Render γ} {g : β → Render δ} :
    Rel own R x y → (∀ a b, R a b → Rel own S (f a) (g b)) → Rel own S (x >>= f) (y >>= g)
  enter {α β : Type} {R : α → β → Prop} {x : Render α} {y : Render β} :
    Rel false R x y → Rel true R x y
  stack {α β : Type} {R : α → β → Prop} {x : Render α} {y : Render β} :
    Rel true R x y → Rel false R (Render.stack x) (Render.stack y)
  recover {x y : Render Flow} :
    Rel false Eq x y → Rel false Eq (Render.recover x) (Render.recover y)
  deadline : Rel false Eq Render.checkDeadline Render.checkDeadline
  write (s : String) : Rel false Eq (Render.write s) (Render.write s)
  set (name : String) {v w : Value} :
    Alike v w → Rel true Eq (Render.set name v) (Render.set name w)
  loopInfo (index length column columns : Nat) :
    Alike (TableRow.loopInfo index length column columns)
      (TableRow.loopInfo index length column columns)

namespace Congruence

variable (C : Congruence)

/-- Related to itself: in what it gives and, as far as the relation tells, in what it does. -/
def Keeps {α : Type} (x : Render α) : Prop := C.Rel false Eq x x

def Supports : Part → Prop
  | .output v => C.Keeps do
    Render.writeValue (← Render.eval fun env names => v.evaluate env names)
    return Flow.normal
  | .assign name v => C.Keeps do
    Render.assign name (← Render.eval fun env names => v.evaluate env names)
    return Flow.normal
  | .condition c => C.Keeps (Render.eval fun env names => c.evaluate env names)
  | .row row =>
    (let collection := Render.eval fun env names => row.collection.exposed env names
     C.Rel false (Walked C.Alike) collection collection) ∧
    ∀ key, C.Keeps (row.attribute? key)
  | .host => False

variable {C}

/-- Both sides go on from the same result. -/
theorem next {own : Bool} {α γ δ : Type} {S : γ → δ → Prop} {x y : Render α}
    {f : α → Render γ} {g : α → Render δ} (first : C.Rel own Eq x y)
    (rest : ∀ a, C.Rel own S (f a) (g a)) : C.Rel own S (x >>= f) (y >>= g) :=
  C.bind first fun a _ same => same ▸ rest a

/-- Where only equal values are alike, a part is supported if what it evaluates is kept, and so are
writing and assigning the result. -/
theorem supports_of_evaluated (alike : C.Alike = Eq)
    (evaluated : ∀ v : Variable, C.Keeps (Render.eval fun env names => v.evaluate env names))
    (asked : ∀ c : Condition, C.Keeps (Render.eval fun env names => c.evaluate env names))
    (exposed : ∀ e : Expr, C.Keeps (Render.eval fun env names => e.exposed env names))
    (number : ∀ e : Expr,
      C.Keeps (Render.eval fun env names => do (← e.exposed env names).readInt?))
    (write : ∀ v, C.Keeps (Render.writeValue v))
    (assign : ∀ name v, C.Keeps (Render.assign name v))
    {part : Part} (known : part ≠ .host) : C.Supports part := by
  cases part with
  | output v => exact next (evaluated v) fun v => next (write v) fun _ => C.pure rfl
  | assign name v => exact next (evaluated v) fun v => next (assign name v) fun _ => C.pure rfl
  | condition c => exact asked c
  | row row =>
    constructor
    · have collection := next (exposed row.collection)
        fun v => C.pure (R := Walked C.Alike) (alike ▸ walked_refl v)
      simpa only [bind_pure] using collection
    · intro key
      unfold TableRow.attribute?
      split
      next e _ => exact number e
      next => exact C.pure rfl
  | host => exact absurd rfl known

/-- Where only equal values are alike, evaluating, writing and assigning is all there is to a part.
-/
theorem supports_of_keeps (alike : C.Alike = Eq)
    (eval : ∀ {α : Type} (f : Environment → (String → Value) → Eval α), C.Keeps (Render.eval f))
    (write : ∀ v, C.Keeps (Render.writeValue v))
    (assign : ∀ name v, C.Keeps (Render.assign name v))
    {part : Part} (known : part ≠ .host) : C.Supports part :=
  supports_of_evaluated alike (fun _ => eval _) (fun _ => eval _) (fun _ => eval _)
    (fun _ => eval _) write assign known

/-! ### Table rows -/

private theorem cells_related {x y : Render Flow} (body : C.Rel false Eq x y) (name : String)
    (length columns : Nat) {items others : List Value} (alike : List.Forall₂ C.Alike items others)
    (index row column : Nat) :
    C.Rel true Eq (TableRow.cells name length columns x index row column items)
      (TableRow.cells name length columns y index row column others) := by
  -- Over the items; the numbers of the cell and its row change on the way.
  induction alike generalizing index row column with
  | nil => exact C.pure rfl
  | cons item _ ih =>
    unfold TableRow.cells
    apply next (C.set name item)
    intro _
    apply next (C.set "tablerowloop" (C.loopInfo index length column columns))
    intro _
    apply next (C.enter (C.write _))
    intro _
    apply next (C.enter body)
    intro flow
    apply next (C.enter (C.write _))
    intro _
    -- Both sides leave the loop, or both go on in the same row or the next.
    by_cases stopped : flow = .stop
    · rw [if_pos stopped, if_pos stopped]
      exact C.pure rfl
    · rw [if_neg stopped, if_neg stopped]
      by_cases full : column + 1 = columns ∧ index + 1 ≠ length
      · rw [if_pos full, if_pos full]
        exact next (C.enter (C.write _)) fun _ => ih (index + 1) (row + 1) 0
      · rw [if_neg full, if_neg full]
        exact ih (index + 1) row (column + 1)

theorem window_alike {Alike : Value → Value → Prop} {items others : List Value}
    (alike : List.Forall₂ Alike items others) (offset : Nat) (limit : Option Nat) :
    List.Forall₂ Alike (TableRow.window offset limit items)
      (TableRow.window offset limit others) := by
  have dropped := List.forall₂_drop offset alike
  cases limit with
  | none => exact dropped
  | some limit => exact List.forall₂_take limit dropped

theorem row_related {row : TableRow} (supported : C.Supports (.row row)) {x y : Render Flow}
    (body : C.Rel false Eq x y) : C.Rel false Eq (row.render x) (row.render y) := by
  obtain ⟨collection, attributes⟩ := supported
  unfold TableRow.render
  refine C.bind collection fun v w walked => ?_
  cases walked with
  | arrays alike =>
    refine next (attributes "offset") fun offset => ?_
    refine next (attributes "limit") fun limit => ?_
    refine next (attributes "cols") fun columns => ?_
    refine next (C.write _) fun _ => ?_
    -- The windows are cut by the same numbers, so they are as long as each other.
    have shown := window_alike alike ((offset.map TableRow.natural).getD 0)
      (limit.map TableRow.natural)
    rw [shown.length_eq]
    refine next (C.stack (cells_related body _ _ _ shown 0 1 0)) fun _ => ?_
    exact next (C.write _) fun _ => C.pure rfl
  | neither left right =>
    split
    next items => exact absurd rfl (left items)
    next => exact C.pure rfl

/-! ### Nodes -/

mutual

private theorem node_related : (n : Node) → (∀ part ∈ n.parts, C.Supports part) → C.Keeps n.render
  | .text _ s, _ => next (C.write s) fun _ => C.pure rfl
  | .output _ _ v, supported => supported (.output v) (List.mem_singleton.mpr rfl)
  | .tag _ _ _ body, supported => tag_related body supported

private theorem tag_related : (t : Tag) → (∀ part ∈ t.parts, C.Supports part) → C.Keeps t.render
  | .assign name v, supported => supported (.assign name v) (List.mem_singleton.mpr rfl)
  | .interrupt _, _ => C.pure rfl
  | .branches branches, supported => C.stack (C.enter (renderFirst_related branches supported))
  | .tablerow row nodes, supported =>
    row_related (supported (.row row) List.mem_cons_self)
      (renderAll_related nodes fun part member => supported part (List.mem_cons_of_mem _ member))
  | .action _, supported => (supported .host (List.mem_singleton.mpr rfl)).elim
  | .block _ _, supported => (supported .host List.mem_cons_self).elim

theorem renderFirst_related : (branches : List (Condition × List Node)) →
    (∀ part ∈ branchParts branches, C.Supports part) → C.Keeps (renderFirst branches)
  | [], _ => C.pure rfl
  | (c, nodes) :: rest, supported => by
    unfold Keeps renderFirst
    have body := renderAll_related nodes fun part member =>
      supported part (List.mem_cons_of_mem _ (List.mem_append_left _ member))
    have others := renderFirst_related rest fun part member =>
      supported part (List.mem_cons_of_mem _ (List.mem_append_right _ member))
    refine next (supported (.condition c) List.mem_cons_self) fun holds => ?_
    cases holds with
    | true => exact body
    | false => exact others

theorem renderAll_related : (nodes : List Node) →
    (∀ part ∈ allParts nodes, C.Supports part) → C.Keeps (renderAll nodes)
  | [], _ => C.pure rfl
  | n :: rest, supported => by
    unfold Keeps renderAll
    have first := node_related n fun part member => supported part (List.mem_append_left _ member)
    have others := renderAll_related rest fun part member =>
      supported part (List.mem_append_right _ member)
    refine next C.deadline fun _ => next (C.recover first) fun flow => ?_
    cases flow with
    | normal => exact others
    | stop => exact C.pure rfl
    | skip => exact C.pure rfl

end

end Congruence

end Liquid
