import Liquid.Proofs.SpareFrames
import Liquid.Proofs.Visits

/-!
# Branches within branches

A branch for the case that a condition fails can stand among the branches of its block, or in a
block of its own behind `else`. The block of its own pushes a frame more, and recovers from an error
before the outer block sees it; neither shows.

## Main result

`recovers_nested`: branches in a block behind `else` do what they do in the place of that branch,
where errors are recovered from further out.

## Proof strategy

What is rendered as a node is compared behind the recovery from its errors (`Recovers`), because a
recovered error does not come up again. The frame is spare (`stack_renderFirst`).
-/

namespace Liquid

/-- A symmetric relation between the members of two lists, the other way round. -/
theorem forall₂_swap {α : Type} {R : α → α → Prop} (symm : ∀ {a b}, R a b → R b a)
    {as bs : List α} (related : List.Forall₂ R as bs) : List.Forall₂ R bs as :=
  (related.imp fun _ _ => symm).flip

/-! ### What errors are recovered from -/

/-- Both do the same as a node of a list, where there is no deadline. -/
def Recovers (x y : Render Flow) : Prop :=
  ∀ s p, s.deadline = none → Render.recover x s p = Render.recover y s p

namespace Recovers

variable {x y z : Render Flow}

theorem refl (x : Render Flow) : Recovers x x := fun _ _ _ => rfl

theorem symm (same : Recovers x y) : Recovers y x := fun s p timeless => (same s p timeless).symm

theorem trans (first : Recovers x y) (second : Recovers y z) : Recovers x z :=
  fun s p timeless => (first s p timeless).trans (second s p timeless)

/-- An error that was recovered from does not come up again. -/
theorem recover (x : Render Flow) : Recovers (Render.recover x) x := by
  intro s p _
  rcases run : x s p with ⟨e | flow, q⟩
  · by_cases ends : (e.isFatal || decide (s.mode = .strict)) = true
    · simp [Render.recover, run, ends]
    · simp [Render.recover, run, ends]
  · simp [Render.recover, run]

end Recovers

/-- Nodes that do the same in a list, whatever their places and markups are. -/
def Node.Matches (n n' : Node) : Prop := Recovers n.render n'.render

theorem Node.Matches.symm {n n' : Node} (same : n.Matches n') : n'.Matches n := Recovers.symm same

/-- Branches with the same condition, the nodes of which do the same one by one. -/
structure BranchMatches (branch branch' : Condition × List Node) : Prop where
  condition : branch.1 = branch'.1
  nodes : List.Forall₂ Node.Matches branch.2 branch'.2

theorem BranchMatches.symm {branch branch' : Condition × List Node}
    (same : BranchMatches branch branch') : BranchMatches branch' branch :=
  ⟨same.condition.symm, forall₂_swap Node.Matches.symm same.nodes⟩

section

variable {s : Setting}

theorem renderAll_eq_of_matches (timeless : s.deadline = none) {nodes nodes' : List Node}
    (same : List.Forall₂ Node.Matches nodes nodes') : renderAll nodes s = renderAll nodes' s := by
  induction same with
  | nil => rfl
  | @cons n n' rest rest' first _ ih =>
    funext p
    have early : s.isLate p = false := Setting.isLate_of_timeless timeless
    rw [renderAll_cons_apply n rest s p early, renderAll_cons_apply n' rest' s p early,
      first s _ timeless, ih]

theorem renderFirst_eq_of_matches (timeless : s.deadline = none)
    {branches branches' : List (Condition × List Node)}
    (same : List.Forall₂ BranchMatches branches branches') :
    renderFirst branches s = renderFirst branches' s := by
  induction same with
  | nil => rfl
  | @cons branch branch' rest rest' first _ ih =>
    obtain ⟨c, nodes⟩ := branch
    obtain ⟨_, nodes'⟩ := branch'
    obtain ⟨rfl, within⟩ := first
    funext p
    simp only [renderFirst_cons_apply, renderAll_eq_of_matches timeless within, ih]

end

namespace Node.Matches

theorem of_timeless {n n' : Node} (same : ∀ s, s.deadline = none → n.render s = n'.render s) :
    n.Matches n' := by
  intro s p timeless
  rw [Render.recover, Render.recover, same s timeless]

theorem of_eq {n n' : Node} (same : n.render = n'.render) : n.Matches n' :=
  .of_timeless fun s _ => congrFun same s

/-! ### Blocks -/

variable (span span' : Span) (name name' markup markup' : String)

theorem branches {branches branches' : List (Condition × List Node)}
    (same : List.Forall₂ BranchMatches branches branches') :
    (Node.tag span name markup (.branches branches)).Matches
      (.tag span' name' markup' (.branches branches')) := by
  refine of_timeless fun s timeless => ?_
  funext p
  rw [Node.render, Node.render, Tag.render, Tag.render, Render.stack, Render.stack,
    renderFirst_eq_of_matches timeless same]

theorem tablerow (row : TableRow) {nodes nodes' : List Node}
    (same : List.Forall₂ Node.Matches nodes nodes') :
    (Node.tag span name markup (.tablerow row nodes)).Matches
      (.tag span' name' markup' (.tablerow row nodes')) := by
  refine of_timeless fun s timeless => ?_
  rw [Node.render, Node.render, Tag.render, Tag.render,
    row.render_congr (renderAll_eq_of_matches timeless same)]

end Node.Matches

/-! ### The other branches -/

/-- What comes behind a branch need only do the same where errors are recovered from. -/
theorem recovers_cons (c : Condition) {nodes nodes' : List Node}
    {more more' : List (Condition × List Node)}
    (within : List.Forall₂ Node.Matches nodes nodes')
    (behind : Recovers (renderFirst more) (renderFirst more')) :
    Recovers (renderFirst ((c, nodes) :: more)) (renderFirst ((c, nodes') :: more')) := by
  intro s p timeless
  simp only [Render.recover, renderFirst_cons_apply, renderAll_eq_of_matches timeless within]
  rcases Render.eval (fun env names => c.evaluate env names) s p with ⟨e | holds, q⟩
  · rfl
  · cases holds with
    | true => rfl
    | false => exact behind s q timeless

/-- Branches in a block behind `else`. -/
theorem recovers_nested (span : Span) (name markup : String)
    {branches : List (Condition × List Node)}
    (known : ∀ part ∈ branchParts branches, part ≠ .host) :
    Recovers (renderFirst branches)
      (renderFirst [(.last .always, [.tag span name markup (.branches branches)])]) := by
  have inside : (Node.tag span name markup (.branches branches)).render = renderFirst branches := by
    rw [Node.render, Tag.render, stack_renderFirst known]
  have behind (s : Setting) (p : Progress) (timeless : s.deadline = none) :
      renderFirst [(.last .always, [.tag span name markup (.branches branches)])] s p =
        Render.recover (renderFirst branches) s p := by
    have holds : Render.eval (fun env names => (Condition.last .always).evaluate env names) s p =
        (.ok true, p) := rfl
    rw [renderFirst_cons_apply, holds]
    dsimp only
    rw [renderAll_cons_apply _ _ s p (Setting.isLate_of_timeless timeless),
      Setting.checked_of_timeless timeless, inside]
    rcases Render.recover (renderFirst branches) s p with ⟨e | flow, q⟩
    · rfl
    · cases flow <;> rfl
  intro s p timeless
  rw [← Recovers.recover (renderFirst branches) s p timeless]
  simp only [Render.recover, behind s p timeless]

end Liquid
