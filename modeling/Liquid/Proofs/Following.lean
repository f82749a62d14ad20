import Liquid.Proofs.Simulation
import Liquid.Proofs.Visits

/-!
# Simulations along a render

A simulation may hold of one render and not of another one of the same template, because it depends
on the values that the parts come to. Then it is enough that it holds at every visit of the render
on the left. The render on the right visits the same parts.
-/

namespace Liquid

/-- What both sides show of a table: as many items, alike, in as many columns. -/
def TableRow.Shown (Alike : Value → Value → Prop) :
    Option (List Value × Nat) → Option (List Value × Nat) → Prop :=
  Option.Rel fun a b => List.Forall₂ Alike a.1 b.1 ∧ a.2 = b.2

namespace Simulation

variable {left right : Setting} (S : Simulation left right) {p q : Progress}

/-- Both sides go through this visit alike. -/
def Supports : Visit → Prop
  | ⟨.output v, p⟩ => ∀ q, S.Sim p q →
    let step : Render Flow := do
      Render.writeValue (← Render.eval fun env names => v.evaluate env names)
      return .normal
    Coupled S.Sim Eq (step left p) (step right q)
  | ⟨.assign name v, p⟩ => ∀ q, S.Sim p q →
    Coupled S.Sim Eq ((Tag.assign name v).render left p) ((Tag.assign name v).render right q)
  | ⟨.condition c, p⟩ => ∀ q, S.Sim p q →
    let step := Render.eval fun env names => c.evaluate env names
    Coupled S.Sim Eq (step left p) (step right q)
  | ⟨.row row, p⟩ => ∀ q, S.Sim p q →
    Coupled S.Sim (TableRow.Shown S.Alike) (row.header left p) (row.header right q)
  | ⟨.host, _⟩ => False

/-! ### Table rows -/

theorem enterCell (name : String) (length columns index column : Nat) {item other : Value}
    (alike : S.Alike item other) (sim : S.Sim p q) :
    S.Sim (TableRow.enterCell name length columns index column item p)
      (TableRow.enterCell name length columns index column other q) :=
  S.write _ (S.set "tablerowloop" (S.loopInfo index length column columns) (S.set name alike sim))

private theorem cells_follow {body : Render Flow} (name : String) (length columns : Nat)
    {items others : List Value} (alike : List.Forall₂ S.Alike items others)
    (index row column : Nat) (sim : S.Sim p q)
    (inside : ∀ p' ∈ TableRow.cellStarts name length columns body left index row column items p,
      ∀ q', S.Sim p' q' → Coupled S.Sim Eq (body left p') (body right q')) :
    Coupled S.Sim Eq
      (TableRow.cells name length columns body index row column items left p)
      (TableRow.cells name length columns body index row column others right q) := by
  -- Over the items: where the cells of the rest start depends on how this cell ends.
  induction alike generalizing index row column p q with
  | nil => exact .ok rfl sim
  | @cons item other rest _ first _ ih =>
    rw [TableRow.cells_cons_apply, TableRow.cells_cons_apply]
    rw [TableRow.cellStarts] at inside
    have entered := S.enterCell name length columns index column first sim
    have cell := inside _ List.mem_cons_self _ entered
    have later := fun p' member => inside p' (List.mem_cons_of_mem _ member)
    generalize body left (TableRow.enterCell name length columns index column item p) = o
      at cell later
    generalize body right (TableRow.enterCell name length columns index column other q) = o'
      at cell
    cases cell with
    | error sim => exact .error sim
    | @ok flow _ p q same sim =>
      -- Both cells end with one flow, so both sides stop here or none does.
      subst same
      dsimp only at later ⊢
      have ended := S.write "</td>" sim
      by_cases stopped : flow = .stop
      · rw [if_pos stopped, if_pos stopped]
        exact .ok rfl ended
      · rw [if_neg stopped] at later
        rw [if_neg stopped, if_neg stopped]
        by_cases full : column + 1 = columns ∧ index + 1 ≠ length
        · rw [if_pos full] at later
          rw [if_pos full, if_pos full]
          exact ih _ _ _ (S.write (TableRow.rowBreak row) ended) later
        · rw [if_neg full] at later
          rw [if_neg full, if_neg full]
          exact ih _ _ _ ended later

private theorem row_follows {row : TableRow} {body : Render Flow}
    (supported : S.Supports ⟨.row row, p⟩)
    (inside : ∀ p' ∈ row.starts body left p,
      ∀ q', S.Sim p' q' → Coupled S.Sim Eq (body left p') (body right q'))
    (sim : S.Sim p q) :
    Coupled S.Sim Eq (row.render body left p) (row.render body right q) := by
  have header := supported q sim
  rw [TableRow.render_apply, TableRow.render_apply]
  rw [TableRow.starts] at inside
  generalize row.header left p = o at header inside
  generalize row.header right q = o' at header
  cases header with
  | error sim => exact .error sim
  | @ok shown others p q related sim =>
    cases related with
    | none => exact .ok rfl sim
    | @some a b both =>
      obtain ⟨items, columns⟩ := a
      obtain ⟨others, columns'⟩ := b
      obtain ⟨alike, same⟩ := both
      dsimp only at alike same inside ⊢
      subst same
      rw [alike.length_eq] at inside ⊢
      have opened : S.Sim (TableRow.openTable p) (TableRow.openTable q) :=
        S.push (S.write "<tr class=\"row1\">\n" sim)
      have cells := S.cells_follow row.name others.length columns alike 0 1 0 opened inside
      generalize TableRow.cells row.name others.length columns body 0 1 0 items left
        (TableRow.openTable p) = o at cells
      generalize TableRow.cells row.name others.length columns body 0 1 0 others right
        (TableRow.openTable q) = o' at cells
      cases cells with
      | error sim => exact .error (S.pop sim)
      | ok _ sim => exact .ok rfl (S.write "</tr>\n" (S.pop sim))

/-! ### Nodes -/

mutual

private theorem node_follows : (n : Node) → (p q : Progress) → S.Sim p q →
    (∀ visit ∈ n.visits left p, S.Supports visit) →
    Coupled S.Sim Eq (n.render left p) (n.render right q)
  | .text _ s, _, _, sim, _ => .ok rfl (S.write s sim)
  | .output _ _ v, p, q, sim, supported =>
    supported ⟨.output v, p⟩ (List.mem_singleton.mpr rfl) q sim
  | .tag _ _ _ body, p, q, sim, supported => tag_follows body p q sim supported

private theorem tag_follows : (t : Tag) → (p q : Progress) → S.Sim p q →
    (∀ visit ∈ t.visits left p, S.Supports visit) →
    Coupled S.Sim Eq (t.render left p) (t.render right q)
  | .assign name v, p, q, sim, supported =>
    supported ⟨.assign name v, p⟩ (List.mem_singleton.mpr rfl) q sim
  | .interrupt _, _, _, sim, _ => .ok rfl sim
  | .branches branches, _, _, sim, supported =>
    .stack S.pop (renderFirst_follows branches _ _ (S.push sim) supported)
  | .tablerow row nodes, p, q, sim, supported => by
    refine S.row_follows (supported _ List.mem_cons_self) (fun p' start q' sim' => ?_) sim
    exact renderAll_follows nodes p' q' sim' fun visit member =>
      supported visit (List.mem_cons_of_mem _ (List.mem_flatMap.mpr ⟨p', start, member⟩))
  | .action _, _, _, _, supported => (supported _ (List.mem_singleton.mpr rfl)).elim
  | .block _ _, _, _, _, supported => (supported _ (List.mem_singleton.mpr rfl)).elim

private theorem renderFirst_follows : (branches : List (Condition × List Node)) → (p q : Progress) →
    S.Sim p q → (∀ visit ∈ firstVisits left p branches, S.Supports visit) →
    Coupled S.Sim Eq (renderFirst branches left p) (renderFirst branches right q)
  | [], _, _, sim, _ => .ok rfl sim
  | (c, nodes) :: rest, p, q, sim, supported => by
    rw [firstVisits] at supported
    rw [renderFirst_cons_apply, renderFirst_cons_apply]
    have asked := supported _ List.mem_cons_self q sim
    have later := fun visit member => supported visit (List.mem_cons_of_mem _ member)
    dsimp only at asked
    generalize Render.eval (fun env names => c.evaluate env names) left p = o at asked later
    generalize Render.eval (fun env names => c.evaluate env names) right q = o' at asked
    cases asked with
    | error sim => exact .error sim
    | @ok holds _ p q same sim =>
      subst same
      cases holds with
      | true => exact renderAll_follows nodes p q sim later
      | false => exact renderFirst_follows rest p q sim later

theorem renderAll_follows : (nodes : List Node) → (p q : Progress) → S.Sim p q →
    (∀ visit ∈ allVisits left p nodes, S.Supports visit) →
    Coupled S.Sim Eq (renderAll nodes left p) (renderAll nodes right q)
  | [], _, _, sim, _ => .ok rfl sim
  | n :: rest, p, q, sim, supported => by
    rw [allVisits] at supported
    have other := S.isLate_eq sim
    cases late : left.isLate p with
    | true =>
      rw [renderAll_cons_late n rest late, renderAll_cons_late n rest (other.symm.trans late)]
      exact .error (S.check sim)
    | false =>
      rw [renderAll_cons_apply n rest left p late,
        renderAll_cons_apply n rest right q (other.symm.trans late)]
      simp only [late, Bool.false_eq_true, if_false] at supported
      have node := node_follows n _ _ (S.check sim) fun visit member =>
        supported visit (List.mem_append_left _ member)
      have first := Coupled.recover S.mode S.report node
      have later := fun visit member => supported visit (List.mem_append_right _ member)
      generalize Render.recover n.render left (left.checked p) = o at first later
      generalize Render.recover n.render right (right.checked q) = o' at first
      cases first with
      | error sim => exact .error sim
      | @ok flow _ p q same sim =>
        subst same
        cases flow with
        | normal => exact renderAll_follows rest p q sim later
        | stop => exact .ok rfl sim
        | skip => exact .ok rfl sim

end

end Simulation

end Liquid
