import Liquid.Proofs.Parts
import Liquid.Proofs.Steps

/-!
# What a render comes to

A template has many parts, and a render comes to some of them: not to those behind an error, a
loop control or a condition that fails, and to the parts in the body of a table row once for each
cell. A visit is a part together with the progress from which it is evaluated. The visits of a
render stand in the order in which they happen, so that laws of rendering can speak about what was
executed and not only about what is written.
-/

namespace Liquid

/-- A part that a render comes to, and the progress at that moment. -/
structure Visit where
  part : Part
  progress : Progress

/-- More output. -/
def Progress.wrote (p : Progress) (text : String) : Progress := { p with out := p.out ++ text }

theorem Progress.wrote_empty (p : Progress) : p.wrote "" = p := by
  simp [Progress.wrote]

/-! ### Table rows in steps -/

namespace TableRow

/-- The items that are shown and the number of columns, if the collection is an array. -/
def header (row : TableRow) : Render (Option (List Value × Nat)) := do
  match ← Render.eval fun env names => row.collection.exposed env names with
  | .array items =>
    let offset := ((← row.attribute? "offset").map natural).getD 0
    let limit := (← row.attribute? "limit").map natural
    let columns := ((← row.attribute? "cols").map natural).getD 0
    return some (window offset limit items, columns)
  | _ => return none

/-- Everything is evaluated before anything is written. -/
theorem render_eq (row : TableRow) (body : Render Flow) :
    row.render body = do
      match ← row.header with
      | some (shown, columns) =>
        Render.write "<tr class=\"row1\">\n"
        Render.stack (cells row.name shown.length columns body 0 1 0 shown)
        Render.write "</tr>\n"
        return .normal
      | none => return .normal := by
  unfold render header
  rw [bind_assoc]
  refine bind_congr fun v => ?_
  cases v
  case array items => simp only [bind_assoc, pure_bind]
  all_goals simp only [pure_bind]

/-- The progress from which the first cell of a table starts. -/
def openTable (p : Progress) : Progress :=
  { p.wrote "<tr class=\"row1\">\n" with scopes := p.scopes.push }

/-- The progress behind the last cell of a table that did not fail. -/
def closeTable (p : Progress) : Progress :=
  { p with scopes := p.scopes.pop }.wrote "</tr>\n"

theorem render_apply (row : TableRow) (body : Render Flow) (s : Setting) (p : Progress) :
    row.render body s p =
      match row.header s p with
      | (.error e, q) => (.error e, q)
      | (.ok none, q) => (.ok .normal, q)
      | (.ok (some (shown, columns)), q) =>
        match cells row.name shown.length columns body 0 1 0 shown s (openTable q) with
        | (.error e, r) => (.error e, { r with scopes := r.scopes.pop })
        | (.ok (), r) => (.ok .normal, closeTable r) := by
  rw [render_eq]
  rcases run : row.header s p with ⟨r, q⟩
  rcases r with e | none | ⟨shown, columns⟩
  · rw [Render.bind_error run]
  · rw [Render.bind_ok run]
    rfl
  · rw [Render.bind_ok run]
    dsimp only
    rw [Render.bind_ok (q := q.wrote "<tr class=\"row1\">\n") rfl]
    rcases inside : cells row.name shown.length columns body 0 1 0 shown s (openTable q)
      with ⟨r, after⟩
    have stacked : Render.stack (cells row.name shown.length columns body 0 1 0 shown) s
        (q.wrote "<tr class=\"row1\">\n") = (r, { after with scopes := after.scopes.pop }) :=
      Render.stack_apply inside
    cases r with
    | error e => exact Render.bind_error stacked
    | ok _ =>
      rw [Render.bind_ok stacked]
      rfl

/-- The progress from which the body of a cell starts. -/
def enterCell (name : String) (length columns index column : Nat) (item : Value) (p : Progress) :
    Progress :=
  { p with
    scopes := (p.scopes.set name item).set "tablerowloop" (loopInfo index length column columns)
    out := p.out ++ cellStart column }

theorem cells_cons_apply (name : String) (length columns : Nat) (body : Render Flow)
    (index row column : Nat) (item : Value) (rest : List Value) (s : Setting) (p : Progress) :
    cells name length columns body index row column (item :: rest) s p =
      match body s (enterCell name length columns index column item p) with
      | (.error e, q) => (.error e, q)
      | (.ok flow, q) =>
        if flow = .stop then (.ok (), q.wrote "</td>")
        else if column + 1 = columns ∧ index + 1 ≠ length then
          cells name length columns body (index + 1) (row + 1) 0 rest s
            ((q.wrote "</td>").wrote (rowBreak row))
        else
          cells name length columns body (index + 1) row (column + 1) rest s (q.wrote "</td>") := by
  rw [cells]
  -- Binding and writing cannot fail.
  change (body >>= fun flow => do
    Render.write "</td>"
    if flow = .stop then return ()
    else if column + 1 = columns ∧ index + 1 ≠ length then
      Render.write (rowBreak row)
      cells name length columns body (index + 1) (row + 1) 0 rest
    else cells name length columns body (index + 1) row (column + 1) rest) s
      (enterCell name length columns index column item p) = _
  rcases run : body s (enterCell name length columns index column item p) with ⟨r, q⟩
  cases r with
  | error e => rw [Render.bind_error run]
  | ok flow =>
    rw [Render.bind_ok run, Render.bind_ok (q := q.wrote "</td>") rfl]
    dsimp only
    by_cases stopped : flow = .stop
    · rw [if_pos stopped, if_pos stopped]
      rfl
    · rw [if_neg stopped, if_neg stopped]
      by_cases full : column + 1 = columns ∧ index + 1 ≠ length
      · rw [if_pos full, if_pos full]
        exact Render.bind_ok rfl
      · rw [if_neg full, if_neg full]

/-- The moments at which the bodies of the cells start. -/
def cellStarts (name : String) (length columns : Nat) (body : Render Flow) (s : Setting) :
    (index row column : Nat) → List Value → Progress → List Progress
  | _, _, _, [], _ => []
  | index, row, column, item :: rest, p =>
    let entered := enterCell name length columns index column item p
    entered ::
      match body s entered with
      | (.error _, _) => []
      | (.ok flow, q) =>
        if flow = .stop then []
        else if column + 1 = columns ∧ index + 1 ≠ length then
          cellStarts name length columns body s (index + 1) (row + 1) 0 rest
            ((q.wrote "</td>").wrote (rowBreak row))
        else
          cellStarts name length columns body s (index + 1) row (column + 1) rest (q.wrote "</td>")

/-- The moments at which the body of a table row starts, once for each cell. -/
def starts (row : TableRow) (body : Render Flow) (s : Setting) (p : Progress) : List Progress :=
  match row.header s p with
  | (.ok (some (shown, columns)), q) =>
    cellStarts row.name shown.length columns body s 0 1 0 shown (openTable q)
  | _ => []

end TableRow

/-- A branch is rendered if its condition holds, and passed over if not. -/
theorem renderFirst_cons_apply (c : Condition) (nodes : List Node)
    (rest : List (Condition × List Node)) (s : Setting) (p : Progress) :
    renderFirst ((c, nodes) :: rest) s p =
      match Render.eval (fun env names => c.evaluate env names) s p with
      | (.ok true, q) => renderAll nodes s q
      | (.ok false, q) => renderFirst rest s q
      | (.error e, q) => (.error e, q) := by
  rw [renderFirst]
  rcases run : Render.eval (fun env names => c.evaluate env names) s p with ⟨r, q⟩
  rcases r with e | holds
  · rw [Render.bind_error run]
  · rw [Render.bind_ok run]
    cases holds <;> rfl

/-! ### Visits -/

mutual

def Node.visits (s : Setting) (p : Progress) : Node → List Visit
  | .text _ _ => []
  | .output _ _ v => [⟨.output v, p⟩]
  | .tag _ _ _ body => body.visits s p

def Tag.visits (s : Setting) (p : Progress) : Tag → List Visit
  | .assign name v => [⟨.assign name v, p⟩]
  | .interrupt _ => []
  | .branches branches => firstVisits s { p with scopes := p.scopes.push } branches
  | .tablerow row nodes =>
    ⟨.row row, p⟩ :: (row.starts (renderAll nodes) s p).flatMap fun q => allVisits s q nodes
  | .action _ => [⟨.host, p⟩]
  | .block _ _ => [⟨.host, p⟩]

/-- Conditions are visited up to the first that holds. -/
def firstVisits (s : Setting) (p : Progress) : List (Condition × List Node) → List Visit
  | [] => []
  | (c, nodes) :: rest =>
    ⟨.condition c, p⟩ ::
      match Render.eval (fun env names => c.evaluate env names) s p with
      | (.ok true, q) => allVisits s q nodes
      | (.ok false, q) => firstVisits s q rest
      | (.error _, _) => []

/-- Nodes are visited up to the first that leaves the loop, its round, or the render. -/
def allVisits (s : Setting) (p : Progress) : List Node → List Visit
  | [] => []
  | n :: rest =>
    if s.isLate p then []
    else
      n.visits s (s.checked p) ++
        match Render.recover n.render s (s.checked p) with
        | (.ok .normal, q) => allVisits s q rest
        | _ => []

end

/-! ### What is visited stands in the template -/

mutual

private theorem node_visits (s : Setting) : (n : Node) → (p : Progress) →
    ∀ visit ∈ n.visits s p, visit.part ∈ n.parts
  | .text _ _, _, _, member => nomatch member
  | .output _ _ _, _, _, member => by
    rw [List.mem_singleton.mp member]
    exact List.mem_singleton.mpr rfl
  | .tag _ _ _ body, p, visit, member => tag_visits s body p visit member

private theorem tag_visits (s : Setting) : (t : Tag) → (p : Progress) →
    ∀ visit ∈ t.visits s p, visit.part ∈ t.parts
  | .assign _ _, _, _, member => by
    rw [List.mem_singleton.mp member]
    exact List.mem_singleton.mpr rfl
  | .interrupt _, _, _, member => nomatch member
  | .branches branches, _, visit, member => first_visits s branches _ visit member
  | .tablerow _ nodes, _, visit, member => by
    rcases List.mem_cons.mp member with rfl | inside
    · exact List.mem_cons_self
    · obtain ⟨q, _, inside⟩ := List.mem_flatMap.mp inside
      exact List.mem_cons_of_mem _ (all_visits s nodes q visit inside)
  | .action _, _, _, member => by
    rw [List.mem_singleton.mp member]
    exact List.mem_singleton.mpr rfl
  | .block _ _, _, _, member => by
    rw [List.mem_singleton.mp member]
    exact List.mem_cons_self

private theorem first_visits (s : Setting) : (branches : List (Condition × List Node)) →
    (p : Progress) → ∀ visit ∈ firstVisits s p branches, visit.part ∈ branchParts branches
  | [], _, _, member => nomatch member
  | (c, nodes) :: rest, p, visit, member => by
    rw [firstVisits] at member
    rcases List.mem_cons.mp member with rfl | inside
    · exact List.mem_cons_self
    · refine List.mem_cons_of_mem _ ?_
      split at inside
      next q _ => exact List.mem_append_left _ (all_visits s nodes q visit inside)
      next q _ => exact List.mem_append_right _ (first_visits s rest q visit inside)
      next => cases inside

theorem all_visits (s : Setting) : (nodes : List Node) → (p : Progress) →
    ∀ visit ∈ allVisits s p nodes, visit.part ∈ allParts nodes
  | [], _, _, member => nomatch member
  | n :: rest, p, visit, member => by
    rw [allVisits] at member
    split at member
    next => cases member
    next =>
      rcases List.mem_append.mp member with inside | later
      · exact List.mem_append_left _ (node_visits s n _ visit inside)
      · refine List.mem_append_right _ ?_
        split at later
        next q _ => exact all_visits s rest q visit later
        next => cases later

end

/-! ### Executed assigns -/

/-- The binding that a visited assign gives, unless its value cannot be computed. -/
def Visit.assigned? (s : Setting) : Visit → Option (String × Value)
  | ⟨.assign name v, p⟩ =>
    match Render.eval (fun env names => v.evaluate env names) s p with
    | (.ok w, _) => some (name, w)
    | (.error _, _) => none
  | _ => none

/-- The bindings that the executed assigns give, from the first to the last. -/
def assigned (s : Setting) (visits : List Visit) : List (String × Value) :=
  visits.filterMap (Visit.assigned? s)

@[simp] theorem assigned_nil (s : Setting) : assigned s [] = [] := rfl

@[simp] theorem assigned_append (s : Setting) (first later : List Visit) :
    assigned s (first ++ later) = assigned s first ++ assigned s later :=
  List.filterMap_append

end Liquid
