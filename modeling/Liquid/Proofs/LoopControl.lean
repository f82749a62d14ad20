import Liquid.Proofs.RowLayout

/-!
# How far loop control reaches

Leaving a loop, or its round, travels as the outcome of nodes: out of lists and branches unchanged,
up to the table row around them, where it is dropped.

## Main result

`renderAll_reached`: nodes end by a loop control just if they came to one that stands in no table
row of theirs, and the progress is the one at that moment. What stands behind it, in its list and
in the branches around it, does not matter. For a table row the control ends a cell, and the last
one if it leaves the loop; the table row itself ends as usual. At the root the render succeeds.

## Proof strategy

To have come to a loop control is a relation (`Reached`) between two lists that are the same up to
it. What it relates renders the same, by induction on the relation. That every other outcome is the
usual one is an induction over the nodes. The cells are read off their layout (`TableRow.Laid`).
-/

namespace Liquid

/-! ### Branches -/

/-- The conditions of the branches hold one after the other not. -/
inductive PassesOver (s : Setting) :
    Progress → List (Condition × List Node) → Progress → Prop where
  | none (p : Progress) : PassesOver s p [] p
  | next {p q r : Progress} {c : Condition} {branches : List (Condition × List Node)}
      (nodes : List Node) :
      Render.eval (fun env names => c.evaluate env names) s p = (.ok false, q) →
      PassesOver s q branches r → PassesOver s p ((c, nodes) :: branches) r

theorem PassesOver.renderFirst_append {s : Setting} {p q : Progress}
    {before : List (Condition × List Node)} (passes : PassesOver s p before q)
    (rest : List (Condition × List Node)) :
    renderFirst (before ++ rest) s p = renderFirst rest s q := by
  induction passes with
  | none => rfl
  | next nodes no _ ih =>
    rw [List.cons_append, renderFirst_cons_apply, no]
    exact ih

/-! ### Coming to a loop control -/

/-- Nodes come to a loop control that stands in no table row of theirs, and so do others that are
the same up to it. The progress is that at the loop control, without the frames of the branches
around it. -/
inductive Reached (s : Setting) (flow : Flow) :
    Progress → List Node → List Node → Progress → Prop where
  | here (span : Span) (name markup : String) (rest others : List Node) {p : Progress} :
      s.isLate p = false →
      Reached s flow p (.tag span name markup (.interrupt flow) :: rest)
        (.tag span name markup (.interrupt flow) :: others) (s.checked p)
  | inside {p q r last : Progress} {c : Condition} {nodes nodes' : List Node}
      {before : List (Condition × List Node)} (after after' : List (Condition × List Node))
      (span : Span) (name markup : String) (rest others : List Node) :
      s.isLate p = false →
      PassesOver s { s.checked p with scopes := p.scopes.push } before q →
      Render.eval (fun env names => c.evaluate env names) s q = (.ok true, r) →
      Reached s flow r nodes nodes' last →
      Reached s flow p
        (.tag span name markup (.branches (before ++ (c, nodes) :: after)) :: rest)
        (.tag span name markup (.branches (before ++ (c, nodes') :: after')) :: others)
        { last with scopes := last.scopes.pop }
  | later {p q last : Progress} {n : Node} {rest others : List Node} :
      s.isLate p = false → Render.recover n.render s (s.checked p) = (.ok .normal, q) →
      Reached s flow q rest others last → Reached s flow p (n :: rest) (n :: others) last

section

variable {s : Setting} {flow : Flow}

/-- A list ends with a node that does not end as usual. -/
theorem renderAll_cons_of_control (control : flow ≠ .normal) {n : Node} {p q : Progress}
    (early : s.isLate p = false) (run : n.render s (s.checked p) = (.ok flow, q))
    (rest : List Node) : renderAll (n :: rest) s p = (.ok flow, q) := by
  have recovered : Render.recover n.render s (s.checked p) = (.ok flow, q) := by
    simp only [Render.recover, run]
  rw [renderAll_cons_apply n rest s p early, recovered]
  cases flow with
  | normal => exact absurd rfl control
  | stop => rfl
  | skip => rfl

/-- What stands behind the loop control does not matter. -/
theorem Reached.renderAll_others (control : flow ≠ .normal) {p q : Progress}
    {nodes others : List Node} (reached : Reached s flow p nodes others q) :
    renderAll others s p = (.ok flow, q) := by
  induction reached with
  | here _ _ _ _ others early => exact renderAll_cons_of_control control early rfl others
  | @inside p q r last c nodes nodes' before _ after' span name markup _ others early passes holds _
      ih =>
    have chosen : renderFirst (before ++ (c, nodes') :: after') s
        { s.checked p with scopes := p.scopes.push } = (.ok flow, last) := by
      rw [passes.renderFirst_append, renderFirst_cons_apply, holds]
      exact ih
    have ended :
        (Node.tag span name markup (.branches (before ++ (c, nodes') :: after'))).render s
          (s.checked p) = (.ok flow, { last with scopes := last.scopes.pop }) := by
      rw [Node.render, Tag.render]
      exact Render.stack_apply chosen
    exact renderAll_cons_of_control control early ended others
  | later early run _ ih =>
    rw [renderAll_cons_apply _ _ s _ early, run]
    exact ih

/-! ### Nothing else ends a list early -/

/-- The step leaves no loop and no round, whatever happens inside it. -/
def EndsUsually (x : Render Flow) : Prop :=
  ∀ s p flow q, x s p = (.ok flow, q) → flow = .normal

theorem endsUsually_normal : EndsUsually (pure .normal) := by
  intro s p flow q run
  cases run
  rfl

theorem EndsUsually.behind {α : Type} (x : Render α) {f : α → Render Flow}
    (rest : ∀ a, EndsUsually (f a)) : EndsUsually (x >>= f) := by
  intro s p flow q run
  rcases first : x s p with ⟨_ | a, r⟩
  · rw [Render.bind_error first] at run
    cases run
  · rw [Render.bind_ok first] at run
    exact rest a s r flow q run

/-- A table row drops the loop control of its cells. -/
theorem TableRow.endsUsually_render (row : TableRow) (body : Render Flow) :
    EndsUsually (row.render body) := by
  rw [render_eq]
  refine .behind _ fun header => ?_
  cases header with
  | none => exact endsUsually_normal
  | some shown => exact .behind _ fun _ => .behind _ fun _ => .behind _ fun _ => endsUsually_normal

/-- No error turns into loop control. -/
theorem Render.control_of_recover (control : flow ≠ .normal) {x : Render Flow} {p q : Progress}
    (run : recover x s p = (.ok flow, q)) : x s p = (.ok flow, q) := by
  unfold recover at run
  split at run
  next after ended =>
    cases run
    exact ended
  next =>
    split at run
    next => cases run
    next =>
      cases run
      exact absurd rfl control

/-- The branch that ends by a loop control, with those that were passed over. -/
theorem exists_chosen (control : flow ≠ .normal) {branches : List (Condition × List Node)}
    {p q : Progress} (run : renderFirst branches s p = (.ok flow, q)) :
    ∃ before c nodes after passed entered, branches = before ++ (c, nodes) :: after ∧
      PassesOver s p before passed ∧
      Render.eval (fun env names => c.evaluate env names) s passed = (.ok true, entered) ∧
      renderAll nodes s entered = (.ok flow, q) := by
  induction branches generalizing p with
  | nil =>
    cases run
    exact absurd rfl control
  | cons branch rest ih =>
    obtain ⟨c, nodes⟩ := branch
    rw [renderFirst_cons_apply] at run
    split at run
    next entered holds => exact ⟨[], c, nodes, rest, p, entered, rfl, .none p, holds, run⟩
    next passed no =>
      obtain ⟨before, c', nodes', after, passed, entered, rfl, passes, found⟩ := ih run
      exact ⟨(c, nodes) :: before, c', nodes', after, passed, entered, rfl, .next nodes no passes,
        found⟩
    next => cases run

mutual

private theorem node_reached (control : flow ≠ .normal) : (n : Node) →
    (∀ part ∈ n.parts, part ≠ .host) → ∀ {p q : Progress}, s.isLate p = false →
    n.render s (s.checked p) = (.ok flow, q) → ∀ rest, Reached s flow p (n :: rest) (n :: rest) q
  | .text _ text, _, p, q, _, run, _ => by
    rw [Node.render] at run
    have usual := EndsUsually.behind (Render.write text) fun _ => endsUsually_normal
    exact absurd (usual s _ flow q run) control
  | .output _ _ v, _, p, q, _, run, _ => by
    rw [Node.render] at run
    have usual := EndsUsually.behind (Render.eval fun env names => v.evaluate env names) fun w =>
      EndsUsually.behind (Render.writeValue w) fun _ => endsUsually_normal
    exact absurd (usual s _ flow q run) control
  | .tag span name markup body, known, p, q, early, run, rest => by
    rw [Node.render] at run
    exact tag_reached control body known early run span name markup rest

private theorem tag_reached (control : flow ≠ .normal) : (t : Tag) →
    (∀ part ∈ t.parts, part ≠ .host) → ∀ {p q : Progress}, s.isLate p = false →
    t.render s (s.checked p) = (.ok flow, q) → ∀ span name markup rest,
      Reached s flow p (.tag span name markup t :: rest) (.tag span name markup t :: rest) q
  | .assign name v, _, p, q, _, run, _, _, _, _ => by
    rw [Tag.render] at run
    have usual := EndsUsually.behind (Render.eval fun env names => v.evaluate env names) fun w =>
      EndsUsually.behind (Render.assign name w) fun _ => endsUsually_normal
    exact absurd (usual s _ flow q run) control
  | .interrupt other, _, p, q, early, run, span, name, markup, rest => by
    rw [Tag.render] at run
    cases run
    exact .here span name markup rest rest early
  | .branches branches, known, p, q, early, run, span, name, markup, rest => by
    rw [Tag.render] at run
    rcases inside : renderFirst branches s { s.checked p with scopes := p.scopes.push } with
      ⟨r, last⟩
    rw [Render.stack_apply inside] at run
    cases run
    obtain ⟨before, c, nodes, after, passed, entered, split, passes, holds, ended⟩ :=
      exists_chosen control inside
    have within := branches_reached control branches known (c, nodes) (by simp [split]) ended
    rw [split]
    exact .inside after after span name markup rest rest early passes holds within
  | .tablerow row nodes, _, p, q, _, run, _, _, _, _ => by
    rw [Tag.render] at run
    exact absurd (row.endsUsually_render (renderAll nodes) s _ flow q run) control
  | .action _, known, _, _, _, _, _, _, _, _ =>
    absurd rfl (known .host (List.mem_singleton.mpr rfl))
  | .block _ _, known, _, _, _, _, _, _, _, _ => absurd rfl (known .host List.mem_cons_self)

private theorem branches_reached (control : flow ≠ .normal) :
    (branches : List (Condition × List Node)) →
    (∀ part ∈ branchParts branches, part ≠ .host) → ∀ branch ∈ branches,
    ∀ {p q : Progress}, renderAll branch.2 s p = (.ok flow, q) →
      Reached s flow p branch.2 branch.2 q
  | (c, nodes) :: rest, known, branch, member, p, q, run => by
    rcases List.mem_cons.mp member with rfl | later
    · refine all_reached control nodes (fun part inside => known part ?_) run
      exact List.mem_cons_of_mem _ (List.mem_append_left _ inside)
    · refine branches_reached control rest (fun part inside => known part ?_) branch later run
      exact List.mem_cons_of_mem _ (List.mem_append_right _ inside)

/-- Nodes that end by a loop control came to it. -/
theorem all_reached (control : flow ≠ .normal) : (nodes : List Node) →
    (∀ part ∈ allParts nodes, part ≠ .host) → ∀ {p q : Progress},
    renderAll nodes s p = (.ok flow, q) → Reached s flow p nodes nodes q
  | [], _, _, _, run => by
    cases run
    exact absurd rfl control
  | n :: rest, known, p, q, run => by
    have early : s.isLate p = false := by
      by_contra late
      rw [renderAll_cons_late n rest (Bool.not_eq_false _ ▸ late)] at run
      cases run
    rw [renderAll_cons_apply n rest s p early] at run
    have inFirst : ∀ part ∈ n.parts, part ≠ .host := fun part inside =>
      known part (List.mem_append_left _ inside)
    split at run
    next after usual =>
      exact .later early usual (all_reached control rest
        (fun part inside => known part (List.mem_append_right _ inside)) run)
    next recovered =>
      cases run
      exact node_reached control n inFirst early (Render.control_of_recover control recovered) rest
    next => cases run

end

/-! ### Cells -/

/-- After a cell that leaves the loop the table ends, and after any other the next one starts. -/
theorem TableRow.Laid.after_cell {name : String} {length columns index : Nat} {body : Render Flow}
    {items : List Value} {p last : Progress} {starts : List Progress}
    (laid : Laid name length columns body s index items p starts last) {k : Nat}
    {start r : Progress} (cell : starts[k]? = some start) (run : body s start = (.ok flow, r)) :
    (flow = .stop → starts.length = k + 1 ∧ last = r.wrote "</td>") ∧
      (flow ≠ .stop →
        starts[k + 1]? = items[k + 1]?.map (fun item =>
          enterAt name length columns (index + (k + 1)) item (r.wrote "</td>")) ∧
        (k + 1 = items.length → last = r.wrote "</td>")) := by
  induction laid generalizing k with
  | none => cases cell
  | left rest stops =>
    cases k with
    | zero =>
      cases cell
      rw [stops] at run
      cases run
      exact ⟨fun _ => ⟨rfl, rfl⟩, fun goesOn => absurd rfl goesOn⟩
    | succ k => cases cell
  | @more index item rest p q after starts flow' ended goesOn laid ih =>
    cases k with
    | zero =>
      cases cell
      rw [ended] at run
      cases run
      constructor
      · exact fun stops => absurd stops goesOn
      · intro _
        cases laid with
        | none => simp
        | left => simp
        | more => simp
    | succ k =>
      have later := ih cell
      rw [Nat.add_right_comm, Nat.add_assoc] at later
      simpa using later

end

/-! ### The innermost table row -/

/-- Loop control reaches the innermost table row around it, and without one the root. What stands
between it and there is not rendered. -/
theorem renderAll_reached {nodes : List Node} (standard : isStandard nodes = true) {flow : Flow}
    (control : flow ≠ .normal) (s : Setting) :
    (∀ p q, renderAll nodes s p = (.ok flow, q) ↔ Reached s flow p nodes nodes q) ∧
    (∀ p others q, Reached s flow p nodes others q → renderAll others s p = (.ok flow, q)) ∧
    (∀ (row : TableRow) (body : List Node) p usual q,
      (Tag.tablerow row body).render s p = (.ok usual, q) → usual = .normal) ∧
    (∀ (row : TableRow) (body : List Node) p q shown columns,
      row.header s p = (.ok (some (shown, columns)), q) →
      (∀ start ∈ row.starts (renderAll body) s p,
        ∃ flow after, renderAll body s start = (.ok flow, after)) →
      let starts := row.starts (renderAll body) s p
      ∃ last,
        (Tag.tablerow row body).render s p = (.ok .normal, TableRow.closeTable last) ∧
        (∀ before, s.checked before = p → s.isLate before = false → ∀ span name markup rest,
          renderAll (.tag span name markup (.tablerow row body) :: rest) s before =
            renderAll rest s (TableRow.closeTable last)) ∧
        ∀ k start r, starts[k]? = some start → Reached s flow start body body r →
          (flow = .stop → starts.length = k + 1 ∧ last = r.wrote "</td>") ∧
          (flow = .skip →
            starts[k + 1]? = shown[k + 1]?.map (fun item =>
              TableRow.enterAt row.name shown.length columns (k + 1) item (r.wrote "</td>")) ∧
            (k + 1 = shown.length → last = r.wrote "</td>"))) ∧
    (∀ (t : Template) data o clock store heap begun q,
      t.setting data o clock heap = (.ok s, begun) →
      Reached s flow (Template.start store begun) nodes t.document.nodes q →
      t.render data o clock store heap = (.ok ⟨q.out, q.errors⟩, q.store, q.heap)) := by
  refine ⟨fun p q => ⟨fun run => ?_, fun reached => reached.renderAll_others control⟩,
    fun p others q reached => reached.renderAll_others control,
    fun row body p usual q run => ?_, fun row body p q shown columns header ends => ?_,
    fun t data o clock store heap begun q set reached => ?_⟩
  · exact all_reached control nodes (not_host_of_isStandard standard) run
  · exact row.endsUsually_render (renderAll body) s p usual q run
  · obtain ⟨last, done, laid⟩ := TableRow.render_laid header ends
    refine ⟨last, done, ?_, fun k start r cell reached => ?_⟩
    · rintro before rfl early span name markup rest
      have ended : Render.recover (Node.tag span name markup (.tablerow row body)).render s
          (s.checked before) = (.ok .normal, TableRow.closeTable last) := by
        simp only [Render.recover, Node.render, Tag.render, done]
      rw [renderAll_cons_apply _ _ s before early, ended]
    · have within := laid.after_cell cell (reached.renderAll_others control)
      simp only [Nat.zero_add] at within
      refine ⟨within.1, fun skips => within.2 ?_⟩
      rw [skips]
      decide
  · rw [Template.render_of_setting store set, Template.result, reached.renderAll_others control]
    rfl

/-- `{% if x %}a{% break %}`, what is given, `{% endif %}`, and what is given. -/
def breakInside (inner outer : List Node) : List Node :=
  .tag ⟨0, 8⟩ "if" "x" (.branches
    [(.last (.truthy ⟨.lookup "x" [], []⟩),
      .text ⟨8, 1⟩ "a" :: .tag ⟨9, 11⟩ "break" "" (.interrupt .stop) :: inner)]) :: outer

/-- Neither what follows the loop control in its branch nor what follows the branches shows, and of
two cells only the first is there. -/
theorem renderAll_reached_breakInside :
    let entries : List (String × Value) := [("vs", .array [.int 1, .int 2]), ("x", .bool true)]
    let s : Setting :=
      ⟨Template.bareEngine.env, ⟨entries⟩, .inline, Format.plain, none, true⟩
    let p := Template.start Bindings.empty Heap.new
    let nodes := breakInside [.text ⟨20, 1⟩ "b"] [.text ⟨32, 1⟩ "c"]
    let others := breakInside [.output ⟨20, 5⟩ "y" ⟨.lookup "y" [], [⟨"none", []⟩]⟩] []
    let row : TableRow := ⟨"v", .lookup "vs" [], []⟩
    let t : Template := ⟨Template.bareEngine, "", "", ⟨others, ⟨0, 36⟩⟩, false⟩
    (∃ q, renderAll nodes s p = (.ok .stop, q) ∧ renderAll others s p = (.ok .stop, q) ∧
      t.render (.hash entries) Options.plain (.stopped 0) Bindings.empty Heap.new =
        (.ok ⟨"a", #[]⟩, q.store, q.heap)) ∧
    (row.starts (renderAll nodes) s p).length = 1 ∧
    ∃ after, (Tag.tablerow row nodes).render s p = (.ok .normal, after) ∧
      after.out = "<tr class=\"row1\">\n<td class=\"col1\">a</td></tr>\n" := by
  intro entries s p nodes others row t
  have reaches := renderAll_reached (show isStandard nodes = true from rfl)
    (show Flow.stop ≠ .normal by decide) s
  obtain ⟨ends, same, _, cells, root⟩ := reaches
  constructor
  · have frame : PassesOver s { p with scopes := p.scopes.push } []
        { p with scopes := p.scopes.push } := .none _
    let written : Progress := { p with scopes := p.scopes.push, out := "a" }
    have inside (inner inner' outer outer' : List Node) :
        Reached s .stop p (breakInside inner outer) (breakInside inner' outer') _ :=
      .inside [] [] ⟨0, 8⟩ "if" "x" outer outer' rfl frame rfl
        (.later rfl rfl (.here ⟨9, 11⟩ "break" "" inner inner' (p := written) rfl))
    exact ⟨_, (ends p _).mpr (inside _ _ _ _), same p others _ (inside _ _ _ _),
      root t (.hash entries) Options.plain (.stopped 0) Bindings.empty Heap.new Heap.new _ rfl
        (inside _ _ _ _)⟩
  · have absent (key : String) : row.Evaluates key s p none p := .absent (by simp [row])
    have asked : row.Asks s p [.int 1, .int 2] none none none p :=
      .intro (q := p) rfl (absent _) (absent _) (absent _)
    have header : row.header s p = (.ok (some ([.int 1, .int 2], 0)), p) :=
      TableRow.header_of_asks asked
    obtain ⟨start, entered⟩ : ∃ start, TableRow.enterCell row.name [Value.int 1, .int 2].length
        0 0 0 (.int 1) (TableRow.openTable p) = start := ⟨_, rfl⟩
    have first : (renderAll nodes s start).1 = .ok .stop := by
      rw [← entered]
      decide +kernel
    have run : renderAll nodes s start = (.ok .stop, (renderAll nodes s start).2) :=
      Prod.ext first rfl
    have started : row.starts (renderAll nodes) s p = [start] := by
      simp only [TableRow.starts, header, TableRow.cellStarts, entered]
      rw [run]
      rfl
    obtain ⟨last, done, _, cell⟩ := cells row nodes p p _ 0 header fun other member => by
      rw [started] at member
      rw [List.mem_singleton.mp member]
      exact ⟨_, _, run⟩
    obtain ⟨only, closed⟩ := (cell 0 start _ (by rw [started]; rfl) ((ends start _).mp run)).1 rfl
    refine ⟨only, _, done, ?_⟩
    rw [closed, ← entered]
    decide +kernel

end Liquid
