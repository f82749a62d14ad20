import Liquid.Proofs.Visits

/-!
# What a render leaves behind

Blocks push frames and pop them again, on every way out. What is left of a render are its assigns,
in the outermost frame and, if assigns last, in the store.

## Main result

`renderAll_leaves_scopes`: however a list of nodes ends, the frames are as many as before, all but
the outermost bind what they bound before, the outermost is overlaid with the bindings that the
executed assigns gave, all other names stand for what they stood for, and the recorded errors have
only grown at their end.

## Proof strategy

What a run leaves (`Leaves`) composes along its visits. Within a pushed frame the innermost frame
may change, and popping it takes that change away.
-/

namespace Liquid

/-- What a run with these visits makes of scopes, store and errors; the frames from the innermost
up to `own` may hold anything. -/
structure Leaves (own : Nat) (s : Setting) (visits : List Visit) (p q : Progress) : Prop where
  depth : q.scopes.depth = p.scopes.depth
  inner : q.scopes.inner.drop own = p.scopes.inner.drop own
  outermost : q.scopes.outermost = p.scopes.outermost.overlay ⟨assigned s visits⟩
  store : q.store = if s.persists then p.store.overlay ⟨assigned s visits⟩ else p.store
  errors : ∃ added, q.errors.toList = p.errors.toList ++ added

namespace Leaves

variable {own : Nat} {s : Setting} {visits later : List Visit} {p q r : Progress}

/-- Neither scopes nor store nor errors were touched. -/
theorem of_eq (scopes : q.scopes = p.scopes) (store : q.store = p.store)
    (errors : q.errors = p.errors) : Leaves own s [] p q where
  depth := by rw [scopes]
  inner := by rw [scopes]
  outermost := by rw [scopes]; rfl
  store := by rw [store]; cases s.persists <;> rfl
  errors := ⟨[], by rw [errors, List.append_nil]⟩

theorem refl : Leaves own s [] p p := of_eq rfl rfl rfl

theorem trans (first : Leaves own s visits p q) (rest : Leaves own s later q r) :
    Leaves own s (visits ++ later) p r where
  depth := rest.depth.trans first.depth
  inner := rest.inner.trans first.inner
  outermost := by
    rw [rest.outermost, first.outermost, assigned_append, Bindings.overlay_append]
  store := by
    rw [rest.store, first.store, assigned_append, Bindings.overlay_append]
    cases s.persists <;> rfl
  errors := by
    obtain ⟨added, first⟩ := first.errors
    obtain ⟨more, rest⟩ := rest.errors
    exact ⟨added ++ more, by rw [rest, first, List.append_assoc]⟩

theorem wrote (leaves : Leaves own s visits p q) (text : String) :
    Leaves own s visits p (q.wrote text) := { leaves with }

/-- Checking the deadline leaves nothing. -/
theorem behind_check (leaves : Leaves own s visits (s.checked p) q) : Leaves own s visits p q :=
  { leaves with }

/-- Only the assigns among the visits count. -/
theorem congr (leaves : Leaves own s visits p q) (same : assigned s later = assigned s visits) :
    Leaves own s later p q where
  depth := leaves.depth
  inner := leaves.inner
  outermost := by rw [same]; exact leaves.outermost
  store := by rw [same]; exact leaves.store
  errors := leaves.errors

private theorem own_of_none (leaves : Leaves 0 s visits p q) : Leaves own s visits p q :=
  { leaves with inner := by rw [show q.scopes.inner = p.scopes.inner from leaves.inner] }

theorem popped (leaves : Leaves 1 s visits { p with scopes := p.scopes.push } q) :
    Leaves 0 s visits p { q with scopes := q.scopes.pop } := by
  have inner : q.scopes.inner.tail = p.scopes.inner := by
    simpa [Scopes.push] using leaves.inner
  exact {
    depth := congrArg (fun frames => frames.length + 1) inner
    inner := inner
    outermost := leaves.outermost
    store := leaves.store
    errors := leaves.errors }

end Leaves

namespace Render

/-- Changes nothing but the heap. -/
def Reads {α : Type} (x : Render α) : Prop := ∀ s p, ∃ heap, (x s p).2 = { p with heap }

theorem reads_eval {α : Type} (f : Environment → (String → Value) → Eval α) : Reads (eval f) :=
  fun _ _ => ⟨_, rfl⟩

theorem reads_pure {α : Type} (a : α) : Reads (pure a : Render α) := fun _ p => ⟨p.heap, rfl⟩

theorem reads_bind {α β : Type} {x : Render α} {f : α → Render β} (first : Reads x)
    (rest : ∀ a, Reads (f a)) : Reads (x >>= f) := by
  intro s p
  obtain ⟨heap, same⟩ := first s p
  rcases run : x s p with ⟨r, q⟩
  rw [run] at same
  cases same
  cases r with
  | error e =>
    rw [bind_error run]
    exact ⟨heap, rfl⟩
  | ok a =>
    rw [bind_ok run]
    exact rest a s { p with heap }

theorem reads_attribute (row : TableRow) (key : String) : Reads (row.attribute? key) := by
  unfold TableRow.attribute?
  split
  next => exact reads_eval _
  next => exact reads_pure none

theorem reads_header (row : TableRow) : Reads row.header := by
  refine reads_bind (reads_eval _) fun v => ?_
  cases v
  case array items =>
    exact reads_bind (reads_attribute row _) fun _ => reads_bind (reads_attribute row _) fun _ =>
      reads_bind (reads_attribute row _) fun _ => reads_pure _
  all_goals exact reads_pure none

theorem Reads.leaves {α : Type} {x : Render α} (reads : Reads x) (own : Nat) (s : Setting)
    (p : Progress) : Leaves own s [] p (x s p).2 := by
  obtain ⟨heap, same⟩ := reads s p
  rw [same]
  exact .of_eq rfl rfl rfl

end Render

/-! ### Table rows -/

namespace TableRow

variable {s : Setting} {body : Render Flow} {visits : Progress → List Visit}

/-- Cells bind in the frame that was pushed for them. -/
theorem enterCell_leaves (name : String) (length columns index column : Nat) (item : Value)
    {p : Progress} (pushed : 1 < p.scopes.depth) :
    Leaves 1 s [] p (enterCell name length columns index column item p) := by
  obtain ⟨⟨outermost, inner⟩, store, errors, out, heap⟩ := p
  cases inner with
  | nil => exact absurd pushed (Nat.lt_irrefl 1)
  | cons frame rest =>
    exact {
      depth := rfl
      inner := rfl
      outermost := rfl
      store := by cases s.persists <;> rfl
      errors := ⟨[], (List.append_nil _).symm⟩ }

private theorem cells_leaves (inside : ∀ p, Leaves 0 s (visits p) p (body s p).2) (name : String)
    (length columns : Nat) (items : List Value) (index row column : Nat) {p : Progress}
    (pushed : 1 < p.scopes.depth) :
    Leaves 1 s
      ((cellStarts name length columns body s index row column items p).flatMap visits) p
      (cells name length columns body index row column items s p).2 := by
  -- Over the items; each cell starts where the one before it ended.
  induction items generalizing index row column p with
  | nil => exact .refl
  | cons item rest ih =>
    rw [cells_cons_apply, cellStarts]
    have cell := (enterCell_leaves (s := s) name length columns index column item pushed).trans
      (inside (enterCell name length columns index column item p)).own_of_none
    rw [List.nil_append] at cell
    rcases run : body s (enterCell name length columns index column item p) with ⟨r, q⟩
    rw [run] at cell
    dsimp only at cell ⊢
    rw [List.flatMap_cons]
    cases r with
    | error e =>
      dsimp only
      rw [List.flatMap_nil, List.append_nil]
      exact cell
    | ok flow =>
      dsimp only
      have ended := cell.wrote "</td>"
      have still : 1 < q.scopes.depth := by rw [cell.depth]; exact pushed
      by_cases stopped : flow = .stop
      · rw [if_pos stopped, if_pos stopped, List.flatMap_nil, List.append_nil]
        exact ended
      · rw [if_neg stopped, if_neg stopped]
        by_cases full : column + 1 = columns ∧ index + 1 ≠ length
        · rw [if_pos full, if_pos full]
          exact (ended.wrote (rowBreak row)).trans (ih _ _ _ still)
        · rw [if_neg full, if_neg full]
          exact ended.trans (ih _ _ _ still)

private theorem render_leaves (row : TableRow) (inside : ∀ p, Leaves 0 s (visits p) p (body s p).2)
    (p : Progress) :
    Leaves 0 s ((row.starts body s p).flatMap visits) p (row.render body s p).2 := by
  have header := (Render.reads_header row).leaves 0 s p
  rw [render_apply, starts]
  rcases run : row.header s p with ⟨r, q⟩
  rw [run] at header
  rcases r with e | none | ⟨shown, columns⟩
  · exact header
  · exact header
  · have opened : Leaves 0 s [] p (q.wrote "<tr class=\"row1\">\n") := header.wrote _
    have pushed : 1 < (openTable q).scopes.depth := Nat.succ_lt_succ (Scopes.depth_pos q.scopes)
    have within := (cells_leaves inside row.name shown.length columns shown 0 1 0 pushed).popped
      (p := q.wrote "<tr class=\"row1\">\n")
    have table := opened.trans within
    dsimp only
    rcases inner : cells row.name shown.length columns body 0 1 0 shown s (openTable q)
      with ⟨r, after⟩
    rw [inner] at table
    cases r with
    | error e => exact table
    | ok _ => exact table.wrote _

end TableRow

/-! ### Nodes -/

private theorem recover_leaves {s : Setting} {visits : List Visit} {x : Render Flow} {p : Progress}
    (inside : Leaves 0 s visits p (x s p).2) :
    Leaves 0 s visits p (Render.recover x s p).2 := by
  unfold Render.recover
  rcases run : x s p with ⟨r, q⟩
  rw [run] at inside
  rcases r with e | flow
  · dsimp only
    split
    next => exact inside
    next =>
      obtain ⟨added, grown⟩ := inside.errors
      dsimp only at grown
      exact { inside with errors := ⟨added ++ [e], by simp [Render.Progress.report, grown]⟩ }
  · exact inside

private theorem assign_leaves (name : String) (v : Variable) (s : Setting) (p : Progress) :
    Leaves 0 s [⟨.assign name v, p⟩] p ((Tag.assign name v).render s p).2 := by
  have reads := (Render.reads_eval fun env names => v.evaluate env names).leaves 0 s p
  rw [Tag.render]
  rcases run : Render.eval (fun env names => v.evaluate env names) s p with ⟨r, q⟩
  rw [run] at reads
  rcases r with e | w
  · rw [Render.bind_error run]
    exact reads.congr (by simp [assigned, Visit.assigned?, run])
  · have given : assigned s [⟨.assign name v, p⟩] = [(name, w)] := by
      simp [assigned, Visit.assigned?, run]
    rw [Render.bind_ok run]
    have bound : Leaves 0 s [⟨.assign name v, p⟩] q
        { q with
          scopes := q.scopes.assign name w
          store := if s.persists then q.store.insert name w else q.store } := {
      depth := rfl
      inner := rfl
      outermost := by rw [given]; rfl
      store := by rw [given]; rfl
      errors := ⟨[], (List.append_nil _).symm⟩ }
    exact reads.trans bound

mutual

private theorem node_leaves (s : Setting) : (n : Node) → (∀ part ∈ n.parts, part ≠ .host) →
    (p : Progress) → Leaves 0 s (n.visits s p) p (n.render s p).2
  | .text _ _, _, _ => Leaves.refl.wrote _
  | .output _ _ v, _, p => by
    have reads := (Render.reads_eval fun env names => v.evaluate env names).leaves 0 s p
    rw [Node.render, Node.visits]
    rcases run : Render.eval (fun env names => v.evaluate env names) s p with ⟨r, q⟩
    rw [run] at reads
    rcases r with e | w
    · rw [Render.bind_error run]
      exact reads.congr rfl
    · rw [Render.bind_ok run, Render.bind_ok (Render.writeValue_apply w s q)]
      have written : Leaves 0 s [] p { q with
          out := q.out ++ (s.env.output s.format w q.heap).1
          heap := (s.env.output s.format w q.heap).2 } := { reads with }
      exact written.congr rfl
  | .tag _ _ _ body, known, p => tag_leaves s body known p

private theorem tag_leaves (s : Setting) : (t : Tag) → (∀ part ∈ t.parts, part ≠ .host) →
    (p : Progress) → Leaves 0 s (t.visits s p) p (t.render s p).2
  | .assign name v, _, p => assign_leaves name v s p
  | .interrupt _, _, _ => .refl
  | .branches branches, known, p =>
    (renderFirst_leaves s branches known { p with scopes := p.scopes.push }).own_of_none.popped
  | .tablerow row nodes, known, p => by
    have body := renderAll_leaves s nodes fun part member =>
      known part (List.mem_cons_of_mem _ member)
    exact (TableRow.render_leaves row body p).congr rfl
  | .action _, known, _ => absurd rfl (known .host (List.mem_singleton.mpr rfl))
  | .block _ _, known, _ => absurd rfl (known .host List.mem_cons_self)

private theorem renderFirst_leaves (s : Setting) : (branches : List (Condition × List Node)) →
    (∀ part ∈ branchParts branches, part ≠ .host) →
    (p : Progress) → Leaves 0 s (firstVisits s p branches) p (renderFirst branches s p).2
  | [], _, _ => .refl
  | (c, nodes) :: rest, known, p => by
    have body := renderAll_leaves s nodes fun part member =>
      known part (List.mem_cons_of_mem _ (List.mem_append_left _ member))
    have others := renderFirst_leaves s rest fun part member =>
      known part (List.mem_cons_of_mem _ (List.mem_append_right _ member))
    have reads := (Render.reads_eval fun env names => c.evaluate env names).leaves 0 s p
    rw [renderFirst_cons_apply, firstVisits]
    rcases run : Render.eval (fun env names => c.evaluate env names) s p with ⟨r, q⟩
    rw [run] at reads
    rcases r with e | holds
    · exact reads.congr rfl
    · cases holds with
      | true => exact (reads.trans (body q)).congr rfl
      | false => exact (reads.trans (others q)).congr rfl

theorem renderAll_leaves (s : Setting) : (nodes : List Node) →
    (∀ part ∈ allParts nodes, part ≠ .host) →
    (p : Progress) → Leaves 0 s (allVisits s p nodes) p (renderAll nodes s p).2
  | [], _, _ => .refl
  | n :: rest, known, p => by
    have first := node_leaves s n fun part member => known part (List.mem_append_left _ member)
    have others := renderAll_leaves s rest fun part member =>
      known part (List.mem_append_right _ member)
    rw [allVisits]
    cases late : s.isLate p with
    | true =>
      rw [renderAll_cons_late n rest late]
      exact Leaves.refl.behind_check
    | false =>
      rw [renderAll_cons_apply n rest s p late]
      have step := (recover_leaves (first (s.checked p))).behind_check
      rcases run : Render.recover n.render s (s.checked p) with ⟨r, q⟩
      rw [run] at step
      rcases r with e | flow
      · simpa using step
      · cases flow with
        | normal => exact step.trans (others q)
        | stop => simpa using step
        | skip => simpa using step

end

/-- What a name stands for depends on the outermost frame only through its own binding there. -/
theorem Scopes.get?_congr {s s' : Scopes} {name : String} (inner : s'.inner = s.inner)
    (outermost : s'.outermost.get? name = s.outermost.get? name) : s'.get? name = s.get? name := by
  unfold Scopes.get?
  rw [inner]
  induction s.inner with
  | nil => exact outermost
  | cons frame rest ih => simp only [getFrom?, ih]

/-- A list of nodes leaves the scopes as they were, but for what its executed assigns bind in the
outermost frame, and only adds to the errors. -/
theorem renderAll_leaves_scopes (nodes : List Node) (standard : isStandard nodes = true)
    (s : Setting) (p : Progress) :
    let after := (renderAll nodes s p).2
    let given := assigned s (allVisits s p nodes)
    after.scopes.depth = p.scopes.depth ∧
    after.scopes.inner = p.scopes.inner ∧
    after.scopes.outermost = p.scopes.outermost.overlay ⟨given⟩ ∧
    (∀ name, (∀ v, (name, v) ∉ given) → Render.valueOf s after name = Render.valueOf s p name) ∧
    ∃ added, after.errors.toList = p.errors.toList ++ added := by
  intro after given
  have leaves := renderAll_leaves s nodes (not_host_of_isStandard standard) p
  refine ⟨leaves.depth, leaves.inner, leaves.outermost, fun name unbound => ?_, leaves.errors⟩
  have scopes : after.scopes.get? name = p.scopes.get? name := by
    refine Scopes.get?_congr leaves.inner ?_
    rw [leaves.outermost, Bindings.get?_overlay_of_not_mem _ unbound]
  have store : after.store.get? name = p.store.get? name := by
    rw [leaves.store]
    cases s.persists with
    | true => exact Bindings.get?_overlay_of_not_mem _ unbound
    | false => rfl
  unfold Render.valueOf
  rw [scopes, store]

/-- `{% tablerow v in vs %}{% assign x = v %}{{ v | none }}{% if x == "b" %}{% break %}{% endif %}`
and `{% endtablerow %}`. -/
def breakingRow : List Node :=
  let v : Variable := ⟨.lookup "v" [], []⟩
  let x : Variable := ⟨.lookup "x" [], []⟩
  [.tag ⟨0, 0⟩ "tablerow" "v in vs" (.tablerow ⟨"v", .lookup "vs" [], []⟩
    [.tag ⟨0, 0⟩ "assign" "x = v" (.assign "x" v),
     .output ⟨0, 0⟩ "v | none" { v with filters := [⟨"none", []⟩] },
     .tag ⟨0, 0⟩ "if" "x == \"b\"" (.branches
       [(.last (.compare x .eq ⟨.literal (.str "b"), []⟩),
         [.tag ⟨0, 0⟩ "break" "" (.interrupt .stop)])])])]

theorem renderAll_leaves_scopes_breakingRow :
    let items := [.str "a", .str "b", .str "c"]
    let s : Setting :=
      ⟨Template.bareEngine.env, ⟨[("vs", .array items)]⟩, .inline, Format.plain, none, false⟩
    let frame : Bindings Value := ⟨[("v", .nil)]⟩
    let p : Progress := { Template.start Bindings.empty Heap.new with
      scopes := ⟨⟨[("x", .nil), ("y", .nil)]⟩, [frame]⟩ }
    isStandard breakingRow = true ∧
    (assigned s (allVisits s p breakingRow)).map (fun binding => (binding.1, binding.2.plain)) =
      [("x", "a"), ("x", "b")] ∧
    (renderAll breakingRow s p).2.errors.size = 2 ∧
    (renderAll breakingRow s p).2.scopes.depth = 2 ∧
    (renderAll breakingRow s p).2.scopes.inner = [frame] ∧
    (renderAll breakingRow s p).2.scopes.outermost =
      p.scopes.outermost.overlay ⟨assigned s (allVisits s p breakingRow)⟩ ∧
    Render.valueOf s (renderAll breakingRow s p).2 "v" = .nil := by
  intro items s frame p
  obtain ⟨depth, inner, outermost, others, _⟩ := renderAll_leaves_scopes breakingRow rfl s p
  have names : (assigned s (allVisits s p breakingRow)).map (·.1) = ["x", "x"] := by
    decide +kernel
  have unbound : ∀ w, ("v", w) ∉ assigned s (allVisits s p breakingRow) := fun w member => by
    have named := List.mem_map_of_mem (f := (·.1)) member
    rw [names] at named
    simp at named
  exact ⟨rfl, by decide +kernel, by decide +kernel, depth, inner, outermost, others "v" unbound⟩

end Liquid
