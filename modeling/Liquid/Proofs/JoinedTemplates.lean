import Liquid.Proofs.JoinedTokens
import Liquid.Proofs.Parsing
import Liquid.Proofs.Simulation

/-!
# Joined templates

Two templates over the standard tags, one written behind the other, make a template that does what
the first does and then what the second does. Parsing and rendering are local in the same sense:
nothing is handed over from the first to the second but the progress of the render.

## Main result

`Document.parse_append`: the joined source is parsed, its nodes are those of both parts, and a
render of it is a render of the first part and, if that ends as usual, of the second behind it.

## Proof strategy

The moves of the parser through the tokens of the second part start with no block open. They can be
made as well above nodes that are there already, and with all places moved (`Building.Above`). What
a part writes and records does not depend on what was written and recorded before
(`renderAll_behind`).
-/

namespace Liquid

/-! ### Nodes in other places -/

mutual

/-- The same node, as far behind another offset. -/
def Node.shift (k : Nat) : Node → Node
  | .text span s => .text (span.shift k) s
  | .output span markup v => .output (span.shift k) markup v
  | .tag span name markup body => .tag (span.shift k) name markup (body.shift k)

def Tag.shift (k : Nat) : Tag → Tag
  | .assign name v => .assign name v
  | .interrupt flow => .interrupt flow
  | .branches branches => .branches (shiftBranches k branches)
  | .tablerow row nodes => .tablerow row (shiftAll k nodes)
  | .action run => .action run
  | .block around nodes => .block around (shiftAll k nodes)

def shiftBranches (k : Nat) : List (Condition × List Node) → List (Condition × List Node)
  | [] => []
  | (c, nodes) :: rest => (c, shiftAll k nodes) :: shiftBranches k rest

def shiftAll (k : Nat) : List Node → List Node
  | [] => []
  | n :: rest => n.shift k :: shiftAll k rest

end

theorem shiftAll_eq_map (k : Nat) (nodes : List Node) :
    shiftAll k nodes = nodes.map (·.shift k) := by
  induction nodes with
  | nil => rfl
  | cons n rest ih => rw [shiftAll, ih, List.map_cons]

theorem shiftAll_reverse (k : Nat) (nodes : List Node) :
    shiftAll k nodes.reverse = (shiftAll k nodes).reverse := by
  simp only [shiftAll_eq_map, List.map_reverse]

private theorem shiftBranches_eq_map (k : Nat) (branches : List (Condition × List Node)) :
    shiftBranches k branches = branches.map fun (c, nodes) => (c, shiftAll k nodes) := by
  induction branches with
  | nil => rfl
  | cons branch rest ih => rw [shiftBranches, ih, List.map_cons]

private theorem shiftBranches_reverse (k : Nat) (branches : List (Condition × List Node)) :
    shiftBranches k branches.reverse = (shiftBranches k branches).reverse := by
  simp only [shiftBranches_eq_map, List.map_reverse]

mutual

/-- Where a node stands does not show when it is rendered. -/
theorem Node.render_shift (k : Nat) : (n : Node) → (n.shift k).render = n.render
  | .text .. => rfl
  | .output .. => rfl
  | .tag _ _ _ body => body.render_shift k

theorem Tag.render_shift (k : Nat) : (t : Tag) → (t.shift k).render = t.render
  | .assign .. => rfl
  | .interrupt _ => rfl
  | .branches branches => by rw [Tag.shift, Tag.render, Tag.render, renderFirst_shift k branches]
  | .tablerow _ nodes => by rw [Tag.shift, Tag.render, Tag.render, renderAll_shift k nodes]
  | .action _ => rfl
  | .block _ nodes => by rw [Tag.shift, Tag.render, Tag.render, renderAll_shift k nodes]

private theorem renderFirst_shift (k : Nat) : (branches : List (Condition × List Node)) →
    renderFirst (shiftBranches k branches) = renderFirst branches
  | [] => rfl
  | (_, nodes) :: rest => by
    rw [shiftBranches, renderFirst, renderFirst, renderAll_shift k nodes, renderFirst_shift k rest]

theorem renderAll_shift (k : Nat) : (nodes : List Node) →
    renderAll (shiftAll k nodes) = renderAll nodes
  | [] => rfl
  | n :: rest => by
    rw [shiftAll, renderAll, renderAll, n.render_shift k, renderAll_shift k rest]

end

/-! ### Moves above other nodes -/

private theorem Header.ofToken_shift (k : Nat) (t : Token) :
    Header.ofToken (t.shift k) =
      (Header.ofToken t).map fun h => { h with span := h.span.shift k } := by
  simp only [Header.ofToken, Token.shift]
  -- The test for a name is the same on both sides.
  rcases Bool.eq_false_or_eq_true
    (!t.terminated || ((Text.trim t.content.toList).takeWhile isTagNameChar).isEmpty) with no | yes
  · simp only [no, ↓reduceIte, Except.map]
  · simp only [yes, Bool.false_eq_true, ↓reduceIte, Except.map]

theorem Token.IsTag.shift {t : Token} {name markup : String} (isTag : t.IsTag name markup)
    (k : Nat) : (t.shift k).IsTag name markup := by
  refine ⟨isTag.1, ?_⟩
  rw [Header.ofToken_shift, isTag.2]
  rfl

namespace Building

/-- The same blocks in other places, above nodes that stand in front of everything. -/
inductive Above (k : Nat) (base : List Node) : Building → Building → Prop where
  | root (nodes : List Node) : Above k base ⟨nodes, []⟩ ⟨shiftAll k nodes ++ base, []⟩
  | branches {before before' : List Node} {outer outer' : List OpenBlock} (nodes : List Node)
      (span : Span) (markup : String) (complete : List (Condition × List Node)) (c : Condition) :
      Above k base ⟨before, outer⟩ ⟨before', outer'⟩ →
      Above k base ⟨nodes, branchBlock span markup complete c before :: outer⟩
        ⟨shiftAll k nodes,
          branchBlock (span.shift k) markup (shiftBranches k complete) c before' :: outer'⟩
  | row {before before' : List Node} {outer outer' : List OpenBlock} (nodes : List Node)
      (span : Span) (markup : String) (row : TableRow) :
      Above k base ⟨before, outer⟩ ⟨before', outer'⟩ →
      Above k base ⟨nodes, rowBlock span markup row before :: outer⟩
        ⟨shiftAll k nodes, rowBlock (span.shift k) markup row before' :: outer'⟩

variable {k : Nat} {base : List Node} {b b' c : Building} {t : Token}

theorem Above.add (above : Above k base b c) (n : Node) :
    Above k base (b.add n) (c.add (n.shift k)) := by
  cases above with
  | root nodes => exact .root (n :: nodes)
  | branches nodes span markup complete c outer =>
    exact .branches (n :: nodes) span markup complete c outer
  | row nodes span markup row outer => exact .row (n :: nodes) span markup row outer

theorem Above.of_branches {nodes before : List Node} {outer : List OpenBlock} {span : Span}
    {markup : String} {complete : List (Condition × List Node)} {last : Condition}
    (above : Above k base b c)
    (inside : b = ⟨nodes, branchBlock span markup complete last before :: outer⟩) :
    ∃ before' outer', Above k base ⟨before, outer⟩ ⟨before', outer'⟩ ∧
      c = ⟨shiftAll k nodes,
        branchBlock (span.shift k) markup (shiftBranches k complete) last before' :: outer'⟩ := by
  cases above with
  | root => cases inside
  | branches _ _ _ _ _ around =>
    cases inside
    exact ⟨_, _, around, rfl⟩
  | row => simp [branchBlock, rowBlock] at inside

theorem Above.of_row {nodes before : List Node} {outer : List OpenBlock} {span : Span}
    {markup : String} {row : TableRow} (above : Above k base b c)
    (inside : b = ⟨nodes, rowBlock span markup row before :: outer⟩) :
    ∃ before' outer', Above k base ⟨before, outer⟩ ⟨before', outer'⟩ ∧
      c = ⟨shiftAll k nodes, rowBlock (span.shift k) markup row before' :: outer'⟩ := by
  cases above with
  | root => cases inside
  | branches => simp [branchBlock, rowBlock] at inside
  | row _ _ _ _ around =>
    simp only [rowBlock, mk.injEq, List.cons.injEq, OpenBlock.mk.injEq, Header.mk.injEq,
      BlockKind.nested.injEq, true_and] at inside
    obtain ⟨rfl, ⟨⟨rfl, rfl⟩, same, rfl⟩, rfl⟩ := inside
    -- The rows are known by what they make of no nodes.
    obtain ⟨rfl, -⟩ := Tag.tablerow.inj (congrFun same [])
    exact ⟨_, _, around, rfl⟩

/-- A token in another place moves the blocks in other places. -/
theorem Above.move (above : Above k base b c) (move : Move t b b') :
    ∃ c', Move (t.shift k) c c' ∧ Above k base b' c' := by
  cases move with
  | text kind =>
    refine ⟨_, .text kind, ?_⟩
    change Above k base _ (if t.content.isEmpty then _ else _)
    split
    next => exact above
    next => exact above.add _
  | output kind terminated read => exact ⟨_, .output kind terminated read, above.add _⟩
  | leaf isTag leaf =>
    refine ⟨_, .leaf (isTag.shift k) leaf, ?_⟩
    -- A tag without a body holds no places.
    cases leaf <;> exact above.add _
  | openBranches isTag read =>
    exact ⟨_, .openBranches (isTag.shift k) read, .branches [] _ _ [] _ above⟩
  | openRow isTag read => exact ⟨_, .openRow (isTag.shift k) read, .row [] _ _ _ above⟩
  -- What an open block holds is moved already, so its end moves only the tag that it makes.
  | nextBranch isTag unfinished reads =>
    obtain ⟨before, outer, around, rfl⟩ := above.of_branches rfl
    refine ⟨_, .nextBranch (isTag.shift k) unfinished reads, ?_⟩
    rw [← shiftAll_reverse]
    exact .branches [] _ _ (_ :: _) _ around
  | @closeBranches nodes _ _ span markup _ complete last isTag =>
    obtain ⟨before, outer, around, rfl⟩ := above.of_branches rfl
    refine ⟨_, .closeBranches (isTag.shift k), ?_⟩
    have closed := around.add
      (.tag span "if" markup (.branches ((last, nodes.reverse) :: complete).reverse))
    simpa only [Building.add, Node.shift, Tag.shift, shiftBranches_reverse, shiftBranches,
      shiftAll_reverse] using closed
  | @closeRow nodes _ _ span markup _ row isTag =>
    obtain ⟨before, outer, around, rfl⟩ := above.of_row rfl
    refine ⟨_, .closeRow (isTag.shift k), ?_⟩
    have closed := around.add (.tag span "tablerow" markup (.tablerow row nodes.reverse))
    simpa only [Building.add, Node.shift, Tag.shift, shiftAll_reverse] using closed

theorem Above.moves {ts : List Token} (above : Above k base b c) (moves : Moves ts b b') :
    ∃ c', Moves (ts.map (Token.shift k)) c c' ∧ Above k base b' c' := by
  induction moves generalizing c with
  | none => exact ⟨c, .none c, above⟩
  | more move _ ih =>
    obtain ⟨between, first, higher⟩ := above.move move
    obtain ⟨c', rest, last⟩ := ih higher
    exact ⟨c', .more first rest, last⟩

end Building

namespace Document

/-- Joined sources parse to the nodes of the first and, in their places, those of the second. -/
theorem parse_joined {template first second : String} {d d' : Document}
    (parsed : parse Tag.standard template first = .ok d)
    (parsed' : parse Tag.standard template second = .ok d')
    (plain : Token.EndPlainly (Token.scan first)) :
    parse Tag.standard template (first ++ second) =
      .ok ⟨d.nodes ++ d'.nodes.map (·.shift first.utf8ByteSize),
        ⟨0, (first ++ second).utf8ByteSize⟩⟩ := by
  obtain ⟨⟨nodes, _⟩, rfl, written, run⟩ := build_of_parse parsed
  obtain ⟨⟨later, _⟩, rfl, written', run'⟩ := build_of_parse parsed'
  have moves := Building.moves_of_build isStandard_empty run
  have moves' := Building.moves_of_build isStandard_empty run'
  -- The second part moves above the nodes of the first.
  have root : Building.Above first.utf8ByteSize nodes Building.empty ⟨nodes, []⟩ := .root []
  obtain ⟨last, higher, above⟩ := root.moves moves'
  cases above
  have joined := @Building.build_of_moves template _ _ _ isStandard_empty (moves.append higher)
  rw [← Token.tokenize_append plain] at joined
  unfold parse
  rw [written, written']
  simp [joined, Building.finish, bind, Except.bind, pure, Except.pure, shiftAll_eq_map]

end Document

/-! ### Renders behind each other -/

private theorem renderAll_append (nodes others : List Node) (s : Setting) (p : Progress) :
    renderAll (nodes ++ others) s p =
      match renderAll nodes s p with
      | (.ok .normal, q) => renderAll others s q
      | left => left := by
  induction nodes generalizing p with
  | nil => rfl
  | cons n rest ih =>
    cases late : s.isLate p with
    | true =>
      rw [List.cons_append, renderAll_cons_late n (rest ++ others) late,
        renderAll_cons_late n rest late]
    | false =>
      rw [List.cons_append, renderAll_cons_apply n (rest ++ others) s p late,
        renderAll_cons_apply n rest s p late]
      rcases Render.recover n.render s (s.checked p) with ⟨e | flow, q⟩
      · rfl
      · cases flow with
        | normal => exact ih q
        | stop => rfl
        | skip => rfl

namespace Document

/-- Behind a source that ends plainly another one is parsed as on its own, and rendered in the
progress that the first leaves, if that goes through. -/
theorem parse_append {template first second : String} {d d' : Document}
    (parsed : parse Tag.standard template first = .ok d)
    (parsed' : parse Tag.standard template second = .ok d')
    (plain : Token.EndPlainly (Token.scan first)) :
    ∃ joined : Document,
      parse Tag.standard template (first ++ second) = .ok joined ∧
      joined.nodes = d.nodes ++ d'.nodes.map (·.shift first.utf8ByteSize) ∧
      ∀ (s : Setting) (p : Progress),
        renderAll joined.nodes s p =
          match renderAll d.nodes s p with
          | (.ok .normal, q) =>
            let alone := renderAll d'.nodes s { q with out := "", errors := #[] }
            (alone.1, { alone.2 with
              out := q.out ++ alone.2.out
              errors := q.errors ++ alone.2.errors })
          | left => left := by
  refine ⟨_, parse_joined parsed parsed' plain, rfl, fun s p => ?_⟩
  rw [renderAll_append]
  split
  next q normal =>
    have before :
        q = Render.Progress.behind q.out q.errors { q with out := "", errors := #[] } := by
      simp [Render.Progress.behind]
    rw [← shiftAll_eq_map, renderAll_shift]
    conv_lhs => rw [before]
    exact renderAll_behind (isStandard_of_parse parsed') s q.out q.errors _
  next => rfl

def markingSource : String := "\x7b% assign x = \"é\" -%\x7d\n \x7b\x7b x \x7d\x7d"

def marking : Document :=
  ⟨[.tag ⟨0, 22⟩ "assign" "x = \"é\"" (.assign "x" ⟨.literal (.str "é"), []⟩),
    .text ⟨22, 2⟩ " ",
    .output ⟨24, 7⟩ "x" ⟨.lookup "x" [], []⟩], ⟨0, 31⟩⟩

def failingSource : String := "{%- if x %}{{ x | none }}{% endif %}"

def failing : Document :=
  let x : Variable := ⟨.lookup "x" [], []⟩
  ⟨[.tag ⟨0, 11⟩ "if" "x" (.branches
    [(.last (.truthy x), [.output ⟨11, 14⟩ "x | none" { x with filters := [⟨"none", []⟩] }])])],
    ⟨0, 36⟩⟩

theorem parse_append_marking :
    let s : Setting :=
      ⟨Template.bareEngine.env, Bindings.empty, .inline, Format.plain, none, false⟩
    let rendered := fun d : Document =>
      (renderAll d.nodes s (Template.start Bindings.empty Heap.new)).2
    parse Tag.standard "joined" markingSource = .ok marking ∧
    parse Tag.standard "joined" failingSource = .ok failing ∧
    Token.EndPlainly (Token.scan markingSource) ∧
    ∃ joined : Document,
      parse Tag.standard "joined" (markingSource ++ failingSource) = .ok joined ∧
      joined.nodes.map Node.span = [⟨0, 22⟩, ⟨22, 2⟩, ⟨24, 7⟩, ⟨31, 11⟩] ∧
      (rendered joined).out = " éLiquid error: unknown filter 'none'" ∧
      (rendered joined).errors = #[.render "unknown filter 'none'"] := by
  intro s rendered
  have parsed : parse Tag.standard "joined" markingSource = .ok marking := by rfl
  have parsed' : parse Tag.standard "joined" failingSource = .ok failing := by rfl
  have plain : Token.EndPlainly (Token.scan markingSource) := by decide +kernel
  obtain ⟨joined, read, nodes, render⟩ := parse_append parsed parsed' plain
  refine ⟨parsed, parsed', plain, joined, read, ?_, ?_, ?_⟩
  · rw [nodes]
    decide +kernel
  · simp only [rendered, render]
    decide +kernel
  · simp only [rendered, render]
    decide +kernel

end Document

end Liquid
