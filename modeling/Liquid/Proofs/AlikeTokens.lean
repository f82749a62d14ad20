import Liquid.Proofs.FaultPlaces
import Liquid.Proofs.NestedBranches

/-!
# Rows of tokens in other places

The parser reads what a token says and not where it stands, and what it makes of a row that opens
every block that it closes does not depend on the blocks around the row.

## Main results

- `Building.Likewise.moves`: tokens that read alike make nodes that render alike, whatever lies
  below what they make.
- `Building.getsThrough_of_moves`: a balanced row that gets through inside some blocks gets through
  on its own, and `Building.moves_of_alone` the other way.

## Proof strategy

What is built above two places is compared (`Building.Likewise`), with the number of blocks opened
there. A token that does not ask for more blocks than that (`Token.depth?`) is taken in both places
or in neither. The relation can be swapped, so that one lemma for a move serves both directions.
-/

namespace Liquid

namespace Token

/-- They say the same, maybe in other places and with other marks beside them. -/
structure Alike (t t' : Token) : Prop where
  kind : t'.kind = t.kind
  content : t'.content = t.content
  terminated : t'.terminated = t.terminated

variable {t t' : Token}

theorem Alike.refl (t : Token) : t.Alike t := ⟨rfl, rfl, rfl⟩

theorem Alike.symm (alike : t.Alike t') : t'.Alike t :=
  ⟨alike.kind.symm, alike.content.symm, alike.terminated.symm⟩

theorem alike_refl (ts : List Token) : List.Forall₂ Alike ts ts :=
  List.forall₂_same.mpr fun t _ => Alike.refl t

theorem Alike.isTag (alike : t.Alike t') {name markup : String} (isTag : t.IsTag name markup) :
    t'.IsTag name markup := by
  refine ⟨alike.kind.trans isTag.1, ?_⟩
  have read := isTag.2
  simp only [Header.ofToken] at read ⊢
  rw [alike.content, alike.terminated]
  split at read
  next => cases read
  next =>
    cases read
    simp_all

theorem IsTag.unique {name name' markup markup' : String} (isTag : t.IsTag name markup)
    (isTag' : t.IsTag name' markup') : name = name' ∧ markup = markup' := by
  have same := isTag.2.symm.trans isTag'.2
  cases same
  exact ⟨rfl, rfl⟩

theorem Alike.tagName? (alike : t.Alike t') : t'.tagName? = t.tagName? := by
  unfold Token.tagName?
  rw [alike.kind]
  simp only [Header.ofToken, alike.content, alike.terminated]
  split
  next =>
    split
    next => rfl
    next => rfl
  next => rfl

end Token

/-! ### Balanced rows -/

/-- How many blocks are open behind a token, of those that were opened in its row. There is no
answer if it ends or divides another one. -/
def Token.depth? (t : Token) (depth : Nat) : Option Nat :=
  match t.tagName? with
  | none => some depth
  | some name =>
    if name = "if" ∨ name = "tablerow" then some (depth + 1)
    else if name = "endif" ∨ name = "endtablerow" then
      if depth = 0 then none else some (depth - 1)
    else if Building.isBranchTag name ∧ depth = 0 then none
    else some depth

/-- How many blocks are open behind a row of tokens. -/
def depthBehind (depth : Nat) (ts : List Token) : Option Nat :=
  ts.foldlM (fun depth t => t.depth? depth) depth

/-- Every block that is opened is ended, and none that was not opened is ended or divided. -/
def Balanced (ts : List Token) : Prop := depthBehind 0 ts = some 0

instance (ts : List Token) : Decidable (Balanced ts) :=
  inferInstanceAs (Decidable (depthBehind 0 ts = some 0))

theorem Token.depth?_of_not_tag {t : Token} (other : t.kind ≠ .tag) (depth : Nat) :
    t.depth? depth = some depth := by
  rw [Token.depth?, Token.tagName?_of_not_tag other]

theorem Token.depth?_of_isTag {t : Token} {name markup : String} (isTag : t.IsTag name markup)
    (depth : Nat) :
    t.depth? depth =
      if name = "if" ∨ name = "tablerow" then some (depth + 1)
      else if name = "endif" ∨ name = "endtablerow" then
        if depth = 0 then none else some (depth - 1)
      else if Building.isBranchTag name ∧ depth = 0 then none
      else some depth := by
  rw [Token.depth?, Token.tagName?_of_isTag isTag]

private theorem Token.depth?_of_end {t : Token} {name markup : String} (isTag : t.IsTag name markup)
    (ends : name = "endif" ∨ name = "endtablerow") {depth behind : Nat}
    (inside : t.depth? depth = some behind) : depth = behind + 1 := by
  rw [Token.depth?_of_isTag isTag] at inside
  cases depth with
  | zero => rcases ends with rfl | rfl <;> simp at inside
  | succ within => rcases ends with rfl | rfl <;> simpa using inside

private theorem depthBehind_of_alike {ts ts' : List Token} (alike : List.Forall₂ Token.Alike ts ts')
    (depth : Nat) : depthBehind depth ts' = depthBehind depth ts := by
  induction alike generalizing depth with
  | nil => rfl
  | @cons t t' rest rest' first _ ih =>
    have same : t'.depth? depth = t.depth? depth := by
      simp only [Token.depth?, first.tagName?]
    unfold depthBehind
    rw [List.foldlM_cons, List.foldlM_cons, same]
    exact bind_congr fun depth => ih depth

theorem Balanced.of_alike {ts ts' : List Token} (balanced : Balanced ts)
    (alike : List.Forall₂ Token.Alike ts ts') : Balanced ts' :=
  (depthBehind_of_alike alike 0).trans balanced

/-! ### Nodes that render alike -/

namespace Building

variable {base base' b b' c c' : Building} {t t' : Token} {depth behind : Nat}

private theorem depth?_of_move (move : Move t b b') :
    t.depth? b.blocks.length = some b'.blocks.length := by
  cases move with
  | text kind =>
    rw [Token.depth?_of_not_tag (by simp [kind])]
    split
    next => rfl
    next => rfl
  | output kind => exact Token.depth?_of_not_tag (by simp [kind]) _
  | leaf isTag leaf =>
    rw [Token.depth?_of_isTag isTag]
    cases leaf <;> simp [isBranchTag, add]
  | openBranches isTag => simp [Token.depth?_of_isTag isTag]
  | openRow isTag => simp [Token.depth?_of_isTag isTag]
  | nextBranch isTag _ reads =>
    rw [Token.depth?_of_isTag isTag]
    rcases reads with ⟨rfl, _⟩ | ⟨rfl | rfl, _⟩ <;> simp
  | closeBranches isTag => simp [Token.depth?_of_isTag isTag]
  | closeRow isTag => simp [Token.depth?_of_isTag isTag]

private theorem depthBehind_of_moves {ts : List Token} (moves : Moves ts b b') :
    depthBehind b.blocks.length ts = some b'.blocks.length := by
  induction moves with
  | none => rfl
  | more move _ ih =>
    unfold depthBehind
    rw [List.foldlM_cons, depth?_of_move move]
    exact ih

/-- What is built above one place and what is built above the other: so many blocks that were opened
alike, with nodes that render alike. -/
inductive Likewise (base base' : Building) : Nat → Building → Building → Prop where
  | root {nodes nodes' : List Node} : List.Forall₂ Node.Matches nodes nodes' →
      Likewise base base' 0 ⟨nodes ++ base.nodes, base.blocks⟩ ⟨nodes' ++ base'.nodes, base'.blocks⟩
  | branches {nodes nodes' before before' : List Node} {outer outer' : List OpenBlock}
      {complete complete' : List (Condition × List Node)} {depth : Nat} (span span' : Span)
      (markup : String) (c : Condition) : List.Forall₂ Node.Matches nodes nodes' →
      List.Forall₂ BranchMatches complete complete' →
      Likewise base base' depth ⟨before, outer⟩ ⟨before', outer'⟩ →
      Likewise base base' (depth + 1) ⟨nodes, branchBlock span markup complete c before :: outer⟩
        ⟨nodes', branchBlock span' markup complete' c before' :: outer'⟩
  | row {nodes nodes' before before' : List Node} {outer outer' : List OpenBlock} {depth : Nat}
      (span span' : Span) (markup : String) (row : TableRow) :
      List.Forall₂ Node.Matches nodes nodes' →
      Likewise base base' depth ⟨before, outer⟩ ⟨before', outer'⟩ →
      Likewise base base' (depth + 1) ⟨nodes, rowBlock span markup row before :: outer⟩
        ⟨nodes', rowBlock span' markup row before' :: outer'⟩

namespace Likewise

theorem refl (base base' : Building) : Likewise base base' 0 base base' := .root .nil

theorem swap (likewise : Likewise base base' depth b c) : Likewise base' base depth c b := by
  induction likewise with
  | root nodes => exact .root (forall₂_swap Node.Matches.symm nodes)
  | branches span span' markup c nodes complete _ ih =>
    exact .branches span' span markup c (forall₂_swap Node.Matches.symm nodes)
      (forall₂_swap BranchMatches.symm complete) ih
  | row span span' markup row nodes _ ih =>
    exact .row span' span markup row (forall₂_swap Node.Matches.symm nodes) ih

private theorem length_blocks (likewise : Likewise base base' depth b c) :
    b.blocks.length = base.blocks.length + depth := by
  induction likewise with
  | root => rfl
  | branches _ _ _ _ _ _ _ ih => exact congrArg Nat.succ ih
  | row _ _ _ _ _ _ ih => exact congrArg Nat.succ ih

theorem add (likewise : Likewise base base' depth b c) {n n' : Node} (same : n.Matches n') :
    Likewise base base' depth (b.add n) (c.add n') := by
  cases likewise with
  | root nodes => exact .root (.cons same nodes)
  | branches span span' markup c nodes complete outer =>
    exact .branches span span' markup c (.cons same nodes) complete outer
  | row span span' markup row nodes outer =>
    exact .row span span' markup row (.cons same nodes) outer

theorem of_branches {nodes before : List Node} {outer : List OpenBlock} {span : Span}
    {markup : String} {complete : List (Condition × List Node)} {last : Condition}
    (likewise : Likewise base base' (depth + 1) b c)
    (inside : b = ⟨nodes, branchBlock span markup complete last before :: outer⟩) :
    ∃ nodes' complete' before' outer' span',
      Likewise base base' depth ⟨before, outer⟩ ⟨before', outer'⟩ ∧
      List.Forall₂ Node.Matches nodes nodes' ∧ List.Forall₂ BranchMatches complete complete' ∧
      c = ⟨nodes', branchBlock span' markup complete' last before' :: outer'⟩ := by
  cases likewise with
  | branches _ _ _ _ within branches around =>
    cases inside
    exact ⟨_, _, _, _, _, around, within, branches, rfl⟩
  | row => simp [branchBlock, rowBlock] at inside

theorem of_row {nodes before : List Node} {outer : List OpenBlock} {span : Span}
    {markup : String} {row : TableRow} (likewise : Likewise base base' (depth + 1) b c)
    (inside : b = ⟨nodes, rowBlock span markup row before :: outer⟩) :
    ∃ nodes' before' outer' span',
      Likewise base base' depth ⟨before, outer⟩ ⟨before', outer'⟩ ∧
      List.Forall₂ Node.Matches nodes nodes' ∧
      c = ⟨nodes', rowBlock span' markup row before' :: outer'⟩ := by
  cases likewise with
  | branches => simp [branchBlock, rowBlock] at inside
  | row _ _ _ _ within around =>
    simp only [rowBlock, mk.injEq, List.cons.injEq, OpenBlock.mk.injEq, Header.mk.injEq,
      BlockKind.nested.injEq, true_and] at inside
    obtain ⟨rfl, ⟨⟨rfl, rfl⟩, same, rfl⟩, rfl⟩ := inside
    -- The rows are known by what they make of no nodes.
    obtain ⟨rfl, -⟩ := Tag.tablerow.inj (congrFun same [])
    exact ⟨_, _, _, _, around, within, rfl⟩

/-- A token that asks for no block of the one place is taken in the other as well. -/
theorem move (likewise : Likewise base base' depth b c) (alike : t.Alike t')
    (inside : t.depth? depth = some behind) (move : Move t b b') :
    ∃ c', Move t' c c' ∧ Likewise base base' behind b' c' := by
  cases move with
  | text kind =>
    rw [Token.depth?_of_not_tag (by simp [kind])] at inside
    cases inside
    refine ⟨_, .text (alike.kind.trans kind), ?_⟩
    rw [alike.content]
    split
    next => exact likewise
    next => exact likewise.add (.of_eq rfl)
  | output kind terminated read =>
    rw [Token.depth?_of_not_tag (by simp [kind])] at inside
    cases inside
    refine ⟨_, .output (alike.kind.trans kind) (alike.terminated.trans terminated)
      (by rwa [alike.content]), ?_⟩
    exact likewise.add (.of_eq rfl)
  | leaf isTag leaf =>
    obtain rfl : depth = behind := by
      rw [Token.depth?_of_isTag isTag] at inside
      cases leaf <;> simpa [isBranchTag] using inside
    exact ⟨_, .leaf (alike.isTag isTag) leaf, likewise.add (.of_eq rfl)⟩
  | openBranches isTag read =>
    obtain rfl : depth + 1 = behind := by simpa [Token.depth?_of_isTag isTag] using inside
    exact ⟨_, .openBranches (alike.isTag isTag) read, .branches _ _ _ _ .nil .nil likewise⟩
  | openRow isTag read =>
    obtain rfl : depth + 1 = behind := by simpa [Token.depth?_of_isTag isTag] using inside
    exact ⟨_, .openRow (alike.isTag isTag) read, .row _ _ _ _ .nil likewise⟩
  -- The others need a block, and it is one that was opened above.
  | nextBranch isTag unfinished reads =>
    obtain ⟨within, rfl, rfl⟩ : ∃ within, depth = within + 1 ∧ behind = within + 1 := by
      rw [Token.depth?_of_isTag isTag] at inside
      cases depth with
      | zero => rcases reads with ⟨rfl, _⟩ | ⟨rfl | rfl, _⟩ <;> simp [isBranchTag] at inside
      | succ within =>
        refine ⟨within, rfl, ?_⟩
        rcases reads with ⟨rfl, _⟩ | ⟨rfl | rfl, _⟩ <;> simpa using inside.symm
    obtain ⟨_, _, _, _, _, around, nodes, complete, rfl⟩ := likewise.of_branches rfl
    refine ⟨_, .nextBranch (alike.isTag isTag) unfinished reads, ?_⟩
    exact .branches _ _ _ _ .nil (.cons ⟨rfl, List.rel_reverse nodes⟩ complete) around
  | closeBranches isTag =>
    obtain rfl := Token.depth?_of_end isTag (.inl rfl) inside
    obtain ⟨_, _, _, _, _, around, nodes, complete, rfl⟩ := likewise.of_branches rfl
    refine ⟨_, .closeBranches (alike.isTag isTag), ?_⟩
    exact around.add (.branches _ _ _ _ _ _
      (List.rel_reverse (.cons ⟨rfl, List.rel_reverse nodes⟩ complete)))
  | closeRow isTag =>
    obtain rfl := Token.depth?_of_end isTag (.inr rfl) inside
    obtain ⟨_, _, _, _, around, nodes, rfl⟩ := likewise.of_row rfl
    refine ⟨_, .closeRow (alike.isTag isTag), ?_⟩
    exact around.add (.tablerow _ _ _ _ _ _ _ (List.rel_reverse nodes))

theorem moves {ts ts' : List Token} (likewise : Likewise base base' depth b c)
    (alike : List.Forall₂ Token.Alike ts ts') (inside : depthBehind depth ts = some behind)
    (moves : Moves ts b b') : ∃ c', Moves ts' c c' ∧ Likewise base base' behind b' c' := by
  induction alike generalizing depth b c with
  | nil =>
    cases inside
    cases moves
    exact ⟨c, .none c, likewise⟩
  | cons first _ ih =>
    obtain ⟨between, here, rest⟩ := Option.bind_eq_some_iff.mp inside
    cases moves with
    | more move moves =>
      obtain ⟨m, move', higher⟩ := likewise.move first here move
      obtain ⟨c', rest', last⟩ := ih higher rest moves
      exact ⟨c', .more move' rest', last⟩

/-- Above nothing there are no other blocks that a token could ask for. -/
theorem moves_of_empty {ts ts' : List Token} (likewise : Likewise Building.empty base' depth b c)
    (alike : List.Forall₂ Token.Alike ts ts') (moves : Moves ts b b') :
    ∃ c', Moves ts' c c' ∧ Likewise Building.empty base' b'.blocks.length b' c' := by
  have height : b.blocks.length = depth := likewise.length_blocks.trans (Nat.zero_add depth)
  exact likewise.moves alike (height ▸ depthBehind_of_moves moves) moves

end Likewise

/-- Rows that are built with no block left open. -/
def GetsThrough (ts : List Token) : Prop := ∃ nodes, Moves ts Building.empty ⟨nodes, []⟩

/-- A balanced row that gets through inside some blocks gets through on its own, and leaves those
blocks as they are. -/
theorem getsThrough_of_moves {ts : List Token} (balanced : Balanced ts) (moves : Moves ts c c') :
    GetsThrough ts ∧ ∃ nodes, c' = ⟨nodes, c.blocks⟩ := by
  obtain ⟨b, alone, likewise⟩ :=
    (Likewise.refl c Building.empty).moves (Token.alike_refl ts) balanced moves
  cases likewise
  exact ⟨⟨_, alone⟩, _, rfl⟩

/-- What gets through on its own gets through inside any blocks. -/
theorem moves_of_alone {ts ts' : List Token} {nodes : List Node}
    (alike : List.Forall₂ Token.Alike ts ts') (alone : Moves ts Building.empty ⟨nodes, []⟩)
    (c : Building) :
    ∃ nodes', List.Forall₂ Node.Matches nodes nodes' ∧
      Moves ts' c ⟨nodes' ++ c.nodes, c.blocks⟩ := by
  obtain ⟨c', moves, likewise⟩ := (Likewise.refl Building.empty c).moves_of_empty alike alone
  cases likewise with
  | root same => exact ⟨_, by simpa [Building.empty] using same, moves⟩

end Building

end Liquid
