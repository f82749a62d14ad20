import Liquid.Proofs.Moves
import Liquid.Proofs.Parts

/-!
# The parser against the block grammar

The parser has no grammar: it folds over the tokens with a stack of open blocks. It accepts the
rows of tokens that derive in the block grammar, and the nodes it builds hold all of them.

## Main result

`Document.parse_standard`: over the standard tags, a template is parsed just if its tokens derive,
and then the walk through its nodes gives the entries of its tokens, one token after the other.

## Proof strategy

Losing nothing is an invariant of the fold: a move puts the entries of its token behind those that
are already there. For the derivation, read the open blocks as what is still to come: one move
before a row that continues the new blocks makes a row that continues the old ones, so a run that
ends without open blocks derives from behind. The other way is an induction over the derivation,
where what derives passes through any open blocks and leaves them as they are.
-/

namespace Liquid

/-! ### Nothing is lost -/

/-- The entries of a block up to the list that is being filled. -/
def OpenBlock.walk (block : OpenBlock) : List Entry :=
  walkAll block.before.reverse ++
    .opening block.header.span block.header.name block.header.markup ::
      match block.kind with
      | .branches complete c => walkBranches complete.reverse ++ [.branch c]
      | .nested name _ close => ((close []).walk name).dropLast

def Building.walk (b : Building) : List Entry :=
  b.blocks.reverse.flatMap OpenBlock.walk ++ walkAll b.nodes.reverse

@[simp] theorem walk_branchBlock (span : Span) (markup : String)
    (complete : List (Condition × List Node)) (c : Condition) (before : List Node) :
    (branchBlock span markup complete c before).walk = walkAll before.reverse ++
      .opening span "if" markup :: (walkBranches complete.reverse ++ [.branch c]) := rfl

@[simp] theorem walk_rowBlock (span : Span) (markup : String) (row : TableRow)
    (before : List Node) :
    (rowBlock span markup row before).walk =
      walkAll before.reverse ++ [.opening span "tablerow" markup, .row row] := rfl

theorem Token.entries_isTag {t : Token} {name markup : String} (isTag : t.IsTag name markup) :
    t.entries = Header.entries ⟨name, markup, t.span⟩ := by
  simp [Token.entries, isTag.1, isTag.2]

namespace Building

variable {template : String} {t : Token} {b b' : Building}

/-- A token adds its own entries behind those of the tokens before it. -/
theorem walk_of_move (move : Move t b b') : b'.walk = b.walk ++ t.entries := by
  cases move with
  | text kind =>
    -- A text of no length adds no node, and has no entry.
    cases empty : t.content.isEmpty <;>
      simp [Token.entries, kind, empty, walk, add, Node.walk, walkAll]
  | output kind _ read =>
    simp [Token.entries, kind, read, walk, add, Node.walk, walkAll, Except.toOption]
  | leaf isTag leaf =>
    rw [Token.entries_isTag isTag]
    cases leaf with
    | assign read =>
      simp [Header.entries, Header.reading, read, walk, add, Node.walk, Tag.walk, walkAll]
    | stop => simp [Header.entries, Header.reading, walk, add, Node.walk, Tag.walk, walkAll]
    | skip => simp [Header.entries, Header.reading, walk, add, Node.walk, Tag.walk, walkAll]
  | openBranches isTag read =>
    rw [Token.entries_isTag isTag]
    simp [Header.entries, Header.reading, read, walk, walkAll, walkBranches, Except.toOption]
  | openRow isTag read =>
    rw [Token.entries_isTag isTag]
    simp [Header.entries, Header.reading, read, walk, walkAll]
  | nextBranch isTag _ reads =>
    rw [Token.entries_isTag isTag]
    -- The branch is moved to the complete ones of its block, which stand in the same place.
    rcases reads with ⟨rfl, rfl⟩ | ⟨rfl | rfl, read⟩
    · simp [Header.entries, walk, walkAll, walkBranches]
    · simp [Header.entries, read, walk, walkAll, walkBranches, Except.toOption]
    · simp [Header.entries, read, walk, walkAll, walkBranches, Except.toOption]
  | closeBranches isTag =>
    rw [Token.entries_isTag isTag]
    -- What was an open block is a node now; only the closing is new.
    simp [Header.entries, walk, walkAll, walkBranches, Node.walk, Tag.walk]
  | closeRow isTag =>
    rw [Token.entries_isTag isTag]
    simp [Header.entries, walk, walkAll, Node.walk, Tag.walk]

private theorem walk_of_moves {ts : List Token} (moves : Moves ts b b') :
    b'.walk = b.walk ++ ts.flatMap Token.entries := by
  induction moves with
  | none => simp
  | more move _ ih => rw [ih, walk_of_move move, List.flatMap_cons, List.append_assoc]

end Building

/-! ### What the parser accepts derives -/

/-- The row of tokens that is left of a block: items, then what ends the block. -/
def BlockKind.Ends : BlockKind → List Token → Prop
  | .branches _ c, ts => ∃ body rest, ts = body ++ rest ∧ Items body ∧
    if c.isElse then ∃ last ignored, rest = [last] ∧ last.IsTag "endif" ignored
    else Branches rest
  | .nested .., ts => ∃ body last ignored, ts = body ++ [last] ∧ Items body ∧
    last.IsTag "endtablerow" ignored

/-- The row of tokens that is left of a template inside these blocks. -/
def Continues : List OpenBlock → List Token → Prop
  | [], ts => Items ts
  | block :: outer, ts => ∃ inside after, ts = inside ++ after ∧ block.kind.Ends inside ∧
    Continues outer after

theorem Continues.more {blocks : List OpenBlock} {first ts : List Token} (item : Item first)
    (rest : Continues blocks ts) : Continues blocks (first ++ ts) := by
  cases blocks with
  | nil => exact Items.more item rest
  | cons block outer =>
    obtain ⟨inside, after, rfl, ends, continues⟩ := rest
    refine ⟨first ++ inside, after, by simp, ?_, continues⟩
    cases kind : block.kind with
    | branches complete c =>
      rw [kind] at ends
      obtain ⟨body, rest, rfl, items, closes⟩ := ends
      exact ⟨first ++ body, rest, by simp, .more item items, closes⟩
    | nested name delimiter close =>
      rw [kind] at ends
      obtain ⟨body, last, ignored, rfl, items, closes⟩ := ends
      exact ⟨first ++ body, last, ignored, by simp, .more item items, closes⟩

namespace Building

variable {template : String} {t : Token} {b b' : Building}

private theorem continues_of_move (move : Move t b b') {ts : List Token}
    (rest : Continues b'.blocks ts) : Continues b.blocks (t :: ts) := by
  cases move with
  | text kind =>
    refine Continues.more (.text kind) ?_
    split at rest
    next => exact rest
    next => exact rest
  | output kind terminated read => exact Continues.more (.output kind terminated read) rest
  | leaf isTag leaf =>
    cases leaf with
    | assign read => exact Continues.more (.assign isTag read) rest
    | stop => exact Continues.more (.stop isTag) rest
    | skip => exact Continues.more (.skip isTag) rest
  | openBranches isTag read =>
    -- What continues the new block is its inside, and behind it what continues those around it.
    obtain ⟨inside, after, rfl, ⟨body, closing, rfl, items, closes⟩, continues⟩ := rest
    rw [if_neg (by simp [Condition.isElse_of_parse read])] at closes
    simpa using Continues.more (.branches isTag read items closes) continues
  | openRow isTag read =>
    obtain ⟨inside, after, rfl, ⟨body, last, ignored, rfl, items, closes⟩, continues⟩ := rest
    simpa using Continues.more (.tablerow isTag read items closes) continues
  | @nextBranch _ _ _ _ _ _ _ _ c next isTag unfinished reads =>
    obtain ⟨inside, after, rfl, ⟨body, closing, rfl, items, closes⟩, continues⟩ := rest
    -- No item is left of the branch before, and the rest of the block begins with this token.
    refine ⟨t :: (body ++ closing), after, by simp, ⟨[], _, rfl, .none, ?_⟩, continues⟩
    rw [if_neg (by simp [unfinished])]
    rcases reads with ⟨rfl, rfl⟩ | ⟨name, read⟩
    · obtain ⟨last, ignored, rfl, ends⟩ := closes
      exact .otherwise isTag items ends
    · rw [if_neg (by simp [Condition.isElse_of_parse read])] at closes
      exact .next name isTag read items closes
  | @closeBranches _ _ _ _ _ _ _ c isTag =>
    refine ⟨[t], ts, rfl, ⟨[], [t], rfl, .none, ?_⟩, rest⟩
    -- The branch that ends here may have been an `else` or not.
    split
    next => exact ⟨t, _, rfl, isTag⟩
    next => exact .done isTag
  | closeRow isTag => exact ⟨[t], ts, rfl, ⟨[], t, _, rfl, .none, isTag⟩, rest⟩

/-- Once every block is closed, the tokens that closed them were the rest of a template. -/
theorem continues_of_moves {ts : List Token} (moves : Moves ts b b') (closed : b'.blocks = []) :
    Continues b.blocks ts := by
  induction moves with
  | none b =>
    rw [closed]
    exact .none
  | more move _ ih => exact continues_of_move move (ih closed)

/-! ### What derives is accepted -/

/-- The tokens leave the blocks around them open, and only those. -/
def Passes (b : Building) (ts : List Token) (outer : List OpenBlock) : Prop :=
  ∃ nodes, Moves ts b ⟨nodes, outer⟩

theorem Passes.move {ts : List Token} {outer : List OpenBlock} (move : Move t b b')
    (rest : b'.Passes ts outer) : b.Passes (t :: ts) outer := by
  obtain ⟨nodes, moves⟩ := rest
  exact ⟨nodes, .more move moves⟩

theorem Passes.append {ts after : List Token} {blocks outer : List OpenBlock}
    (first : b.Passes ts blocks) (rest : ∀ nodes, Passes ⟨nodes, blocks⟩ after outer) :
    b.Passes (ts ++ after) outer := by
  obtain ⟨filled, moves⟩ := first
  obtain ⟨nodes, more⟩ := rest filled
  exact ⟨nodes, moves.append more⟩

mutual

theorem passes_items {ts : List Token} (items : Items ts) (nodes : List Node)
    (outer : List OpenBlock) : Passes ⟨nodes, outer⟩ ts outer :=
  match items with
  | .none => ⟨nodes, .none _⟩
  | .more item others =>
    Passes.append (passes_item item nodes outer) fun nodes => passes_items others nodes outer

private theorem passes_item {ts : List Token} (item : Item ts) (nodes : List Node)
    (outer : List OpenBlock) : Passes ⟨nodes, outer⟩ ts outer :=
  match item with
  | .text (t := t) kind => by
    have move := Move.text (b := ⟨nodes, outer⟩) kind
    -- A text of no length leaves the nodes as they are.
    by_cases empty : t.content.isEmpty
    · rw [if_pos empty] at move
      exact ⟨_, .one move⟩
    · rw [if_neg empty] at move
      exact ⟨_, .one move⟩
  | .output kind terminated read => ⟨_, .one (.output kind terminated read)⟩
  | .assign isTag read => ⟨_, .one (.leaf isTag (.assign read))⟩
  | .stop isTag => ⟨_, .one (.leaf isTag .stop)⟩
  | .skip isTag => ⟨_, .one (.leaf isTag .skip)⟩
  | .branches isTag read body rest => by
    refine Passes.move (.openBranches isTag read) ?_
    refine Passes.append (passes_items body _ _) fun filled => ?_
    exact passes_branches rest filled _ _ nodes outer (Condition.isElse_of_parse read)
  | .tablerow isTag read body last => by
    refine Passes.move (.openRow isTag read) ?_
    refine Passes.append (passes_items body _ _) fun filled => ?_
    exact ⟨_, .one (.closeRow last)⟩

/-- What stands behind the items of a branch closes the block. -/
theorem passes_branches {ts : List Token} (branches : Branches ts) (nodes : List Node)
    {span : Span} {markup : String} (complete : List (Condition × List Node)) (c : Condition)
    (before : List Node) (outer : List OpenBlock) (unfinished : c.isElse = false) :
    Passes ⟨nodes, branchBlock span markup complete c before :: outer⟩ ts outer :=
  match branches with
  | .done last => ⟨_, .one (.closeBranches last)⟩
  | .otherwise isTag body last => by
    refine Passes.move (.nextBranch isTag unfinished (.inl ⟨rfl, rfl⟩)) ?_
    refine Passes.append (passes_items body _ _) fun filled => ?_
    exact ⟨_, .one (.closeBranches last)⟩
  | .next name isTag read body rest => by
    refine Passes.move (.nextBranch isTag unfinished (.inr ⟨name, read⟩)) ?_
    refine Passes.append (passes_items body _ _) fun filled => ?_
    exact passes_branches rest filled _ _ before outer (Condition.isElse_of_parse read)

end

end Building

/-! ### The parser -/

namespace Document

variable {template source : String} {d : Document}

theorem isStandard_empty : Building.empty.IsStandard := by
  intro block member
  cases member

/-- What parses is what moves make from nothing. -/
theorem moves_of_parse (read : parse Tag.standard template source = .ok d) :
    ∃ nodes, d.nodes = nodes.reverse ∧
      Moves (Token.tokenize source) Building.empty ⟨nodes, []⟩ := by
  obtain ⟨⟨nodes, _⟩, rfl, same, run⟩ := build_of_parse read
  exact ⟨nodes, same, Building.moves_of_build isStandard_empty run⟩

theorem parse_of_moves (template : String) {source : String} {nodes : List Node}
    (moves : Moves (Token.tokenize source) Building.empty ⟨nodes, []⟩) :
    parse Tag.standard template source = .ok ⟨nodes.reverse, ⟨0, source.utf8ByteSize⟩⟩ := by
  have run : Building.build Tag.standard template Building.empty (Token.tokenize source) =
      .ok ⟨nodes, []⟩ := Building.build_of_moves isStandard_empty moves
  -- No block was open at the beginning, so none is at the end.
  unfold parse
  simp [run, Building.finish, bind, Except.bind, pure, Except.pure]

theorem items_of_parse (read : parse Tag.standard template source = .ok d) :
    Items (Token.tokenize source) := by
  obtain ⟨nodes, _, moves⟩ := moves_of_parse read
  exact Building.continues_of_moves moves rfl

private theorem walk_of_parse (read : parse Tag.standard template source = .ok d) :
    walkAll d.nodes = (Token.tokenize source).flatMap Token.entries := by
  obtain ⟨nodes, same, moves⟩ := moves_of_parse read
  rw [same]
  simpa [Building.walk, Building.empty, walkAll] using Building.walk_of_moves moves

private theorem parse_of_items (template : String) {source : String}
    (items : Items (Token.tokenize source)) :
    ∃ d, parse Tag.standard template source = .ok d := by
  obtain ⟨nodes, moves⟩ := Building.passes_items items [] []
  exact ⟨_, parse_of_moves template moves⟩

/-- What derives is parsed, what is parsed derives, and nothing of it is lost, doubled or moved to
another block. -/
theorem parse_standard (template source : String) :
    match parse Tag.standard template source with
    | .ok d => Items (Token.tokenize source) ∧
        walkAll d.nodes = (Token.tokenize source).flatMap Token.entries
    | .error _ => ¬ Items (Token.tokenize source) := by
  cases read : parse Tag.standard template source with
  | ok d => exact ⟨items_of_parse read, walk_of_parse read⟩
  | error _ =>
    intro items
    obtain ⟨d, accepted⟩ := parse_of_items template items
    rw [accepted] at read
    cases read

end Document

/-! ### Tags of the host -/

mutual

theorem Node.host_walk : (n : Node) → (Entry.host ∈ n.walk ↔ Part.host ∈ n.parts)
  | .text .. => by simp [Node.walk, Node.parts]
  | .output .. => by simp [Node.walk, Node.parts]
  | .tag _ name _ body => by simp [Node.walk, Node.parts, Tag.host_walk body name]

theorem Tag.host_walk : (tag : Tag) → (name : String) →
    (Entry.host ∈ tag.walk name ↔ Part.host ∈ tag.parts)
  | .assign .., _ => by simp [Tag.walk, Tag.parts]
  | .interrupt _, _ => by simp [Tag.walk, Tag.parts]
  | .branches branches, _ => by simp [Tag.walk, Tag.parts, host_walkBranches branches]
  | .tablerow _ nodes, _ => by simp [Tag.walk, Tag.parts, host_walkAll nodes]
  | .action _, _ => by simp [Tag.walk, Tag.parts]
  | .block _ nodes, _ => by simp [Tag.walk, Tag.parts]

private theorem host_walkBranches : (branches : List (Condition × List Node)) →
    (Entry.host ∈ walkBranches branches ↔ Part.host ∈ branchParts branches)
  | [] => by simp [walkBranches, branchParts]
  | (_, nodes) :: rest => by
    simp [walkBranches, branchParts, host_walkAll nodes, host_walkBranches rest]

theorem host_walkAll : (nodes : List Node) →
    (Entry.host ∈ walkAll nodes ↔ Part.host ∈ allParts nodes)
  | [] => by simp [walkAll, allParts]
  | n :: rest => by simp [walkAll, allParts, n.host_walk, host_walkAll rest]

end

private theorem Token.host_not_mem_entries (t : Token) : Entry.host ∉ t.entries := by
  have reading (h : Header) : Entry.host ∉ h.reading := by
    unfold Header.reading
    split <;> simp
  have header (h : Header) : Entry.host ∉ h.entries := by
    unfold Header.entries
    split <;> simp [reading]
  unfold Token.entries
  split
  next => split <;> simp
  next => simp
  next =>
    split
    next h _ => exact header h
    next => simp

/-- What moves make from nothing holds no tags of the host. -/
theorem Building.known_of_moves {ts : List Token} {nodes : List Node}
    (moves : Moves ts Building.empty ⟨nodes, []⟩) :
    ∀ part ∈ allParts nodes.reverse, part ≠ .host := by
  rintro part member rfl
  have walk : walkAll nodes.reverse = ts.flatMap Token.entries := by
    simpa [Building.walk, Building.empty, walkAll] using Building.walk_of_moves moves
  rw [← host_walkAll, walk] at member
  simp [Token.host_not_mem_entries] at member

/-- What is read with the standard tags holds no others. -/
theorem Document.isStandard_of_parse {template source : String} {d : Document}
    (read : Document.parse Tag.standard template source = .ok d) :
    isStandard d.nodes = true := by
  obtain ⟨nodes, same, moves⟩ := moves_of_parse read
  have known := Building.known_of_moves moves
  rw [same, isStandard, List.all_eq_true]
  intro part member
  cases part with
  | host => exact absurd rfl (known .host member)
  | output | assign | condition | row => rfl

end Liquid
