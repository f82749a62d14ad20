import Liquid.Proofs.Grammar
import Mathlib.Tactic.SplitIfs

/-!
# Moves of the parser

What one token does to the nodes and blocks of a template over the standard tags, as a relation
with one constructor for each thing that can happen.

## Main result

`Building.build_of_moves` and `Building.moves_of_build`: as long as the standard tags opened all the
blocks, the parser gets through a row of tokens just if there are moves through it.

## Proof strategy

A tag goes through the end tag of the innermost block, the known tags, and then the block itself.
The end tags are the names of no known tags, so each of the three is seen to on its own.
-/

namespace Liquid

/-! ### The standard tags -/

private theorem Tag.standard_eq : Tag.standard = ⟨Tag.standardTags⟩ := by
  simp [Tag.standard, Bindings.ofPairs, Bindings.overlay, Bindings.insert, Bindings.insertInto,
    Tag.standardTags, Bindings.empty]

namespace Condition

/-- No words are read as the test that always holds. -/
theorem test?_ne_always {words : List Word} {t : Test} (read : test? words = some t) :
    t ≠ .always := by
  rintro rfl
  unfold test? at read
  split at read
  next => cases read
  next =>
    simp only at read
    split at read
    next => simp at read
    next =>
      split at read
      next => cases read
      next => cases read

private theorem test_of_chain? {first : List Word} {more : List (Combinator × List Word)}
    {c : Condition}
    (read : chain? first more = some c) : c.test ≠ .always := by
  unfold chain? at read
  split at read
  next =>
    obtain ⟨t, test, rfl⟩ := Option.map_eq_some_iff.mp read
    exact test?_ne_always test
  next =>
    split at read
    next test _ =>
      cases read
      exact test?_ne_always test
    next => cases read

/-- Nothing that a markup can say is the condition of an `else` branch. -/
theorem isElse_of_parse {tag markup : String} {c : Condition}
    (read : Condition.parse tag markup = .ok c) : c.isElse = false := by
  unfold Condition.parse at read
  split at read
  next => cases read
  next =>
    simp only at read
    split at read
    next => cases read
    next =>
      split at read
      next chain =>
        cases read
        unfold isElse
        split
        next same => exact absurd same (test_of_chain? chain)
        next => rfl
      next => cases read

end Condition

/-! ### Blocks and moves -/

/-- The block that a tag `if` opens, with its complete branches, last first. -/
def branchBlock (span : Span) (markup : String) (complete : List (Condition × List Node))
    (c : Condition) (before : List Node) : OpenBlock :=
  ⟨⟨"if", markup, span⟩, .anywhere, .branches complete c, before⟩

/-- The block that a tag `tablerow` opens. -/
def rowBlock (span : Span) (markup : String) (row : TableRow) (before : List Node) : OpenBlock :=
  ⟨⟨"tablerow", markup, span⟩, .anywhere, .nested "tablerow" "endtablerow" (.tablerow row), before⟩

inductive StandardBlock : OpenBlock → Prop where
  | branches (span : Span) (markup : String) (complete : List (Condition × List Node))
      (c : Condition) (before : List Node) :
      StandardBlock (branchBlock span markup complete c before)
  | tablerow (span : Span) (markup : String) (row : TableRow) (before : List Node) :
      StandardBlock (rowBlock span markup row before)

def AllStandard (blocks : List OpenBlock) : Prop := ∀ block ∈ blocks, StandardBlock block

namespace AllStandard

variable {outer : List OpenBlock} (standard : AllStandard outer) (span : Span) (markup : String)
  (before : List Node)

include standard

theorem branches (complete : List (Condition × List Node)) (c : Condition) :
    AllStandard (branchBlock span markup complete c before :: outer) := by
  intro block member
  rcases List.mem_cons.mp member with rfl | older
  · exact .branches ..
  · exact standard block older

theorem tablerow (row : TableRow) :
    AllStandard (rowBlock span markup row before :: outer) := by
  intro block member
  rcases List.mem_cons.mp member with rfl | older
  · exact .tablerow ..
  · exact standard block older

end AllStandard

/-- The tags without a body. -/
inductive Leaf : (name markup : String) → Tag → Prop where
  | assign {markup name : String} {v : Variable} :
      Tag.assignment? markup = some (name, v) → Leaf "assign" markup (.assign name v)
  | stop {markup : String} : Leaf "break" markup (.interrupt .stop)
  | skip {markup : String} : Leaf "continue" markup (.interrupt .skip)

/-- What a token does to the nodes and blocks under the standard tags. -/
inductive Move (t : Token) : Building → Building → Prop where
  | text {b : Building} : t.kind = .text →
      Move t b (if t.content.isEmpty then b else b.add (.text t.span t.content))
  | output {b : Building} {v : Variable} :
      t.kind = .variable → t.terminated = true → Variable.parse t.content = .ok v →
      Move t b (b.add (.output t.span (trimText t.content) v))
  | leaf {b : Building} {name markup : String} {tag : Tag} :
      t.IsTag name markup → Leaf name markup tag → Move t b (b.add (.tag t.span name markup tag))
  | openBranches {b : Building} {markup : String} {c : Condition} :
      t.IsTag "if" markup → Condition.parse "if" markup = .ok c →
      Move t b ⟨[], branchBlock t.span markup [] c b.nodes :: b.blocks⟩
  | openRow {b : Building} {markup : String} {row : TableRow} :
      t.IsTag "tablerow" markup → TableRow.ofMarkup? markup = some row →
      Move t b ⟨[], rowBlock t.span markup row b.nodes :: b.blocks⟩
  | nextBranch {nodes before : List Node} {outer : List OpenBlock} {span : Span}
      {markup name more : String} {complete : List (Condition × List Node)} {c next : Condition} :
      t.IsTag name more → c.isElse = false →
      (name = "else" ∧ next = .last .always ∨
        (name = "elsif" ∨ name = "elseif") ∧ Condition.parse name more = .ok next) →
      Move t ⟨nodes, branchBlock span markup complete c before :: outer⟩
        ⟨[], branchBlock span markup ((c, nodes.reverse) :: complete) next before :: outer⟩
  | closeBranches {nodes before : List Node} {outer : List OpenBlock} {span : Span}
      {markup ignored : String} {complete : List (Condition × List Node)} {c : Condition} :
      t.IsTag "endif" ignored →
      Move t ⟨nodes, branchBlock span markup complete c before :: outer⟩
        ⟨.tag span "if" markup (.branches ((c, nodes.reverse) :: complete).reverse) :: before,
          outer⟩
  | closeRow {nodes before : List Node} {outer : List OpenBlock} {span : Span}
      {markup ignored : String} {row : TableRow} :
      t.IsTag "endtablerow" ignored →
      Move t ⟨nodes, rowBlock span markup row before :: outer⟩
        ⟨.tag span "tablerow" markup (.tablerow row nodes.reverse) :: before, outer⟩

theorem Tag.standard_get? (name : String) :
    Tag.standard.get? name =
      if "assign" = name then some Tag.readAssign
      else if "if" = name then some Tag.readIf
      else if "tablerow" = name then some Tag.readTableRow
      else if "break" = name then some Tag.readBreak
      else if "continue" = name then some Tag.readContinue
      else none := by
  rw [Tag.standard_eq]
  rfl

@[simp] theorem delimiter_branchBlock (span : Span) (markup : String)
    (complete : List (Condition × List Node)) (c : Condition) (before : List Node) :
    (branchBlock span markup complete c before).delimiter = "endif" := by
  simp [branchBlock, OpenBlock.delimiter]

@[simp] theorem delimiter_rowBlock (span : Span) (markup : String) (row : TableRow)
    (before : List Node) : (rowBlock span markup row before).delimiter = "endtablerow" := rfl

theorem Header.span_of_ofToken {t : Token} {h : Header} (read : Header.ofToken t = .ok h) :
    h.span = t.span := by
  unfold Header.ofToken at read
  simp only at read
  split at read
  next => cases read
  next =>
    cases read
    rfl

namespace Building

variable {template : String} {t : Token} {b b' : Building}

/-- Every open block was opened by a standard tag. -/
def IsStandard (b : Building) : Prop := AllStandard b.blocks

theorem step_isTag {name markup : String} (isTag : t.IsTag name markup) :
    step Tag.standard template b t = tag Tag.standard template b ⟨name, markup, t.span⟩ := by
  simp [step, isTag.1, isTag.2, located]

@[simp] theorem place_anywhere (header : Header) (tag : Tag) :
    b.place header .anywhere tag =
      .ok (b.add (.tag header.span header.name header.markup tag)) := rfl

/-- A tag that ends no standard block is looked up. -/
theorem step_other (standard : b.IsStandard) {name markup : String} (isTag : t.IsTag name markup)
    (ends : name ≠ "endif") (row : name ≠ "endtablerow") :
    step Tag.standard template b t =
      otherTag Tag.standard template b ⟨name, markup, t.span⟩ := by
  rw [step_isTag isTag]
  unfold tag
  split
  next => rfl
  next block outer blocks =>
    have known : StandardBlock block := standard block (blocks ▸ List.mem_cons_self)
    cases known with
    | branches => rw [if_neg (by simpa using ends)]
    | tablerow => rw [if_neg (by simpa using row)]

/-! ### From a move to the step -/

private theorem step_of_move (standard : b.IsStandard) (move : Move t b b') :
    step Tag.standard template b t = .ok b' := by
  cases move with
  | text kind => simp [step, kind]
  | output kind terminated read => simp [step, kind, output, terminated, read, located, Except.map]
  | leaf isTag leaf =>
    cases leaf with
    | assign read =>
      rw [step_other standard isTag (by simp) (by simp)]
      simp [otherTag, openTag, Tag.standard_get?, Tag.readAssign, read, located]
    | stop =>
      rw [step_other standard isTag (by simp) (by simp)]
      simp [otherTag, openTag, Tag.standard_get?, Tag.readBreak, located]
    | skip =>
      rw [step_other standard isTag (by simp) (by simp)]
      simp [otherTag, openTag, Tag.standard_get?, Tag.readContinue, located]
  | openBranches isTag read =>
    rw [step_other standard isTag (by simp) (by simp)]
    simp [otherTag, openTag, Tag.standard_get?, Tag.readIf, read, located, branchBlock]
  | openRow isTag read =>
    rw [step_other standard isTag (by simp) (by simp)]
    simp [otherTag, openTag, Tag.standard_get?, Tag.readTableRow, read, located, rowBlock]
  | nextBranch isTag unfinished reads =>
    -- `else` and both spellings of `elsif` are no known tags, so the block itself is asked.
    rcases reads with ⟨rfl, rfl⟩ | ⟨rfl | rfl, read⟩
    · rw [step_other standard isTag (by simp) (by simp)]
      simp [otherTag, Tag.standard_get?, unknown, nextBranch, branchBlock, unfinished, isBranchTag,
        located]
    · rw [step_other standard isTag (by simp) (by simp)]
      simp [otherTag, Tag.standard_get?, unknown, nextBranch, branchBlock, unfinished, isBranchTag,
        located, read]
    · rw [step_other standard isTag (by simp) (by simp)]
      simp [otherTag, Tag.standard_get?, unknown, nextBranch, branchBlock, unfinished, isBranchTag,
        located, read]
  | closeBranches isTag =>
    rw [step_isTag isTag]
    simp [tag, closeBlock, branchBlock, OpenBlock.delimiter, located, closed, add]
  | closeRow isTag =>
    rw [step_isTag isTag]
    simp [tag, closeBlock, rowBlock, OpenBlock.delimiter, located, closed, add]

/-! ### From the step to a move -/

theorem ok_of_located {α : Type} {span : Span} {r : Except Fault α} {a : α}
    (run : located template span r = .ok a) : r = .ok a := by
  cases r with
  | ok _ =>
    cases run
    rfl
  | error _ => cases run

private theorem move_of_output {v : Node} (kind : t.kind = .variable) (run : output t = .ok v) :
    Move t b (b.add v) := by
  unfold output at run
  cases terminated : t.terminated with
  | false => simp [terminated] at run
  | true =>
    simp only [terminated, Bool.not_true, Bool.false_eq_true, ↓reduceIte] at run
    split at run
    next read =>
      cases run
      exact .output kind terminated read
    next => cases run

private theorem move_of_openTag {name markup : String} {reader : TagReader}
    (isTag : t.IsTag name markup) (known : Tag.standard.get? name = some reader)
    (run : openTag b template ⟨name, markup, t.span⟩ reader = .ok b') : Move t b b' := by
  -- One case for each known tag; that its markup was read leaves one move.
  rw [Tag.standard_get?] at known
  split_ifs at known with assign branches row stop skip <;> cases known
  · subst assign
    cases read : Tag.assignment? markup with
    | none => simp [openTag, Tag.readAssign, read] at run
    | some target =>
      simp only [openTag, Tag.readAssign, read, place_anywhere, Except.ok.injEq] at run
      exact run ▸ .leaf isTag (.assign read)
  · subst branches
    cases read : Condition.parse "if" markup with
    | error _ => simp [openTag, Tag.readIf, read] at run
    | ok c =>
      simp only [openTag, Tag.readIf, read, Except.ok.injEq] at run
      exact run ▸ .openBranches isTag read
  · subst row
    cases read : TableRow.ofMarkup? markup with
    | none => simp [openTag, Tag.readTableRow, read] at run
    | some row =>
      simp only [openTag, Tag.readTableRow, read, Except.ok.injEq] at run
      exact run ▸ .openRow isTag read
  · subst stop
    simp only [openTag, Tag.readBreak, place_anywhere, Except.ok.injEq] at run
    exact run ▸ .leaf isTag .stop
  · subst skip
    simp only [openTag, Tag.readContinue, place_anywhere, Except.ok.injEq] at run
    exact run ▸ .leaf isTag .skip

/-- A tag that nobody knows continues a block of branches that has no `else` yet. -/
theorem move_of_unknown (standard : b.IsStandard) {name markup : String}
    (isTag : t.IsTag name markup) (run : unknown b ⟨name, markup, t.span⟩ = .ok b') :
    Move t b b' := by
  obtain ⟨nodes, blocks⟩ := b
  cases blocks with
  | nil => cases run
  | cons block outer =>
    have known : StandardBlock block := standard block List.mem_cons_self
    cases known with
    | tablerow => cases run
    | branches span more complete c before =>
      -- Only a branch tag gets through, and none behind an `else`.
      simp only [unknown, branchBlock, nextBranch] at run
      split_ifs at run with other finished otherwise
      · cases run
        exact .nextBranch isTag (by simpa using finished) (.inl ⟨by simpa using otherwise, rfl⟩)
      · split at run
        next next read =>
          cases run
          have more : name = "elsif" ∨ name = "elseif" := by
            simp only [isBranchTag, Bool.or_eq_true, beq_iff_eq, Bool.not_eq_true',
              Bool.not_eq_false] at other otherwise
            exact other.resolve_right otherwise
          exact .nextBranch isTag (by simpa using finished) (.inr ⟨more, read⟩)
        next => cases run

private theorem move_of_tag (standard : b.IsStandard) {name markup : String}
    (isTag : t.IsTag name markup)
    (run : tag Tag.standard template b ⟨name, markup, t.span⟩ = .ok b') : Move t b b' := by
  -- Without a block around it, or with one that it does not end, the tag has to be known.
  have other (run : otherTag Tag.standard template b ⟨name, markup, t.span⟩ = .ok b') :
      Move t b b' := by
    have made := ok_of_located run
    split at made
    next reader known => exact move_of_openTag isTag known made
    next => exact move_of_unknown standard isTag made
  obtain ⟨nodes, blocks⟩ := b
  cases blocks with
  | nil => exact other run
  | cons block outer =>
    unfold tag at run
    simp only at run
    split_ifs at run with ends
    · have known : StandardBlock block := standard block List.mem_cons_self
      have made := ok_of_located run
      cases known with
      | branches =>
        simp only [delimiter_branchBlock] at ends
        subst ends
        cases made
        exact .closeBranches isTag
      | tablerow =>
        simp only [delimiter_rowBlock] at ends
        subst ends
        cases made
        exact .closeRow isTag
    · exact other run

private theorem move_of_step (standard : b.IsStandard)
    (run : step Tag.standard template b t = .ok b') :
    Move t b b' := by
  unfold step at run
  -- The three kinds of tokens.
  split at run
  next kind =>
    cases run
    exact .text kind
  next kind =>
    cases made : output t with
    | error _ => simp [made, located, Except.map] at run
    | ok n =>
      simp [made, located, Except.map] at run
      exact run ▸ move_of_output kind made
  next kind =>
    cases read : Header.ofToken t with
    | error _ => simp [read, located] at run
    | ok h =>
      have span := Header.span_of_ofToken read
      obtain ⟨name, markup, _⟩ := h
      subst span
      simp only [read, located] at run
      exact move_of_tag standard ⟨kind, read⟩ run

theorem isStandard_of_move (standard : b.IsStandard) (move : Move t b b') : b'.IsStandard := by
  have outer {nodes : List Node} {block : OpenBlock} {blocks : List OpenBlock}
      (standard : IsStandard ⟨nodes, block :: blocks⟩) : AllStandard blocks :=
    fun block member => standard block (List.mem_cons_of_mem _ member)
  cases move with
  | text =>
    split
    next => exact standard
    next => exact standard
  | output => exact standard
  | leaf => exact standard
  | openBranches => exact AllStandard.branches standard _ _ _ _ _
  | openRow => exact AllStandard.tablerow standard _ _ _ _
  | nextBranch => exact AllStandard.branches (outer standard) _ _ _ _ _
  | closeBranches => exact outer standard
  | closeRow => exact outer standard

end Building

/-! ### Rows of tokens -/

/-- The moves of a row of tokens, one after the other. -/
inductive Moves : List Token → Building → Building → Prop where
  | none (b : Building) : Moves [] b b
  | more {t : Token} {rest : List Token} {b between b' : Building} :
      Move t b between → Moves rest between b' → Moves (t :: rest) b b'

theorem Moves.one {t : Token} {b b' : Building} (move : Move t b b') : Moves [t] b b' :=
  .more move (.none b')

theorem Moves.append {ts after : List Token} {b between b' : Building}
    (first : Moves ts b between) (rest : Moves after between b') : Moves (ts ++ after) b b' := by
  induction first with
  | none => exact rest
  | more move _ ih => exact .more move (ih rest)

theorem Moves.exists_between {ts after : List Token} {b b' : Building}
    (moves : Moves (ts ++ after) b b') :
    ∃ between, Moves ts b between ∧ Moves after between b' := by
  induction ts generalizing b with
  | nil => exact ⟨b, .none b, moves⟩
  | cons t rest ih =>
    cases moves with
    | more move moves =>
      obtain ⟨between, first, last⟩ := ih moves
      exact ⟨between, .more move first, last⟩

namespace Building

variable {template : String} {ts : List Token} {b b' : Building}

theorem isStandard_of_moves (standard : b.IsStandard)
    (moves : Moves ts b b') : b'.IsStandard := by
  induction moves with
  | none => exact standard
  | more move _ ih => exact ih (isStandard_of_move standard move)

theorem moves_of_build (standard : b.IsStandard)
    (run : build Tag.standard template b ts = .ok b') : Moves ts b b' := by
  induction ts generalizing b with
  | nil =>
    cases run
    exact .none _
  | cons t rest ih =>
    unfold build at run
    split at run
    next between first =>
      have move := move_of_step standard first
      exact .more move (ih (isStandard_of_move standard move) run)
    next => cases run

theorem build_of_moves (standard : b.IsStandard) (moves : Moves ts b b') :
    build Tag.standard template b ts = .ok b' := by
  induction moves with
  | none => rfl
  | more move _ ih =>
    rw [build, step_of_move standard move]
    exact ih (isStandard_of_move standard move)

end Building

/-- Where standard tags opened the blocks, moves lead to one place only. -/
theorem Moves.unique {ts : List Token} {b m m' : Building} (standard : b.IsStandard)
    (moves : Moves ts b m) (moves' : Moves ts b m') : m = m' := by
  have run := @Building.build_of_moves "" _ _ _ standard moves
  rw [Building.build_of_moves standard moves'] at run
  cases run
  rfl

/-! ### A whole source -/

/-- What parses was built with no block left open. -/
theorem Document.build_of_parse {tags : Bindings TagReader} {template source : String}
    {d : Document} (read : parse tags template source = .ok d) :
    ∃ b : Building, b.blocks = [] ∧ d.nodes = b.nodes.reverse ∧
      Building.build tags template Building.empty (Token.tokenize source) = .ok b := by
  obtain ⟨b, run, finished⟩ := bind_eq_ok.mp read
  obtain ⟨nodes, closed, last⟩ := bind_eq_ok.mp finished
  cases last
  unfold Building.finish at closed
  split at closed
  next none =>
    cases closed
    exact ⟨b, none, rfl, run⟩
  next => cases closed

end Liquid
